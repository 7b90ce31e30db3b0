/-! Looking for one text inside another, and what follows from it: splitting, joining and literal
replacement. -/
namespace LineScript.Text

/-- What follows `p` in `s`, if `s` starts with it. -/
def dropStart? : List Char → List Char → Option (List Char)
  | [], s => some s
  | _ :: _, [] => none
  | a :: p, b :: s => if a = b then dropStart? p s else none

/-- The text before and after the first occurrence of `needle`. -/
def cut? (needle : List Char) : List Char → Option (List Char × List Char)
  | [] => if needle.isEmpty then some ([], []) else none
  | c :: cs =>
    match dropStart? needle (c :: cs) with
    | some rest => some ([], rest)
    | none => (cut? needle cs).map fun (head, rest) => (c :: head, rest)

theorem length_dropStart? {p s r : List Char} (h : dropStart? p s = some r) :
    p.length + r.length = s.length := by
  induction p generalizing s with
  | nil => simp_all [dropStart?]
  | cons a p ih =>
    cases s with
    | nil => simp [dropStart?] at h
    | cons b s =>
      by_cases hab : a = b
      · have := ih (by simpa [dropStart?, hab] using h)
        simp only [List.length_cons]
        omega
      · simp [dropStart?, hab] at h

theorem length_cut? {needle s head rest : List Char} (h : cut? needle s = some (head, rest)) :
    head.length + needle.length + rest.length = s.length := by
  induction s generalizing head with
  | nil => simp_all [cut?]
  | cons c cs ih =>
    unfold cut? at h
    split at h
    · rename_i r hr
      have := length_dropStart? hr
      simp_all
    · simp only [Option.map_eq_some_iff, Prod.exists, Prod.mk.injEq] at h
      obtain ⟨a, b, hab, rfl, rfl⟩ := h
      have := ih hab
      simp only [List.length_cons]
      omega

/-- The pieces between the occurrences of a non-empty separator, found from the left. An empty
separator does not split. -/
def split (separator : List Char) (s : List Char) : List (List Char) :=
  if _hs : separator = [] then [s]
  else
    match _h : cut? separator s with
    | none => [s]
    | some (head, rest) => head :: split separator rest
  termination_by s.length
  decreasing_by
    have := length_cut? _h
    have : 0 < separator.length := List.length_pos_iff.mpr _hs
    omega

/-- The pieces of a string between the occurrences of a separator. -/
def pieces (s separator : String) : List String :=
  (split separator.toList s.toList).map String.ofList

/-- The lines of a text that may hold line breaks. -/
def lines (s : String) : List String :=
  (split ['\n'] s.toList).map String.ofList

/-- Joins pieces with a separator between them. -/
def join (separator : String) (ss : List String) : String :=
  separator.intercalate ss

/-- Puts `new` in place of the first `count` occurrences of a non-empty text, or of all of them. -/
def substitute (old new s : String) (count : Option Nat) : String :=
  let parts := pieces s old
  match count with
  | none => join new parts
  | some n =>
    let tail := join old (parts.drop n)
    if parts.length ≤ n then join new parts else join new (parts.take n ++ [tail])

/-- What stands before the first occurrence of a text. -/
def before? (needle s : List Char) : Option (List Char) :=
  (cut? needle s).map (·.1)

end LineScript.Text
