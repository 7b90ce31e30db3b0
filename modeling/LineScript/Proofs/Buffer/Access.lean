import LineScript.Buffer.Basic
import LineScript.Proofs.Buffer.Position
import LineScript.Proofs.Search.Expression

/-! Accesses that can go wrong: to a line that is not there, to a part of a text whose ends are none of its
boundaries, and to a number below zero. Here they have no result then. -/
namespace LineScript

namespace Access

open Search (Matcher)

/-- The part of a text between two byte offsets. There is none unless both are boundaries of the text, and
in order. -/
def slice? (text : String) (start stop : Nat) : Option String :=
  if start ≤ stop ∧ Text.IsBoundary text.toList start ∧ Text.IsBoundary text.toList stop then
    some (Text.between text start stop)
  else none

/-- A difference. There is none below zero. -/
def minus? (m n : Nat) : Option Nat :=
  if n ≤ m then some (m - n) else none

/-- What a matcher finds from an offset on, which must be a boundary of the text. -/
def ask? (m : Matcher) (text : String) (n : Nat) : Option (Option Regex.Match) :=
  if Text.IsBoundary text.toList n then some (m.find? text n) else none

/-- Lines with another text in place of one of them, which must be there. -/
def set? (lines : List String) (index : Nat) (text : String) : Option (List String) :=
  if index < lines.length then some (lines.set index text) else none

/-- One of some lines, and the others. -/
def remove? (lines : List String) (index : Nat) : Option (String × List String) := do
  return (← lines[index]?, lines.eraseIdx index)

/-- Lines with one more, in front of a line or behind the last one. -/
def insert? (lines : List String) (index : Nat) (text : String) : Option (List String) :=
  if index ≤ lines.length then some (lines.insertIdx index text) else none

/-- Lines with others in place of those from one index to another. -/
def splice? (lines : List String) (start stop : Nat) (block : List String) : Option (List String) :=
  if start ≤ stop ∧ stop ≤ lines.length then some (lines.take start ++ block ++ lines.drop stop)
  else none

/-- The lines from one index to another. -/
def range? (lines : List String) (start stop : Nat) : Option (List String) :=
  if start ≤ stop ∧ stop ≤ lines.length then some ((lines.take stop).drop start) else none

/-- Steps down from an offset until there is a boundary. -/
def stepDown? (text : String) : Nat → Option Nat
  | 0 => if Text.IsBoundary text.toList 0 then some 0 else none
  | n + 1 => if Text.IsBoundary text.toList (n + 1) then some (n + 1) else stepDown? text n

/-- The largest boundary at or before an offset. -/
def floor? (text : String) (n : Nat) : Option Nat :=
  if Text.length text ≤ n then some (Text.length text) else stepDown? text n

/-- The end of the character at an offset, or of the text. -/
def next? (text : String) (n : Nat) : Option Nat := do
  let rest ← slice? text (min n (Text.length text)) (Text.length text)
  match rest.toList with
  | [] => return Text.length text
  | c :: _ => return n + c.utf8Size

/-- The nearest position of some lines. -/
def clamp? (p : Buffer.Position) (lines : List String) : Option Buffer.Position := do
  let line := min p.line lines.length
  match lines[line]? with
  | some text => return ⟨line, ← floor? text p.column⟩
  | none => return ⟨line, 0⟩

/-- The position behind the last character. -/
def endPosition? (lines : List String) : Option Buffer.Position := do
  match lines.getLast? with
  | some last => return ⟨← minus? lines.length 1, Text.length last⟩
  | none => return {}

variable {text : String} {m n : Nat}

theorem slice?_eq (hle : m ≤ n) (hm : Text.IsBoundary text.toList m)
    (hn : Text.IsBoundary text.toList n) : slice? text m n = some (Text.between text m n) :=
  if_pos ⟨hle, hm, hn⟩

theorem minus?_eq (h : n ≤ m) : minus? m n = some (m - n) :=
  if_pos h

theorem ask?_eq (hn : Text.IsBoundary text.toList n) (m : Matcher) :
    ask? m text n = some (m.find? text n) :=
  if_pos hn

theorem set?_eq {lines : List String} (h : n < lines.length) (text : String) :
    set? lines n text = some (lines.set n text) :=
  if_pos h

theorem insert?_eq {lines : List String} (h : n ≤ lines.length) (text : String) :
    insert? lines n text = some (lines.insertIdx n text) :=
  if_pos h

theorem splice?_eq {lines : List String} (hle : m ≤ n) (hn : n ≤ lines.length) (block : List String) :
    splice? lines m n block = some (lines.take m ++ block ++ lines.drop n) :=
  if_pos ⟨hle, hn⟩

theorem range?_eq {lines : List String} (hle : m ≤ n) (hn : n ≤ lines.length) :
    range? lines m n = some ((lines.take n).drop m) :=
  if_pos ⟨hle, hn⟩

theorem isBoundary_length (text : String) : Text.IsBoundary text.toList (Text.length text) := by
  rw [Text.length_eq_size]
  exact Text.isBoundary_size_self text.toList

theorem slice?_before (hn : Text.IsBoundary text.toList n) :
    slice? text 0 n = some (Text.before text n) := by
  rw [slice?_eq (Nat.zero_le n) (Text.isBoundary_zero _) hn]
  simp [Text.between, Text.before, Text.slice]

theorem slice?_after (hn : Text.IsBoundary text.toList n) :
    slice? text n (Text.length text) = some (Text.after text n) := by
  have hle : n ≤ Text.length text := by
    rw [Text.length_eq_size]
    exact hn.le_size
  rw [slice?_eq hle hn (isBoundary_length text)]
  simp only [Text.between, Text.after, Text.slice, Text.length_eq_size,
    Text.take_of_size_le (Nat.le_refl _)]

/-- Between an offset and the boundary at or before it there is no other boundary. -/
theorem floor_of_not_boundary {cs : List Char} (h : ¬ Text.IsBoundary cs (n + 1)) :
    Text.floor cs (n + 1) = Text.floor cs n := by
  have hle : Text.floor cs (n + 1) ≤ n := by
    have hbound := Text.size_take_le cs (n + 1)
    have hne : Text.floor cs (n + 1) ≠ n + 1 := h
    unfold Text.floor at hne ⊢
    omega
  have hmono : ∀ {m n : Nat}, m ≤ n → Text.floor cs m ≤ Text.floor cs n := by
    intro m n hmn
    have htake := Text.size_take_le (Text.take cs n) m
    have happend := congrArg Text.size (Text.take_append_drop (Text.take cs n) m)
    rw [Text.size_append, Text.take_take cs hmn] at happend
    unfold Text.floor
    omega
  have hfixed : Text.floor cs (Text.floor cs (n + 1)) = Text.floor cs (n + 1) :=
    Text.isBoundary_floor cs (n + 1)
  have hlow := hmono hle
  rw [hfixed] at hlow
  exact Nat.le_antisymm hlow (hmono (Nat.le_succ n))

theorem stepDown?_eq (text : String) (n : Nat) :
    stepDown? text n = some (Text.floor text.toList n) := by
  induction n with
  | zero =>
    have hzero := Text.isBoundary_zero text.toList
    rw [stepDown?, if_pos hzero]
    exact congrArg some hzero.symm
  | succ n ih =>
    by_cases hb : Text.IsBoundary text.toList (n + 1)
    · rw [stepDown?, if_pos hb]
      exact congrArg some hb.symm
    · rw [stepDown?, if_neg hb, ih, floor_of_not_boundary hb]

theorem floor?_eq (text : String) (n : Nat) : floor? text n = some (Text.floor text.toList n) := by
  by_cases h : Text.length text ≤ n
  · rw [floor?, if_pos h]
    rw [Text.length_eq_size] at h ⊢
    rw [Text.floor, Text.take_of_size_le h]
  · rw [floor?, if_neg h, stepDown?_eq]

theorem next?_eq (hn : Text.IsBoundary text.toList n) :
    next? text n = some (Text.next text.toList n) := by
  have hle : n ≤ Text.length text := by
    rw [Text.length_eq_size]
    exact hn.le_size
  unfold next?
  rw [Nat.min_eq_left hle, slice?_after hn]
  simp only [Option.bind_eq_bind, Option.bind_some, Text.toList_after]
  cases hd : Text.drop text.toList n with
  | nil => simp [Text.next, hd, Text.length_eq_size]
  | cons c rest => simp [Text.next, hd]

theorem clamp?_eq (p : Buffer.Position) (lines : List String) :
    clamp? p lines = some (p.clamp lines) := by
  unfold clamp? Buffer.Position.clamp
  dsimp only
  cases lines[min p.line lines.length]? with
  | none => rfl
  | some text => simp [floor?_eq]

theorem endPosition?_eq (b : LineBuffer) : endPosition? b.lines = some b.endPosition := by
  unfold endPosition? LineBuffer.endPosition
  cases hlast : b.lines.getLast? with
  | none => rfl
  | some last =>
    have hpos : 1 ≤ b.lines.length := by
      cases hlines : b.lines with
      | nil => simp [hlines] at hlast
      | cons => simp
    simp [minus?_eq hpos]

end Access

end LineScript
