import LineScript.Unicode.CaseRuns
import LineScript.Unicode.Classes

/-! Case: which characters differ by case only, and the lower-case form of a text. -/
namespace LineScript.Unicode

/-- Where a run leads from `n`, if `n` belongs to it. -/
def CaseRun.image? (r : CaseRun) (n : Nat) : Option Nat :=
  if r.first ≤ n && n ≤ r.last && (n - r.first) % r.stride == 0 then
    some (r.target + (n - r.first))
  else none

/-- Where the runs of a table lead from a character; a character in none stays. -/
def followRuns (runs : Array CaseRun) (c : Char) : Char :=
  match runs.findSome? (·.image? c.toNat) with
  | some n => Char.ofNat n
  | none => c

/-- A character and those that simple case folding identifies with it. No class is larger than
four. -/
def caseVariants (c : Char) : List Char :=
  let c₁ := followRuns caseCycle c
  if c₁ = c then [c]
  else
    let c₂ := followRuns caseCycle c₁
    if c₂ = c then [c, c₁]
    else
      let c₃ := followRuns caseCycle c₂
      if c₃ = c then [c, c₁, c₂] else [c, c₁, c₂, c₃]

/-- The lower-case form of one character: the dotted capital I keeps its dot as a mark. -/
def lowerChar (c : Char) : List Char :=
  if c.toNat < 0x80 then [c.toLower]
  else if c.toNat = 0x130 then ['i', Char.ofNat 0x307]
  else [followRuns lowerRuns c]

/-- Whether the first character that is not ignored for case is a cased one. -/
def reachesCased (cs : List Char) : Bool :=
  match cs.dropWhile (hasProperty "caseignorable") with
  | [] => false
  | c :: _ => hasProperty "cased" c

/-- Lower case of what follows `before`, which is kept in reverse. A capital sigma at the end of a
word takes its final form. -/
def lowerFrom (before : List Char) : List Char → List Char
  | [] => []
  | c :: cs =>
    let lowered :=
      if c.toNat = 0x3A3 then
        [Char.ofNat (if reachesCased before && !reachesCased cs then 0x3C2 else 0x3C3)]
      else lowerChar c
    lowered ++ lowerFrom (c :: before) cs

/-- The lower-case form of a text. -/
def lowerCase (s : String) : String :=
  String.ofList (lowerFrom [] s.toList)

end LineScript.Unicode
