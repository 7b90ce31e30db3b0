import LineScript.Glob.Pattern
import LineScript.Proofs.Regex.Reading

/-! What globs are made of, and the regular expressions that they are turned into. -/
namespace LineScript.Glob

open Regex (CharSet Piece Syntax escapedChar isMeta)

/-- What a glob is made of. -/
inductive Item where
  /-- Any run of characters. -/
  | run
  /-- Any one character. -/
  | one
  | char (c : Char)
  /-- One of some characters, or one that is none of them. -/
  | members (negated : Bool) (ms : List Char)

/-- Whether some characters can be the members of a class. -/
structure IsMembers (negated : Bool) (ms : List Char) : Prop where
  nonempty : ms ≠ []
  plain : ∀ c ∈ ms, c ≠ ']' ∧ c ≠ '^' ∧ c ≠ '-'
  /-- The exclamation mark in front of a class negates it. -/
  mark : negated = false → ms.head? ≠ some '!'

/-- Whether a glob is made of some items. -/
inductive Spells : List Char → List Item → Prop
  | nil : Spells [] []
  | run {cs : List Char} {items : List Item} : Spells cs items → Spells ('*' :: cs) (.run :: items)
  | one {cs : List Char} {items : List Item} : Spells cs items → Spells ('?' :: cs) (.one :: items)
  | plain {c : Char} {cs : List Char} {items : List Item} : c ∉ ['*', '?', '\\', '['] → Spells cs items →
      Spells (c :: cs) (.char c :: items)
  | escaped {c : Char} {cs : List Char} {items : List Item} : Spells cs items →
      Spells ('\\' :: c :: cs) (.char c :: items)
  /-- A backslash at the end stands for itself. -/
  | backslash : Spells ['\\'] [.char '\\']
  | members {negated : Bool} {ms cs : List Char} {items : List Item} : IsMembers negated ms → Spells cs items →
      Spells ('[' :: ((if negated then ['!'] else []) ++ ms ++ ']' :: cs)) (.members negated ms :: items)

/-- The regular expression for an item. -/
def Item.regex : Item → List Char
  | run => ['.', '*']
  | one => ['.']
  | char c => escapedChar c
  | members negated ms => '[' :: ((if negated then ['^'] else []) ++ ms.flatMap member ++ [']'])

section Translation

variable {negated : Bool} {ms cs glob seen : List Char} {items : List Item}

theorem length_le_flatMap_member (ms : List Char) : ms.length ≤ (ms.flatMap member).length := by
  induction ms with
  | nil => exact Nat.le_refl 0
  | cons c ms ih =>
    have hpos : 0 < (member c).length := by
      unfold member
      split <;> simp
    rw [List.flatMap_cons, List.length_cons, List.length_append]
    omega

/-- The members of a class are collected up to the bracket behind them. -/
theorem regexFrom_members (h : ']' ∉ ms) :
    regexFrom (.members seen) (ms ++ ']' :: cs) = closedClass (seen.reverse ++ ms) ++ regexFrom .plain cs := by
  induction ms generalizing seen with
  | nil => simp [regexFrom]
  | cons c ms ih =>
    obtain ⟨hc, hms⟩ := not_or.mp (mt List.mem_cons.mpr h)
    rw [List.cons_append, regexFrom, if_neg (Ne.symm hc), ih hms]
    simp

end Translation

section Reading

variable {s : Regex.ReadState} {negated : Bool} {ms cs glob : List Char} {items : List Item} {fuel : Nat} {c d : Char}
  {p : Regex.ClassPart} {ps : List Piece}

/-- The members of a class, in order. -/
def memberPart (p : Regex.ClassPart) (ms : List Char) : Regex.ClassPart :=
  ms.foldl (fun p c => p.add (.single c) 0) p

/-- The set of a class. -/
def memberSet (negated : Bool) (ms : List Char) : CharSet :=
  if negated then .compl (memberPart {} ms).set else (memberPart {} ms).set

/-- Any character but a line break. -/
def anyChar : CharSet :=
  .compl (.single '\n')

/-- What the regular expression of an item reads as. -/
def Item.toSyntax : Item → Syntax
  | run => .repeated (.set anyChar) 0 none true
  | one => .set anyChar
  | char c => .set (.single c)
  | members negated ms => .set (memberSet negated ms)

/-- The piece of a regular expression for an item. -/
def Item.piece : Item → Piece
  | run => ⟨some (Item.toSyntax .run), 1⟩
  | one => ⟨some (Item.toSyntax .one), 0⟩
  | char c => ⟨some (Item.toSyntax (.char c)), 0⟩
  | members negated ms => ⟨some (Item.toSyntax (.members negated ms)), (memberPart {} ms).fullDepth + 1⟩

end Reading

end LineScript.Glob
