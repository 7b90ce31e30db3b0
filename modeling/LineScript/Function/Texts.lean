import LineScript.Function.Call

/-! The functions on texts. Positions in a text count characters from one. -/
namespace LineScript

open Number (Double)

namespace Text

/-- The number of characters in front of a position. -/
def skipped (position : Double) : Nat :=
  position.toSize - 1

/-- The position of the first occurrence of `needle` at or behind a position, zero if there is
none. -/
def indexOf (needle cs : List Char) (position : Double) : Nat :=
  let start := min (skipped position) cs.length
  match before? needle (cs.drop start) with
  | some head => start + head.length + 1
  | none => 0

/-- So many characters from a position on, or all of them. -/
def substring (cs : List Char) (position : Double) (length : Option Double) : List Char :=
  let rest := cs.drop (skipped position)
  match length with
  | some n => rest.take (skipped (n.clampBelow.add (.ofNat 1)))
  | none => rest

/-- The piece with a number between the occurrences of a separator; empty if there is none. -/
def piece (s separator : String) (number : Double) : String :=
  match number.toSize with
  | 0 => ""
  | n + 1 => ((pieces s separator)[n]?).getD ""

end Text

namespace Call

variable {m : Type → Type} [Monad m] [MonadExceptOf Error m] [NamedBuffers m]

/-- The position of a text in another. -/
def stringIndex (c : Call m) : m Output := do
  let s ← c.text 0
  let needle ← c.text 1
  let position ← c.number? 2
  return .count (Text.indexOf needle.toList s.toList (position.getD (.ofNat 1)))

/-- The number of characters. -/
def stringLength (c : Call m) : m Output := do
  return .count (← c.text 0).length

/-- A piece between separators. -/
def stringPiece (c : Call m) : m Output := do
  let s ← c.text 0
  let separator ← c.text 1
  let n ← c.number 2
  if separator.isEmpty then throw (.ofFailure .emptySeparator)
  return .text (Text.piece s separator n)

/-- One text in place of another. If there is nothing to look for, the last argument is not
computed. -/
def stringReplace (c : Call m) : m Output := do
  let s ← c.text 0
  let old ← c.text 1
  let new ← c.text 2
  if old.isEmpty then return .text s
  let count ← c.number? 3
  return .text (Text.substitute old new s (count.map Double.toSize))

/-- The position of the first match of a pattern. -/
def stringSearch (c : Call m) : m Output := do
  let s ← c.text 0
  let x ← c.pattern 1
  match x.matcher.find? s 0 with
  | some w => return .count ((Text.take s.toList w.start).length + 1)
  | none => return .count 0

/-- A part of a text. -/
def stringSubstring (c : Call m) : m Output := do
  let s ← c.text 0
  let position ← c.number 1
  let length ← c.number? 2
  return .text (String.ofList (Text.substring s.toList position length))

/-- Does what a function on texts does. -/
def stringFunction (c : Call m) : m Output :=
  match c.function with
  | .stringIndex => c.stringIndex
  | .stringLength => c.stringLength
  | .stringPiece => c.stringPiece
  | .stringReplace => c.stringReplace
  | .stringSearch => c.stringSearch
  | .stringSubstring => c.stringSubstring
  | _ => c.foreign .string

end Call

end LineScript
