import LineScript.Function.Call
import LineScript.Unicode.Case

/-! The functions on buffers, and the orders in which lines are sorted. -/
namespace LineScript

open Number (Double)

/-- How lines are sorted. -/
structure SortFlags where
  reverse : Bool := false
  numeric : Bool := false
  ignoreCase : Bool := false
  /-- Only the first of equal lines stays. -/
  unique : Bool := false
  deriving DecidableEq, Repr

namespace SortFlags

/-- Reads flags, each a letter. -/
def read (f : SortFlags) : List Char → Except Failure SortFlags
  | [] => .ok f
  | c :: cs =>
    match c with
    | 'r' => read { f with reverse := true } cs
    | 'n' => read { f with numeric := true } cs
    | 'i' => read { f with ignoreCase := true } cs
    | 'u' => read { f with unique := true } cs
    | c => .error (.sortFlag c)

/-- The text at the start of a line that may be a number: a sign, then digits and points. -/
def numberText (line : String) : List Char :=
  let part (c : Char) : Bool := c.isDigit || c == '.'
  match Text.trimLeft line.toList with
  | [] => []
  | c :: cs => if part c || c == '-' || c == '+' then c :: cs.takeWhile part else []

/-- The number at the start of a line; zero if there is none. -/
def leadingNumber (line : String) : Double :=
  (Number.ofText? (numberText line)).getD (.zero false)

/-- The order of lines, by numbers first if numbers count. -/
def order (f : SortFlags) (a b : String) : Ordering :=
  let byNumber :=
    if f.numeric then ((leadingNumber a).compare? (leadingNumber b)).getD .eq else .eq
  let byText :=
    if f.ignoreCase then compare (Unicode.lowerCase a) (Unicode.lowerCase b) else compare a b
  byNumber.then byText

/-- A list without what equals the entry that was kept before it. -/
def dedupe (f : SortFlags) : List String → List String
  | [] => []
  | [a] => [a]
  | a :: b :: rest =>
    if f.order b a = .eq then dedupe f (a :: rest) else a :: dedupe f (b :: rest)
  termination_by lines => lines.length

/-- The lines in order. -/
def sort (f : SortFlags) (lines : List String) : List String :=
  let sorted := lines.mergeSort fun a b => f.order a b != .gt
  let kept := if f.unique then f.dedupe sorted else sorted
  if f.reverse then kept.reverse else kept

end SortFlags

namespace Text

/-- The lines into which a text is split: none for an empty text, and single characters if the
separator is empty. -/
def splitLines (s separator : String) : List String :=
  if s.isEmpty then []
  else if separator.isEmpty then s.toList.map String.singleton
  else pieces s separator

end Text

namespace Call

variable {m : Type → Type} [Monad m] [MonadExceptOf Error m] [NamedBuffers m]

/-- The buffer that an argument is, with its name. -/
def buffer (c : Call m) (index : Nat) : m (String × LineBuffer) := do
  let name ← c.bufferName index
  return (name, ← NamedBuffers.buffer name)

/-- The lines of a buffer that another one lacks, kept in a third one if it is given. -/
def bufferDifference (c : Call m) : m Output := do
  let (_, left) ← c.buffer 0
  let (_, right) ← c.buffer 1
  let lines := left.lines.filter fun line => !right.lines.contains line
  if let some name := c.bufferName? 2 then
    NamedBuffers.setBuffer name ((← NamedBuffers.buffer name).setLines lines)
  return .count lines.length

/-- The lines with a separator between them. -/
def bufferJoin (c : Call m) : m Output := do
  let separator ← c.text? 1
  let (_, b) ← c.buffer 0
  return .text (Text.join (separator.getD "\n") b.lines)

/-- The last line, which is removed. -/
def bufferPop (c : Call m) : m Output := do
  let (name, b) ← c.buffer 0
  let (b, line) := b.pop
  NamedBuffers.setBuffer name b
  return .text (line.getD "")

/-- The first line, which is removed. -/
def bufferShift (c : Call m) : m Output := do
  let (name, b) ← c.buffer 0
  let (b, line) := b.shift
  NamedBuffers.setBuffer name b
  return .text (line.getD "")

/-- Sorts the lines. -/
def bufferSort (c : Call m) : m Output := do
  let flags ← c.text? 1
  match SortFlags.read {} (flags.getD "").toList with
  | .error e => throw (.ofFailure e)
  | .ok f =>
    let (name, b) ← c.buffer 0
    let lines := f.sort b.lines
    NamedBuffers.setBuffer name (b.setLines lines)
    return .count lines.length

/-- Splits a text into lines. -/
def bufferSplit (c : Call m) : m Output := do
  let s ← c.text 1
  let separator ← c.text? 2
  let lines := Text.splitLines s (separator.getD ",")
  let (name, b) ← c.buffer 0
  NamedBuffers.setBuffer name (b.setLines lines)
  return .count lines.length

/-- Does what a function on buffers does. -/
def bufferFunction (c : Call m) : m Output :=
  match c.function with
  | .bufferDifference => c.bufferDifference
  | .bufferJoin => c.bufferJoin
  | .bufferPop => c.bufferPop
  | .bufferShift => c.bufferShift
  | .bufferSort => c.bufferSort
  | .bufferSplit => c.bufferSplit
  | _ => c.foreign .buffer

end Call

end LineScript
