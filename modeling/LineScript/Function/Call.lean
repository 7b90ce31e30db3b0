import LineScript.Buffer.Basic
import LineScript.Function.Signature
import LineScript.Number.Decimal
import LineScript.Search.Expression
import LineScript.Registry
import LineScript.World

/-! Calls of functions: their arguments, what they can reach, and what they return. An argument is
computed when the function asks for it. -/
namespace LineScript

open Number (Double)

/-- Buffers under names; one that is named for the first time is there and empty. -/
class NamedBuffers (m : Type → Type) where
  buffer : String → m LineBuffer
  setBuffer : String → LineBuffer → m Unit

/-- An argument: a text or a pattern that is still to be computed, or the name of a buffer. -/
inductive Supplied (m : Type → Type) where
  | text (value : m String)
  | buffer (name : String)
  | pattern (expression : m Search.Expression)

/-- What a function returns. -/
inductive Output where
  | number (x : Double)
  | text (s : String)
  deriving DecidableEq, Repr

namespace Output

/-- One for success, else zero. -/
def flag (ok : Bool) : Output :=
  number (.ofBool ok)

/-- A number of things. -/
def count (n : Nat) : Output :=
  number (.ofNat n)

/-- The output as a text. -/
def toText : Output → String
  | number x => x.toText
  | text s => s

end Output

/-- A function with its arguments. -/
structure Call (m : Type → Type) where
  function : Builtin
  arguments : List (Supplied m)

namespace Call

variable {m : Type → Type} [Monad m] [MonadExceptOf Error m] [NamedBuffers m]

/-- The text of an argument, if it is given. A buffer counts as its lines and a pattern as its
body. -/
def text? (c : Call m) (index : Nat) : m (Option String) :=
  match c.arguments[index]? with
  | none => return none
  | some (.text value) => return some (← value)
  | some (.buffer name) => return some (← NamedBuffers.buffer name).text
  | some (.pattern expression) => return some (← expression).pattern

/-- Fails for want of an argument. -/
def missing {α : Type} (c : Call m) (index : Nat) : m α :=
  throw (.ofFault (.missingArgument c.function.name (index + 1)))

/-- Fails at a function of another group. -/
def foreign {α : Type} (c : Call m) (group : FunctionGroup) : m α :=
  throw (.ofFault (.foreignFunction c.function group))

/-- The text of an argument. -/
def text (c : Call m) (index : Nat) : m String := do
  match ← c.text? index with
  | some s => return s
  | none => c.missing index

/-- The number that an argument spells, if it is given. -/
def number? (c : Call m) (index : Nat) : m (Option Double) := do
  match ← c.text? index with
  | none => return none
  | some s =>
    match Number.ofTrimmed? s with
    | none => throw (.ofFailure (.argumentNotNumber c.function.name (index + 1) s))
    | some x =>
      if x.isFinite then return some x
      else throw (.ofFailure (.argumentNotFinite c.function.name (index + 1) s))

/-- The number that an argument spells. -/
def number (c : Call m) (index : Nat) : m Double := do
  match ← c.number? index with
  | some x => return x
  | none => c.missing index

/-- The name of a buffer, if an argument is one. -/
def bufferName? (c : Call m) (index : Nat) : Option String :=
  match c.arguments[index]? with
  | some (.buffer name) => some name
  | _ => none

/-- The name of the buffer that an argument is. -/
def bufferName (c : Call m) (index : Nat) : m String :=
  match c.bufferName? index with
  | some name => return name
  | none => throw (.ofFault (.notABuffer c.function.name (index + 1)))

/-- The pattern that an argument is; a text is taken as a regular expression. -/
def pattern (c : Call m) (index : Nat) : m Search.Expression := do
  match c.arguments[index]? with
  | some (.pattern expression) => expression
  | some _ =>
    match Search.Expression.new (← c.text index) .regex "" with
    | .ok x => return x
    | .error r => throw (.ofFailure (.pattern r))
  | none => c.missing index

end Call

end LineScript
