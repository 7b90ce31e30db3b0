import LineScript.Function.Call

/-! The functions on numbers. -/
namespace LineScript

open Number (Double)

/-- The least and the largest whole number that chance is asked for. -/
def wholeBounds : Int × Int :=
  (-Number.twoTo 63, Number.twoTo 63 - 1)

/-- The whole part of a number, within the bounds. -/
def wholePart (x : Double) : Int :=
  x.toIntWithin wholeBounds.1 wholeBounds.2

/-- The range in which chance picks: from the first number to the second one, or from zero up to, but not
including, the only one. -/
def randomRange (first : Double) (second : Option Double) : Int × Int :=
  match second with
  | some x => (wholePart first, wholePart x)
  | none => (0, max wholeBounds.1 (wholePart first - 1))

namespace Call

variable {m : Type → Type} [Monad m] [MonadExceptOf Error m] [MonadStateOf World m]
  [NamedBuffers m]

/-- A whole number picked at random. -/
def mathRandom (c : Call m) : m Output := do
  let first ← c.number 0
  let second ← c.number? 1
  let (low, high) := randomRange first second
  if high < low then throw (.ofFailure (.emptyRange low high))
  let n ← modifyGet fun w : World => w.draw (high - low).toNat
  return .number (.ofInt (low + n))

/-- Does what a function on numbers does. -/
def mathFunction (c : Call m) : m Output :=
  match c.function with
  | .mathRandom => c.mathRandom
  | _ => c.foreign .math

end Call

end LineScript
