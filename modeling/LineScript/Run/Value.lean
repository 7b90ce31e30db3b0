import LineScript.Buffer.Edit
import LineScript.Run.State

/-! What values, patterns and numbers of statements come to while a script runs. -/
namespace LineScript.Run

open Buffer (Position)
open Number (Double)

/-- The value of a variable of the system. -/
def intrinsic (name : String) : Run String := do
  let world ← getThe World
  match name with
  | "__line" => return toString ((← selected).2.cursor.line + 1)
  | "__col" => return toString ((← selected).2.cursor.column + 1)
  | "__lines" => return toString (← selected).2.lines.length
  | "__hit" => return (← selected).2.lastHit
  | "__found" => return toString (← selected).2.lastSearch.found.toNat
  | "__replaced" => return toString (← script).replaced
  | "__file" => return (← selected).2.file.getD ""
  | "__script" => return (← script).name
  | "__date" => return world.date
  | "__time" => return world.time
  | "__cwd" => return world.place
  | _ => throw (.ofFailure (.unknownIntrinsic name))

/-- The value of a variable that a script has set. -/
def lookup? (name : String) : Run (Option String) := do
  if isGlobalName name then return (← engine).bindings.get? name
  else return (← script).bindings.get? name

/-- The value of a variable. -/
def variableValue (name : String) : Run String := do
  if isIntrinsicName name then intrinsic name
  else
    match ← lookup? name with
    | some v => return v
    | none => throw (.ofFailure (.undefinedVariable name))

/-- Gives a variable a value. -/
def setVariable (name v : String) : Run Unit := do
  if isGlobalName name then onEngine (Engine.setVariable name v)
  else modifyScript (·.setVariable name v)

/-- The text of a template. -/
def templateText : Template → Run String
  | [] => return ""
  | .text s :: parts => return s ++ (← templateText parts)
  | .variable name :: parts => do
    let v ← variableValue name
    return v ++ (← templateText parts)

/-- The expression of a pattern. -/
def expression (p : Pattern) : Run Search.Expression := do
  match p.compiled with
  | some x => return x
  | none =>
    match Search.Expression.new (← templateText p.body) p.kind p.flags with
    | .ok x => return x
    | .error r => throw (.ofFailure (.pattern r))

/-- The text that a reference to a buffer stands for. -/
def bufferText (ref : BufferRef) : Run String := do
  let b ← NamedBuffers.buffer (m := Run) ref.name
  match ref.selector with
  | .all => return b.text
  | .line => return b.currentLine
  | .hit => return b.lastHit
  | .mark => return b.textBetween b.mark b.cursor

mutual

/-- The text of a fragment. -/
def fragmentText : Fragment → Run String
  | .text t => templateText t
  | .variable name => variableValue name
  | .buffer ref => bufferText ref
  | .call f args => Call.asText ⟨f, supplied args⟩
  termination_by structural f => f

/-- The text of a value: the texts of its fragments, one behind the other. -/
def valueText : List Fragment → Run String
  | [] => return ""
  | f :: fs => do
    let s ← fragmentText f
    return s ++ (← valueText fs)
  termination_by structural fs => fs

/-- An argument of a call, as the function sees it. -/
def argument : Argument → Supplied Run
  | .value fs => .text (valueText fs)
  | .buffer name => .buffer name
  | .pattern p => .pattern (expression p)
  termination_by structural a => a

/-- The arguments of a call. -/
def supplied : List Argument → List (Supplied Run)
  | [] => []
  | a :: as => argument a :: supplied as
  termination_by structural as => as

end

/-- The number of an operand, which has to be finite. -/
def operandNumber (o : Operand) : Run Double := do
  let x ← match o with
    | .number x => pure x
    | .variable name => do
      let s ← variableValue name
      match Number.ofTrimmed? s with
      | some x => pure x
      | none => throw (.ofFailure (.variableNotNumber name s))
    | .call f args => Call.asNumber ⟨f, supplied args⟩
  if x.isFinite then return x else throw (.ofFailure (.notFinite x))

/-- The number of a term. -/
def termNumber (t : Term) : Run Double := do
  let x ← operandNumber t.operand
  return if t.negative then x.neg else x

/-- What an operation does. -/
def arithmetic (x : Double) (op : ArithOp) (y : Double) : Except Failure Double :=
  match op with
  | .add => .ok (x.add y)
  | .sub => .ok (x.sub y)
  | .mul => .ok (x.mul y)
  | .div => if y.compare? (.zero false) = some .eq then .error .divisionByZero else .ok (x.div y)

/-- The number that operations make of a number, from the left. -/
def termsNumber (x : Double) : List (ArithOp × Term) → Run Double
  | [] => return x
  | (op, t) :: rest => do
    let y ← termNumber t
    match arithmetic x op y with
    | .ok x => termsNumber x rest
    | .error f => throw (.ofFailure f)

/-- The number of a numeric expression. -/
def exprNumber (e : NumExpr) : Run Double := do
  termsNumber (← termNumber e.first) e.rest

end LineScript.Run

namespace LineScript

/-- Whether a comparison holds of things in an order; without an order, only inequality does. -/
def Comparison.holds (c : Comparison) (order : Option Ordering) : Bool :=
  match order with
  | none => c == ne
  | some o =>
    match c with
    | eq => o == .eq
    | ne => o != .eq
    | lt => o == .lt
    | le => o != .gt
    | gt => o == .gt
    | ge => o != .lt

/-- The order of two values: as numbers if both are numbers, else as texts. -/
def valueOrder (left right : String) : Option Ordering :=
  match Number.ofTrimmed? left, Number.ofTrimmed? right with
  | some x, some y => x.compare? y
  | _, _ => some (compare left right)

/-- Whether a value counts as true: it is neither empty nor zero. -/
def isTruthy (s : String) : Bool :=
  !(s.isEmpty || s == "0")

namespace Run

open Buffer (Position)

/-- Searches the selected buffer and moves its cursor. -/
def search (p : Pattern) : Run Bool := do
  let x ← expression p
  let (_, b) ← selected
  let (b, hit) := b.search x.matcher x.flags true
  setSelected b
  return hit.found

/-- Whether a condition holds. -/
def conditionHolds : Condition → Run Bool
  | .found => return (← selected).2.lastSearch.found
  | .search p => search p
  | .truthy v => return isTruthy (← valueText v)
  | .compare left op right => do
    let l ← valueText left
    let r ← valueText right
    return op.holds (valueOrder l r)

/-- Whether a test holds. -/
def testHolds (t : Test) : Run Bool := do
  return (← conditionHolds t.condition) != t.negated

/-- The ends of a part of the selected buffer. -/
def rangeEnds (r : Range) : Run (Position × Position) := do
  let count ← match r with
    | .lines n => pure (← operandNumber n).toSize
    | _ => pure 1
  let (_, b) ← selected
  let line := b.cursor.line
  match r with
  | .all => return ({}, ⟨b.lines.length, 0⟩)
  | .line | .lines _ => return (⟨line, 0⟩, ⟨line + count, 0⟩)
  | .mark => return b.mark.ordered b.cursor
  | .hit =>
    if b.lastSearch.found then return (b.lastSearch.position, b.lastSearch.stop)
    else throw (.ofFailure .noHit)

end Run

end LineScript
