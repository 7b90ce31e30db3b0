import LineScript.Buffer.File
import LineScript.Buffer.Replace
import LineScript.Run.Value

/-! What the statements do. -/
namespace LineScript

open Buffer (Position)
open Number (Double)

/-- How a run goes on behind a statement. -/
inductive Flow where
  /-- With the next statement. -/
  | next
  | jump (target : Nat)
  /-- Out of the script. -/
  | finish (code : Int)
  /-- Out of the whole run. -/
  | abort (code : Int)
  /-- Into another script. -/
  | call (name : String) (parameters : List (String × String))

/-- The number of a line or a column that counts from one, as one that counts from zero. -/
def fromOne (x : Double) : Nat :=
  x.toSize - 1

/-- The exit code of a number: its whole part, within 32 bits. -/
def exitCode (x : Double) : Int :=
  x.toIntWithin (-Number.twoTo 31) (Number.twoTo 31 - 1)

/-- The parameters in a buffer: in each line a name, an equals sign and a value. Blank lines do not
count. -/
def parametersOfLines : List String → Except Failure (List (String × String))
  | [] => .ok []
  | line :: lines =>
    if (Text.trimmed line).isEmpty then parametersOfLines lines
    else
      match Text.cut? ['='] line.toList with
      | none => .error (.parameterLine line)
      | some (name, value) =>
        (parametersOfLines lines).map
          ((Text.trimmed (String.ofList name), String.ofList value) :: ·)

namespace JumpTable

/-- Where a recorded jump leads. -/
def target (table : Targets) (index : Nat) : Except Fault Nat :=
  match table.lookup index with
  | some t => .ok t
  | none => .error (.noJumpTarget index)

end JumpTable

namespace LoopCounts

/-- The count of a loop. -/
def count (l : LoopCounts) (index : Nat) : Nat :=
  (l.lookup index).getD 0

/-- The counts without that of one loop. -/
def close (l : LoopCounts) (index : Nat) : LoopCounts :=
  l.filter (·.1 != index)

/-- Counts a loop once more. -/
def enter (l : LoopCounts) (index : Nat) : LoopCounts :=
  (index, l.count index + 1) :: l.close index

/-- The counts of the loops that stay open when the statement with an index is left for a target: a loop
is closed if it starts in front of the statement and ends at or in front of the target. -/
def leave (l : LoopCounts) (table : Targets) (index target : Nat) : LoopCounts :=
  l.filter fun (start, _) => !(start < index && (table.lookup start).any (· ≤ target))

end LoopCounts

namespace Run

/-- The jumps of the script that runs. -/
def jumps : Run JumpTable :=
  return (← getThe RunState).active.program.jumps

/-- The index of the statement that runs. -/
def index : Run Nat :=
  return (← script).index

/-- The counts of the open loops. -/
def loops : Run LoopCounts :=
  return (← getThe RunState).active.loops

/-- Changes the counts of the open loops. -/
def setLoops (loops : LoopCounts) : Run Unit :=
  modifyThe RunState fun s => { s with active := { s.active with loops } }

/-- Goes on at a target of the statement that runs. -/
def jumpBy (table : JumpTable → Targets) : Run Flow := do
  match JumpTable.target (table (← jumps)) (← index) with
  | .ok t => return .jump t
  | .error f => throw (.ofFault f)

/-- The buffer of a name, or else the selected one, with its name. -/
def bufferOrSelected (name : Option String) : Run (String × LineBuffer) := do
  match name with
  | some name => return (name, ← NamedBuffers.buffer name)
  | none => selected

/-- Puts lines into a buffer, behind its lines if `append` is set. -/
def putLines (name : String) (append : Bool) (lines : List String) : Run Unit := do
  let b ← NamedBuffers.buffer (m := Run) name
  NamedBuffers.setBuffer name (if append then b.append lines else b.setLines lines)

/-- Enters a loop once more, unless it has been entered too often. -/
def enterLoop : Run Unit := do
  let i ← index
  let counts := (← loops).enter i
  setLoops counts
  match (← engine).config.loopLimit with
  | some limit => if limit < counts.count i then throw (.ofFailure (.loopLimit limit))
  | none => return

/-- The code that a script exits with. -/
def codeOf (code : Option Operand) (default : Int) : Run Int := do
  match code with
  | some o => return exitCode (← operandNumber o)
  | none => return default

/-- The name and the parameters of a call. -/
def callee (name : Value) (ps : Parameters) : Run Flow := do
  let name ← valueText name
  match ps with
  | .none => return .call name []
  | .pairs ps => return .call name (← ps.mapM fun (key, v) => return (key, ← valueText v))
  | .buffer b =>
    match parametersOfLines (← NamedBuffers.buffer (m := Run) b).lines with
    | .ok ps => return .call name ps
    | .error f => throw (.ofFailure f)

/-- The lines of a part of the selected buffer. The start of a line behind a range of whole lines does not
belong to it. -/
def rangeLines (r : Range) : Run (List String) := do
  let (start, stop) ← rangeEnds r
  let (_, b) ← selected
  let lines := b.extract start stop false
  if r.isWholeLines && stop.column == 0 && stop.line < b.lines.length then return lines.dropLast
  else return lines

/-- The wording of what keeping a line up to date came to. -/
def adaptationName : LineBuffer.Adaptation → String
  | .unchanged => "Unchanged"
  | .replaced => "Replaced"
  | .inserted => "InsertedAtAnchor"
  | .appended => "Appended"

/-- Keeps a line of the selected buffer up to date. -/
def adapt (pattern : Pattern) (replacement : Value) (anchor : Option Pattern) (above : Bool) :
    Run Unit := do
  let x ← expression pattern
  let anchor ← anchor.mapM expression
  let replacement ← valueText replacement
  let (_, b) ← selected
  let (b, change) := b.adapt x.matcher replacement (anchor.map (·.matcher)) above
  setSelected b
  note .debug s!"adapt: {adaptationName change}"

/-- Inserts text at the cursor or, as whole lines, in front of its line. -/
def insert (wholeLines : Bool) (v : Value) : Run Unit := do
  let lines := Text.lines (← valueText v)
  let (_, b) ← selected
  let place := if wholeLines then ⟨b.cursor.line, 0⟩ else b.cursor
  let (b, stop) := b.insert place lines wholeLines
  setSelected (b.setCursor stop)

/-- Reads a file into a buffer. -/
def load (buffer : Option String) (file : Value) : Run Unit := do
  let path ← valueText file
  let (name, b) ← bufferOrSelected buffer
  let b ← b.readFrom path
  NamedBuffers.setBuffer name b
  note .info s!"loaded {b.lines.length} lines from {path}"

/-- Writes a buffer to a file. -/
def store (buffer : Option String) (file : Option Value) (append force : Bool) : Run Unit := do
  let path ← file.mapM valueText
  let (name, b) ← bufferOrSelected buffer
  let (b, written) ← b.storeTo path append force
  NamedBuffers.setBuffer name b
  if written then note .info s!"stored {b.lines.length} lines"

/-- Moves the cursor of the selected buffer to a position that may depend on the buffer. -/
def moveTo (f : LineBuffer → Position) : Run Unit := do
  let (_, b) ← selected
  setSelected (b.setCursor (f b))

/-- Moves the cursor of the selected buffer. -/
def move (target : MoveTarget) : Run Unit := do
  match target with
  | .pattern p => discard (search p)
  | .line line column =>
    let line ← operandNumber line
    let column ← column.mapM operandNumber
    moveTo fun _ => ⟨fromOne line, column.elim 0 fromOne⟩
  | .by delta =>
    let delta ← operandNumber delta
    moveTo fun b => ⟨((Double.ofNat b.cursor.line).add delta).toSize, b.cursor.column⟩
  | .bufferStart => moveTo fun _ => {}
  | .bufferEnd => moveTo (·.endPosition)
  | .lineStart => moveTo fun b => ⟨b.cursor.line, 0⟩
  | .lineEnd => moveTo fun b => ⟨b.cursor.line, Text.length b.currentLine⟩
  | .mark => moveTo (·.mark)

/-- Replaces matches in the selected buffer. -/
def replace (pattern : Pattern) (replacement : Value) (count : Option Operand)
    (filter : Option Pattern) (range : Option Range) : Run Unit := do
  let x ← expression pattern
  let filter ← filter.mapM expression
  let replacement ← valueText replacement
  let count ← count.mapM operandNumber
  let ends ← range.mapM rangeEnds
  let (_, b) ← selected
  let (b, n) := b.replace x.matcher replacement
    { count := count.map Double.toSize
      start := ends.map (·.1)
      stop := ends.map (·.2)
      filter := filter.map (·.matcher)
      inLine := x.flags.inLine
      groups := x.hasGroups }
  setSelected b
  modifyScript ({ · with replaced := n })

/-- Changes which buffer is selected. -/
def select : Selection → Run Unit
  | .set name => do
    discard (NamedBuffers.buffer (m := Run) name)
    modifyScript ({ · with selected := name })
  | .push name => do
    discard (NamedBuffers.buffer (m := Run) name)
    modifyScript fun s => { s with selected := name, pushed := s.selected :: s.pushed }
  | .pop => do
    match (← script).pushed with
    | [] => throw (.ofFailure .popWithoutPush)
    | name :: rest => modifyScript ({ · with selected := name, pushed := rest })

/-- Does a statement that does not jump; the other statements do nothing here. -/
def perform (text : String) : Statement → Run Unit
  | .assign name append v => do
    let s ← valueText v
    let before ← if append then lookup? name else pure none
    setVariable name (before.getD "" ++ s)
  | .assignBuffer name append v => do
    let s ← valueText v
    putLines name append (Text.lines s)
  | .assignNumeric name e => do setVariable name (← exprNumber e).toText
  | .adapt pattern replacement anchor above => adapt pattern replacement anchor above
  | .assert t => do if !(← testHolds t) then throw (.ofFailure (.assertion text))
  | .copy r target append => do putLines target append (← rangeLines r)
  | .delete r => do
    let (start, stop) ← rangeEnds r
    let (_, b) ← selected
    setSelected ((b.delete start stop).1.setCursor start)
  | .insert wholeLines v => insert wholeLines v
  | .load buffer file => load buffer file
  | .store buffer file append force => store buffer file append force
  | .log t => do
    let s ← templateText t
    modifyEngine (·.record (.message .info s))
  | .mark => do
    let (_, b) ← selected
    setSelected (b.setMark b.cursor)
  | .move target => move target
  | .replace pattern replacement count filter range => replace pattern replacement count filter range
  | .select s => select s
  | _ => return

/-- Does a statement, and says how the run goes on. -/
def execute (text : String) : Statement → Run Flow
  | .ifTest t => do if ← testHolds t then return .next else jumpBy (·.ifTargets)
  | .elseWord | .endWhile | .script _ => jumpBy (·.blockTargets)
  | .whileTest t => do
    if ← testHolds t then
      enterLoop
      return .next
    else
      setLoops ((← loops).close (← index))
      jumpBy (·.blockTargets)
  | .leave _ condition => do
    let leaves ← match condition with
      | some t => testHolds t
      | none => pure true
    if !leaves then return .next
    let table := (← jumps).blockTargets
    let i ← index
    match JumpTable.target table i with
    | .error f => throw (.ofFault f)
    | .ok t =>
      setLoops ((← loops).leave table i t)
      return .jump t
  | .exit abort code => do
    let code ← codeOf code 0
    return if abort then .abort code else .finish code
  | .stop code => return .abort (← codeOf code 1)
  | .call name ps => callee name ps
  | s => do
    perform text s
    return .next

end Run

end LineScript
