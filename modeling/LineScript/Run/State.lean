import LineScript.Function.Evaluation
import LineScript.Script.Program

/-! Scripts with their variables and buffers, and the engine that they share. -/
namespace LineScript

/-- The name of the buffer that holds the input. -/
def mainName : String :=
  "_main"

/-- How a run of a script ends: at its end or by leaving it, or by ending the whole run. -/
inductive Outcome where
  | finished (code : Int)
  | aborted (code : Int)
  deriving DecidableEq, Repr

/-- The exit code of an outcome. -/
def Outcome.code : Outcome → Int
  | finished code | aborted code => code

/-- A script with what is its own. -/
structure Script where
  name : String
  lines : List String
  /-- The number of lines in front of the first one in its file. -/
  offset : Nat := 0
  path : Option String := none
  /-- The statements, once the script is checked. -/
  program : Option Program := none
  /-- The variables of the script, with their values. -/
  bindings : Registry String := .empty
  buffers : Registry LineBuffer := .empty
  /-- The selected buffer. -/
  selected : String := mainName
  /-- The buffers that were selected before, the last one first. -/
  pushed : List String := []
  /-- The number of replacements of the last `replace`. -/
  replaced : Nat := 0
  /-- The index of the statement that runs, or is the next to run. -/
  index : Nat := 0

namespace Script

/-- Gives a variable of the script a value. -/
def setVariable (s : Script) (name value : String) : Script :=
  { s with bindings := s.bindings.insert name value }

/-- The script at its start, with the main buffer selected. -/
def rewind (s : Script) : Script :=
  { s with selected := mainName, pushed := [], index := 0 }

/-- The directory of the file of a script. -/
def directory? (s : Script) : Option String :=
  s.path.bind Path.parent?

end Script

/-- What can be set from outside. -/
structure Config where
  /-- Where called scripts are looked for last. -/
  scriptDirectories : List String := []
  /-- The extension of called scripts that are named without one. -/
  scriptExtension : String := "ses"
  /-- How often a loop may be entered before it is left. -/
  loopLimit : Option Nat := none
  deriving DecidableEq, Repr

/-- A script that runs, and the line of its caller, zero if it was started from outside. -/
structure Frame where
  script : String
  line : Nat
  deriving DecidableEq, Repr

/-- What scripts share. -/
structure Engine where
  config : Config := {}
  main : LineBuffer := {}
  buffers : Registry LineBuffer := .empty
  /-- The scripts that are loaded and do not run. -/
  scripts : Registry Script := .empty
  /-- The shared variables, with their values. -/
  bindings : Registry String := .empty
  /-- The scripts that run, the innermost first. -/
  calls : List Frame := []
  /-- The script that is run if none is named. -/
  current : Option String := none
  world : World := {}

namespace Engine

/-- Work on an engine. A failure keeps what was done before it. -/
abbrev Action := ExceptT Error (StateM Engine)

instance : MonadStateOf World Action where
  get := return (← getThe Engine).world
  set world := modifyThe Engine ({ · with world })
  modifyGet f := modifyGetThe Engine fun e =>
    let (a, world) := f e.world
    (a, { e with world })

/-- A shared buffer, if it has been named before; the main buffer always is. -/
def buffer? (e : Engine) (name : String) : Option LineBuffer :=
  if name = mainName then some e.main else e.buffers.get? name

/-- Changes a shared buffer. -/
def setBuffer (e : Engine) (name : String) (b : LineBuffer) : Engine :=
  if name = mainName then { e with main := b } else { e with buffers := e.buffers.insert name b }

/-- Records an event. -/
def record (e : Engine) (event : Event) : Engine :=
  { e with world := e.world.record event }

/-- Gives a shared variable a value. -/
def setVariable (name value : String) : Action Unit := do
  if isIntrinsicName name then throw (.ofFailure (.readOnly name))
  if !isGlobalName name then throw (.ofFailure (.notGlobal name))
  modifyThe Engine fun e => { e with bindings := e.bindings.insert name value }

end Engine

/-- How often the condition of each open loop has held since the loop was entered, by the index of the
loop. -/
abbrev LoopCounts := List (Nat × Nat)

/-- A script while it runs. -/
structure Activation where
  script : Script
  program : Program
  loops : LoopCounts := []

/-- The innermost script that runs, and the engine. -/
structure RunState where
  active : Activation
  engine : Engine

/-- A part of a run. A failure keeps what was done before it. -/
abbrev Run := ExceptT Error (StateM RunState)

namespace Run

instance : MonadStateOf World Run where
  get := return (← getThe RunState).engine.world
  set world := modifyThe RunState fun s => { s with engine := { s.engine with world } }
  modifyGet f := modifyGetThe RunState fun s =>
    let (a, world) := f s.engine.world
    (a, { s with engine := { s.engine with world } })

/-- The script that runs. -/
def script : Run Script :=
  return (← getThe RunState).active.script

/-- Changes the script that runs. -/
def modifyScript (f : Script → Script) : Run Unit :=
  modifyThe RunState fun s => { s with active := { s.active with script := f s.active.script } }

/-- The engine. -/
def engine : Run Engine :=
  return (← getThe RunState).engine

/-- Changes the engine. -/
def modifyEngine (f : Engine → Engine) : Run Unit :=
  modifyThe RunState fun s => { s with engine := f s.engine }

/-- Does work on the engine. -/
def onEngine {α : Type} (a : Engine.Action α) : Run α := do
  let r ← modifyGetThe RunState fun s =>
    let (r, engine) := a.run.run s.engine
    (r, { s with engine })
  match r with
  | .ok x => return x
  | .error e => throw e

/-- Notes the course of the run. -/
def note (level : Level) (text : String) : Run Unit :=
  modifyEngine (·.record (.note level .interpreter text))

end Run

namespace RunState

/-- The buffer of a name, if it has been named before: a shared one if the name is shared. -/
def buffer? (s : RunState) (name : String) : Option LineBuffer :=
  if isGlobalName name then s.engine.buffer? name else s.active.script.buffers.get? name

/-- Changes the buffer of a name. -/
def setBuffer (s : RunState) (name : String) (b : LineBuffer) : RunState :=
  if isGlobalName name then { s with engine := s.engine.setBuffer name b }
  else
    let script := s.active.script
    { s with
      active := { s.active with
        script := { script with buffers := script.buffers.insert name b } } }

end RunState

instance : NamedBuffers Run where
  buffer name := modifyGetThe RunState fun s =>
    match s.buffer? name with
    | some b => (b, s)
    | none => ({}, s.setBuffer name {})
  setBuffer name b := modifyThe RunState (·.setBuffer name b)

namespace Run

/-- The selected buffer, with its name. -/
def selected : Run (String × LineBuffer) := do
  let name := (← script).selected
  return (name, ← NamedBuffers.buffer name)

/-- Changes the selected buffer. -/
def setSelected (b : LineBuffer) : Run Unit := do
  NamedBuffers.setBuffer (← script).selected b

end Run

end LineScript
