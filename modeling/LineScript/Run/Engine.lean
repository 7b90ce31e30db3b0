import LineScript.Run.State

/-! The engine: loading scripts, choosing one, and entering and leaving them. A script that runs is not
among the loaded ones until it is left. -/
namespace LineScript.Engine

/-- Fails. -/
def fail {α : Type} (f : Failure) : Action α :=
  throw (.ofFailure f)

/-- Notes the course of the program. -/
def note (level : Level) (part : Part) (text : String) : Action Unit :=
  modifyThe Engine (·.record (.note level part text))

/-- Registers a script under its name, which must be free. -/
def add (s : Script) : Action Unit := do
  if (← getThe Engine).scripts.contains s.name then fail (.alreadyLoaded s.name)
  modifyThe Engine fun e => { e with scripts := e.scripts.insert s.name s }

/-- Registers scripts, one after the other. -/
def addAll : List Script → Action Unit
  | [] => return
  | s :: rest => do
    add s
    addAll rest

/-- Registers a script and the scripts inside it. The first script that is loaded is the one that is run
if none is named. -/
def load (s : Script) : Action Unit := do
  match EmbeddedScript.ofLines s.name s.lines with
  | .error e => throw e
  | .ok inner =>
    add s
    addAll (inner.map fun i =>
      { name := i.name, lines := i.lines, offset := i.firstLine, path := s.path })
    modifyThe Engine fun e => { e with current := e.current.or (some s.name) }

/-- Loads a script file under the name of the file without its extension, and returns that name. -/
def loadFile (path : String) : Action String := do
  match Path.stem? path with
  | none => fail (.noScriptName path)
  | some name =>
    let lines ← FileAction.demand path (.readLines path)
    load { name, lines, path := some path }
    note .debug .engine s!"loaded script '{name}' from {path}"
    return name

/-- Chooses the script that is run if none is named. -/
def select (name : String) : Action Unit := do
  if !(← getThe Engine).scripts.contains name then fail (.unknownScript name)
  modifyThe Engine ({ · with current := some name })

/-- Gives a variable of the chosen script, or a shared one, a value. -/
def setParameter (name value : String) : Action Unit := do
  if isGlobalName name then setVariable name value
  else
    let e ← getThe Engine
    match e.current with
    | none => fail .noScriptSelected
    | some current =>
      match e.scripts.get? current with
      | none => fail (.unknownScript current)
      | some s =>
        set { e with scripts := e.scripts.insert current (s.setVariable name value) }

/-- Fails if a script runs. -/
def ensureIdle (name : String) : Action Unit := do
  if (← getThe Engine).calls.any (·.script == name) then fail (.alreadyRunning name)

/-- Enters a script in the books. -/
def push (name : String) (line : Nat) : Action Unit := do
  ensureIdle name
  modifyThe Engine fun e => { e with calls := ⟨name, line⟩ :: e.calls }

/-- Leaves the innermost script in the books. -/
def pop : Action (Option Frame) := do
  let e ← getThe Engine
  match e.calls with
  | [] => return none
  | f :: rest =>
    set { e with calls := rest }
    return some f

/-- Puts a script back among the loaded ones. -/
def putBack (s : Script) (e : Engine) : Engine :=
  { e with scripts := e.scripts.insert s.name s }

/-- What is left behind when a script that was entered ends. -/
def leave (s : Script) (e : Engine) : Engine :=
  { e with scripts := e.scripts.insert s.name s, calls := e.calls.tail }

/-- The checked script; a script that is checked already stays as it is. -/
def checked (s : Script) : Action Script := do
  if s.program.isSome then return s
  match Program.check s.name s.lines s.offset with
  | .error e => throw e
  | .ok p =>
    note .debug .checker s!"checked script '{s.name}': {p.statementCount} statements"
    return { s with program := some p }

/-- A checked script at its start. -/
def activate (s : Script) : Action Activation := do
  let s ← checked s
  match s.program with
  | none => throw (.ofFault .noProgram)
  | some program =>
    note .debug .interpreter s!"running script '{s.name}'"
    return { script := s.rewind, program }

/-- Takes a script from the loaded ones. -/
def takeOut (name : String) : Action Script := do
  let e ← getThe Engine
  match e.scripts.get? name with
  | none => fail (.unknownScript name)
  | some s =>
    set { e with scripts := e.scripts.erase name }
    return s

/-- Starts a script, or the chosen one, from outside. A script that does not start is put back. -/
def start (name : Option String) : Action Activation := do
  match name.or (← getThe Engine).current with
  | none => fail .noScriptSelected
  | some name =>
    let s ← takeOut name
    let back {α : Type} (s : Script) (e : Error) : Action α := do
      modifyThe Engine (putBack s)
      throw e
    let s ← tryCatch (checked s) (back s)
    tryCatch (push name 0) (back s)
    activate s

/-- Hands parameters to a script; shared variables are set at once. The script comes with the failure
that ends this, if there is one. -/
def handOver (s : Script) : List (String × String) → StateM Engine (Script × Option Error)
  | [] => return (s, none)
  | (name, value) :: rest => do
    if isGlobalName name then
      match ← (setVariable name value).run with
      | .ok () => handOver s rest
      | .error e => return (s, some e)
    else handOver (s.setVariable name value) rest

/-- Where a call stands: its line, and the directory of the file of its script. -/
structure CallSite where
  line : Nat
  directory : Option String

/-- The files in which a called script may be, in the order in which they are tried: next to the
caller, in the working directory and in the configured ones. A name without an extension is tried with
one first. -/
def candidates (e : Engine) (site : CallSite) (name : String) : List String :=
  let roots :=
    if Path.isAbsolute name then [""]
    else site.directory.toList ++ [e.world.place] ++ e.config.scriptDirectories
  roots.flatMap fun root =>
    let path := Path.join root name
    if (Path.extension? path).isNone then [Path.withExtension path e.config.scriptExtension, path]
    else [path]

/-- The first path that leads to a file. -/
def firstFile? : List String → Action (Option String)
  | [] => return none
  | path :: rest => do
    if ← FileAction.asked path FileTree.isFile then return some path else firstFile? rest

/-- The name of the loaded script that a call means; a script that is not loaded is looked for in
files. -/
def resolve (site : CallSite) (name : String) : Action String := do
  let e ← getThe Engine
  if e.scripts.contains name then return name
  match (Path.stem? name).filter e.scripts.contains with
  | some stem => return stem
  | none =>
    match ← firstFile? (candidates e site name) with
    | some path => loadFile path
    | none => fail (.unknownScript name)

/-- Starts a script for a call. If that fails, the books are as they were, and what was taken is put
back. -/
def enter (site : CallSite) (name : String) (parameters : List (String × String)) :
    Action Activation := do
  ensureIdle name
  let name ← resolve site name
  push name site.line
  let undo {α : Type} (e : Error) : Action α := do
    discard pop
    throw e
  let s ← tryCatch (takeOut name) undo
  let (s, failure) ← (handOver s parameters : StateM Engine _)
  let back {α : Type} (e : Error) : Action α := do
    modifyThe Engine (leave s)
    throw e
  match failure with
  | some e => back e
  | none => tryCatch (activate s) back

end LineScript.Engine
