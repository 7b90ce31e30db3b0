import LineScript.Buffer.File
import LineScript.CommandLine.Display
import LineScript.CommandLine.Environment
import LineScript.Run.Machine

/-! A session of the program: a script is loaded and run once, or once for every file. -/
namespace LineScript.CommandLine

/-- Why the program gives up. -/
inductive Refusal where
  | script (path : String) (e : Error)
  | definition (text : String)
  | parameter (name : String) (e : Error)
  | input (path : String) (e : Error)
  | output (path : String) (e : Error)
  deriving DecidableEq, Repr

/-- The wording of a refusal. -/
def Refusal.message : Refusal → String
  | script path e => s!"cannot load script {path}: {e.toText}"
  | definition text => s!"expected NAME=VALUE, got '{text}'"
  | parameter name e => s!"cannot set parameter '{name}': {e.toText}"
  | input path e => s!"cannot read {path}: {e.toText}"
  | output path e => s!"cannot write {path}: {e.toText}"

/-- The exit status of the program for the exit code of a script: any code but zero is moved between 1
and 255. -/
def exitStatus (code : Int) : Nat :=
  if code = 0 then 0 else (min 255 (max 1 code)).toNat

/-- How far a session has come. -/
inductive Stage where
  /-- Some files are still to be processed. -/
  | waiting (engine : Engine) (files : List String)
  /-- The script runs on the lines of a file, or on none, and some files are still to be processed. -/
  | running (machine : Machine) (file : Option String) (files : List String)
  | ended (engine : Engine) (code : Nat)

namespace Stage

/-- The engine of a stage. -/
def engine : Stage → Engine
  | waiting e _ => e
  | running m _ _ => m.engine
  | ended e _ => e

/-- Changes the world around a session. -/
def mapWorld (f : World → World) : Stage → Stage
  | waiting e files => waiting { e with world := f e.world } files
  | running m file files =>
    running { m with engine := { m.engine with world := f m.engine.world } } file files
  | ended e code => ended { e with world := f e.world } code

/-- The program gives up. -/
def giveUp (e : Engine) (r : Refusal) : Stage :=
  ended (e.record (.refusal r.message)) 1

end Stage

namespace Session

/-- Does work that is refused in a way of its own if it fails. -/
def refusing {α : Type} (r : Error → Refusal) (a : Engine.Action α) :
    ExceptT Refusal (StateM Engine) α := do
  let result ← (a.run : StateM Engine (Except Error α))
  match result with
  | .ok x => return x
  | .error e => throw (r e)

/-- Gives a parameter its value: a name and a value with an equals sign between them. -/
def define (text : String) : ExceptT Refusal (StateM Engine) Unit :=
  match Text.cut? ['='] text.toList with
  | none => throw (.definition text)
  | some (name, value) =>
    let name := String.ofList name
    refusing (.parameter name) (Engine.setParameter (Text.trimmed name) (String.ofList value))

/-- The configuration that the environment and the options give. -/
def config (env : Environment) (o : Options) : Engine.Action Config := do
  let own ← match env.ownScripts? with
    | none => pure []
    | some d => if ← FileAction.asked d FileTree.isDirectory then pure [d] else pure []
  return { scriptDirectories := env.listedScripts ++ own, loopLimit := o.loopLimit }

/-- Loads the script and sets its parameters. -/
def prepare (env : Environment) (o : Options) : ExceptT Refusal (StateM Engine) Unit := do
  let config ← refusing (.script o.script) (config env o)
  modifyThe Engine ({ · with config })
  discard (refusing (.script o.script) (Engine.loadFile o.script))
  o.defines.forM define

/-- Prints the main buffer. -/
def printMain (e : Engine) : Engine :=
  e.main.lines.foldl (fun e line => e.record (.printed line)) e

/-- Writes the main buffer back to its file, if it has changed. -/
def writeBack (file : String) : Engine.Action Unit := do
  let (main, written) ← (← getThe Engine).main.storeTo none false false
  modifyThe Engine ({ · with main })
  if written then Engine.note .info .program s!"wrote {file}"

/-- What follows a run of the script. A run on a file that fails ends the session. -/
def conclude (o : Options) (file : Option String) (files : List String) (code : Int) (e : Engine) :
    Stage :=
  match file with
  | none => .ended (if o.print then printMain e else e) (exitStatus code)
  | some file =>
    if code ≠ 0 then .ended e (exitStatus code)
    else
      let e := if o.print then printMain e else e
      if o.inPlace then
        match (writeBack file).run.run e with
        | (.ok (), e) => .waiting e files
        | (.error err, e) => .giveUp e (.output file err)
      else .waiting e files

/-- What follows a run of the script that may have failed. -/
def settle (o : Options) (file : Option String) (files : List String)
    (r : Except Error Outcome) (e : Engine) : Stage :=
  let (code, e) := e.settle r
  conclude o file files code e

/-- Starts the script. -/
def launch (o : Options) (file : Option String) (files : List String) (e : Engine) : Stage :=
  match (Engine.start none).run.run e with
  | (.error err, e) => settle o file files (.error err) e
  | (.ok a, e) => .running ⟨e, a, []⟩ file files

/-- Reads a file into the main buffer. -/
def readMain (file : String) : Engine.Action Unit := do
  let main ← (← getThe Engine).main.readFrom file
  modifyThe Engine ({ · with main })
  Engine.note .info .program s!"processing {file}"

/-- Takes a step: a step of the script, or the start of the next run. -/
def step (o : Options) : Stage → Stage
  | .ended e code => .ended e code
  | .running m file files =>
    match m.step with
    | .running m => .running m file files
    | .ended e s r => settle o file files r (e.leave s)
  | .waiting e [] => .ended e 0
  | .waiting e (file :: files) =>
    match (readMain file).run.run e with
    | (.ok (), e) => launch o (some file) files e
    | (.error err, e) => .giveUp e (.input file err)

/-- The beginning of a session: what does not count of the filter is reported, the script is loaded, and
it is started if there are no files. -/
def start (env : Environment) (o : Options) (faults : List FilterFault) (w : World) : Stage :=
  let w := faults.foldl (fun w f => w.record (.warning f.message)) w
  match (prepare env o).run.run { world := w } with
  | (.error r, e) => .giveUp e r
  | (.ok (), e) => if o.files.isEmpty then launch o none [] e else .waiting e o.files

/-- Takes steps until the session ends; none if the steps do not suffice. -/
def run (o : Options) : Nat → Stage → Option (Engine × Nat)
  | 0, _ => none
  | fuel + 1, s =>
    match step o s with
    | .ended e code => some (e, code)
    | s => run o fuel s

end Session

end LineScript.CommandLine
