import LineScript.CommandLine.Help
import LineScript.CommandLine.Session
import Std.Time

/-! The program. A session is pure: it works on files in memory. Here the files that it asks for are
looked up, those that it changes are written, and its journal is shown. -/
namespace LineScript.CommandLine

/-- The time of day by the clock on the wall, kept by the time that has passed since the start. -/
structure Clock where
  start : Std.Time.PlainDateTime
  /-- The milliseconds of a steady clock at the start. -/
  startedAt : Nat
  /-- The seconds since the start for which the world shows the time. -/
  shown : Option Nat := none

/-- What is known of the files outside: the paths that have been followed, and the files that have been
read, by their names. -/
structure Seen where
  paths : List String := []
  read : List (List String) := []

/-- The entry at a place outside, if there is one. Only if `full` is set is a file read. -/
def entryOutside? (path : String) (full : Bool) : IO (Option FileEntry) := do
  try
    let entry := System.mkFilePath [path]
    if ← entry.isDir then return some .directory
    else if !(← entry.pathExists) then return none
    else if full then return some (.file (← IO.FS.readBinFile entry))
    else return some (.file .empty)
  catch _ => return none

/-- The names in a directory outside. -/
def namesOutside (path : String) : IO (List String) := do
  try
    return (← (System.mkFilePath [path]).readDir).toList.map (·.fileName)
  catch _ => return []

/-- Takes over an entry from outside, unless it is known. -/
def takeEntry (full : Bool) (names : List String) (t : FileTree) (seen : Seen) :
    IO (FileTree × Seen) := do
  if seen.read.contains names || ((t.get? names).isSome && !full) then return (t, seen)
  match ← entryOutside? (World.directoryText names) full with
  | none => return (t, seen)
  | some entry =>
    let seen := if full then { seen with read := names :: seen.read } else seen
    return (t.put names entry, seen)

/-- Takes over what lies along some names, and the names in the directory at their end. -/
def takeNames (t : FileTree) (seen : Seen) (here : List String) :
    List String → IO (FileTree × Seen)
  | [] => do
    match t.get? here with
    | some .directory =>
      let names ← namesOutside (World.directoryText here)
      names.foldlM (fun (t, seen) name => takeEntry false (here ++ [name]) t seen) (t, seen)
    | _ => return (t, seen)
  | name :: rest => do
    if name = "." then takeNames t seen here rest
    else if name = ".." then takeNames t seen here.dropLast rest
    else
      let (t, seen) ← takeEntry true (here ++ [name]) t seen
      takeNames t seen (here ++ [name]) rest

/-- Takes over what lies along a path. -/
def takePath (t : FileTree) (seen : Seen) (path : String) : IO (FileTree × Seen) :=
  takeNames t { seen with paths := path :: seen.paths } [] (FileTree.steps path)

/-- Does a pure step, again and again until all the paths that it follows have been looked up. The
world before the step comes with the stage behind it. -/
partial def explore (f : World → Stage) (w : World) (seen : Seen) : IO (World × Stage × Seen) := do
  let s := f w
  match s.engine.world.visited.filter (!seen.paths.contains ·) with
  | [] => return (w, s, seen)
  | fresh =>
    let (files, seen) ← fresh.foldlM (fun (t, seen) path => takePath t seen path) (w.files, seen)
    explore f { w with files } seen

/-- Writes what a step has changed. A step that follows no path changes nothing. -/
def writeChanges (before after : World) : IO Unit := do
  if after.visited.isEmpty then return
  after.files.entries.reverse.forM fun (names, entry) => do
    if !(before.files.get? names).any entry.same then
      let path := World.directoryText names
      match entry with
      | .directory => IO.FS.createDirAll path
      | .file content => IO.FS.writeBinFile path content

/-- Shows what a step has recorded. -/
def showJournal (d : Display) (journal : List Event) : IO Unit :=
  journal.reverse.forM fun event => do
    match d.event event with
    | some (.output, text) => IO.print text
    | some (.diagnostics, text) => IO.eprint text
    | none => return

/-- The world with the time of now. -/
def tell (c : Clock) (w : World) : IO (Clock × World) := do
  let seconds := ((← IO.monoMsNow) - c.startedAt) / 1000
  if c.shown = some seconds then return (c, w)
  let now := c.start.addSeconds (.ofNat seconds)
  let w := { w with date := now.format "uuuu-MM-dd", time := now.format "HH:mm:ss" }
  return ({ c with shown := some seconds }, w)

/-- Runs a session from a stage on to its end, and returns the exit code. -/
partial def proceed (o : Options) (d : Display) (c : Clock) (seen : Seen) (s : Stage) :
    IO UInt32 := do
  match s with
  | .ended _ code => return code.toUInt32
  | s =>
    let (c, w) ← tell c { s.engine.world with journal := [], visited := [] }
    let (w, s, seen) ← explore (fun w => Session.step o (s.mapWorld fun _ => w)) w seen
    writeChanges w s.engine.world
    showJournal d s.engine.world.journal
    proceed o d c seen s

/-- The variables of the environment that count. -/
def readEnvironment : IO Environment :=
  ["HOME", "TMPDIR", "XDG_CONFIG_HOME", "SES_PATH", "RUST_LOG"].filterMapM fun name => do
    return (← IO.getEnv name).map fun value => (name, value)

/-- The directories that enclose some names. -/
def enclosing (names : List String) : FileTree :=
  ⟨(List.range names.length).map fun n => (names.take (n + 1), .directory)⟩

/-- The world at the start of the program. -/
def startingWorld (env : Environment) : IO World := do
  let directory := FileTree.steps (← IO.currentDir).toString
  let seed := (← IO.getRandomBytes 8).foldl (fun n b => 256 * n + b.toNat) 0
  return {
    files := enclosing directory
    directory
    home := env.home?
    temporary := env.temporary
    chance := mkStdGen seed }

/-- Runs a session. -/
def runSession (o : Options) : IO UInt32 := do
  let env ← readEnvironment
  let (faults, filter) := env.filter o.verbosity
  let d : Display := { filter, trace := o.trace }
  let clock : Clock := { start := ← Std.Time.PlainDateTime.now, startedAt := ← IO.monoMsNow }
  let (clock, w) ← tell clock (← startingWorld env)
  let (_, s, seen) ← explore (Session.start env o faults) w {}
  showJournal d s.engine.world.journal
  proceed o d clock seen s

end LineScript.CommandLine

open LineScript.CommandLine in
/-- Does what the arguments ask for. -/
def main (arguments : List String) : IO UInt32 := do
  match Invocation.ofArguments arguments with
  | .run o => runSession o
  | .help =>
    IO.print helpText
    return 0
  | .version =>
    IO.print versionText
    return 0
  | .misuse =>
    IO.eprint misuseText
    return 2
