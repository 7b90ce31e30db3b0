import LineScript.Files.Lines
import LineScript.Files.Tree
import LineScript.Journal

/-! What scripts share with everything outside them: files, the working directory, chance, the time, and
a journal of what happens. -/
namespace LineScript

/-- The surroundings of a run. -/
structure World where
  files : FileTree := {}
  /-- The working directory, by the names that lead to it. -/
  directory : List String := []
  /-- The directories that were left for others, the last one first. -/
  pushed : List (List String) := []
  home : Option String := none
  /-- Where temporary files are made. -/
  temporary : String := "/tmp"
  date : String := ""
  time : String := ""
  chance : StdGen := mkStdGen
  /-- The last event first. -/
  journal : List Event := []
  /-- The paths that were followed, seen from the root, the last one first. -/
  visited : List String := []

/-- A request to the file system. -/
abbrev FileAction := ExceptT FileError (StateM World)

namespace World

/-- The text of a directory that is given by names. -/
def directoryText (names : List String) : String :=
  "/" ++ "/".intercalate names

/-- The text of the working directory. -/
def place (w : World) : String :=
  directoryText w.directory

/-- Records an event. -/
def record (w : World) (e : Event) : World :=
  { w with journal := e :: w.journal }

/-- A number from zero to `high`, drawn at random. -/
def draw (w : World) (high : Nat) : Nat × World :=
  let (n, chance) := randNat w.chance 0 high
  (n, { w with chance })

/-- Remembers that a path is followed. -/
def visit (w : World) (path : String) : World :=
  { w with visited := Path.join w.place path :: w.visited }

end World

namespace FileAction

/-- Asks the files about a path. -/
def ask {α : Type} (path : String) (f : FileTree → List String → Except FileError α) :
    FileAction α := do
  modify (·.visit path)
  let w ← get
  (f w.files w.directory : Except FileError α)

/-- Changes the files at a path. -/
def change (path : String) (f : FileTree → List String → Except FileError FileTree) :
    FileAction Unit := do
  let files ← ask path f
  modify ({ · with files })

/-- The lines of a file. -/
def readLines (path : String) : FileAction (List String) := do
  Files.lines (← ask path (·.read · path))

/-- Writes lines to a file, behind what it holds if `append` is set. -/
def writeLines (path : String) (lines : List String) (append : Bool) : FileAction Unit :=
  change path (·.write · path (Files.content lines) append)

/-- The names in a directory. -/
def list (path : String) : FileAction (List String) :=
  ask path (·.list · path)

/-- Copies a file onto a path. -/
def copy (source target : String) : FileAction Unit := do
  modify (·.visit source)
  change target (·.copy · source target)

/-- Makes a directory and what is missing around it. -/
def makeDirectories (path : String) : FileAction Unit := do
  modify (·.visit path)
  let w ← get
  let (files, r) := w.files.makeDirectories w.directory (Text.length path + 1) path
  set { w with files }
  r

/-- Makes a directory the working directory. -/
def enter (path : String) : FileAction Unit := do
  let directory ← ask path (·.directoryAt · path)
  modify ({ · with directory })

variable {m : Type → Type} [Monad m] [MonadStateOf World m]

/-- Whether something holds of a path. -/
def asked (path : String) (f : FileTree → List String → String → Bool) : m Bool := do
  modifyThe World (·.visit path)
  let w ← getThe World
  return f w.files w.directory path

/-- What a request comes to. -/
def outcome {α : Type} (a : FileAction α) : m (Except FileError α) :=
  modifyGetThe World fun w => a.run.run w

/-- Does a request that may be refused: a refusal is noted, and the answer says so. -/
def attempt {α : Type} (name : String) (a : FileAction α) : m Bool := do
  match ← outcome a with
  | .ok _ => return true
  | .error e =>
    modifyThe World (·.record (.note .debug .directories s!"{name}: {e.message}"))
    return false

/-- Does a request that must not be refused; a refusal names the path. -/
def demand {α : Type} [MonadExceptOf Error m] (path : String) (a : FileAction α) : m α := do
  match ← outcome a with
  | .ok x => return x
  | .error e => throw (.ofFile path e)

end FileAction

end LineScript
