import LineScript.Function.Call
import LineScript.Glob.FileName

/-! The functions on paths, files and directories. Most of them answer one for success and zero for a
refusal. -/
namespace LineScript

namespace Path

/-- The name at the end of a path, empty if there is none. -/
def baseName (path : String) : String :=
  (fileName? path).getD ""

/-- The directory that a path names something in; a dot if the path does not say. -/
def directoryName (path : String) : String :=
  match parent? path with
  | some p => if p.isEmpty then "." else p
  | none => "."

/-- A path with another extension, which may be given with points in front. -/
def changeExtension (path extension : String) : String :=
  withExtension path (String.ofList (extension.toList.dropWhile (· == '.')))

end Path

/-- A letter or a digit for each number below 62. -/
def nameLetter (n : Nat) : Char :=
  Char.ofNat (if n < 10 then 48 + n else if n < 36 then 55 + n else 61 + n)

/-- Letters and digits picked at random. -/
def randomLetters : Nat → StateM World (List Char)
  | 0 => return []
  | n + 1 => do
    let k ← modifyGet fun w : World => w.draw 61
    return nameLetter k :: (← randomLetters n)

/-- Makes an empty file with a new name and returns its path. -/
def makeTemporary (start : String) : FileAction String := do
  let letters ← (randomLetters 6 : StateM World (List Char))
  let path := Path.join (← get).temporary (start ++ String.ofList letters)
  FileAction.writeLines path [] false
  return path

namespace Call

variable {m : Type → Type} [Monad m] [MonadExceptOf Error m] [MonadStateOf World m]
  [NamedBuffers m]

/-- The last name of a path. -/
def osBasename (c : Call m) : m Output := do
  return .text (Path.baseName (← c.text 0))

/-- The directory of a path. -/
def osDirname (c : Call m) : m Output := do
  return .text (Path.directoryName (← c.text 0))

/-- A path with another extension. -/
def osChangeExtension (c : Call m) : m Output := do
  let path ← c.text 0
  return .text (Path.changeExtension path (← c.text 1))

/-- The working directory. -/
def osPwd (_ : Call m) : m Output := do
  return .text ((← getThe World).place)

/-- The path of a new, empty file. -/
def osTempname (c : Call m) : m Output := do
  let start ← c.text? 0
  return .text (← FileAction.demand "temporary file" (makeTemporary (start.getD "ses")))

/-- Goes to a directory, or home. -/
def osCd (c : Call m) : m Output := do
  let path ← match ← c.text? 0 with
    | some path => pure path
    | none =>
      match (← getThe World).home with
      | some home => pure home
      | none => throw (.ofFailure .noHome)
  return .flag (← FileAction.attempt "os.cd" (.enter path))

/-- Goes to a directory and remembers the one before. -/
def osPushd (c : Call m) : m Output := do
  let path ← c.text 0
  let before := (← getThe World).directory
  let ok ← FileAction.attempt "os.cd" (.enter path)
  if ok then modify fun w : World => { w with pushed := before :: w.pushed }
  return .flag ok

/-- Goes back to the directory that was remembered last. -/
def osPopd (_ : Call m) : m Output := do
  match (← getThe World).pushed with
  | [] =>
    modify fun w : World =>
      w.record (.note .debug .directories "os.popd: directory stack is empty")
    return .flag false
  | before :: rest =>
    modify fun w : World => { w with pushed := rest }
    return .flag (← FileAction.attempt "os.cd" (.enter (World.directoryText before)))

/-- Copies a file onto a path or into a directory. -/
def osCopy (c : Call m) : m Output := do
  let source ← c.text 0
  let target ← c.text 1
  let inside ← FileAction.asked target FileTree.isDirectory
  let target :=
    match inside, Path.fileName? source with
    | true, some name => Path.join target name
    | _, _ => target
  return .flag (← FileAction.attempt "os.copy" (.copy source target))

/-- Whether there is anything at a path. -/
def osExists (c : Call m) : m Output := do
  let path ← c.text 0
  return .flag (← FileAction.asked path FileTree.isThere)

/-- Whether there is a directory at a path. -/
def osIsDir (c : Call m) : m Output := do
  let path ← c.text 0
  return .flag (← FileAction.asked path FileTree.isDirectory)

/-- Makes a directory and those around it. -/
def osMkdir (c : Call m) : m Output := do
  let path ← c.text 0
  return .flag (← FileAction.attempt "os.mkdir" (.makeDirectories path))

/-- The paths of what is in a directory, sorted, perhaps only of what a glob stands for. -/
def osListFiles (c : Call m) : m Output := do
  let path ← c.text 1
  let fits : String → Bool ← match ← c.text? 2 with
    | none => pure fun _ => true
    | some glob =>
      match Glob.fileName? glob with
      | some g => pure (Glob.matchesName g)
      | none => throw (.ofFailure .fileGlob)
  let names ← FileAction.demand path (.list path)
  let lines := ((names.filter fits).map (Path.join path)).mergeSort fun a b => !decide (b < a)
  let name ← c.bufferName 0
  NamedBuffers.setBuffer name ((← NamedBuffers.buffer name).setLines lines)
  return .count lines.length

/-- Does what a function on paths, files and directories does. -/
def osFunction (c : Call m) : m Output :=
  match c.function with
  | .osBasename => c.osBasename
  | .osCd => c.osCd
  | .osChangeExtension => c.osChangeExtension
  | .osCopy => c.osCopy
  | .osDirname => c.osDirname
  | .osExists => c.osExists
  | .osIsDir => c.osIsDir
  | .osListFiles => c.osListFiles
  | .osMkdir => c.osMkdir
  | .osPopd => c.osPopd
  | .osPushd => c.osPushd
  | .osPwd => c.osPwd
  | .osTempname => c.osTempname
  | _ => c.foreign .os

end Call

end LineScript
