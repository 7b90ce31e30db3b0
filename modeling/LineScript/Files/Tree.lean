import LineScript.Error
import LineScript.Files.Path

/-! Files in memory. An entry is known by the names that lead to it from the root, and every entry but
the root lies in a directory. -/
namespace LineScript

/-- What a path can lead to. -/
inductive FileEntry where
  | file (content : ByteArray)
  | directory
  deriving Inhabited

/-- Whether two entries are the same. -/
def FileEntry.same : FileEntry → FileEntry → Bool
  | file a, file b => a.toList == b.toList
  | directory, directory => true
  | _, _ => false

/-- Directories and files below a root, which is always there. -/
structure FileTree where
  entries : List (List String × FileEntry) := []

/-- A path that has been followed to its end: the names from the root, and the entry if there is one.
Without an entry, the names but the last lead to a directory. -/
structure Spot where
  path : List String
  entry : Option FileEntry

namespace FileTree

/-- The entry at the end of some names. -/
def get? (t : FileTree) (path : List String) : Option FileEntry :=
  if path = [] then some .directory else t.entries.lookup path

/-- Puts an entry at the end of some names. -/
def put (t : FileTree) (path : List String) (entry : FileEntry) : FileTree :=
  ⟨(path, entry) :: t.entries.filter (·.1 != path)⟩

/-- Follows names from an entry that is there. A dot stays and two dots go up, but only in a
directory. -/
def follow (t : FileTree) (here : List String) : List String → Except FileError Spot
  | [] => .ok ⟨here, t.get? here⟩
  | name :: rest =>
    match t.get? here with
    | some .directory =>
      if name = "." then t.follow here rest
      else if name = ".." then t.follow here.dropLast rest
      else if 255 < Text.length name then .error .nameTooLong
      else
        let next := here ++ [name]
        match t.get? next with
        | some _ => t.follow next rest
        | none => if rest.isEmpty then .ok ⟨next, none⟩ else .error .notFound
    | some (.file _) => .error .notADirectory
    | none => .error .notFound

/-- The names that a path lists. A separator at the end asks for a directory, as a dot does. -/
def steps (path : String) : List String :=
  let names := ((path.toList.splitOn '/').filter (· != [])).map String.ofList
  if path.toList.getLast? = some '/' then names ++ ["."] else names

/-- Follows a path that is seen from a directory. -/
def locate (t : FileTree) (directory : List String) (path : String) : Except FileError Spot :=
  if path.isEmpty then .error .notFound
  else if path.toList.contains (Char.ofNat 0) then .error .noSuchName
  else if 4096 ≤ Text.length path then .error .nameTooLong
  else t.follow (if Path.isAbsolute path then [] else directory) (steps path)

/-- The path without separators at its end, unless it is the root. -/
def withoutSlash (path : String) : String :=
  let cs := (path.toList.reverse.dropWhile (· == '/')).reverse
  if cs.isEmpty && !path.isEmpty then "/" else String.ofList cs

/-- The content of a file. -/
def read (t : FileTree) (directory : List String) (path : String) : Except FileError ByteArray :=
  match t.locate directory path with
  | .error e => .error e
  | .ok ⟨_, none⟩ => .error .notFound
  | .ok ⟨_, some .directory⟩ => .error .isADirectory
  | .ok ⟨_, some (.file content)⟩ => .ok content

/-- Gives a file a content, behind its old content if `append` is set; a file that is not there is
made. A path with a separator at its end names no file. -/
def write (t : FileTree) (directory : List String) (path : String) (content : ByteArray)
    (append : Bool) : Except FileError FileTree :=
  match t.locate directory (withoutSlash path) with
  | .error e => .error e
  | .ok ⟨_, some .directory⟩ => .error .isADirectory
  | .ok ⟨names, entry⟩ =>
    if path.toList.getLast? = some '/' then .error .isADirectory
    else
      match entry with
      | some (.file old) => .ok (t.put names (.file (if append then old ++ content else content)))
      | _ => .ok (t.put names (.file content))

/-- Makes a directory in a directory that is there. -/
def makeDirectory (t : FileTree) (directory : List String) (path : String) :
    Except FileError FileTree :=
  match t.locate directory (withoutSlash path) with
  | .error e => .error e
  | .ok ⟨_, some _⟩ => .error .alreadyExists
  | .ok ⟨names, none⟩ => .ok (t.put names .directory)

/-- Whether a path leads to an entry. -/
def isThere (t : FileTree) (directory : List String) (path : String) : Bool :=
  match t.locate directory path with
  | .ok ⟨_, some _⟩ => true
  | _ => false

/-- Whether a path leads to a directory. -/
def isDirectory (t : FileTree) (directory : List String) (path : String) : Bool :=
  match t.locate directory path with
  | .ok ⟨_, some .directory⟩ => true
  | _ => false

/-- Whether a path leads to a file. -/
def isFile (t : FileTree) (directory : List String) (path : String) : Bool :=
  match t.locate directory path with
  | .ok ⟨_, some (.file _)⟩ => true
  | _ => false

/-- Makes a directory and the directories around it, as far as they are missing. The number bounds how
many there are. -/
def makeDirectories (t : FileTree) (directory : List String) :
    Nat → String → FileTree × Except FileError Unit
  | 0, _ => (t, .error .nameTooLong)
  | fuel + 1, path =>
    if path.isEmpty then (t, .ok ())
    else
      let settled (t : FileTree) (e : FileError) : FileTree × Except FileError Unit :=
        (t, if t.isDirectory directory path then .ok () else .error e)
      match t.makeDirectory directory path with
      | .ok t => (t, .ok ())
      | .error .notFound =>
        match Path.parent? path with
        | none => (t, .error .notFound)
        | some parent =>
          match t.makeDirectories directory fuel parent with
          | (t, .error e) => (t, .error e)
          | (t, .ok ()) =>
            match t.makeDirectory directory path with
            | .ok t => (t, .ok ())
            | .error e => settled t e
      | .error e => settled t e

/-- The names in a directory, in no particular order. -/
def namesIn (t : FileTree) (path : List String) : List String :=
  t.entries.filterMap fun (p, _) =>
    match p.getLast? with
    | some name => if p.dropLast = path then some name else none
    | none => none

/-- The names in the directory that a path leads to. -/
def list (t : FileTree) (directory : List String) (path : String) :
    Except FileError (List String) :=
  match t.locate directory path with
  | .error e => .error e
  | .ok ⟨_, none⟩ => .error .notFound
  | .ok ⟨_, some (.file _)⟩ => .error .notADirectory
  | .ok ⟨names, some .directory⟩ => .ok (t.namesIn names)

/-- Copies a file onto another path. The target is emptied before the source is read, so a file that is
copied onto itself loses its content. -/
def copy (t : FileTree) (directory : List String) (source target : String) :
    Except FileError FileTree :=
  match t.locate directory source with
  | .error e => .error e
  | .ok ⟨_, none⟩ => .error .notFound
  | .ok ⟨_, some .directory⟩ => .error .notRegular
  | .ok ⟨_, some (.file _)⟩ =>
    match t.write directory target .empty false with
    | .error e => .error e
    | .ok t =>
      match t.read directory source with
      | .error e => .error e
      | .ok content => t.write directory target content false

/-- The directory that a path leads to, by its names. -/
def directoryAt (t : FileTree) (directory : List String) (path : String) :
    Except FileError (List String) :=
  match t.locate directory path with
  | .error e => .error e
  | .ok ⟨_, none⟩ => .error .notFound
  | .ok ⟨_, some (.file _)⟩ => .error .notADirectory
  | .ok ⟨names, some .directory⟩ => .ok names

end FileTree

end LineScript
