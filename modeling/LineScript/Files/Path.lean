import LineScript.Text.Bytes

/-! The text of a path: its last name, what encloses it, and extensions. Separators that follow one
another count once, and so does a dot between separators, for nothing; two dots are kept as they
stand. -/
namespace LineScript.Path

/-- The root or the leading dot of a path, and the text behind it. -/
def anchored : List Char → List Char × List Char
  | '/' :: cs => (['/'], cs)
  | ['.'] => (['.'], [])
  | '.' :: '/' :: cs => (['.'], '/' :: cs)
  | cs => ([], cs)

/-- Whether a path starts at the root. -/
def isAbsolute (path : String) : Bool :=
  path.toList.head? == some '/'

/-- The names in a path, from the first to the last, without empty ones and dots. -/
def names (path : List Char) : List (List Char) :=
  (path.splitOn '/').filter fun n => n != [] && n != ['.']

/-- Drops, from the end of a text that is given backwards, separators and dots that stand for
themselves. The number bounds the steps. -/
def dropIdle : Nat → List Char → List Char
  | 0, cs => cs
  | fuel + 1, cs =>
    match cs with
    | '/' :: rest => dropIdle fuel rest
    | ['.'] => []
    | '.' :: '/' :: rest => dropIdle fuel rest
    | cs => cs

/-- A text without separators and idle dots at its end. -/
def trimEnd (cs : List Char) : List Char :=
  (dropIdle (cs.length + 1) cs.reverse).reverse

/-- What stands in front of the last separator, which belongs to it, and what follows it. -/
def splitLast (cs : List Char) : List Char × List Char :=
  let tail := (cs.reverse.takeWhile (· != '/')).reverse
  (cs.take (cs.length - tail.length), tail)

/-- The parts of a path: the text in front of its last name, the last name, and what follows. There is
no last name in a root, a dot or an empty path. -/
def lastName? (path : List Char) : Option (List Char × List Char) :=
  let (anchor, body) := anchored path
  let body := trimEnd body
  if body.isEmpty then none
  else
    let (front, name) := splitLast body
    some (anchor ++ front, name)

/-- The name at the end of a path, unless it is two dots. -/
def fileName? (path : String) : Option String :=
  match lastName? path.toList with
  | some (_, name) => if name = ['.', '.'] then none else some (String.ofList name)
  | none => none

/-- What encloses the last name of a path: none for the root and the empty path. -/
def parent? (path : String) : Option String :=
  let (anchor, body) := anchored path.toList
  let body := trimEnd body
  if body.isEmpty then (if anchor = ['.'] then some "" else none)
  else some (String.ofList (anchor ++ trimEnd (splitLast body).1))

/-- A name before and after its last dot. A name without a dot, or with its only dot in front, has no
extension. -/
def splitName (name : List Char) : List Char × Option (List Char) :=
  let extension := (name.reverse.takeWhile (· != '.')).reverse
  let stem := name.take (name.length - extension.length - 1)
  if name.length = extension.length || stem.isEmpty then (name, none) else (stem, some extension)

/-- The name at the end of a path without its extension. -/
def stem? (path : String) : Option String :=
  (fileName? path).map fun name => String.ofList (splitName name.toList).1

/-- The extension of the name at the end of a path, without its dot. -/
def extension? (path : String) : Option String :=
  (fileName? path).bind fun name => (splitName name.toList).2.map String.ofList

/-- A path whose last name ends behind its stem, with a new extension. A path without a last name
stays. -/
def putExtension (path : List Char) (extension : List Char) : List Char :=
  match lastName? path with
  | none => path
  | some (front, name) =>
    if name = ['.', '.'] then path
    else
      front ++ (splitName name).1 ++ (if extension.isEmpty then [] else '.' :: extension)

/-- A path with another extension. As many bytes as the old extension has are cut from the end
first. -/
def withExtension (path extension : String) : String :=
  let cut :=
    match extension? path with
    | none => path.toList
    | some old => Text.take path.toList (Text.length path - Text.length old)
  String.ofList (putExtension cut extension.toList)

/-- A path seen from a directory. -/
def join (directory path : String) : String :=
  if isAbsolute path then path
  else
    let gap := if directory.isEmpty || directory.toList.getLast? = some '/' then "" else "/"
    directory ++ gap ++ path

end LineScript.Path
