import LineScript.Regex.Escaped

/-! Globs as search patterns: a star for any run of characters, a question mark for one character,
brackets for a class and a backslash for the next character itself. A glob is turned into the text
of a regular expression that may match anywhere. -/
namespace LineScript.Glob

/-- What the next character of a glob belongs to. The members of an open class come last to first. -/
inductive Mode where
  | plain
  | escape
  | members (seen : List Char)

/-- One member of a class, as a class of a regular expression names it. -/
def member (c : Char) : List Char :=
  if c = '[' ∨ c = '\\' ∨ c = '&' ∨ c = '~' then ['\\', c] else [c]

/-- The inside of a class; an exclamation mark in front negates it. -/
def classText : List Char → List Char
  | '!' :: cs => '^' :: cs.flatMap member
  | cs => cs.flatMap member

/-- A class that ends before the rest of the glob. One without members stands for its own text. -/
def closedClass (members : List Char) : List Char :=
  let inside := classText members
  if inside = [] ∨ inside = ['^'] then
    '\\' :: '[' :: Regex.escaped inside ++ ['\\', ']']
  else '[' :: inside ++ [']']

/-- A class that is still open at the end of the glob. -/
def openClass (members : List Char) : List Char :=
  '\\' :: '[' :: Regex.escaped (classText members)

/-- The regular expression for the rest of a glob. -/
def regexFrom : Mode → List Char → List Char
  | .plain, [] => []
  | .plain, c :: cs =>
    match c with
    | '*' => '.' :: '*' :: regexFrom .plain cs
    | '?' => '.' :: regexFrom .plain cs
    | '\\' => regexFrom .escape cs
    | '[' => regexFrom (.members []) cs
    | c => Regex.escapedChar c ++ regexFrom .plain cs
  | .escape, [] => ['\\', '\\']
  | .escape, c :: cs => Regex.escapedChar c ++ regexFrom .plain cs
  | .members seen, [] => openClass seen.reverse
  | .members seen, c :: cs =>
    if c = ']' then closedClass seen.reverse ++ regexFrom .plain cs
    else regexFrom (.members (c :: seen)) cs

/-- The regular expression of a glob. -/
def toRegex (glob : List Char) : List Char :=
  regexFrom .plain glob

end LineScript.Glob
