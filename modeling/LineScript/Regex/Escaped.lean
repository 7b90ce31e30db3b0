/-! Text written so that a regular expression matches just that text. -/
namespace LineScript.Regex

/-- Characters with a meaning in regular expressions. -/
def isMeta (c : Char) : Bool :=
  "\\.+*?()|[]\x7b\x7d^$#&-~".toList.contains c

/-- A character, behind a backslash if it has a meaning. -/
def escapedChar (c : Char) : List Char :=
  if isMeta c then ['\\', c] else [c]

/-- A text with a backslash before every character that has a meaning. -/
def escaped (cs : List Char) : List Char :=
  cs.flatMap escapedChar

end LineScript.Regex
