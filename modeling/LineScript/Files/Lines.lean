import LineScript.Error
import LineScript.Text.Pieces

/-! Files as lines. A line ends with a line break, perhaps with a carriage return in front of it; the
last line of a file may lack them. -/
namespace LineScript.Files

/-- A line without a carriage return at its end. -/
def dropReturn (cs : List Char) : List Char :=
  if cs.getLast? = some '\r' then cs.dropLast else cs

/-- The lines of the text of a file. Only before a line break does a carriage return count as a part of
the ending. -/
def linesOfText (cs : List Char) : List String :=
  let pieces := Text.split ['\n'] cs
  let last := pieces.getLastD []
  (pieces.dropLast.map fun p => String.ofList (dropReturn p)) ++
    (if last.isEmpty then [] else [String.ofList last])

/-- The lines of a file, which has to be valid UTF-8. -/
def lines (content : ByteArray) : Except FileError (List String) :=
  match String.fromUTF8? content with
  | some text => .ok (linesOfText text.toList)
  | none => .error .notText

/-- The text that holds some lines. -/
def textOfLines (lines : List String) : String :=
  lines.foldr (fun line text => line ++ "\n" ++ text) ""

/-- A file that holds some lines, each with a line break at its end. -/
def content (lines : List String) : ByteArray :=
  (textOfLines lines).toUTF8

end LineScript.Files
