import LineScript.Buffer.Position
import LineScript.Text.Pieces

/-! A line buffer: lines of text with a cursor, a mark, the last search and the file they came from.
Every operation leaves the cursor and the mark inside the buffer. -/
namespace LineScript

open Buffer (Position Hit)

/-- Lines under edit. -/
structure LineBuffer where
  lines : List String := []
  cursor : Position := {}
  mark : Position := {}
  /-- The text of the last hit, empty after a miss. -/
  lastHit : String := ""
  lastSearch : Hit := {}
  /-- Whether the lines differ from those of the file. -/
  changed : Bool := false
  file : Option String := none
  deriving DecidableEq, Repr, Inhabited

namespace LineBuffer

/-- A fresh buffer with some lines. -/
def ofLines (lines : List String) : LineBuffer :=
  { lines }

/-- The lines, with line breaks between them. -/
def text (b : LineBuffer) : String :=
  Text.join "\n" b.lines

/-- The line of the cursor, empty behind the last line. -/
def currentLine (b : LineBuffer) : String :=
  (b.lines[b.cursor.line]?).getD ""

/-- The position behind the last character. -/
def endPosition (b : LineBuffer) : Position :=
  match b.lines.getLast? with
  | some last => ⟨b.lines.length - 1, Text.length last⟩
  | none => {}

/-- Moves the cursor and the mark to the nearest positions of the buffer. -/
def normalize (b : LineBuffer) : LineBuffer :=
  { b with cursor := b.cursor.clamp b.lines, mark := b.mark.clamp b.lines }

/-- Takes over new lines as an edit, with the cursor and the mark where they were. -/
def edit (b : LineBuffer) (lines : List String) : LineBuffer :=
  { b with lines, changed := true }.normalize

/-- Takes over a whole new content; the cursor and the mark go to the start. -/
def setLines (b : LineBuffer) (lines : List String) : LineBuffer :=
  { b with lines, cursor := {}, mark := {}, changed := true }

/-- Adds lines at the end. -/
def append (b : LineBuffer) (lines : List String) : LineBuffer :=
  { b with lines := b.lines ++ lines, changed := true }

/-- Removes all lines. -/
def clear (b : LineBuffer) : LineBuffer :=
  b.setLines []

/-- Removes the last line and returns it. -/
def pop (b : LineBuffer) : LineBuffer × Option String :=
  match b.lines.getLast? with
  | some line => (b.edit b.lines.dropLast, some line)
  | none => (b, none)

/-- Removes the first line and returns it; the cursor and the mark move up with their lines. -/
def shift (b : LineBuffer) : LineBuffer × Option String :=
  match b.lines with
  | [] => (b, none)
  | line :: rest =>
    let up (p : Position) : Position := { p with line := p.line - 1 }
    ({ b with cursor := up b.cursor, mark := up b.mark }.edit rest, some line)

/-- Moves the cursor, to the nearest position of the buffer. -/
def setCursor (b : LineBuffer) (p : Position) : LineBuffer :=
  { b with cursor := p.clamp b.lines }

/-- Moves the mark, to the nearest position of the buffer. -/
def setMark (b : LineBuffer) (p : Position) : LineBuffer :=
  { b with mark := p.clamp b.lines }

/-- Says whether the lines count as changed. -/
def setChanged (b : LineBuffer) (changed : Bool) : LineBuffer :=
  { b with changed }

/-- Names the file of the buffer. -/
def setFile (b : LineBuffer) (path : String) : LineBuffer :=
  { b with file := some path }

end LineBuffer

end LineScript
