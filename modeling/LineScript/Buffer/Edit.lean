import LineScript.Buffer.Search

/-! Inserting, deleting and extracting text between positions, and keeping a line up to date. -/
namespace LineScript.LineBuffer

open Buffer (Position)
open Search (Matcher)

/-- The text of a line before and after a column. -/
def splitAt (b : LineBuffer) (p : Position) : String × String :=
  let line := (b.lines[p.line]?).getD ""
  (Text.before line p.column, Text.after line p.column)

/-- Inserts lines at a position and returns the position behind them. The first is joined to the text
before, and the text behind follows the last, or starts a line of its own if `newline` is set. -/
def insert (b : LineBuffer) (position : Position) (lines : List String) (newline : Bool) :
    LineBuffer × Position :=
  let p := position.clamp b.lines
  if lines.isEmpty && !newline then (b, p)
  else if lines.length = 1 && !newline && p.line < b.lines.length then
    let (head, tail) := b.splitAt p
    let new := lines.headD ""
    ({ b with lines := b.lines.set p.line (head ++ new ++ tail), changed := true },
      ⟨p.line, p.column + Text.length new⟩)
  else
    let (head, tail) := b.splitAt p
    let block := (head ++ lines.headD "") :: lines.drop 1
    let last := block.length - 1
    let stop : Position :=
      if newline then ⟨p.line + block.length, 0⟩
      else ⟨p.line + last, Text.length (block.getLastD "")⟩
    let block :=
      if newline then (if p.line < b.lines.length then block ++ [tail] else block)
      else block.dropLast ++ [block.getLastD "" ++ tail]
    (b.edit (b.lines.take p.line ++ block ++ b.lines.drop (p.line + 1)), stop)

/-- Where a position goes when the text between two others is deleted. -/
def afterDelete (start stop p : Position) : Position :=
  if p ≤ start then p
  else if p < stop then start
  else if p.line = stop.line then ⟨start.line, start.column + (p.column - stop.column)⟩
  else ⟨p.line - (stop.line - start.line), p.column⟩

/-- The lines without the text between two clamped positions, the earlier first. -/
def without (b : LineBuffer) (start stop : Position) : List String :=
  let head := (b.splitAt start).1
  if b.lines.length ≤ stop.line then
    b.lines.take start.line ++ (if 0 < start.column then [head] else [])
  else
    b.lines.take start.line ++ [head ++ (b.splitAt stop).2] ++ b.lines.drop (stop.line + 1)

/-- Deletes the text between two positions, in any order; false if there is none. -/
def delete (b : LineBuffer) (p q : Position) : LineBuffer × Bool :=
  let (start, stop) := Position.ordered (p.clamp b.lines) (q.clamp b.lines)
  if start = stop then (b, false)
  else
    ({ b with
        cursor := afterDelete start stop b.cursor
        mark := afterDelete start stop b.mark }.edit (b.without start stop), true)

/-- The position behind the next character or line break. -/
def advance (b : LineBuffer) (p : Position) : Position :=
  match b.lines[p.line]? with
  | some line =>
    if p.column < Text.length line then ⟨p.line, Text.next line.toList p.column⟩
    else ⟨p.line + 1, 0⟩
  | none => p

/-- The text between two positions of the buffer, the earlier first, as lines. -/
def pieces (b : LineBuffer) (start stop : Position) : List String :=
  if start = stop then []
  else if start.line = stop.line then
    [Text.between ((b.lines[start.line]?).getD "") start.column stop.column]
  else
    let middle := (b.lines.take stop.line).drop (start.line + 1)
    let tail := if stop.line < b.lines.length then [(b.splitAt stop).1] else []
    (b.splitAt start).2 :: middle ++ tail

/-- The text between two positions, in any order, as lines. With `closed` the character or line break
at the later position belongs to it. -/
def extract (b : LineBuffer) (p q : Position) (closed : Bool) : List String :=
  let (start, stop) := Position.ordered (p.clamp b.lines) (q.clamp b.lines)
  b.pieces start (if closed then b.advance stop else stop)

/-- The text between two positions, the character at the later one excluded. -/
def textBetween (b : LineBuffer) (p q : Position) : String :=
  Text.join "\n" (b.extract p q false)

/-- What keeping a line up to date came to. -/
inductive Adaptation where
  | unchanged
  | replaced
  | inserted
  | appended
  deriving DecidableEq, Repr

/-- Makes the first line that matches read `replacement`. If none does, a line is inserted above or
below the first line that matches the anchor, or appended if there is no such line. -/
def adapt (b : LineBuffer) (pattern : Matcher) (replacement : String) (anchor : Option Matcher)
    (above : Bool) : LineBuffer × Adaptation :=
  match b.findLine? pattern 0 with
  | some i =>
    if b.lines[i]? = some replacement then (b, .unchanged)
    else (b.edit (b.lines.set i replacement), .replaced)
  | none =>
    match anchor.bind (b.findLine? · 0) with
    | some i =>
      let place := if above then i else i + 1
      let down (p : Position) : Position := if place ≤ p.line then { p with line := p.line + 1 } else p
      ({ b with cursor := down b.cursor, mark := down b.mark }.edit
        (b.lines.insertIdx place replacement), .inserted)
    | none => (b.append [replacement], .appended)

end LineScript.LineBuffer
