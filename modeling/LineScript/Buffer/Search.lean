import LineScript.Buffer.Basic
import LineScript.Search.Expression

/-! Searching a buffer. Forward, the first match at or behind the start of the search is the hit;
backwards, the last match that ends at or before it. The matcher is any. -/
namespace LineScript.LineBuffer

open Buffer (Position Hit)
open Search (Matcher Flags)

/-- The index of the first line from `start` on with a match. -/
def findLine? (b : LineBuffer) (m : Matcher) (start : Nat) : Option Nat :=
  ((b.lines.drop start).findIdx? m.matches).map (start + ·)

/-- Where a search starts: at the end of the buffer or of the line that the flags name, at the edge of
the line to which they tie the match, or else at the cursor. -/
def searchStart (b : LineBuffer) (f : Flags) : Position :=
  let cursor := b.cursor.clamp b.lines
  let lineStart : Position := ⟨cursor.line, 0⟩
  let lineEnd : Position := ⟨cursor.line, (b.lines[cursor.line]?).elim 0 Text.length⟩
  match f.startAt, f.inLine with
  | some .first, false => {}
  | some .last, false => b.endPosition
  | some .first, true => lineStart
  | some .last, true => lineEnd
  | none, _ =>
    if f.lineStart && !f.backwards then lineStart
    else if f.lineEnd && f.backwards then lineEnd
    else cursor

/-- The first match in some lines, of which the first is looked at from a column on. -/
def firstHit (m : Matcher) (index column : Nat) : List String → Hit
  | [] => .miss
  | text :: rest =>
    match m.find? text column with
    | some w => .of ⟨index, w.start⟩ (w.stop - w.start)
    | none => firstHit m (index + 1) 0 rest

/-- The first match at or behind a position, in its line only if `inLine` is set. -/
def searchForward (b : LineBuffer) (m : Matcher) (inLine : Bool) (start : Position) : Hit :=
  let below := b.lines.drop start.line
  firstHit m start.line start.column (if inLine then below.take 1 else below)

/-- The last match in a line that ends at or before `limit`. Candidates start ever further right: the
next one is looked for behind the first character of the one before. -/
def lastMatchFrom (m : Matcher) (text : String) (limit : Nat) :
    Nat → Nat → Option (Nat × Nat) → Option (Nat × Nat)
  | 0, _, best => best
  | fuel + 1, pos, best =>
    if limit < pos then best
    else
      match m.find? text pos with
      | none => best
      | some w =>
        if limit < w.start then best
        else
          let best := if w.stop ≤ limit then some (w.start, w.stop) else best
          if Text.length text ≤ w.start then best
          else lastMatchFrom m text limit fuel (Text.next text.toList w.start) best

/-- The last match in a line that ends at or before a column. -/
def lastMatchBefore (m : Matcher) (text : String) (column : Nat) : Option (Nat × Nat) :=
  lastMatchFrom m text (Text.floor text.toList column) (Text.length text + 1) 0 none

/-- The last match in some lines, given from the last to the first with the index of the first given;
no column limits the matches. -/
def lastHit? (m : Matcher) : Nat → List String → Option Hit
  | _, [] => none
  | index, text :: rest =>
    match lastMatchBefore m text (Text.length text) with
    | some (start, stop) => some (.of ⟨index, start⟩ (stop - start))
    | none => lastHit? m (index - 1) rest

/-- The last match that ends at or before a position, in its line only if `inLine` is set. Behind the
last line the search starts at the end of the last line. -/
def searchBackward (b : LineBuffer) (m : Matcher) (inLine : Bool) (start : Position) : Hit :=
  match b.lines.getLast? with
  | none => .miss
  | some last =>
    let top : Position :=
      if b.lines.length ≤ start.line then ⟨b.lines.length - 1, Text.length last⟩ else start
    match lastMatchBefore m ((b.lines[top.line]?).getD "") top.column with
    | some (first, stop) => .of ⟨top.line, first⟩ (stop - first)
    | none =>
      if inLine then .miss
      else (lastHit? m (top.line - 1) (b.lines.take top.line).reverse).getD .miss

/-- The text that a hit covers. -/
def hitText (b : LineBuffer) (h : Hit) : String :=
  Text.between ((b.lines[h.position.line]?).getD "") h.position.column h.stop.column

/-- Searches and remembers the outcome. A hit moves the cursor if `advance` is set: behind the match
forward, to its start backwards. -/
def search (b : LineBuffer) (m : Matcher) (f : Flags) (advance : Bool) : LineBuffer × Hit :=
  let start := b.searchStart f
  let hit :=
    if f.backwards then b.searchBackward m f.inLine start else b.searchForward m f.inLine start
  let b := { b with lastSearch := hit }
  if hit.found then
    let b := { b with lastHit := b.hitText hit }
    if advance then
      ({ b with cursor := if f.backwards then hit.position else hit.stop }, hit)
    else (b, hit)
  else ({ b with lastHit := "" }, hit)

end LineScript.LineBuffer
