import LineScript.Buffer.Search

/-! Replacing matches in a buffer: the matches to be replaced are chosen first, and the line is put
together from them afterwards. The matcher is any. -/
namespace LineScript.LineBuffer

open Buffer (Position)
open Search (Matcher)
open Regex (Match)

/-- Puts the texts of groups in place of the dollar sign and digit that name them. Digits that are not
of ASCII name no group, and a group without text counts as empty. -/
def expandGroups (groups : List (Option String)) : List Char → List Char
  | [] => []
  | c :: cs =>
    match c, cs with
    | '$', d :: rest =>
      if Unicode.isDigit d then
        let name := if d.isDigit then groups[d.toNat - '0'.toNat]? else none
        (name.join.getD "").toList ++ expandGroups groups rest
      else '$' :: expandGroups groups (d :: rest)
    | c, cs => c :: expandGroups groups cs
  termination_by cs => cs.length

/-- The matches in a portion of a line that follow one another from `pos` on and end inside it. An
empty match right behind the previous match is passed over. -/
def occurrences (m : Matcher) (text : String) (stop : Nat) :
    Nat → Nat → Option Nat → List Match
  | 0, _, _ => []
  | fuel + 1, pos, previous =>
    if stop < pos then []
    else
      match m.find? text pos with
      | none => []
      | some w =>
        if stop < w.stop then []
        else
          let beyond (previous : Option Nat) : List Match :=
            if Text.length text ≤ w.start then []
            else occurrences m text stop fuel (Text.next text.toList w.start) previous
          if w.start = w.stop then
            if previous = some w.start then beyond previous else w :: beyond (some w.stop)
          else w :: occurrences m text stop fuel w.stop (some w.stop)

/-- A line with new texts in place of some matches, of which none starts before `last`; the line is
given from `last` on. -/
def splice (text : String) (new : Match → String) (last : Nat) : List Match → String
  | [] => Text.after text last
  | w :: ws => Text.between text last w.start ++ new w ++ splice text new w.stop ws

/-- What to replace, where, and by what. -/
structure ReplaceOptions where
  /-- At most so many replacements. -/
  count : Option Nat := none
  start : Option Position := none
  stop : Option Position := none
  /-- Only lines with a match of this. -/
  filter : Option Matcher := none
  /-- Only the line of the cursor, unless a start or a stop is given. -/
  inLine : Bool := false
  /-- Whether the new text may refer to groups. -/
  groups : Bool := false

/-- The range of a replacement in a buffer that has lines. -/
def replaceRange (b : LineBuffer) (o : ReplaceOptions) : Position × Position :=
  match o.start, o.stop, o.inLine with
  | none, none, true =>
    let line := min b.cursor.line (b.lines.length - 1)
    (⟨line, 0⟩, ⟨line, (b.lines[line]?).elim 0 Text.length⟩)
  | start, stop, _ =>
    Position.ordered ((start.getD {}).clamp b.lines) ((stop.getD b.endPosition).clamp b.lines)

/-- The matches to be replaced in the line with a given index, without regard to a count. -/
def chosen (m : Matcher) (filter : Option Matcher) (range : Position × Position) (index : Nat)
    (text : String) : List Match :=
  let (start, stop) := range
  if index < start.line || stop.line < index || !filter.all (·.matches text) then []
  else
    let low := if index = start.line then start.column else 0
    let high := if index = stop.line then stop.column else Text.length text
    if high < low then [] else occurrences m text high (Text.length text + 2) low none

/-- Replaces in lines from the first to the last; `count` is what is left to be replaced. The second
result is the number of replacements. -/
def replaceLines (choose : Nat → String → List Match) (new : Match → String) :
    Nat → Option Nat → List String → List String × Nat
  | _, _, [] => ([], 0)
  | index, count, text :: rest =>
    let all := choose index text
    let ws := count.elim all all.take
    let text := if ws.isEmpty then text else splice text new 0 ws
    let (rest, n) := replaceLines choose new (index + 1) (count.map (· - ws.length)) rest
    (text :: rest, ws.length + n)

/-- Replaces matches and returns their number. -/
def replace (b : LineBuffer) (m : Matcher) (replacement : String) (o : ReplaceOptions) :
    LineBuffer × Nat :=
  if b.lines.isEmpty then (b, 0)
  else
    let new (w : Match) : String :=
      if o.groups then String.ofList (expandGroups w.groups replacement.toList) else replacement
    let (lines, n) := replaceLines (chosen m o.filter (b.replaceRange o)) new 0 o.count b.lines
    if n = 0 then (b, 0) else (b.edit lines, n)

end LineScript.LineBuffer
