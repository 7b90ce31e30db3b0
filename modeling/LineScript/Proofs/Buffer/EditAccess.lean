import LineScript.Proofs.Buffer.ReplaceAccess
import LineScript.Proofs.Buffer.Removal

/-! Inserting, deleting and extracting text, and keeping a line up to date, access nothing that is not
there. -/
namespace LineScript.LineBuffer

open Access
open Buffer (Position)
open Search (Matcher)

/-- Removes the last line and returns it. -/
def pop? (b : LineBuffer) : Option (LineBuffer × Option String) := do
  match b.lines.getLast? with
  | some line => return (← b.edit? b.lines.dropLast, some line)
  | none => return (b, none)

/-- Removes the first line and returns it. -/
def shift? (b : LineBuffer) : Option (LineBuffer × Option String) := do
  if b.lines.isEmpty then return (b, none)
  let (line, rest) ← remove? b.lines 0
  let up (p : Position) : Position := { p with line := p.line - 1 }
  return (← { b with cursor := up b.cursor, mark := up b.mark }.edit? rest, some line)

/-- The text of a line before and after a column; there is no text behind the last line. -/
def splitAt? (b : LineBuffer) (p : Position) : Option (String × String) := do
  if p.line = b.lines.length then return ("", "")
  let line ← b.lines[p.line]?
  return (← slice? line 0 p.column, ← slice? line p.column (Text.length line))

/-- Inserts a text into a line. -/
def insertText? (b : LineBuffer) (p : Position) (new : String) : Option (LineBuffer × Position) := do
  let line ← b.lines[p.line]?
  let head ← slice? line 0 p.column
  let tail ← slice? line p.column (Text.length line)
  return ({ b with lines := ← set? b.lines p.line (head ++ new ++ tail), changed := true },
    ⟨p.line, p.column + Text.length new⟩)

/-- The lines of an insertion with the text behind it, and the position between them. -/
def close? (b : LineBuffer) (p : Position) (block : List String) (tail : String) (newline : Bool) :
    Option (List String × Position) := do
  if newline then
    return (if p.line = b.lines.length then block else block ++ [tail], ⟨p.line + block.length, 0⟩)
  let last ← minus? block.length 1
  let text ← block[last]?
  return (← set? block last (text ++ tail), ⟨p.line + last, Text.length text⟩)

/-- Inserts lines in place of the line of a position. -/
def insertBlock? (b : LineBuffer) (p : Position) (lines : List String) (newline : Bool) :
    Option (LineBuffer × Position) := do
  let (head, tail) ← b.splitAt? p
  let (block, stop) ← b.close? p ((head ++ lines.headD "") :: lines.drop 1) tail newline
  let next := if p.line = b.lines.length then p.line else p.line + 1
  return (← b.edit? (← splice? b.lines p.line next block), stop)

/-- Inserts lines at a position and returns the position behind them. -/
def insert? (b : LineBuffer) (position : Position) (lines : List String) (newline : Bool) :
    Option (LineBuffer × Position) := do
  let p ← clamp? position b.lines
  if lines.isEmpty && !newline then return (b, p)
  if lines.length = 1 && !newline && p.line ≠ b.lines.length then b.insertText? p (← lines[0]?)
  else b.insertBlock? p lines newline

/-- Where a position goes when the text between two others is deleted. -/
def afterDelete? (start stop p : Position) : Option Position := do
  if p ≤ start then return p
  if p < stop then return start
  if p.line = stop.line then return ⟨start.line, ← minus? (start.column + p.column) stop.column⟩
  return ⟨← minus? p.line (← minus? stop.line start.line), p.column⟩

/-- A text without the part between two offsets. -/
def erase? (text : String) (start stop : Nat) : Option String := do
  let _ ← slice? text start stop
  return (← slice? text 0 start) ++ (← slice? text stop (Text.length text))

/-- The lines without the text between two positions, the earlier first. -/
def without? (b : LineBuffer) (start stop : Position) : Option (List String) := do
  if b.lines.length ≤ stop.line then
    let head ← slice? (← b.lines[start.line]?) 0 start.column
    return b.lines.take start.line ++ (if 0 < start.column then [head] else [])
  if start.line = stop.line then
    set? b.lines start.line (← erase? (← b.lines[start.line]?) start.column stop.column)
  else
    let first ← b.lines[start.line]?
    let last ← b.lines[stop.line]?
    splice? b.lines start.line (stop.line + 1)
      [(← slice? first 0 start.column) ++ (← slice? last stop.column (Text.length last))]

/-- Deletes the text between two positions, in any order; false if there is none. -/
def delete? (b : LineBuffer) (p q : Position) : Option (LineBuffer × Bool) := do
  let (start, stop) := Position.ordered (← clamp? p b.lines) (← clamp? q b.lines)
  if start = stop then return (b, false)
  let lines ← b.without? start stop
  let cursor ← afterDelete? start stop b.cursor
  let mark ← afterDelete? start stop b.mark
  return (← { b with cursor, mark }.edit? lines, true)

/-- The position behind the next character or line break. -/
def advance? (b : LineBuffer) (p : Position) : Option Position := do
  match b.lines[p.line]? with
  | some line =>
    if p.column < Text.length line then return ⟨p.line, ← next? line p.column⟩
    else return ⟨p.line + 1, 0⟩
  | none => return p

/-- The text between two positions, the earlier first, as lines. -/
def pieces? (b : LineBuffer) (start stop : Position) : Option (List String) := do
  if start = stop then return []
  let first ← b.lines[start.line]?
  if start.line = stop.line then return [← slice? first start.column stop.column]
  let head ← slice? first start.column (Text.length first)
  let middle ← range? b.lines (start.line + 1) (min stop.line b.lines.length)
  if stop.line < b.lines.length then
    return head :: middle ++ [← slice? (← b.lines[stop.line]?) 0 stop.column]
  return head :: middle

/-- The text between two positions, in any order, as lines. -/
def extract? (b : LineBuffer) (p q : Position) (closed : Bool) : Option (List String) := do
  let (start, stop) := Position.ordered (← clamp? p b.lines) (← clamp? q b.lines)
  b.pieces? start (← if closed then b.advance? stop else some stop)

/-- Makes the first line that matches read `replacement`, or inserts it at the anchor or at the end. -/
def adapt? (b : LineBuffer) (pattern : Matcher) (replacement : String) (anchor : Option Matcher)
    (above : Bool) : Option (LineBuffer × Adaptation) := do
  match b.findLine? pattern 0 with
  | some i =>
    if (← b.lines[i]?) = replacement then return (b, .unchanged)
    return (← b.edit? (← set? b.lines i replacement), .replaced)
  | none =>
    match anchor.bind (b.findLine? · 0) with
    | some i =>
      let place := if above then i else i + 1
      let down (p : Position) : Position := if place ≤ p.line then { p with line := p.line + 1 } else p
      let lines ← Access.insert? b.lines place replacement
      return (← { b with cursor := down b.cursor, mark := down b.mark }.edit? lines, .inserted)
    | none => return (b.append [replacement], .appended)

variable {b : LineBuffer} {p start stop : Position}

theorem pop?_eq (b : LineBuffer) : b.pop? = some b.pop := by
  unfold pop? pop
  cases b.lines.getLast? with
  | none => rfl
  | some line => simp [edit?_eq]

theorem shift?_eq (b : LineBuffer) : b.shift? = some b.shift := by
  unfold shift? shift
  cases hlines : b.lines with
  | nil => simp
  | cons line rest => simp [remove?, edit?_eq]

theorem splitAt?_eq (hc : p.Clamped b.lines) : b.splitAt? p = some (b.splitAt p) := by
  unfold splitAt? splitAt
  by_cases hend : p.line = b.lines.length
  · have hnone : b.lines[p.line]? = none := List.getElem?_eq_none (Nat.le_of_eq hend.symm)
    simp [hend, Text.before, Text.after, Text.take, Text.drop]
  · have hlt : p.line < b.lines.length := Nat.lt_of_le_of_ne hc.line_le hend
    obtain ⟨line, hline, hcolumn⟩ := hc.exists_line hlt
    simp [hend, hline, slice?_before hcolumn, slice?_after hcolumn]

theorem insertText?_eq (hc : p.Clamped b.lines) (hlt : p.line < b.lines.length) (new : String) :
    b.insertText? p new = some ({ b with lines := b.inlined p new, changed := true },
      ⟨p.line, p.column + Text.length new⟩) := by
  obtain ⟨line, hline, hcolumn⟩ := hc.exists_line hlt
  unfold insertText? inlined splitAt
  simp [hline, slice?_before hcolumn, slice?_after hcolumn, set?_eq hlt]

theorem close?_eq (hc : p.Clamped b.lines) {block : List String} (hblock : block ≠ []) (tail : String)
    (newline : Bool) : b.close? p block tail newline = some
      (if newline then (if p.line < b.lines.length then block ++ [tail] else block)
        else block.dropLast ++ [block.getLastD "" ++ tail],
      if newline then ⟨p.line + block.length, 0⟩
        else ⟨p.line + (block.length - 1), Text.length (block.getLastD "")⟩) := by
  obtain ⟨init, last, rfl⟩ : ∃ init last, block = init ++ [last] :=
    ⟨_, _, (List.dropLast_concat_getLast hblock).symm⟩
  unfold close?
  cases newline with
  | true =>
    rcases Nat.lt_or_eq_of_le hc.line_le with hlt | hend
    · simp [hlt, Nat.ne_of_lt hlt]
    · simp [hend]
  | false =>
    have hminus : minus? (init.length + 1) 1 = some init.length := minus?_eq (Nat.le_add_left 1 _)
    have hset : set? (init ++ [last]) init.length (last ++ tail) = some (init ++ [last ++ tail]) := by
      simp [set?]
    simp [hminus, hset]

theorem insertBlock?_eq (hc : p.Clamped b.lines) (lines : List String) (newline : Bool) :
    b.insertBlock? p lines newline = some
      (b.edit (b.lines.take p.line ++
        (if newline then
          (if p.line < b.lines.length then opened (b.splitAt p).1 lines ++ [(b.splitAt p).2]
          else opened (b.splitAt p).1 lines)
        else (opened (b.splitAt p).1 lines).dropLast ++
          [(opened (b.splitAt p).1 lines).getLastD "" ++ (b.splitAt p).2]) ++
        b.lines.drop (p.line + 1)),
      if newline then ⟨p.line + (opened (b.splitAt p).1 lines).length, 0⟩
        else ⟨p.line + ((opened (b.splitAt p).1 lines).length - 1),
          Text.length ((opened (b.splitAt p).1 lines).getLastD "")⟩) := by
  have hclose := close?_eq hc (opened_ne_nil (b.splitAt p).1 lines) (b.splitAt p).2 newline
  unfold insertBlock?
  rw [splitAt?_eq hc]
  simp only [Option.bind_eq_bind, Option.bind_some]
  rw [← opened, hclose]
  simp only [Option.bind_some]
  rcases Nat.lt_or_eq_of_le hc.line_le with hlt | hend
  · simp [Nat.ne_of_lt hlt, splice?_eq (Nat.le_succ p.line) hlt, edit?_eq]
  · have hdrop : b.lines.drop (b.lines.length + 1) = [] := List.drop_of_length_le (Nat.le_succ _)
    simp [hend, hdrop, splice?_eq, edit?_eq]

theorem insert?_eq (b : LineBuffer) (q : Position) (lines : List String) (newline : Bool) :
    b.insert? q lines newline = some (b.insert q lines newline) := by
  have hc := Position.clamp_clamped q b.lines
  unfold insert?
  rw [clamp?_eq]
  simp only [Option.bind_eq_bind, Option.bind_some]
  generalize hp : q.clamp b.lines = p at hc
  have hline := hc.line_le
  by_cases hnothing : lines = [] ∧ newline = false
  · obtain ⟨rfl, rfl⟩ := hnothing
    rw [insert_nothing b q hp]
    rfl
  by_cases hone : lines.length = 1 ∧ newline = false ∧ p.line < b.lines.length
  · obtain ⟨hlength, rfl, hlt⟩ := hone
    obtain ⟨new, rfl⟩ := List.length_eq_one_iff.mp hlength
    rw [insert_one b q hp hlt new]
    simp [Nat.ne_of_lt hlt, insertText?_eq hc hlt]
  have hblock := insertBlock?_eq hc lines newline
  have hseveral : lines.length = 1 → newline = false → b.lines.length ≤ p.line :=
    fun hlength hnewline => Nat.le_of_not_lt fun hlt => hone ⟨hlength, hnewline, hlt⟩
  cases newline with
  | true =>
    rw [insert_newline b q hp]
    simp only [Bool.not_true, Bool.and_false, Bool.false_and, Bool.false_eq_true, if_false, hblock, if_true]
    split <;> simp
  | false =>
    have hne : lines ≠ [] := fun h => hnothing ⟨h, rfl⟩
    rw [insert_lines b q hp hne (fun hlength => hseveral hlength rfl)]
    by_cases hlength : lines.length = 1
    · have hend : p.line = b.lines.length := Nat.le_antisymm hline (hseveral hlength rfl)
      simp [hne, hlength, hend, hblock]
    · simp [hne, hlength, hblock]

theorem afterDelete?_eq (hle : start ≤ stop) (p : Position) :
    afterDelete? start stop p = some (afterDelete start stop p) := by
  unfold afterDelete? afterDelete
  by_cases hstart : p ≤ start
  · simp [hstart]
  by_cases hstop : p < stop
  · simp [hstart, hstop]
  have hbehind : stop.line < p.line ∨ (p.line = stop.line ∧ stop.column ≤ p.column) := by
    have hnot : ¬ (p.line < stop.line ∨ (p.line = stop.line ∧ p.column < stop.column)) := hstop
    omega
  rw [Position.le_iff] at hle
  by_cases hline : p.line = stop.line
  · have hcolumn : stop.column ≤ p.column := by omega
    have hsum : stop.column ≤ start.column + p.column := by omega
    simp [hstart, hstop, hline, minus?_eq hsum, Nat.add_sub_assoc hcolumn]
  · have hlines : start.line ≤ stop.line := by omega
    have hspan : stop.line - start.line ≤ p.line := by omega
    simp [hstart, hstop, hline, minus?_eq hlines, minus?_eq hspan]

theorem erase?_eq {text : String} {m n : Nat} (hle : m ≤ n) (hm : Text.IsBoundary text.toList m)
    (hn : Text.IsBoundary text.toList n) :
    erase? text m n = some (Text.before text m ++ Text.after text n) := by
  unfold erase?
  simp [slice?_eq hle hm hn, slice?_before hm, slice?_after hn]

/-- Of two different positions of a buffer, the earlier one is on a line. -/
theorem line_lt_of_ne (hstart : start.Clamped b.lines) (hstop : stop.Clamped b.lines)
    (hle : start ≤ stop) (hne : start ≠ stop) : start.line < b.lines.length := by
  rw [Position.le_iff] at hle
  refine Nat.lt_of_not_le fun hbehind => hne ?_
  rw [hstart.eq_behind hbehind, hstop.eq_behind (by omega)]

theorem without?_eq (hstart : start.Clamped b.lines) (hstop : stop.Clamped b.lines) (hle : start ≤ stop)
    (hne : start ≠ stop) : b.without? start stop = some (b.without start stop) := by
  have hlt := line_lt_of_ne hstart hstop hle hne
  obtain ⟨first, hfirst, hcolumn⟩ := hstart.exists_line hlt
  unfold without? without splitAt
  by_cases hbehind : b.lines.length ≤ stop.line
  · simp [hbehind, hfirst, slice?_before hcolumn]
  have hlt' : stop.line < b.lines.length := Nat.lt_of_not_le hbehind
  obtain ⟨last, hlast, hcolumn'⟩ := hstop.exists_line hlt'
  rw [Position.le_iff] at hle
  by_cases hline : start.line = stop.line
  · obtain rfl : first = last := by
      rw [hline, hlast] at hfirst
      exact (Option.some.inj hfirst).symm
    have hcolumns : start.column ≤ stop.column := by omega
    have hset := set_eq_block hlt (Text.before first start.column ++ Text.after first stop.column)
    rw [hline] at hset hlt
    simp [hbehind, hline, hlast, erase?_eq hcolumns hcolumn hcolumn', set?_eq hlt, hset]
  · have hspan : start.line ≤ stop.line + 1 := by omega
    simp [hbehind, hline, hfirst, hlast, slice?_before hcolumn, slice?_after hcolumn',
      splice?_eq hspan hlt']

/-- The ends of a range are positions of the buffer, in order. -/
theorem ends_clamped (b : LineBuffer) (p q : Position) :
    (b.ends p q).1.Clamped b.lines ∧ (b.ends p q).2.Clamped b.lines ∧ (b.ends p q).1 ≤ (b.ends p q).2 := by
  have hp := Position.clamp_clamped p b.lines
  have hq := Position.clamp_clamped q b.lines
  obtain ⟨hends, hle⟩ := Position.ordered_cases (p.clamp b.lines) (q.clamp b.lines)
  refine ⟨?_, ?_, hle⟩ <;> unfold ends <;> rcases hends with h | h <;> rwa [h]

theorem delete?_eq (b : LineBuffer) (p q : Position) : b.delete? p q = some (b.delete p q) := by
  obtain ⟨hstart, hstop, hle⟩ := b.ends_clamped p q
  rw [delete_eq]
  unfold delete?
  rw [clamp?_eq, clamp?_eq]
  simp only [Option.bind_eq_bind, Option.bind_some]
  rw [← ends]
  generalize b.ends p q = e at hstart hstop hle ⊢
  by_cases heq : e.1 = e.2
  · simp [heq]
  · simp [heq, without?_eq hstart hstop hle heq, afterDelete?_eq hle, edit?_eq]

theorem advance?_eq (hc : p.Clamped b.lines) : b.advance? p = some (b.advance p) := by
  unfold advance? advance
  cases hget : b.lines[p.line]? with
  | none => rfl
  | some line =>
    have hcolumn := (Position.clamped_on hget).mp hc
    dsimp only
    split
    · simp [next?_eq hcolumn]
    · rfl

theorem advance_clamped (hc : p.Clamped b.lines) : (b.advance p).Clamped b.lines := by
  unfold advance
  cases hget : b.lines[p.line]? with
  | none => exact hc
  | some line =>
    have hcolumn := (Position.clamped_on hget).mp hc
    obtain ⟨hlt, -⟩ := List.getElem?_eq_some_iff.mp hget
    dsimp only
    split
    · exact Position.clamped_iff.mpr (.inl ⟨line, hget, Text.isBoundary_next hcolumn⟩)
    · rcases Nat.lt_or_eq_of_le hlt with hnext | hend
      · exact Position.clamped_iff.mpr
          (.inl ⟨_, List.getElem?_eq_getElem hnext, Text.isBoundary_zero _⟩)
      · exact Position.clamped_iff.mpr (.inr (congrArg (Position.mk · 0) hend))

theorem pieces?_eq (hstart : start.Clamped b.lines) (hstop : stop.Clamped b.lines) (hle : start ≤ stop) :
    b.pieces? start stop = some (b.pieces start stop) := by
  unfold pieces? pieces
  by_cases heq : start = stop
  · simp [heq]
  have hlt := line_lt_of_ne hstart hstop hle heq
  obtain ⟨first, hfirst, hcolumn⟩ := hstart.exists_line hlt
  rw [Position.le_iff] at hle
  by_cases hline : start.line = stop.line
  · have hcolumns : start.column ≤ stop.column := by omega
    have hcolumn' := (Position.clamped_on (hline ▸ hfirst)).mp hstop
    have hget : b.lines[stop.line]? = some first := hline ▸ hfirst
    simp [heq, hline, hget, slice?_eq hcolumns hcolumn hcolumn']
  have hspan : start.line + 1 ≤ min stop.line b.lines.length := by omega
  have hmiddle := range?_eq hspan (Nat.min_le_right _ _)
  rw [← List.take_eq_take_min] at hmiddle
  by_cases hlt' : stop.line < b.lines.length
  · have hcolumn' := (Position.clamped_on (List.getElem?_eq_getElem hlt')).mp hstop
    simp [heq, hline, hlt', hfirst, slice?_after hcolumn, slice?_before hcolumn', hmiddle, splitAt]
  · simp [heq, hline, hlt', hfirst, slice?_after hcolumn, hmiddle, splitAt]

theorem extract?_eq (b : LineBuffer) (p q : Position) (closed : Bool) :
    b.extract? p q closed = some (b.extract p q closed) := by
  obtain ⟨hstart, hstop, hle⟩ := b.ends_clamped p q
  rw [extract_eq]
  unfold extract?
  rw [clamp?_eq, clamp?_eq]
  simp only [Option.bind_eq_bind, Option.bind_some]
  rw [← ends]
  generalize b.ends p q = e at hstart hstop hle ⊢
  cases closed with
  | true =>
    have hle' : e.1 ≤ b.advance e.2 := Position.le_trans hle (le_advance hstop)
    simp [advance?_eq hstop, pieces?_eq hstart (advance_clamped hstop) hle']
  | false => simp [pieces?_eq hstart hstop hle]

theorem adapt?_eq (b : LineBuffer) (pattern : Matcher) (replacement : String) (anchor : Option Matcher)
    (above : Bool) : b.adapt? pattern replacement anchor above =
      some (b.adapt pattern replacement anchor above) := by
  unfold adapt? adapt
  cases hfound : b.findLine? pattern 0 with
  | some i =>
    have hlt := findLine?_lt hfound
    by_cases hsame : b.lines[i] = replacement
    · simp [hlt, hsame]
    · simp [hlt, hsame, set?_eq hlt, edit?_eq]
  | none =>
    cases hanchor : anchor.bind (b.findLine? · 0) with
    | none => rfl
    | some i =>
      obtain ⟨m, -, hm⟩ := Option.bind_eq_some_iff.mp hanchor
      have hlt := findLine?_lt hm
      have hplace : (if above then i else i + 1) ≤ b.lines.length := by
        split <;> omega
      simp [Access.insert?_eq hplace, edit?_eq]

end LineScript.LineBuffer
