import LineScript.Buffer.Replace
import LineScript.Proofs.Buffer.SearchAccess

/-! Replacing in a buffer accesses nothing that is not there. -/
namespace LineScript.LineBuffer

open Access
open Buffer (Position)
open Search (Matcher)
open Regex (Match)

/-- Takes over new lines, with the cursor and the mark where they were. -/
def edit? (b : LineBuffer) (lines : List String) : Option LineBuffer := do
  return { b with
    lines, cursor := ← clamp? b.cursor lines, mark := ← clamp? b.mark lines, changed := true }

/-- The range of a replacement in a buffer that has lines. -/
def replaceRange? (b : LineBuffer) (o : ReplaceOptions) : Option (Position × Position) := do
  match o.start, o.stop, o.inLine with
  | none, none, true =>
    let line := min b.cursor.line (← minus? b.lines.length 1)
    return (⟨line, 0⟩, ⟨line, Text.length (← b.lines[line]?)⟩)
  | start, stop, _ =>
    let stop ← stop.elim (endPosition? b.lines) some
    return Position.ordered (← clamp? (start.getD {}) b.lines) (← clamp? stop b.lines)

/-- A line from the end of the last match on, with new texts in place of the matches that follow one
another from `pos` on and end at or before `stop`; `left` is what is left to be replaced. The second
result is the number of replacements. There is none if the steps do not suffice. -/
def replaceFrom? (m : Matcher) (new : Match → String) (text : String) (stop : Nat) :
    Nat → Nat → Nat → Option Nat → Option Nat → Option (String × Nat)
  | 0, _, _, _, _ => none
  | fuel + 1, pos, last, previous, left =>
    let rest (last : Nat) : Option (String × Nat) :=
      (slice? text last (Text.length text)).map (·, 0)
    if stop < pos || left = some 0 then rest last
    else do
      match ← ask? m text pos with
      | none => rest last
      | some w =>
        if stop < w.stop then rest last
        else if w.start = w.stop ∧ previous = some w.start then
          if Text.length text ≤ w.start then rest last
          else replaceFrom? m new text stop fuel (← next? text w.start) last previous left
        else
          let head ← slice? text last w.start
          let less := left.map (· - 1)
          let (tail, n) ←
            if w.start ≠ w.stop then
              replaceFrom? m new text stop fuel w.stop w.stop (some w.stop) less
            else if Text.length text ≤ w.stop then rest w.stop
            else
              (next? text w.stop).bind
                (replaceFrom? m new text stop fuel · w.stop (some w.stop) less)
          return (head ++ new w ++ tail, n + 1)

/-- A line with new texts in place of the matches in a portion of it, and their number. -/
def replaceIn? (m : Matcher) (new : Match → String) (text : String) (low high : Nat)
    (left : Option Nat) : Option (String × Nat) := do
  let head ← slice? text 0 low
  let (tail, n) ← replaceFrom? m new text high (Text.length text + 2) low low none left
  return (head ++ tail, n)

/-- The columns in a line between which there is something to replace. -/
def portion (range : Position × Position) (index : Nat) (text : String) : Nat × Nat :=
  (if index = range.1.line then range.1.column else 0,
    if index = range.2.line then range.2.column else Text.length text)

/-- Lines with a new text in place of one of them, if so many replacements have been made in it. -/
def rewrite? (lines : List String) (index : Nat) (text : String) (n : Nat) : Option (List String) :=
  if n = 0 then some lines else set? lines index text

/-- Replaces in the lines with some indices. -/
def replaceLines? (m : Matcher) (new : Match → String) (filter : Option Matcher)
    (range : Position × Position) :
    List Nat → Option Nat → List String → Option (List String × Nat)
  | [], _, lines => some (lines, 0)
  | index :: rest, left, lines => do
    if left = some 0 then return (lines, 0)
    let text ← lines[index]?
    let (low, high) := portion range index text
    if !filter.all (·.matches text) || high < low then
      replaceLines? m new filter range rest left lines
    else
      let (rewritten, n) ← replaceIn? m new text low high left
      let lines ← rewrite? lines index rewritten n
      let (lines, k) ← replaceLines? m new filter range rest (left.map (· - n)) lines
      return (lines, n + k)

/-- Replaces matches and returns their number. -/
def replace? (b : LineBuffer) (m : Matcher) (replacement : String) (o : ReplaceOptions) :
    Option (LineBuffer × Nat) := do
  if b.lines.isEmpty then return (b, 0)
  let new (w : Match) : String :=
    if o.groups then String.ofList (expandGroups w.groups replacement.toList) else replacement
  let range ← b.replaceRange? o
  let last := min range.2.line (← minus? b.lines.length 1)
  let (lines, n) ← replaceLines? m new o.filter range (indices range.1.line last) o.count b.lines
  if n = 0 then return (b, 0)
  return (← b.edit? lines, n)

variable {m : Matcher} {new : Match → String} {text : String}

theorem edit?_eq (b : LineBuffer) (lines : List String) : b.edit? lines = some (b.edit lines) := by
  unfold edit?
  rw [clamp?_eq, clamp?_eq]
  rfl

theorem replaceRange?_eq {b : LineBuffer} (hb : b.lines ≠ []) (o : ReplaceOptions) :
    b.replaceRange? o = some (b.replaceRange o) := by
  have hpos : 1 ≤ b.lines.length := List.length_pos_iff.mpr hb
  have hlt : min b.cursor.line (b.lines.length - 1) < b.lines.length := by omega
  unfold replaceRange? replaceRange
  cases o.start <;> cases o.stop <;> cases o.inLine <;>
    simp [clamp?_eq, endPosition?_eq, minus?_eq hpos, List.getElem?_eq_getElem hlt]

theorem replaceRange_le (b : LineBuffer) (o : ReplaceOptions) :
    (b.replaceRange o).1 ≤ (b.replaceRange o).2 := by
  unfold replaceRange
  split
  · exact .inr ⟨rfl, Nat.zero_le _⟩
  · exact (Position.ordered_cases _ _).2

theorem replaceRange_clamped {b : LineBuffer} (hb : b.lines ≠ []) (o : ReplaceOptions) :
    (b.replaceRange o).1.Clamped b.lines := by
  have hpos : 1 ≤ b.lines.length := List.length_pos_iff.mpr hb
  unfold replaceRange
  split
  · have hlt : min b.cursor.line (b.lines.length - 1) < b.lines.length := by omega
    exact Position.clamped_iff.mpr (.inl ⟨_, List.getElem?_eq_getElem hlt, Text.isBoundary_zero _⟩)
  · have hstart := Position.clamp_clamped (o.start.getD {}) b.lines
    have hstop := Position.clamp_clamped (o.stop.getD b.endPosition) b.lines
    rcases (Position.ordered_cases ((o.start.getD {}).clamp b.lines)
      ((o.stop.getD b.endPosition).clamp b.lines)).1 with h | h
    · rwa [h]
    · rwa [h]

/-- At most so many of some matches. -/
def limited (left : Option Nat) (ws : List Match) : List Match :=
  left.elim ws ws.take

theorem limited_cons {left : Option Nat} (hleft : left ≠ some 0) (w : Match) (ws : List Match) :
    limited left (w :: ws) = w :: limited (left.map (· - 1)) ws := by
  cases left with
  | none => rfl
  | some n =>
    obtain ⟨n, rfl⟩ := Nat.exists_eq_succ_of_ne_zero (fun h => hleft (congrArg some h))
    rfl

theorem limited_zero (ws : List Match) : limited (some 0) ws = [] :=
  rfl

theorem limited_nil (left : Option Nat) : limited left [] = [] := by
  cases left with
  | none => rfl
  | some n => exact List.take_nil

/-- The steps suffice, as every one of them starts further right. -/
theorem replaceFrom?_eq (hm : m.Sound) (new : Match → String) (text : String) (stop : Nat)
    {fuel pos last : Nat} (hpos : Text.IsBoundary text.toList pos)
    (hlast : Text.IsBoundary text.toList last) (hle : last ≤ pos)
    (hfuel : Text.length text < fuel + pos) (previous left : Option Nat) :
    replaceFrom? m new text stop fuel pos last previous left =
      some (splice text new last (limited left (occurrences m text stop fuel pos previous)),
        (limited left (occurrences m text stop fuel pos previous)).length) := by
  have hrest {last : Nat} (hlast : Text.IsBoundary text.toList last) :
      (slice? text last (Text.length text)).map (·, 0) = some (splice text new last [], 0) := by
    rw [slice?_after hlast]
    rfl
  induction fuel generalizing pos last previous left with
  | zero =>
    have hsize := hpos.le_size
    rw [← Text.length_eq_size] at hsize
    omega
  | succ fuel ih =>
    unfold replaceFrom? occurrences
    by_cases hleft : left = some 0
    · simp [hleft, limited_zero, hrest hlast]
    by_cases hbehind : stop < pos
    · simp [hbehind, limited_nil, hrest hlast]
    simp only [hleft, hbehind, decide_false, Bool.or_self, Bool.false_eq_true, if_false, ask?_eq hpos,
      Option.bind_eq_bind, Option.bind_some]
    cases hw : m.find? text pos with
    | none => simp [limited_nil, hrest hlast]
    | some w =>
      obtain ⟨hlow, hspan, hstart, hstop⟩ := hm _ _ _ hw
      by_cases houtside : stop < w.stop
      · simp [houtside, limited_nil, hrest hlast]
      have hhead : slice? text last w.start = some (Text.between text last w.start) :=
        slice?_eq (Nat.le_trans hle hlow) hlast hstart
      by_cases hempty : w.start = w.stop
      · rw [hempty] at hhead hlow
        by_cases hend : Text.length text ≤ w.stop <;> by_cases hagain : previous = some w.stop
        · simp [houtside, hempty, hend, hagain, limited_nil, hrest hlast]
        · simp [houtside, hempty, hend, hagain, hhead, limited_cons hleft, limited_nil, hrest hstop,
            splice]
        · have hnext := lt_next hstop (Nat.lt_of_not_le hend)
          have htail := ih (Text.isBoundary_next hstop) hlast (by omega) (by omega) previous left
          rw [hagain] at htail
          simp [houtside, hempty, hend, hagain, next?_eq hstop, htail]
        · have hnext := lt_next hstop (Nat.lt_of_not_le hend)
          have htail := ih (Text.isBoundary_next hstop) hstop (Nat.le_of_lt hnext) (by omega)
            (some w.stop) (left.map (· - 1))
          simp [houtside, hempty, hend, hagain, hhead, next?_eq hstop, htail, limited_cons hleft, splice]
      · have htail := ih hstop hstop (Nat.le_refl _) (by omega) (some w.stop) (left.map (· - 1))
        simp [houtside, hempty, hhead, htail, limited_cons hleft, splice]

/-- The first match of a portion lies behind the start of the portion. -/
theorem le_of_occurrences (hm : m.Sound) {stop fuel pos : Nat} {previous : Option Nat}
    (hpos : Text.IsBoundary text.toList pos) {w : Match}
    (hw : w ∈ (occurrences m text stop fuel pos previous).head?) : pos ≤ w.start := by
  induction fuel generalizing pos previous with
  | zero => simp [occurrences] at hw
  | succ fuel ih =>
    unfold occurrences at hw
    by_cases hbehind : stop < pos
    · simp [hbehind] at hw
    cases hfind : m.find? text pos with
    | none => simp [hbehind, hfind] at hw
    | some v =>
      obtain ⟨hlow, -, hstart, -⟩ := hm _ _ _ hfind
      simp only [hbehind, if_false, hfind] at hw
      split at hw
      · simp at hw
      split at hw
      · split at hw
        · split at hw
          · simp at hw
          · have hnext := ih (Text.isBoundary_next hstart) hw
            have hle := hstart.le_next
            omega
        · simp only [List.head?_cons, Option.mem_some_iff] at hw
          rwa [← hw]
      · simp only [List.head?_cons, Option.mem_some_iff] at hw
        rwa [← hw]

theorem limited_head {left : Option Nat} {ws : List Match} {w : Match}
    (hw : w ∈ (limited left ws).head?) : w ∈ ws.head? := by
  cases ws with
  | nil => simp [limited_nil] at hw
  | cons v ws =>
    by_cases hleft : left = some 0
    · simp [hleft, limited_zero] at hw
    · simpa [limited_cons hleft] using hw

/-- What stands in front of a portion stays. -/
theorem before_append_splice {low : Nat} {ws : List Match} (hws : ∀ w ∈ ws.head?, low ≤ w.start) :
    Text.before text low ++ splice text new low ws = splice text new 0 ws := by
  cases ws with
  | nil =>
    apply String.toList_injective
    simp [splice]
  | cons w ws =>
    have hle : low ≤ w.start := hws w rfl
    have htake := Text.take_append_slice text.toList hle
    apply String.toList_injective
    simp only [splice, String.toList_append, Text.toList_before, Text.toList_between, ← List.append_assoc,
      htake]
    simp [Text.slice]

theorem replaceIn?_eq (hm : m.Sound) (new : Match → String) {low : Nat}
    (hlow : Text.IsBoundary text.toList low) (high : Nat) (left : Option Nat) :
    let ws := limited left (occurrences m text high (Text.length text + 2) low none)
    replaceIn? m new text low high left = some (splice text new 0 ws, ws.length) := by
  intro ws
  have hws : ∀ w ∈ ws.head?, low ≤ w.start :=
    fun w hw => le_of_occurrences hm hlow (limited_head hw)
  have htail := replaceFrom?_eq hm new text high hlow hlow (Nat.le_refl low)
    (by omega : Text.length text < Text.length text + 2 + low) none left
  unfold replaceIn?
  rw [slice?_before hlow, htail]
  simp only [Option.bind_eq_bind, Option.bind_some]
  rw [before_append_splice hws]
  rfl

@[simp] theorem splice_nil (text : String) (new : Match → String) : splice text new 0 [] = text := by
  apply String.toList_injective
  simp [splice]

section
variable {choose : Nat → String → List Match}

theorem replaceLines_cons (index : Nat) (left : Option Nat) (text : String) (rest : List String) :
    let ws := limited left (choose index text)
    let r := replaceLines choose new (index + 1) (left.map (· - ws.length)) rest
    replaceLines choose new index left (text :: rest) = (splice text new 0 ws :: r.1, ws.length + r.2) := by
  intro ws r
  have htext : (if ws.isEmpty then text else splice text new 0 ws) = splice text new 0 ws := by
    split
    · next hempty => rw [List.isEmpty_iff.mp hempty, splice_nil]
    · rfl
  rw [← htext]
  rfl

/-- A line without a match to be replaced stays. -/
theorem replaceLines_cons_nil {index : Nat} {left : Option Nat} {text : String}
    (hnil : limited left (choose index text) = []) (rest : List String) :
    replaceLines choose new index left (text :: rest) =
      (text :: (replaceLines choose new (index + 1) left rest).1,
        (replaceLines choose new (index + 1) left rest).2) := by
  rw [replaceLines_cons, hnil]
  simp

theorem replaceLines_of_nil {index : Nat} {left : Option Nat}
    (hnil : ∀ i text, index ≤ i → limited left (choose i text) = []) (lines : List String) :
    replaceLines choose new index left lines = (lines, 0) := by
  induction lines generalizing index with
  | nil => rfl
  | cons text rest ih =>
    rw [replaceLines_cons_nil (hnil index text (Nat.le_refl index)),
      ih fun i text hi => hnil i text (Nat.le_of_succ_le hi)]

theorem replaceLines_skip (new : Match → String) {index n : Nat} {left : Option Nat} {lines : List String}
    (hnil : ∀ i text, i < index + n → limited left (choose i text) = []) (hn : n ≤ lines.length) :
    replaceLines choose new index left lines =
      (lines.take n ++ (replaceLines choose new (index + n) left (lines.drop n)).1,
        (replaceLines choose new (index + n) left (lines.drop n)).2) := by
  induction n generalizing index lines with
  | zero => simp
  | succ n ih =>
    cases lines with
    | nil => simp at hn
    | cons text rest =>
      have hbelow : ∀ i text, i < index + 1 + n → limited left (choose i text) = [] :=
        fun i text hi => hnil i text (by omega)
      have hrest := ih hbelow (Nat.le_of_succ_le_succ hn)
      rw [replaceLines_cons_nil (hnil index text (by omega)), hrest]
      simp [Nat.add_right_comm, Nat.add_assoc]

end

theorem chosen_before (filter : Option Matcher) {range : Position × Position} {index : Nat}
    (h : index < range.1.line) (text : String) : chosen m filter range index text = [] := by
  simp [chosen, h]

theorem chosen_behind (filter : Option Matcher) {range : Position × Position} {index : Nat}
    (h : range.2.line < index) (text : String) : chosen m filter range index text = [] := by
  simp [chosen, h]

theorem chosen_within (filter : Option Matcher) {range : Position × Position} {index : Nat}
    (hstart : range.1.line ≤ index) (hstop : index ≤ range.2.line) (text : String) :
    chosen m filter range index text =
      if !filter.all (·.matches text) || (portion range index text).2 < (portion range index text).1
      then []
      else occurrences m text (portion range index text).2 (Text.length text + 2)
        (portion range index text).1 none := by
  have hbefore : ¬ index < range.1.line := Nat.not_lt.mpr hstart
  have hbehind : ¬ range.2.line < index := Nat.not_lt.mpr hstop
  change (if decide (index < range.1.line) || decide (range.2.line < index) ||
    !filter.all (·.matches text) then [] else
      if (portion range index text).2 < (portion range index text).1 then []
      else occurrences m text (portion range index text).2 (Text.length text + 2)
        (portion range index text).1 none) = _
  generalize portion range index text = columns
  by_cases hcolumns : columns.2 < columns.1 <;> simp [hbefore, hbehind, hcolumns]

theorem portion_boundary {range : Position × Position} {index : Nat} {lines : List String}
    (hc : index = range.1.line → range.1.Clamped lines) (hget : lines[index]? = some text) :
    Text.IsBoundary text.toList (portion range index text).1 := by
  dsimp only [portion]
  split
  · next heq =>
    rw [heq] at hget
    exact (Position.clamped_on hget).mp (hc heq)
  · exact Text.isBoundary_zero _

theorem rewrite?_eq {lines : List String} {index : Nat} (hget : lines[index]? = some text)
    (ws : List Match) : rewrite? lines index (splice text new 0 ws) ws.length =
      some (lines.set index (splice text new 0 ws)) := by
  obtain ⟨hlt, htext⟩ := List.getElem?_eq_some_iff.mp hget
  unfold rewrite?
  split
  · next hzero =>
    rw [List.length_eq_zero_iff.mp hzero, splice_nil, ← htext, List.set_getElem_self]
  · exact set?_eq hlt _

/-- The lines in front of the first index and behind the last one stay. -/
theorem replaceLines?_eq (hm : m.Sound) (new : Match → String) (filter : Option Matcher)
    {range : Position × Position} {index n : Nat} {lines : List String}
    (hstart : range.1.line ≤ index) (hc : index = range.1.line → range.1.Clamped lines)
    (hn : index + n ≤ lines.length) (hstop : index + n ≤ range.2.line + 1)
    (hlast : lines.length ≤ index + n ∨ range.2.line < index + n) (left : Option Nat) :
    let r := replaceLines (chosen m filter range) new index left (lines.drop index)
    replaceLines? m new filter range (List.range' index n) left lines =
      some (lines.take index ++ r.1, r.2) := by
  dsimp only
  induction n generalizing index left lines with
  | zero =>
    have hr : replaceLines (chosen m filter range) new index left (lines.drop index) =
        (lines.drop index, 0) := by
      rcases hlast with hlast | hlast
      · rw [List.drop_of_length_le (by omega)]
        rfl
      · refine replaceLines_of_nil (fun i text hi => ?_) _
        rw [chosen_behind filter (by omega), limited_nil]
    simp [hr, replaceLines?]
  | succ n ih =>
    by_cases hleft : left = some 0
    · have hr : replaceLines (chosen m filter range) new index left (lines.drop index) =
          (lines.drop index, 0) :=
        replaceLines_of_nil (fun i text _ => hleft ▸ limited_zero _) _
      rw [hr, List.range'_succ, replaceLines?]
      simp [hleft]
    have hlt : index < lines.length := by omega
    have hdrop := List.drop_eq_getElem_cons hlt
    have hget := List.getElem?_eq_getElem hlt
    generalize lines[index] = text at hdrop hget
    have hchosen := chosen_within (m := m) filter hstart (by omega : index ≤ range.2.line) text
    have hstart' : range.1.line ≤ index + 1 := Nat.le_succ_of_le hstart
    have hc' (lines : List String) : index + 1 = range.1.line → range.1.Clamped lines := by omega
    rw [hdrop, List.range'_succ, replaceLines?, hget]
    simp only [hleft, if_false, Option.bind_eq_bind, Option.bind_some]
    split at hchosen
    · next hskip =>
      have hrest := ih hstart' (hc' lines) (by omega) (by omega) (by omega) left
      rw [replaceLines_cons_nil (hchosen ▸ limited_nil left), hrest, if_pos hskip]
      simp [List.take_add_one, hget]
    · next hskip =>
      have hline := replaceIn?_eq hm new (portion_boundary hc hget) (portion range index text).2 left
      dsimp only at hline
      rw [← hchosen] at hline
      generalize hws : limited left (chosen m filter range index text) = ws at hline
      have hrest := ih hstart' (hc' (lines.set index (splice text new 0 ws))) (by simpa using by omega)
        (by omega) (by simpa using by omega) (left.map (· - ws.length))
      have htake : (lines.set index (splice text new 0 ws)).take (index + 1) =
          lines.take index ++ [splice text new 0 ws] := by
        simp [List.take_add_one, hlt, List.take_set_of_le]
      have hbelow : (lines.set index (splice text new 0 ws)).drop (index + 1) =
          lines.drop (index + 1) := List.drop_set_of_lt (Nat.lt_succ_self index)
      rw [htake, hbelow] at hrest
      rw [replaceLines_cons, hws, if_neg hskip, hline]
      simp only [Option.bind_some, rewrite?_eq hget, hrest]
      simp

/-- Replacing accesses nothing that is not there, and comes to what it comes to without a look at that. -/
theorem replace?_eq (hm : m.Sound) (b : LineBuffer) (replacement : String) (o : ReplaceOptions) :
    b.replace? m replacement o = some (b.replace m replacement o) := by
  unfold replace? replace
  by_cases hempty : b.lines = []
  · simp [hempty]
  have hpos : 1 ≤ b.lines.length := List.length_pos_iff.mpr hempty
  have hc := replaceRange_clamped hempty o
  have hle := replaceRange_le b o
  have hline := hc.line_le
  rw [replaceRange?_eq hempty, minus?_eq hpos]
  simp only [List.isEmpty_iff, hempty, if_false, Option.bind_eq_bind, Option.bind_some]
  generalize b.replaceRange o = range at hc hle hline ⊢
  generalize (fun w : Match => if o.groups then String.ofList (expandGroups w.groups replacement.toList)
    else replacement) = new
  rw [Position.le_iff] at hle
  have hnil : ∀ i text, i < 0 + range.1.line → limited o.count (chosen m o.filter range i text) = [] := by
    intro i text hi
    rw [chosen_before o.filter (by omega), limited_nil]
  have hskip := replaceLines_skip new hnil hline
  have hlines := replaceLines?_eq hm new o.filter (Nat.le_refl range.1.line) (fun _ => hc)
    (n := min range.2.line (b.lines.length - 1) + 1 - range.1.line) (by omega) (by omega) (by omega) o.count
  rw [Nat.zero_add] at hskip
  unfold indices
  rw [hlines, hskip]
  simp only [Option.bind_some, edit?_eq]
  split <;> rfl

end LineScript.LineBuffer
