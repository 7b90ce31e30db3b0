import LineScript.Proofs.Buffer.Access
import LineScript.Proofs.Buffer.Clamping

/-! Searching a buffer accesses nothing that is not there. -/
namespace LineScript.LineBuffer

open Access
open Buffer (Position Hit)
open Search (Matcher Flags)

/-- The numbers from one to another, both included. -/
def indices (first last : Nat) : List Nat :=
  List.range' first (last + 1 - first)

/-- Where a search starts. -/
def searchStart? (b : LineBuffer) (f : Flags) : Option Position := do
  let cursor ← clamp? b.cursor b.lines
  let lineEnd : Position := ⟨cursor.line, (b.lines[cursor.line]?).elim 0 Text.length⟩
  match f.startAt, f.inLine with
  | some .first, false => return {}
  | some .last, false => endPosition? b.lines
  | some .first, true => return ⟨cursor.line, 0⟩
  | some .last, true => return lineEnd
  | none, _ =>
    if f.lineStart && !f.backwards then return ⟨cursor.line, 0⟩
    else if f.lineEnd && f.backwards then return lineEnd
    else return cursor

/-- The first match in the lines with some indices. -/
def firstHit? (m : Matcher) (lines : List String) (start : Position) : List Nat → Option Hit
  | [] => some .miss
  | index :: rest => do
    let text ← lines[index]?
    match ← ask? m text (if index = start.line then start.column else 0) with
    | some w => return .of ⟨index, w.start⟩ (← minus? w.stop w.start)
    | none => firstHit? m lines start rest

/-- The first match at or behind a position. -/
def searchForward? (b : LineBuffer) (m : Matcher) (inLine : Bool) (start : Position) : Option Hit := do
  if b.lines.length ≤ start.line then return .miss
  let last ← if inLine then pure start.line else minus? b.lines.length 1
  firstHit? m b.lines start (indices start.line last)

/-- The last match that ends at or before a limit, looked for from an offset on. There is none if the steps
do not suffice. -/
def lastMatchFrom? (m : Matcher) (text : String) (limit : Nat) :
    Nat → Nat → Option (Nat × Nat) → Option (Option (Nat × Nat))
  | 0, _, _ => none
  | fuel + 1, pos, best =>
    if limit < pos then some best
    else do
      match ← ask? m text pos with
      | none => return best
      | some w =>
        if limit < w.start then return best
        else
          let best := if w.stop ≤ limit then some (w.start, w.stop) else best
          if Text.length text ≤ w.start then return best
          else lastMatchFrom? m text limit fuel (← next? text w.start) best

/-- The last match in a line that ends at or before a column. -/
def lastMatchBefore? (m : Matcher) (text : String) (column : Nat) : Option (Option (Nat × Nat)) := do
  lastMatchFrom? m text (← floor? text column) (Text.length text + 1) 0 none

/-- The last match in the lines with some indices, which are given from the last to the first. -/
def lastHitIn? (m : Matcher) (lines : List String) (top : Position) : List Nat → Option Hit
  | [] => some .miss
  | index :: rest => do
    let text ← lines[index]?
    match ← lastMatchBefore? m text (if index = top.line then top.column else Text.length text) with
    | some (first, stop) => return .of ⟨index, first⟩ (← minus? stop first)
    | none => lastHitIn? m lines top rest

/-- Where a search backwards starts: behind the last line it is the end of the last line. -/
def searchTop? (lines : List String) (start : Position) : Option Position := do
  if lines.length ≤ start.line then
    let last ← minus? lines.length 1
    return ⟨last, Text.length (← lines[last]?)⟩
  return start

/-- The last match that ends at or before a position. -/
def searchBackward? (b : LineBuffer) (m : Matcher) (inLine : Bool) (start : Position) : Option Hit := do
  if b.lines.isEmpty then return .miss
  let top ← searchTop? b.lines start
  lastHitIn? m b.lines top (indices (if inLine then top.line else 0) top.line).reverse

/-- The hit of a search. -/
def sought? (b : LineBuffer) (m : Matcher) (f : Flags) : Option Hit := do
  let start ← b.searchStart? f
  if f.backwards then b.searchBackward? m f.inLine start else b.searchForward? m f.inLine start

/-- Searches and remembers the outcome. -/
def search? (b : LineBuffer) (m : Matcher) (f : Flags) (advance : Bool) : Option (LineBuffer × Hit) := do
  let hit ← b.sought? m f
  let b := { b with lastSearch := hit }
  if hit.found then
    let text ← b.lines[hit.position.line]?
    let b := { b with lastHit := ← slice? text hit.position.column hit.stop.column }
    if advance then return ({ b with cursor := if f.backwards then hit.position else hit.stop }, hit)
    return (b, hit)
  return ({ b with lastHit := "" }, hit)

variable {m : Matcher} {b : LineBuffer}

theorem searchStart?_eq (b : LineBuffer) (f : Flags) : b.searchStart? f = some (b.searchStart f) := by
  unfold searchStart? searchStart
  rw [clamp?_eq, endPosition?_eq]
  simp only [Option.bind_eq_bind, Option.bind_some]
  cases f.startAt with
  | none =>
    dsimp only
    split
    · rfl
    · split <;> rfl
  | some edge => cases edge <;> cases f.inLine <;> rfl

theorem endPosition_clamped (b : LineBuffer) : b.endPosition.Clamped b.lines := by
  unfold endPosition
  split
  · next last h =>
    rw [List.getLast?_eq_getElem?] at h
    exact Position.clamped_iff.mpr (.inl ⟨last, h, isBoundary_length last⟩)
  · exact Position.start_clamped b.lines

theorem searchStart_clamped (b : LineBuffer) (f : Flags) : (b.searchStart f).Clamped b.lines := by
  have hcursor := Position.clamp_clamped b.cursor b.lines
  have hzero : Position.Clamped ⟨(b.cursor.clamp b.lines).line, 0⟩ b.lines := by
    rcases Nat.lt_or_ge (b.cursor.clamp b.lines).line b.lines.length with hlt | hge
    · exact Position.clamped_iff.mpr (.inl ⟨_, List.getElem?_eq_getElem hlt, Text.isBoundary_zero _⟩)
    · rw [hcursor.eq_behind hge]
      exact Position.clamped_behind b.lines
  have hend : Position.Clamped ⟨(b.cursor.clamp b.lines).line,
      (b.lines[(b.cursor.clamp b.lines).line]?).elim 0 Text.length⟩ b.lines := by
    rcases Nat.lt_or_ge (b.cursor.clamp b.lines).line b.lines.length with hlt | hge
    · rw [List.getElem?_eq_getElem hlt]
      exact Position.clamped_iff.mpr (.inl ⟨_, List.getElem?_eq_getElem hlt, isBoundary_length _⟩)
    · rw [List.getElem?_eq_none hge]
      exact hzero
  unfold searchStart
  dsimp only
  split
  · exact Position.start_clamped b.lines
  · exact b.endPosition_clamped
  · exact hzero
  · exact hend
  · split
    · exact hzero
    · split
      · exact hend
      · exact hcursor

theorem firstHit?_eq (hm : m.Sound) {lines : List String} {start : Position}
    (hc : start.Clamped lines) {index n : Nat} (hstart : start.line ≤ index)
    (hn : index + n ≤ lines.length) :
    firstHit? m lines start (List.range' index n) =
      some (firstHit m index (if index = start.line then start.column else 0)
        ((lines.drop index).take n)) := by
  induction n generalizing index with
  | zero => simp [firstHit?, firstHit]
  | succ n ih =>
    have hlt : index < lines.length := by omega
    have hrest := ih (Nat.le_succ_of_le hstart) (by omega)
    rw [if_neg (by omega : ¬ index + 1 = start.line)] at hrest
    have hcolumn : Text.IsBoundary (lines[index]).toList
        (if index = start.line then start.column else 0) := by
      split
      · next heq =>
        subst heq
        exact (Position.clamped_on (List.getElem?_eq_getElem hlt)).mp hc
      · exact Text.isBoundary_zero _
    rw [List.range'_succ, List.drop_eq_getElem_cons hlt, List.take_succ_cons, firstHit?, firstHit,
      List.getElem?_eq_getElem hlt, hrest]
    simp only [Option.bind_eq_bind, Option.bind_some, ask?_eq hcolumn]
    cases hw : m.find? lines[index] (if index = start.line then start.column else 0) with
    | none => rfl
    | some w =>
      have hle : w.start ≤ w.stop := (hm _ _ _ hw).le
      simp [minus?_eq hle]

theorem searchForward?_eq (hm : m.Sound) (b : LineBuffer) (inLine : Bool) {start : Position}
    (hc : start.Clamped b.lines) :
    b.searchForward? m inLine start = some (b.searchForward m inLine start) := by
  unfold searchForward? searchForward
  by_cases hl : b.lines.length ≤ start.line
  · simp [hl, List.drop_of_length_le hl, firstHit]
  · have hlt : start.line < b.lines.length := Nat.lt_of_not_le hl
    cases inLine with
    | true =>
      have hhit := firstHit?_eq hm hc (Nat.le_refl start.line) (n := 1) hlt
      simpa [hl, indices] using hhit
    | false =>
      have hcount : b.lines.length - 1 + 1 - start.line = b.lines.length - start.line := by omega
      have hhit := firstHit?_eq hm hc (Nat.le_refl start.line)
        (n := b.lines.length - start.line) (by omega)
      have htake : (b.lines.drop start.line).take (b.lines.length - start.line) =
          b.lines.drop start.line := List.take_of_length_le (by simp)
      rw [htake, if_pos rfl] at hhit
      simp [hl, indices, minus?_eq (by omega : 1 ≤ b.lines.length), hcount, hhit]

/-- Behind a boundary of a text that is not its end, there is another one. -/
theorem lt_next {text : String} {n : Nat} (hn : Text.IsBoundary text.toList n)
    (hlt : n < Text.length text) : n < Text.next text.toList n := by
  rw [Text.length_eq_size] at hlt
  obtain ⟨c, rest, hd⟩ := hn.exists_drop hlt
  have hsize := c.utf8Size_pos
  rw [Text.next_of_drop hd]
  omega

/-- Candidates start ever further right, so that the steps suffice. -/
theorem lastMatchFrom?_eq (hm : m.Sound) (text : String) (limit : Nat) {fuel pos : Nat}
    (hpos : Text.IsBoundary text.toList pos) (hfuel : Text.length text < fuel + pos)
    (best : Option (Nat × Nat)) :
    lastMatchFrom? m text limit fuel pos best = some (lastMatchFrom m text limit fuel pos best) := by
  induction fuel generalizing pos best with
  | zero =>
    have hle := hpos.le_size
    rw [← Text.length_eq_size] at hle
    omega
  | succ fuel ih =>
    unfold lastMatchFrom? lastMatchFrom
    by_cases hlimit : limit < pos
    · simp only [hlimit, if_true]
    simp only [hlimit, if_false, ask?_eq hpos, Option.bind_eq_bind, Option.bind_some]
    cases hw : m.find? text pos with
    | none => rfl
    | some w =>
      have hbounds := hm _ _ _ hw
      have hlow := hbounds.low_le
      by_cases hstart : limit < w.start
      · simp [hstart]
      simp only [hstart, if_false]
      by_cases hend : Text.length text ≤ w.start
      · simp [hend]
      · have hnext := lt_next hbounds.start (Nat.lt_of_not_le hend)
        simp only [hend, if_false, next?_eq hbounds.start, Option.bind_some]
        exact ih (Text.isBoundary_next hbounds.start) (by omega) _

theorem lastMatchBefore?_eq (hm : m.Sound) (text : String) (column : Nat) :
    lastMatchBefore? m text column = some (lastMatchBefore m text column) := by
  unfold lastMatchBefore? lastMatchBefore
  rw [floor?_eq]
  exact lastMatchFrom?_eq hm text _ (Text.isBoundary_zero _) (by omega) none

theorem lastMatchBefore_le (hm : m.Sound) {text : String} {column : Nat} {x : Nat × Nat}
    (h : lastMatchBefore m text column = some x) : x.1 ≤ x.2 :=
  ((lastMatchBefore_finds h).bounds hm).1

/-- The indices in front of the top, from the last one to the first. -/
theorem lastHitIn?_eq (hm : m.Sound) (lines : List String) (top : Position) {n : Nat}
    (htop : n ≤ top.line) (hn : n ≤ lines.length) :
    lastHitIn? m lines top (List.range' 0 n).reverse =
      some ((lastHit? m (n - 1) (lines.take n).reverse).getD .miss) := by
  induction n with
  | zero => simp [lastHitIn?, lastHit?]
  | succ n ih =>
    have hlt : n < lines.length := hn
    have hrest := ih (by omega) (by omega)
    have hindices : (List.range' 0 (n + 1)).reverse = n :: (List.range' 0 n).reverse := by
      simp [List.range'_concat]
    have hlines : (lines.take (n + 1)).reverse = lines[n] :: (lines.take n).reverse := by
      rw [List.take_succ_eq_append_getElem hlt, List.reverse_append]
      rfl
    have htext : ¬ n = top.line := by omega
    rw [hindices, hlines, lastHitIn?, lastHit?, List.getElem?_eq_getElem hlt, hrest]
    simp only [Option.bind_eq_bind, Option.bind_some, htext, if_false, lastMatchBefore?_eq hm,
      Nat.add_sub_cancel]
    cases hx : lastMatchBefore m lines[n] (Text.length lines[n]) with
    | none => rfl
    | some x =>
      have hle := lastMatchBefore_le hm hx
      simp [minus?_eq hle]

theorem lastHitIn?_top (hm : m.Sound) {lines : List String} {top : Position}
    (htop : top.line < lines.length) (rest : List Nat) :
    lastHitIn? m lines top (top.line :: rest) =
      match lastMatchBefore m ((lines[top.line]?).getD "") top.column with
      | some (first, stop) => some (.of ⟨top.line, first⟩ (stop - first))
      | none => lastHitIn? m lines top rest := by
  rw [lastHitIn?, List.getElem?_eq_getElem htop]
  simp only [Option.bind_eq_bind, Option.bind_some, if_true, lastMatchBefore?_eq hm, Option.getD_some]
  cases hx : lastMatchBefore m lines[top.line] top.column with
  | none => rfl
  | some x =>
    have hle := lastMatchBefore_le hm hx
    simp [minus?_eq hle]

theorem searchBackward?_eq (hm : m.Sound) (b : LineBuffer) (inLine : Bool) (start : Position) :
    b.searchBackward? m inLine start = some (b.searchBackward m inLine start) := by
  unfold searchBackward? searchBackward
  cases hlast : b.lines.getLast? with
  | none =>
    have hempty : b.lines = [] := List.getLast?_eq_none_iff.mp hlast
    simp [hempty]
  | some last =>
    have hne : b.lines ≠ [] := by
      intro hempty
      simp [hempty] at hlast
    have hpos : 1 ≤ b.lines.length := List.length_pos_iff.mpr hne
    have hget : b.lines[b.lines.length - 1]? = some last := by
      rw [← List.getLast?_eq_getElem?, hlast]
    have htop : searchTop? b.lines start =
        some (if b.lines.length ≤ start.line then ⟨b.lines.length - 1, Text.length last⟩
          else start) := by
      unfold searchTop?
      split
      · simp [minus?_eq hpos, hget]
      · rfl
    have hlt : (if b.lines.length ≤ start.line then
        (⟨b.lines.length - 1, Text.length last⟩ : Position) else start).line < b.lines.length := by
      split
      · exact Nat.sub_lt hpos Nat.one_pos
      · omega
    have hnot : ¬ b.lines.isEmpty = true := by simpa using hne
    simp only [hnot, Bool.false_eq_true, if_false, htop, Option.bind_eq_bind, Option.bind_some]
    generalize (if b.lines.length ≤ start.line then
      (⟨b.lines.length - 1, Text.length last⟩ : Position) else start) = top at hlt ⊢
    cases inLine with
    | true =>
      have hindices : (indices top.line top.line).reverse = [top.line] := by simp [indices]
      simp only [if_true, hindices, lastHitIn?_top hm hlt]
      cases lastMatchBefore m ((b.lines[top.line]?).getD "") top.column <;> rfl
    | false =>
      have hindices : (indices 0 top.line).reverse = top.line :: (List.range' 0 top.line).reverse := by
        simp [indices, List.range'_concat]
      have hrest := lastHitIn?_eq hm b.lines top (Nat.le_refl top.line) (Nat.le_of_lt hlt)
      simp only [Bool.false_eq_true, if_false, hindices, lastHitIn?_top hm hlt, hrest]
      cases lastMatchBefore m ((b.lines[top.line]?).getD "") top.column <;> rfl

theorem sought?_eq (hm : m.Sound) (b : LineBuffer) (f : Flags) :
    b.sought? m f = some (b.sought m f) := by
  unfold sought? sought
  rw [searchStart?_eq]
  simp only [Option.bind_eq_bind, Option.bind_some]
  split
  · exact searchBackward?_eq hm b f.inLine _
  · exact searchForward?_eq hm b f.inLine (searchStart_clamped b f)

/-- A search accesses nothing that is not there, and comes to what it comes to without a look at that. -/
theorem search?_eq (hm : m.Sound) (b : LineBuffer) (f : Flags) (advance : Bool) :
    b.search? m f advance = some (b.search m f advance) := by
  have hsearch : b.search m f advance =
      let hit := b.sought m f
      let b := { b with lastSearch := hit }
      if hit.found then
        let b := { b with lastHit := b.hitText hit }
        if advance then ({ b with cursor := if f.backwards then hit.position else hit.stop }, hit)
        else (b, hit)
      else ({ b with lastHit := "" }, hit) := rfl
  rw [hsearch]
  unfold search?
  rw [sought?_eq hm b f]
  simp only [Option.bind_eq_bind, Option.bind_some]
  cases hfound : (b.sought m f).found with
  | false => rfl
  | true =>
    obtain ⟨text, stop, htext, hfinds, hlength⟩ := sought_isMatch hfound
    obtain ⟨hle, hstart, hstop⟩ := hfinds.bounds hm
    have hend : (b.sought m f).stop.column = stop := by
      rw [Hit.stop, hlength]
      exact Nat.add_sub_of_le hle
    have hslice : slice? text (b.sought m f).position.column (b.sought m f).stop.column =
        some (b.hitText (b.sought m f)) := by
      rw [hend, slice?_eq hle hstart hstop, hitText, htext, hend]
      rfl
    simp only [if_true, htext, Option.bind_some, hslice]
    cases advance <;> rfl

end LineScript.LineBuffer
