import LineScript.Proofs.Buffer.SearchAccess
import LineScript.Proofs.Search.Expression
import LineScript.Proofs.Text.Bytes

/-! What a search in a buffer has to come to: where it starts, which of the matches in the lines is its hit,
and what it leaves behind. -/
namespace LineScript

namespace Search

/-- Whether a match of a text starts at an offset and ends at another one: it is found from its own start on.
-/
def Matcher.MatchAt (m : Matcher) (text : String) (start stop : Nat) : Prop :=
  ∃ w, m.find? text start = some w ∧ w.start = start ∧ w.stop = stop

/-- Whether a matcher finds, from every boundary of a text on, the match of the text that starts first, with
the end that it has from its own start on. -/
structure Matcher.FindsLeast (m : Matcher) (text : String) : Prop where
  found : ∀ {n w}, Text.IsBoundary text.toList n → m.find? text n = some w →
    m.MatchAt text w.start w.stop ∧ ∀ start stop, m.MatchAt text start stop → n ≤ start → w.start ≤ start
  missed : ∀ {n}, Text.IsBoundary text.toList n → m.find? text n = none →
    ∀ start stop, m.MatchAt text start stop → start < n

variable {m : Matcher} {text : String} {start stop : Nat}

theorem Matcher.MatchAt.bounds (hm : m.Sound) (h : m.MatchAt text start stop) :
    start ≤ stop ∧ Text.IsBoundary text.toList start ∧ Text.IsBoundary text.toList stop := by
  obtain ⟨w, hw, rfl, rfl⟩ := h
  obtain ⟨-, hle, hstart, hstop⟩ := hm _ _ _ hw
  exact ⟨hle, hstart, hstop⟩

theorem Matcher.MatchAt.stop_eq {stop' : Nat} (h : m.MatchAt text start stop)
    (h' : m.MatchAt text start stop') : stop = stop' := by
  obtain ⟨w, hw, -, rfl⟩ := h
  obtain ⟨w', hw', -, rfl⟩ := h'
  rw [hw] at hw'
  rw [Option.some.inj hw']

theorem Matcher.MatchAt.start_le (hm : m.Sound) (h : m.MatchAt text start stop) : start ≤ Text.length text :=
  (h.bounds hm).2.1.le_length

/-- Whether a matcher that is asked for a match from an offset on finds one that starts there. -/
def Matcher.startsAt (m : Matcher) (text : String) (n : Nat) : Bool :=
  (m.find? text n).any (·.start == n)

theorem Matcher.MatchAt.startsAt (h : m.MatchAt text start stop) : m.startsAt text start = true := by
  obtain ⟨w, hw, hstart, -⟩ := h
  simp [Matcher.startsAt, hw, hstart]

/-- Whether a matcher comes, from every offset of a text on, to the first one where a match starts, and to the
end that this match has. -/
def Matcher.findsLeast (m : Matcher) (text : String) : Bool :=
  (List.range (Text.length text + 1)).all fun n =>
    (m.find? text n).map (·.start) == (List.range' n (Text.length text + 1 - n)).find? (m.startsAt text) &&
      (m.find? text n).all fun w => (m.find? text w.start).any (·.stop == w.stop)

theorem Matcher.findsLeast_sound (hm : m.Sound) (h : m.findsLeast text = true) : m.FindsLeast text := by
  have hall {n : Nat} (hn : Text.IsBoundary text.toList n) :
      (m.find? text n).map (·.start) = (List.range' n (Text.length text + 1 - n)).find? (m.startsAt text) ∧
        (m.find? text n).all (fun w => (m.find? text w.start).any (·.stop == w.stop)) = true := by
    have hcheck := List.all_eq_true.mp h n (List.mem_range.mpr (Nat.lt_succ_of_le hn.le_length))
    rwa [Bool.and_eq_true, beq_iff_eq] at hcheck
  constructor
  · intro n w hn hw
    obtain ⟨hfirst, hsame⟩ := hall hn
    rw [hw, Option.map_some, eq_comm, List.find?_range'_eq_some] at hfirst
    obtain ⟨hstarts, -, hnone⟩ := hfirst
    constructor
    · rw [hw, Option.all_some, Option.any_eq_true] at hsame
      obtain ⟨v, hv, hstop⟩ := hsame
      rw [Matcher.startsAt, hv] at hstarts
      exact ⟨v, hv, by simpa using hstarts, by simpa using hstop⟩
    · intro start stop hmatch hle
      apply Nat.le_of_not_lt
      intro hlt
      have hno := hnone start hle hlt
      rw [hmatch.startsAt] at hno
      cases hno
  · intro n hn hw start stop hmatch
    obtain ⟨hfirst, -⟩ := hall hn
    rw [hw, Option.map_none, eq_comm, List.find?_range'_eq_none] at hfirst
    apply Nat.lt_of_not_le
    intro hle
    have hend := hmatch.start_le hm
    have hno := hfirst start hle (by omega)
    rw [hmatch.startsAt] at hno
    cases hno

end Search

namespace LineBuffer

open Buffer (Position Hit)
open Search (Matcher Flags)

/-- The end of the line of the cursor. -/
def cursorLineEnd (b : LineBuffer) : Position :=
  let line := (b.cursor.clamp b.lines).line
  ⟨line, (b.lines[line]?).elim 0 Text.length⟩

/-- Where a search with a flag text starts. -/
inductive SearchStart (b : LineBuffer) (flags : List Char) : Position → Prop
  | bufferStart : Search.lastEdge flags = some .first → 'L' ∉ flags → SearchStart b flags ⟨0, 0⟩
  | bufferEnd : Search.lastEdge flags = some .last → 'L' ∉ flags → SearchStart b flags b.endPosition
  | lineStart : Search.lastEdge flags = some .first → 'L' ∈ flags →
      SearchStart b flags ⟨(b.cursor.clamp b.lines).line, 0⟩
  | lineEnd : Search.lastEdge flags = some .last → 'L' ∈ flags → SearchStart b flags b.cursorLineEnd
  | caret : Search.lastEdge flags = none → '^' ∈ flags → 'B' ∉ flags →
      SearchStart b flags ⟨(b.cursor.clamp b.lines).line, 0⟩
  | dollar : Search.lastEdge flags = none → '$' ∈ flags → 'B' ∈ flags → SearchStart b flags b.cursorLineEnd
  | cursor : Search.lastEdge flags = none → ('^' ∈ flags → 'B' ∈ flags) → ('$' ∈ flags → 'B' ∉ flags) →
      SearchStart b flags (b.cursor.clamp b.lines)

/-- Whether a match in some lines starts at a position and ends at a column. -/
def MatchIn (m : Matcher) (lines : List String) (p : Position) (stop : Nat) : Prop :=
  ∃ text, lines[p.line]? = some text ∧ m.MatchAt text p.column stop

/-- Whether a hit is the match, of those with a start and an end that are admitted, that stands before all
others in an order; and a miss if none is admitted. -/
structure Picks (admitted : Position → Nat → Prop) (before : Position → Position → Prop) (hit : Hit) :
    Prop where
  found : hit.found = true ↔ ∃ p stop, admitted p stop
  first : hit.found = true → admitted hit.position hit.stop.column ∧
    ∀ p stop, admitted p stop → before hit.position p
  miss : hit.found = false → hit = .miss

/-- What a search leaves behind: it remembers its hit and the text of the hit, and moves the cursor if it is
told to. -/
structure Leaves (b : LineBuffer) (backwards advance : Bool) (result : LineBuffer × Hit) : Prop where
  lastSearch : result.1.lastSearch = result.2
  lastHit : result.2.found = true → ∃ text head tail, b.lines[result.2.position.line]? = some text ∧
    text = head ++ result.1.lastHit ++ tail ∧ Text.length head = result.2.position.column ∧
      Text.length result.1.lastHit = result.2.length
  nothing : result.2.found = false → result.1.lastHit = ""
  cursor : result.1.cursor =
    if result.2.found && advance then (if backwards then result.2.position else result.2.stop) else b.cursor
  lines : result.1.lines = b.lines
  mark : result.1.mark = b.mark
  changed : result.1.changed = b.changed
  file : result.1.file = b.file

section
variable {A B : Position → Nat → Prop} {before : Position → Position → Prop} {hit : Hit}

theorem Picks.congr (h : Picks A before hit) (hAB : ∀ p stop, A p stop ↔ B p stop) : Picks B before hit := by
  have heq : A = B := by
    funext p stop
    exact propext (hAB p stop)
  rwa [← heq]

theorem picks_miss (h : ∀ p stop, ¬ A p stop) : Picks A before .miss := by
  constructor
  · constructor
    · intro hfound
      cases hfound
    · rintro ⟨p, stop, hp⟩
      exact absurd hp (h p stop)
  · intro hfound
    cases hfound
  · intro _
    rfl

theorem picks_of {p : Position} {stop : Nat} (hle : p.column ≤ stop) (hp : A p stop)
    (h : ∀ q stop, A q stop → before p q) : Picks A before (.of p (stop - p.column)) := by
  have hstop : (Hit.of p (stop - p.column)).stop.column = stop := by
    simp only [Hit.stop, Hit.of]
    omega
  constructor
  · constructor
    · intro _
      exact ⟨p, stop, hp⟩
    · intro _
      rfl
  · intro _
    rw [hstop]
    exact ⟨hp, h⟩
  · intro hfound
    cases hfound

end

section
variable {b : LineBuffer} {f : Flags} {flags : List Char} (hf : Flags.Reads {} flags f)
include hf

theorem searchStart_searchStart (b : LineBuffer) : SearchStart b flags (b.searchStart f) := by
  unfold searchStart
  dsimp only
  rw [← cursorLineEnd, hf.startAt_eq]
  split
  · next hedge hline => exact .bufferStart hedge (by simp [← hf.inLine_iff, hline])
  · next hedge hline => exact .bufferEnd hedge (by simp [← hf.inLine_iff, hline])
  · next hedge hline => exact .lineStart hedge (hf.inLine_iff.mp hline)
  · next hedge hline => exact .lineEnd hedge (hf.inLine_iff.mp hline)
  · next hedge =>
    split
    · next h =>
      obtain ⟨hcaret, hforward⟩ := hf.caret_iff.mp h
      exact .caret hedge hcaret hforward
    · next hcaret =>
      rw [hf.caret_iff, not_and_not_right] at hcaret
      split
      · next h =>
        obtain ⟨hdollar, hbackward⟩ := hf.dollar_iff.mp h
        exact .dollar hedge hdollar hbackward
      · next hdollar =>
        rw [hf.dollar_iff, not_and] at hdollar
        exact .cursor hedge hcaret hdollar

theorem SearchStart.eq_searchStart {p : Position} (h : SearchStart b flags p) : p = b.searchStart f := by
  have hanywhere (hline : 'L' ∉ flags) : f.inLine = false := by
    rw [Bool.eq_false_iff, ne_eq, hf.inLine_iff]
    exact hline
  unfold searchStart
  dsimp only
  rw [← cursorLineEnd, hf.startAt_eq]
  cases h with
  | bufferStart hedge hline => rw [hedge, hanywhere hline]
  | bufferEnd hedge hline => rw [hedge, hanywhere hline]
  | lineStart hedge hline => rw [hedge, hf.inLine_iff.mpr hline]
  | lineEnd hedge hline => rw [hedge, hf.inLine_iff.mpr hline]
  | caret hedge hcaret hforward =>
    rw [hedge]
    dsimp only
    rw [if_pos (hf.caret_iff.mpr ⟨hcaret, hforward⟩)]
  | dollar hedge hdollar hbackward =>
    have hcaret := hf.caret_iff.not.mpr fun h => h.2 hbackward
    rw [hedge]
    dsimp only
    rw [if_neg hcaret, if_pos (hf.dollar_iff.mpr ⟨hdollar, hbackward⟩)]
  | cursor hedge hcaret hdollar =>
    have hcaret' := hf.caret_iff.not.mpr fun h => h.2 (hcaret h.1)
    have hdollar' := hf.dollar_iff.not.mpr fun h => hdollar h.1 h.2
    rw [hedge]
    dsimp only
    rw [if_neg hcaret', if_neg hdollar']

/-- A search starts where its flag text says, and nowhere else. -/
theorem searchStart_iff (b : LineBuffer) (p : Position) : SearchStart b flags p ↔ p = b.searchStart f := by
  constructor
  · intro hp
    exact hp.eq_searchStart hf
  · rintro rfl
    exact searchStart_searchStart hf b

end

/-- The text of a hit is what stands in its line where it says. -/
theorem hitText_of_found {m : Matcher} (hm : m.Sound) {b : LineBuffer} {f : Flags}
    (hfound : (b.sought m f).found = true) : ∃ text head tail,
      b.lines[(b.sought m f).position.line]? = some text ∧
      text = head ++ b.hitText (b.sought m f) ++ tail ∧
      Text.length head = (b.sought m f).position.column ∧
      Text.length (b.hitText (b.sought m f)) = (b.sought m f).length := by
  obtain ⟨text, stop, hline, hfinds, hlength⟩ := sought_isMatch hfound
  obtain ⟨hle, hstart, hstop⟩ := hfinds.bounds hm
  have hend : (b.sought m f).stop.column = stop := by
    simp only [Hit.stop]
    omega
  obtain ⟨head, part, tail, rfl, hhead, rfl⟩ := Text.exists_three_parts hstart hstop hle
  have hpart : b.hitText (b.sought m f) = part := by
    unfold hitText
    rw [hend, hline, hhead, Option.getD_some, Text.between_append]
  refine ⟨_, head, tail, hline, ?_, hhead.symm, ?_⟩
  · rw [hpart]
  · rw [hpart, hlength, hhead, Text.length_append]
    omega

/-- What a search leaves behind, whatever its direction. -/
theorem search_leaves {m : Matcher} (hm : m.Sound) (b : LineBuffer) (f : Flags) (advance : Bool) :
    (b.search m f advance).2 = b.sought m f ∧ Leaves b f.backwards advance (b.search m f advance) := by
  have hsearch : b.search m f advance =
      let hit := b.sought m f
      let b := { b with lastSearch := hit }
      if hit.found then
        let b := { b with lastHit := b.hitText hit }
        if advance then ({ b with cursor := if f.backwards then hit.position else hit.stop }, hit)
        else (b, hit)
      else ({ b with lastHit := "" }, hit) := rfl
  have htext : (b.sought m f).found = true → _ := hitText_of_found hm
  rw [hsearch]
  generalize b.sought m f = hit at htext ⊢
  dsimp only
  by_cases hfound : hit.found = true
  · rw [if_pos hfound]
    have hnothing : hit.found = false → b.hitText hit = "" := by simp [hfound]
    cases advance with
    | false => exact ⟨rfl, rfl, htext, hnothing, by simp, rfl, rfl, rfl, rfl⟩
    | true => exact ⟨rfl, rfl, htext, hnothing, by simp [hfound], rfl, rfl, rfl, rfl⟩
  · rw [if_neg hfound]
    exact ⟨rfl, rfl, fun h => absurd h hfound, fun _ => rfl, by simp [hfound], rfl, rfl, rfl, rfl⟩

end LineBuffer

end LineScript
