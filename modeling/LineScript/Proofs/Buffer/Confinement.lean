import LineScript.Proofs.Buffer.Replacement

/-! Replacing in some lines from that of the cursor on. The range ends at the start of the line behind them, and that
is where the lines do not confine it: an empty match there is still replaced. -/
namespace LineScript.LineBuffer

open Buffer (Position)
open Regex (Match)
open Search (Matcher)

/-- Options for replacing in `n` lines from that of the cursor on. -/
def ReplaceOptions.inLines (o : ReplaceOptions) (b : LineBuffer) (n : Nat) : ReplaceOptions :=
  { o with start := some ⟨b.cursor.line, 0⟩, stop := some ⟨b.cursor.line + n, 0⟩ }

/-- The number of replacements that are made in the first `k` lines of a buffer. -/
def replacedIn (b : LineBuffer) (m : Matcher) (replacement : String) (o : ReplaceOptions) (k : Nat) : Nat :=
  (replaceLines (chosen m o.filter (b.replaceRange o)) (newText replacement o) 0 o.count (b.lines.take k)).2

/-- Whether a replacement in `n` lines from that of the cursor on comes to a match in the line behind them: an empty
one at the start of the line, if the line passes the filter and the count is not used up. -/
structure Spills (b : LineBuffer) (m : Matcher) (replacement : String) (o : ReplaceOptions) (n : Nat)
    (text : String) (w : Match) : Prop where
  line : b.lines[b.cursor.line + n]? = some text
  filter : o.filter.all (·.matches text) = true
  found : m.find? text 0 = some w
  empty : w.stop = 0
  left : ∀ most, o.count = some most → b.replacedIn m replacement o (b.cursor.line + n) < most

variable {m : Matcher} {text : String}

/-- Between the start of a text and itself there is room for an empty match only. -/
theorem occurrences_start (hm : m.Sound) (fuel : Nat) :
    occurrences m text 0 (fuel + 2) 0 none = ((m.find? text 0).filter (·.stop = 0)).toList := by
  unfold occurrences
  rw [if_neg (Nat.lt_irrefl 0)]
  cases hw : m.find? text 0 with
  | none => rfl
  | some w =>
    obtain ⟨-, hspan, hstart, -⟩ := hm _ _ _ hw
    dsimp only
    by_cases hempty : w.stop = 0
    · have hzero : w.start = 0 := by omega
      have hbeyond : (if Text.length text ≤ w.start then [] else
          occurrences m text 0 (fuel + 1) (Text.next text.toList w.start) (some w.stop)) = [] := by
        split
        · rfl
        · next hlast =>
          have hnext := lt_next hstart (Nat.lt_of_not_le hlast)
          rw [occurrences, if_pos (by omega)]
      have hinside : ¬ 0 < w.stop := by omega
      rw [if_neg hinside, if_pos (hzero.trans hempty.symm), if_neg (by simp), hbeyond]
      simp only [Option.filter_some, hempty, decide_true, if_true, Option.toList_some]
    · rw [if_pos (Nat.pos_of_ne_zero hempty)]
      simp [hempty]

section
variable {b : LineBuffer} {o : ReplaceOptions} {n i : Nat}

/-- The range of a replacement in some lines: from the start of one line to the start of another one. -/
theorem replaceRange_inLines (b : LineBuffer) (o : ReplaceOptions) (n : Nat) :
    b.replaceRange (o.inLines b n) =
      (⟨min b.cursor.line b.lines.length, 0⟩, ⟨min (b.cursor.line + n) b.lines.length, 0⟩) := by
  have hclamp (line : Nat) : Position.clamp ⟨line, 0⟩ b.lines = ⟨min line b.lines.length, 0⟩ := by
    have hfloor (cs : List Char) : Text.floor cs 0 = 0 := Text.isBoundary_zero cs
    unfold Position.clamp
    dsimp only
    split <;> simp [hfloor]
  have hle : (⟨min b.cursor.line b.lines.length, 0⟩ : Position) ≤
      ⟨min (b.cursor.line + n) b.lines.length, 0⟩ := by
    rw [Position.le_iff]
    dsimp only
    omega
  have hordered : b.replaceRange (o.inLines b n) = Position.ordered
      (Position.clamp ⟨b.cursor.line, 0⟩ b.lines) (Position.clamp ⟨b.cursor.line + n, 0⟩ b.lines) := rfl
  rw [hordered, hclamp, hclamp, Position.ordered, if_pos hle]

/-- Nothing is chosen in the lines in front of that of the cursor, and in those behind the one that ends the
range. -/
theorem chosen_apart (hget : b.lines[i]? = some text) (h : i < b.cursor.line ∨ b.cursor.line + n < i) :
    chosen m o.filter (b.replaceRange (o.inLines b n)) i text = [] := by
  obtain ⟨hlt, -⟩ := List.getElem?_eq_some_iff.mp hget
  rw [replaceRange_inLines]
  rcases h with h | h
  · exact chosen_before _ (by dsimp only; omega) _
  · exact chosen_behind _ (by dsimp only; omega) _

/-- In the line that ends the range, only an empty match at its start is chosen. -/
theorem chosen_behind_lines (hm : m.Sound) (hget : b.lines[b.cursor.line + n]? = some text) :
    chosen m o.filter (b.replaceRange (o.inLines b n)) (b.cursor.line + n) text =
      if o.filter.all (·.matches text) then ((m.find? text 0).filter (·.stop = 0)).toList else [] := by
  obtain ⟨hlt, -⟩ := List.getElem?_eq_some_iff.mp hget
  have hline : min (b.cursor.line + n) b.lines.length = b.cursor.line + n := by omega
  have hcolumns : portion (⟨min b.cursor.line b.lines.length, 0⟩, ⟨b.cursor.line + n, 0⟩)
      (b.cursor.line + n) text = (0, 0) := by
    simp [portion]
  rw [replaceRange_inLines, hline, chosen_within o.filter (by dsimp only; omega) (Nat.le_refl _), hcolumns,
    occurrences_start hm]
  cases o.filter.all (·.matches text) <;> simp

end

/-- What replacing in `n` lines from that of the cursor on comes to in the other lines. Only the one right behind them
is ever changed: where the replacement spills, it gets the new text in front. -/
structure Confined (b : LineBuffer) (m : Matcher) (replacement : String) (o : ReplaceOptions) (n : Nat)
    (result : LineBuffer) : Prop where
  length : result.lines.length = b.lines.length
  apart : ∀ i, i < b.cursor.line ∨ b.cursor.line + n < i → result.lines[i]? = b.lines[i]?
  spilled : ∀ text w, Spills b m replacement o n text w →
    result.lines[b.cursor.line + n]? = some (newText replacement o w ++ text)
  kept : (∀ text w, ¬Spills b m replacement o n text w) →
    result.lines[b.cursor.line + n]? = b.lines[b.cursor.line + n]?

variable {b result : LineBuffer} {replacement : String} {o : ReplaceOptions} {n : Nat}

/-- A new text in place of an empty match at the start of a line. -/
theorem splice_start (text : String) (new : Match → String) {w : Match} (hstart : w.start = 0)
    (hstop : w.stop = 0) : splice text new 0 [w] = new w ++ text := by
  apply String.toList_injective
  simp [splice, hstart, hstop, Text.slice]

/-- What becomes of a line, given the replacements in front of it. -/
theorem getElem?_replace_inLines {i : Nat} {text : String} (hget : b.lines[i]? = some text) :
    (b.replace m replacement (o.inLines b n)).1.lines[i]? =
      some (splice text (newText replacement o) 0
        (limited (o.count.map (· - b.replacedIn m replacement (o.inLines b n) i))
          (chosen m o.filter (b.replaceRange (o.inLines b n)) i text))) := by
  obtain ⟨hlines, -⟩ := replace_eq_replaceLines b m replacement (o.inLines b n)
  rw [hlines, getElem?_replaceLines, hget, Nat.zero_add]
  rfl

/-- Replacing in some lines spills exactly if the count leaves room for a match in the line behind them. -/
theorem limited_behind_lines (hm : m.Sound) {text : String}
    (hget : b.lines[b.cursor.line + n]? = some text) :
    let ws := limited (o.count.map (· - b.replacedIn m replacement (o.inLines b n) (b.cursor.line + n)))
      (chosen m o.filter (b.replaceRange (o.inLines b n)) (b.cursor.line + n) text)
    (∃ w, ws = [w] ∧ Spills b m replacement (o.inLines b n) n text w) ∨
      (ws = [] ∧ ∀ w, ¬Spills b m replacement (o.inLines b n) n text w) := by
  dsimp only
  rw [chosen_behind_lines hm hget]
  by_cases hfilter : o.filter.all (·.matches text) = true
  · rw [if_pos hfilter]
    cases hw : m.find? text 0 with
    | none =>
      have hnone : ∀ w, ¬Spills b m replacement (o.inLines b n) n text w := by
        intro w h
        rw [h.found] at hw
        cases hw
      exact .inr ⟨limited_nil _, hnone⟩
    | some w =>
      have hsame (v : Match) (h : Spills b m replacement (o.inLines b n) n text v) : v = w :=
        Option.some.inj (h.found.symm.trans hw)
      by_cases hempty : w.stop = 0
      · have hchosen : ((some w).filter (·.stop = 0)).toList = [w] := by simp [hempty]
        rw [hchosen]
        by_cases hleft : o.count.map (· - b.replacedIn m replacement (o.inLines b n) (b.cursor.line + n)) =
            some 0
        · right
          constructor
          · rw [hleft, limited_zero]
          · intro v hv
            obtain ⟨most, hmost, hused⟩ := Option.map_eq_some_iff.mp hleft
            have hroom := hv.left most hmost
            omega
        · have hroom : ∀ most, o.count = some most →
              b.replacedIn m replacement (o.inLines b n) (b.cursor.line + n) < most := by
            intro most hcount
            rw [hcount, Option.map_some, Option.some.injEq] at hleft
            omega
          have hspills : Spills b m replacement (o.inLines b n) n text w :=
            ⟨hget, hfilter, hw, hempty, hroom⟩
          exact .inl ⟨w, by rw [limited_cons hleft, limited_nil], hspills⟩
      · have hchosen : ((some w).filter (·.stop = 0)).toList = [] := by simp [hempty]
        rw [hchosen]
        have hnone : ∀ v, ¬Spills b m replacement (o.inLines b n) n text v := by
          intro v hv
          apply hempty
          rw [← hsame v hv]
          exact hv.empty
        exact .inr ⟨limited_nil _, hnone⟩
  · rw [if_neg hfilter]
    exact .inr ⟨limited_nil _, fun w h => hfilter h.filter⟩

/-- A replacement in some lines changes no other line, but for the one behind them if it spills. -/
theorem replace_confined (hm : m.Sound) (b : LineBuffer) (replacement : String) (o : ReplaceOptions)
    (n : Nat) : Confined b m replacement (o.inLines b n) n (b.replace m replacement (o.inLines b n)).1 := by
  obtain ⟨hlines, -⟩ := replace_eq_replaceLines b m replacement (o.inLines b n)
  have hlength : (b.replace m replacement (o.inLines b n)).1.lines.length = b.lines.length := by
    rw [hlines, length_replaceLines]
  have hmissing (i : Nat) (hget : b.lines[i]? = none) :
      (b.replace m replacement (o.inLines b n)).1.lines[i]? = b.lines[i]? := by
    rw [List.getElem?_eq_none_iff] at hget
    rw [List.getElem?_eq_none hget, List.getElem?_eq_none (by omega)]
  constructor
  case length => exact hlength
  case apart =>
    intro i hi
    cases hget : b.lines[i]? with
    | none => exact (hmissing i hget).trans hget
    | some text => rw [getElem?_replace_inLines hget, chosen_apart hget hi, limited_nil, splice_nil]
  case spilled =>
    intro text w h
    obtain ⟨-, hspan, -, -⟩ := hm _ _ _ h.found
    have hempty := h.empty
    rw [getElem?_replace_inLines h.line]
    rcases limited_behind_lines hm h.line with ⟨v, hws, hv⟩ | ⟨-, hnone⟩
    · obtain rfl : v = w := Option.some.inj (hv.found.symm.trans h.found)
      rw [hws, splice_start text _ (by omega) hempty]
      rfl
    · exact absurd h (hnone w)
  case kept =>
    intro hkept
    cases hget : b.lines[b.cursor.line + n]? with
    | none => exact (hmissing _ hget).trans hget
    | some text =>
      rw [getElem?_replace_inLines hget]
      rcases limited_behind_lines hm hget with ⟨v, -, hv⟩ | ⟨hws, -⟩
      · exact absurd hv (hkept text v)
      · rw [hws, splice_nil]

/-- The lines confine a replacement exactly if it does not spill, or puts nothing there. -/
theorem Confined.iff (h : Confined b m replacement o n result) :
    (∀ i, i < b.cursor.line ∨ b.cursor.line + n ≤ i → result.lines[i]? = b.lines[i]?) ↔
      ∀ text w, Spills b m replacement o n text w → newText replacement o w = "" := by
  constructor
  · intro hall text w hspills
    have hline := hall (b.cursor.line + n) (.inr (Nat.le_refl _))
    rw [h.spilled text w hspills, hspills.line, Option.some.injEq] at hline
    have htext := congrArg String.toList hline
    rw [String.toList_append] at htext
    exact String.toList_eq_nil_iff.mp (List.append_left_eq_self.mp htext)
  · intro hnone i hi
    by_cases hbehind : i = b.cursor.line + n
    · subst hbehind
      by_cases hspills : ∃ text w, Spills b m replacement o n text w
      · obtain ⟨text, w, hspills⟩ := hspills
        rw [h.spilled text w hspills, hnone text w hspills, hspills.line, String.empty_append]
      · exact h.kept fun text w hw => hspills ⟨text, w, hw⟩
    · exact h.apart i (by omega)

end LineScript.LineBuffer
