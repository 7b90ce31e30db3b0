import LineScript.Buffer.Search
import LineScript.Proofs.Buffer.Position
import LineScript.Proofs.Search.Expression

/-! Every hit of a search is a match that the matcher found in the line of the hit. -/
namespace LineScript.LineBuffer

open Buffer (Position Hit)
open Search (Matcher Flags)

/-- A part of a text that a matcher finds. -/
def Finds (m : Matcher) (text : String) (start stop : Nat) : Prop :=
  ∃ column w, m.find? text column = some w ∧ w.start = start ∧ w.stop = stop

/-- A hit in some lines that a matcher has found. -/
def IsMatch (m : Matcher) (lines : List String) (h : Hit) : Prop :=
  ∃ text stop, lines[h.position.line]? = some text ∧ Finds m text h.position.column stop ∧
    h.length = stop - h.position.column

variable {m : Matcher} {lines : List String}

theorem Finds.bounds (hm : m.Sound) {text : String} {start stop : Nat} (h : Finds m text start stop) :
    start ≤ stop ∧ Text.IsBoundary text.toList start ∧ Text.IsBoundary text.toList stop := by
  obtain ⟨column, w, hw, rfl, rfl⟩ := h
  obtain ⟨-, hle, hstart, hstop⟩ := hm text column w hw
  exact ⟨hle, hstart, hstop⟩

theorem IsMatch.position_clamped (hm : m.Sound) {h : Hit} (hh : IsMatch m lines h) :
    h.position.Clamped lines := by
  obtain ⟨text, stop, hs, hf, -⟩ := hh
  exact (Position.clamped_on hs).mpr (hf.bounds hm).2.1

theorem IsMatch.stop_clamped (hm : m.Sound) {h : Hit} (hh : IsMatch m lines h) :
    h.stop.Clamped lines := by
  obtain ⟨text, stop, hs, hf, hlength⟩ := hh
  obtain ⟨hle, -, hstop⟩ := hf.bounds hm
  have hend : h.position.column + h.length = stop := by omega
  refine Position.clamped_iff.mpr (.inl ⟨text, hs, ?_⟩)
  unfold Hit.stop
  rwa [hend]

theorem firstHit_isMatch {index column : Nat} {below : List String}
    (hb : ∀ k text, below[k]? = some text → lines[index + k]? = some text)
    (h : (firstHit m index column below).found) :
    IsMatch m lines (firstHit m index column below) := by
  induction below generalizing index column with
  | nil => exact nomatch h
  | cons text rest ih =>
    unfold firstHit at h ⊢
    split at h
    · next w hw => exact ⟨text, w.stop, hb 0 text rfl, ⟨column, w, hw, rfl, rfl⟩, rfl⟩
    · refine ih (fun k next hk => ?_) h
      rw [Nat.add_right_comm]
      exact hb (k + 1) next hk

theorem searchForward_isMatch {b : LineBuffer} {inLine : Bool} {start : Position}
    (h : (b.searchForward m inLine start).found) :
    IsMatch m b.lines (b.searchForward m inLine start) := by
  refine firstHit_isMatch (fun k text hk => ?_) h
  split at hk
  · rw [List.getElem?_take, List.getElem?_drop] at hk
    split at hk
    · exact hk
    · exact nomatch hk
  · rwa [List.getElem?_drop] at hk

/-- The scan for the last match ends with a match, if it starts with one or with none. -/
theorem lastMatchFrom_finds {text : String} {limit fuel pos : Nat} {best : Option (Nat × Nat)}
    (hbest : ∀ x, best = some x → Finds m text x.1 x.2) {x : Nat × Nat}
    (h : lastMatchFrom m text limit fuel pos best = some x) : Finds m text x.1 x.2 := by
  have hnext {w : Regex.Match} {pos : Nat} {best : Option (Nat × Nat)}
      (hw : m.find? text pos = some w) (hbest : ∀ x, best = some x → Finds m text x.1 x.2) :
      ∀ x, (if w.stop ≤ limit then some (w.start, w.stop) else best) = some x →
        Finds m text x.1 x.2 := by
    intro x hx
    split at hx
    · obtain rfl := Option.some.inj hx
      exact ⟨pos, w, hw, rfl, rfl⟩
    · exact hbest x hx
  fun_induction lastMatchFrom m text limit fuel pos best with
  | case1 | case2 | case3 | case4 => exact hbest x h
  | case5 fuel pos best hpos w hw hlimit next hend => exact hnext hw hbest x h
  | case6 fuel pos best hpos w hw hlimit next hend ih => exact ih (hnext hw hbest) h

theorem lastMatchBefore_finds {text : String} {column : Nat} {x : Nat × Nat}
    (h : lastMatchBefore m text column = some x) : Finds m text x.1 x.2 :=
  lastMatchFrom_finds (by simp) h

theorem lastHit?_isMatch {index : Nat} {above : List String}
    (ha : ∀ k text, above[k]? = some text → lines[index - k]? = some text) {h : Hit}
    (hh : lastHit? m index above = some h) : IsMatch m lines h := by
  induction above generalizing index with
  | nil => exact nomatch hh
  | cons text rest ih =>
    unfold lastHit? at hh
    split at hh
    · next start stop hx =>
      cases hh
      exact ⟨text, stop, ha 0 text rfl, lastMatchBefore_finds hx, rfl⟩
    · refine ih (fun k next hk => ?_) hh
      rw [Nat.sub_sub, Nat.add_comm]
      exact ha (k + 1) next hk

theorem getElem?_of_reverse_take (lines : List String) {top : Nat} (ht : top < lines.length) :
    ∀ k text, (lines.take top).reverse[k]? = some text → lines[top - 1 - k]? = some text := by
  intro k text hk
  obtain ⟨hlt, he⟩ := List.getElem?_eq_some_iff.mp hk
  rw [List.length_reverse, List.length_take_of_le (Nat.le_of_lt ht)] at hlt
  rw [List.getElem_reverse, List.getElem_take] at he
  rw [← he, List.getElem?_eq_getElem (by omega)]
  simp [List.length_take_of_le (Nat.le_of_lt ht)]

theorem searchBackward_isMatch {b : LineBuffer} {inLine : Bool} {start : Position}
    (h : (b.searchBackward m inLine start).found) :
    IsMatch m b.lines (b.searchBackward m inLine start) := by
  unfold searchBackward at h ⊢
  cases hlast : b.lines.getLast? with
  | none =>
    rw [hlast] at h
    exact nomatch h
  | some last =>
    rw [hlast] at h
    dsimp only at h ⊢
    have hpos : 0 < b.lines.length := by
      cases hl : b.lines with
      | nil => simp [hl] at hlast
      | cons => simp
    generalize htop : (if b.lines.length ≤ start.line then
      (⟨b.lines.length - 1, Text.length last⟩ : Position) else start) = top at h ⊢
    have hlt : top.line < b.lines.length := by
      rw [← htop]
      split
      · exact Nat.sub_lt hpos Nat.one_pos
      · omega
    split at h
    · next first stop hx =>
      exact ⟨b.lines[top.line], stop, List.getElem?_eq_getElem hlt,
        by simpa [hlt, Hit.of] using lastMatchBefore_finds hx, rfl⟩
    · split at h
      · exact nomatch h
      · next hline =>
        rw [if_neg hline]
        cases hhit : lastHit? m (top.line - 1) (b.lines.take top.line).reverse with
        | none =>
          rw [hhit] at h
          exact nomatch h
        | some hit => exact lastHit?_isMatch (getElem?_of_reverse_take b.lines hlt) hhit

theorem findLine?_lt {b : LineBuffer} {i : Nat} (h : b.findLine? m 0 = some i) : i < b.lines.length := by
  simp only [findLine?, List.drop_zero, Nat.zero_add, Option.map_id'] at h
  exact (List.findIdx?_eq_some_iff_getElem.mp h).1

/-- The hit of a search. -/
def sought (b : LineBuffer) (m : Matcher) (f : Flags) : Hit :=
  if f.backwards then b.searchBackward m f.inLine (b.searchStart f)
  else b.searchForward m f.inLine (b.searchStart f)

theorem sought_isMatch {b : LineBuffer} {f : Flags} (h : (b.sought m f).found) :
    IsMatch m b.lines (b.sought m f) := by
  unfold sought at h ⊢
  split at h
  · next hb =>
    rw [if_pos hb]
    exact searchBackward_isMatch h
  · next hb =>
    rw [if_neg hb]
    exact searchForward_isMatch h

/-- A search changes neither the lines nor the mark, and it moves the cursor only to its hit. -/
structure Searched (b : LineBuffer) (hit : Hit) (result : LineBuffer) : Prop where
  lines : result.lines = b.lines
  mark : result.mark = b.mark
  cursor : result.cursor = b.cursor ∨
    (hit.found ∧ (result.cursor = hit.position ∨ result.cursor = hit.stop))

theorem search_searched (b : LineBuffer) (m : Matcher) (f : Flags) (advance : Bool) :
    Searched b (b.sought m f) (b.search m f advance).1 := by
  have hsearch : b.search m f advance =
      let hit := b.sought m f
      let b := { b with lastSearch := hit }
      if hit.found then
        let b := { b with lastHit := b.hitText hit }
        if advance then ({ b with cursor := if f.backwards then hit.position else hit.stop }, hit)
        else (b, hit)
      else ({ b with lastHit := "" }, hit) := rfl
  rw [hsearch]
  generalize b.sought m f = hit
  dsimp only
  split
  · next hfound =>
    split
    · refine ⟨rfl, rfl, .inr ⟨hfound, ?_⟩⟩
      dsimp only
      split
      · exact .inl rfl
      · exact .inr rfl
    · exact ⟨rfl, rfl, .inl rfl⟩
  · exact ⟨rfl, rfl, .inl rfl⟩

end LineScript.LineBuffer
