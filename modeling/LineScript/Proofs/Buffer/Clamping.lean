import LineScript.Buffer.File
import LineScript.Buffer.Replace
import LineScript.Proofs.Buffer.Hits
import LineScript.Proofs.Buffer.Removal

/-! Which operations of a buffer leave the cursor and the mark at positions of it: all of them but an
insertion of one text into a line, which may leave a position inside a character. -/
namespace LineScript

open Buffer (Position Hit)

namespace Buffer.Position

/-- A position inside some lines, though perhaps inside a character. -/
def Inside (p : Position) (lines : List String) : Prop :=
  p.line ≤ lines.length ∧ p.column ≤ (lines[p.line]?).elim 0 Text.length

variable {p : Position} {lines : List String}

theorem Clamped.inside (h : p.Clamped lines) : p.Inside lines := by
  refine ⟨h.line_le, ?_⟩
  rcases clamped_iff.mp h with ⟨line, hs, hb⟩ | rfl
  · rw [hs, Option.elim_some, Text.length_eq_size]
    exact hb.le_size
  · exact Nat.zero_le _

theorem start_clamped (lines : List String) : Clamped {} lines := by
  cases lines with
  | nil => exact clamped_behind []
  | cons line lines => exact (clamped_on rfl).mpr (Text.isBoundary_zero _)

theorem Clamped.append (h : p.Clamped lines) (more : List String) : p.Clamped (lines ++ more) := by
  rcases clamped_iff.mp h with ⟨line, hs, hb⟩ | rfl
  · obtain ⟨hl, -⟩ := List.getElem?_eq_some_iff.mp hs
    exact (clamped_on ((List.getElem?_append_left hl).trans hs)).mpr hb
  · cases more with
    | nil => simpa using h
    | cons line more =>
      have hs : (lines ++ line :: more)[lines.length]? = some line := by simp
      exact clamped_iff.mpr (.inl ⟨line, hs, Text.isBoundary_zero _⟩)

theorem Inside.append (h : p.Inside lines) (more : List String) : p.Inside (lines ++ more) := by
  obtain ⟨hl, hc⟩ := h
  refine ⟨by simp; omega, ?_⟩
  rcases Nat.lt_or_ge p.line lines.length with hlt | hge
  · rwa [List.getElem?_append_left hlt]
  · rw [List.getElem?_eq_none hge] at hc
    exact Nat.le_trans hc (Nat.zero_le _)

end Buffer.Position

namespace LineBuffer

open Search (Matcher Flags)

/-- Something that holds of the cursor and of the mark. -/
structure Placed (P : Position → List String → Prop) (b : LineBuffer) : Prop where
  cursor : P b.cursor b.lines
  mark : P b.mark b.lines

theorem Placed.normalize_eq {b : LineBuffer} (h : b.Placed Position.Clamped) : b.normalize = b := by
  rw [normalize, show b.cursor.clamp b.lines = b.cursor from h.cursor,
    show b.mark.clamp b.lines = b.mark from h.mark]

/-- What holds of the positions of some lines, and still holds when lines are added behind them. -/
structure Lasting (P : Position → List String → Prop) : Prop where
  of_clamped : ∀ p lines, p.Clamped lines → P p lines
  append : ∀ p lines more, P p lines → P p (lines ++ more)

theorem clamped_lasting : Lasting Position.Clamped :=
  ⟨fun _ _ h => h, fun _ _ more h => h.append more⟩

theorem inside_lasting : Lasting Position.Inside :=
  ⟨fun _ _ h => h.inside, fun _ _ more h => h.append more⟩

section
variable {P : Position → List String → Prop} (hP : Lasting P)
include hP

theorem placed_ofLines (lines : List String) : Placed P (ofLines lines) :=
  ⟨hP.of_clamped _ _ (Position.start_clamped lines), hP.of_clamped _ _ (Position.start_clamped lines)⟩

theorem placed_edit (b : LineBuffer) (lines : List String) : Placed P (b.edit lines) :=
  ⟨hP.of_clamped _ _ (Position.clamp_clamped _ _), hP.of_clamped _ _ (Position.clamp_clamped _ _)⟩

theorem placed_setLines (b : LineBuffer) (lines : List String) : Placed P (b.setLines lines) :=
  ⟨hP.of_clamped _ _ (Position.start_clamped lines), hP.of_clamped _ _ (Position.start_clamped lines)⟩

theorem placed_loaded (b : LineBuffer) (lines : List String) (path : String) :
    Placed P (b.loaded lines path) :=
  ⟨(placed_setLines hP b lines).cursor, (placed_setLines hP b lines).mark⟩

variable {b : LineBuffer} (h : Placed P b)
include h

theorem placed_append (lines : List String) : Placed P (b.append lines) :=
  ⟨hP.append _ _ lines h.cursor, hP.append _ _ lines h.mark⟩

theorem placed_setCursor (p : Position) : Placed P (b.setCursor p) :=
  ⟨hP.of_clamped _ _ (Position.clamp_clamped _ _), h.mark⟩

theorem placed_setMark (p : Position) : Placed P (b.setMark p) :=
  ⟨h.cursor, hP.of_clamped _ _ (Position.clamp_clamped _ _)⟩

theorem placed_pop : Placed P b.pop.1 := by
  unfold pop
  split
  · exact placed_edit hP _ _
  · exact h

theorem placed_shift : Placed P b.shift.1 := by
  unfold shift
  split
  · exact h
  · exact placed_edit hP _ _

theorem placed_search {m : Matcher} (hm : m.Sound) (f : Flags) (advance : Bool) :
    Placed P (b.search m f advance).1 := by
  obtain ⟨hlines, hmark, hcursor⟩ := search_searched b m f advance
  refine ⟨?_, by rw [hmark, hlines]; exact h.mark⟩
  rw [hlines]
  rcases hcursor with hcursor | ⟨hfound, hcursor | hcursor⟩ <;> rw [hcursor]
  · exact h.cursor
  · exact hP.of_clamped _ _ ((sought_isMatch hfound).position_clamped hm)
  · exact hP.of_clamped _ _ ((sought_isMatch hfound).stop_clamped hm)

theorem placed_replace (m : Matcher) (replacement : String) (o : ReplaceOptions) :
    Placed P (b.replace m replacement o).1 := by
  unfold replace
  split
  · exact h
  · dsimp only
    generalize replaceLines (chosen m o.filter (b.replaceRange o)) _ 0 o.count b.lines = r
    split
    · exact h
    · exact placed_edit hP _ _

theorem placed_delete (p q : Position) : Placed P (b.delete p q).1 := by
  rw [delete_eq]
  split
  · exact h
  · exact placed_edit hP _ _

theorem placed_adapt (pattern : Matcher) (replacement : String) (anchor : Option Matcher)
    (above : Bool) : Placed P (b.adapt pattern replacement anchor above).1 := by
  unfold adapt
  split
  · split
    · exact h
    · exact placed_edit hP _ _
  · split
    · exact placed_edit hP _ _
    · exact placed_append hP h _

omit hP in
theorem placed_stored (append : Bool) : Placed P (b.stored append) := by
  unfold stored
  split
  · exact h
  · exact ⟨h.cursor, h.mark⟩

end

/-- Whether an insertion of one text into a line leaves a position inside a character: it stands in
the line behind the insertion, and there its column splits a character of the new text. -/
def Splits (b : LineBuffer) (p : Position) (new : String) (x : Position) : Prop :=
  p.line < b.lines.length ∧ x.line = p.line ∧ p.column < x.column ∧
    ¬Text.IsBoundary (new.toList ++ (b.splitAt p).2.toList) (x.column - p.column)

section
variable {b : LineBuffer} {p x : Position} (hp : p.Clamped b.lines) (hl : p.line < b.lines.length)
include hp hl

theorem clamped_inlined_iff (new : String) (hx : x.Clamped b.lines) :
    x.Clamped (b.inlined p new) ↔ ¬b.Splits p new x := by
  unfold inlined
  by_cases hline : x.line = p.line
  · have hcol : Text.size (b.splitAt p).1.toList = p.column := by
      rw [← Text.length_eq_size, length_splitAt_fst hp hl]
    have hold : b.lines[x.line]? = some ((b.splitAt p).1 ++ (b.splitAt p).2) := by
      rw [splitAt_fst_append_snd, hline, List.getElem?_eq_getElem hl, Option.getD_some]
    have hnew : (b.lines.set p.line ((b.splitAt p).1 ++ new ++ (b.splitAt p).2))[x.line]? =
        some ((b.splitAt p).1 ++ new ++ (b.splitAt p).2) := by
      rw [hline, List.getElem?_set_self hl]
    rw [Position.clamped_on hold, String.toList_append] at hx
    rw [Position.clamped_on hnew, String.append_assoc, String.toList_append, String.toList_append]
    rcases Nat.lt_or_ge p.column x.column with hlt | hge
    · obtain ⟨k, hk⟩ := Nat.exists_eq_add_of_le (Nat.le_of_lt hlt)
      have hsub : x.column - p.column = k := by omega
      rw [hk, ← hcol, Text.isBoundary_append_add]
      constructor
      · rintro hb ⟨-, -, -, hn⟩
        rw [hsub] at hn
        exact hn hb
      · intro hs
        refine Decidable.of_not_not fun hn => hs ⟨hl, hline, hlt, ?_⟩
        rwa [hsub]
    · have hle : x.column ≤ Text.size (b.splitAt p).1.toList := by rwa [hcol]
      rw [Text.isBoundary_append_of_le hle] at hx ⊢
      exact iff_of_true hx fun hs => Nat.not_lt_of_le hge hs.2.2.1
  · rw [Position.clamped_congr (List.length_set ..) (List.getElem?_set_ne (Ne.symm hline))]
    exact iff_of_true hx fun h => hline h.2.1

omit hp in
theorem inside_inlined (new : String) (hx : x.Inside b.lines) :
    x.Inside (b.inlined p new) := by
  obtain ⟨hxl, hxc⟩ := hx
  unfold inlined
  refine ⟨by rwa [List.length_set], ?_⟩
  by_cases hline : x.line = p.line
  · rw [hline, List.getElem?_eq_getElem hl, Option.elim_some] at hxc
    have hold := splitAt_fst_append_snd b p
    rw [List.getElem?_eq_getElem hl, Option.getD_some] at hold
    rw [← hold, Text.length_append] at hxc
    rw [hline, List.getElem?_set_self hl, Option.elim_some, Text.length_append, Text.length_append]
    omega
  · rwa [List.getElem?_set_ne (Ne.symm hline)]

end

/-- An insertion changes nothing, puts one text into a line, or is an edit. -/
theorem insert_cases (b : LineBuffer) (q : Position) (lines : List String) (newline : Bool) :
    (b.insert q lines newline).1 = b ∨
      (∃ new, lines = [new] ∧ newline = false ∧ (q.clamp b.lines).line < b.lines.length) ∨
        ∃ edited, (b.insert q lines newline).1 = b.edit edited := by
  cases newline with
  | true => exact .inr (.inr ⟨_, congrArg Prod.fst (insert_newline b q rfl lines)⟩)
  | false =>
    match lines with
    | [] => exact .inl (congrArg Prod.fst (insert_nothing b q rfl))
    | [new] =>
      rcases Nat.lt_or_ge (q.clamp b.lines).line b.lines.length with hl | hl
      · exact .inr (.inl ⟨new, rfl, rfl, hl⟩)
      · exact .inr (.inr ⟨_, congrArg Prod.fst
          (insert_lines b q rfl (List.cons_ne_nil _ _) fun _ => hl)⟩)
    | first :: second :: rest =>
      exact .inr (.inr ⟨_, congrArg Prod.fst
        (insert_lines b q rfl (List.cons_ne_nil _ _) (by simp))⟩)

end LineBuffer

end LineScript
