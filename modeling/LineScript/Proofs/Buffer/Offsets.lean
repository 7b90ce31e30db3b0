import LineScript.Buffer.Basic
import LineScript.Proofs.Buffer.Position
import Mathlib.Algebra.GroupWithZero.Nat

/-! Positions as byte offsets into the text of some lines. A position on a line cuts the text in two. -/
namespace LineScript.Buffer

/-- The characters of some lines with line breaks between them. -/
def joined (lines : List String) : List Char :=
  (Text.join "\n" lines).toList

/-- The characters of some lines with a line break behind every one. -/
def broken (lines : List String) : List Char :=
  lines.flatMap fun line => line.toList ++ ['\n']

/-- The characters of some lines with a line break before every one. -/
def led (lines : List String) : List Char :=
  lines.flatMap fun line => '\n' :: line.toList

@[simp] theorem broken_nil : broken [] = [] :=
  rfl

@[simp] theorem broken_cons (line : String) (lines : List String) :
    broken (line :: lines) = line.toList ++ '\n' :: broken lines := by
  simp [broken]

@[simp] theorem broken_append (as bs : List String) : broken (as ++ bs) = broken as ++ broken bs :=
  List.flatMap_append

@[simp] theorem led_nil : led [] = [] :=
  rfl

@[simp] theorem led_cons (line : String) (lines : List String) :
    led (line :: lines) = '\n' :: line.toList ++ led lines :=
  rfl

@[simp] theorem led_append (as bs : List String) : led (as ++ bs) = led as ++ led bs :=
  List.flatMap_append

/-- A block of lines has as many line breaks before its lines as behind them. -/
theorem led_append_break (lines : List String) : led lines ++ ['\n'] = '\n' :: broken lines := by
  induction lines with
  | nil => rfl
  | cons line lines ih => simp [ih]

@[simp] theorem joined_nil : joined [] = [] :=
  rfl

@[simp] theorem joined_cons (line : String) (lines : List String) :
    joined (line :: lines) = line.toList ++ led lines := by
  induction lines generalizing line with
  | nil => simp [joined, Text.join]
  | cons next lines ih =>
    have hn := ih next
    simp only [joined, Text.join] at hn ⊢
    rw [String.intercalate_cons_cons, String.toList_append, hn]
    simp

theorem joined_append_break {lines : List String} (h : lines ≠ []) :
    joined lines ++ ['\n'] = broken lines := by
  cases lines with
  | nil => exact absurd rfl h
  | cons line lines => simp [led_append_break]

/-- The text of some lines around the text of a block of them. -/
theorem joined_around (pre post : List String) {block : List String} (h : block ≠ []) :
    joined (pre ++ block ++ post) = broken pre ++ joined block ++ led post := by
  induction pre with
  | nil =>
    cases block with
    | nil => exact absurd rfl h
    | cons line block => simp
  | cons line pre ih =>
    have hb : led (pre ++ block ++ post) = '\n' :: joined (pre ++ block ++ post) := by
      cases hl : pre ++ block ++ post with
      | nil => simp_all
      | cons next lines => simp
    rw [List.cons_append, List.cons_append, joined_cons, hb, ih, broken_cons]
    simp

theorem joined_concat (lines : List String) (last : String) :
    joined (lines ++ [last]) = broken lines ++ last.toList := by
  have h := joined_around lines [] (List.cons_ne_nil last [])
  simpa using h

theorem toList_text (b : LineBuffer) : b.text.toList = joined b.lines :=
  rfl

/-- The byte offset of a position: every line before it counts with its line break. -/
def offset (lines : List String) (p : Position) : Nat :=
  ((lines.take p.line).map fun line => Text.length line + 1).sum + p.column

theorem size_broken (lines : List String) :
    Text.size (broken lines) = (lines.map fun line => Text.length line + 1).sum := by
  induction lines with
  | nil => rfl
  | cons line lines ih =>
    rw [broken_cons, Text.size_append, Text.size_cons, ih, List.map_cons, List.sum_cons,
      Text.length_eq_size, show '\n'.utf8Size = 1 from rfl]
    omega

theorem offset_eq (lines : List String) (p : Position) :
    offset lines p = Text.size (broken (lines.take p.line)) + p.column := by
  rw [offset, size_broken]

/-- A position on a line with the characters before it and those behind it. -/
inductive Cut : List String → Position → List Char → List Char → Prop
  | intro (pre : List String) (head tail : String) (post : List String) :
    Cut (pre ++ (head ++ tail) :: post) ⟨pre.length, Text.length head⟩
      (broken pre ++ head.toList) (tail.toList ++ led post)

namespace Cut

variable {lines : List String} {p q : Position} {as bs cs ds ms : List Char}

theorem joined_eq (h : Cut lines p as bs) : joined lines = as ++ bs := by
  obtain ⟨pre, head, tail, post⟩ := h
  have hj := joined_around pre post (List.cons_ne_nil (head ++ tail) [])
  rw [List.append_assoc, List.singleton_append] at hj
  rw [hj]
  simp

theorem offset_eq (h : Cut lines p as bs) : offset lines p = Text.size as := by
  obtain ⟨pre, head, tail, post⟩ := h
  rw [Buffer.offset_eq, List.take_left, Text.size_append, Text.length_eq_size]

theorem line_lt (h : Cut lines p as bs) : p.line < lines.length := by
  obtain ⟨pre, head, tail, post⟩ := h
  simp

theorem clamped (h : Cut lines p as bs) : p.Clamped lines := by
  obtain ⟨pre, head, tail, post⟩ := h
  refine Position.clamped_iff.mpr (.inl ⟨head ++ tail, by simp, ?_⟩)
  rw [Text.length_eq_size, String.toList_append]
  exact Text.isBoundary_size _ _

/-- A position on a line cuts the text between two characters. -/
theorem boundary (h : Cut lines p as bs) : Text.IsBoundary (joined lines) (offset lines p) := by
  rw [h.joined_eq, h.offset_eq]
  exact Text.isBoundary_size as bs

theorem take_offset (h : Cut lines p as bs) : Text.take (joined lines) (offset lines p) = as := by
  rw [h.joined_eq, h.offset_eq, Text.take_size]

theorem drop_offset (h : Cut lines p as bs) : Text.drop (joined lines) (offset lines p) = bs := by
  rw [h.joined_eq, h.offset_eq, Text.drop_size]

/-- What stands between two positions is what the text before the later one has more. -/
theorem slice_offset (hp : Cut lines p as bs) (hq : Cut lines q (as ++ ms) ds) :
    Text.slice (joined lines) (offset lines p) (offset lines q) = ms := by
  rw [hq.joined_eq, hp.offset_eq, hq.offset_eq, Text.slice_size]

end Cut

/-- Behind the last line there is no text left. -/
theorem size_joined_le_offset (lines : List String) :
    Text.size (joined lines) ≤ offset lines ⟨lines.length, 0⟩ := by
  rw [offset_eq, List.take_length]
  cases lines with
  | nil => exact Nat.le_refl 0
  | cons line lines =>
    rw [← joined_append_break (List.cons_ne_nil line lines), Text.size_append]
    omega

/-- The characters before a position on a line. -/
def front (lines : List String) (p : Position) : List Char :=
  broken (lines.take p.line) ++ Text.take ((lines[p.line]?).getD "").toList p.column

/-- The characters behind a position on a line. -/
def back (lines : List String) (p : Position) : List Char :=
  Text.drop ((lines[p.line]?).getD "").toList p.column ++ led (lines.drop (p.line + 1))

/-- The lines before a later one are the text before a position, the rest of its line and the lines
between the two. -/
theorem broken_take {lines : List String} {p : Position} {i : Nat} (hp : p.line < i)
    (hi : i ≤ lines.length) : broken (lines.take i) = front lines p ++
      (Text.drop ((lines[p.line]?).getD "").toList p.column ++
        led ((lines.take i).drop (p.line + 1)) ++ ['\n']) := by
  have hl : p.line < lines.length := Nat.lt_of_lt_of_le hp hi
  have hlen : p.line < (lines.take i).length := by
    rw [List.length_take_of_le hi]
    exact hp
  have hsplit := List.take_append_drop p.line (lines.take i)
  rw [List.drop_eq_getElem_cons hlen, List.take_take, Nat.min_eq_left (Nat.le_of_lt hp),
    List.getElem_take] at hsplit
  have hbreak := led_append_break ((lines.take i).drop (p.line + 1))
  have hline := Text.take_append_drop lines[p.line].toList p.column
  rw [front, List.getElem?_eq_getElem hl, Option.getD_some, List.append_assoc,
    List.append_assoc, hbreak, ← List.append_assoc (Text.take _ _), hline, ← broken_cons,
    ← broken_append, hsplit]

theorem Position.Clamped.cut {lines : List String} {p : Position} (h : p.Clamped lines)
    (hl : p.line < lines.length) : Cut lines p (front lines p) (back lines p) := by
  obtain ⟨line, hs, hc⟩ := h.exists_line hl
  obtain ⟨_, he⟩ := List.getElem?_eq_some_iff.mp hs
  have hline : Text.before line p.column ++ Text.after line p.column = line :=
    String.toList_inj.mp (by simp)
  have hlines : lines.take p.line ++ line :: lines.drop (p.line + 1) = lines := by
    rw [← he, ← List.drop_eq_getElem_cons hl, List.take_append_drop]
  have hcut := Cut.intro (lines.take p.line) (Text.before line p.column) (Text.after line p.column)
    (lines.drop (p.line + 1))
  rw [hline, hlines, List.length_take_of_le (Nat.le_of_lt hl), Text.length_eq_size,
    Text.toList_before, Text.toList_after, hc.size_take] at hcut
  unfold front back
  rwa [hs]

theorem back_behind (lines : List String) : back lines ⟨lines.length, 0⟩ = [] := by
  simp [back, List.drop_of_length_le]

theorem back_append_right (pre post : List String) (i column : Nat) :
    back (pre ++ post) ⟨pre.length + i, column⟩ = back post ⟨i, column⟩ := by
  have hget : (pre ++ post)[pre.length + i]? = post[i]? := by
    rw [List.getElem?_append_right (Nat.le_add_right _ _), Nat.add_sub_cancel_left]
  have hdrop : (pre ++ post).drop (pre.length + i + 1) = post.drop (i + 1) := by
    rw [Nat.add_assoc, ← List.drop_drop, List.drop_left]
  rw [back, back, hget, hdrop]

section
variable {lines : List String} {p q : Position}

/-- A position on a line has a smaller offset than the positions on lines behind it. -/
theorem offset_lt (hp : p.Clamped lines) (hq : q.line < lines.length) (h : p < q) :
    offset lines p < offset lines q := by
  rcases Position.lt_iff.mp h with hline | ⟨hline, hcolumn⟩
  · have hsize : offset lines p = Text.size (front lines p) := (hp.cut (by omega)).offset_eq
    have hbreak : 0 < Text.size ['\n'] := by decide
    rw [offset_eq lines q, broken_take hline (Nat.le_of_lt hq), hsize, Text.size_append, Text.size_append]
    omega
  · rw [offset, offset, hline]
    omega

/-- The text behind a position, if there is any, tells which position it is. -/
theorem Position.Clamped.eq_of_back (hp : p.Clamped lines) (hq : q.Clamped lines)
    (h : back lines p = back lines q) (hsome : back lines p ≠ []) : p = q := by
  have hline {r : Position} (hr : r.Clamped lines) (hback : back lines r ≠ []) : r.line < lines.length := by
    refine Nat.lt_of_not_le fun hbehind => hback ?_
    rw [hr.eq_behind hbehind, back_behind]
  have hpl := hline hp hsome
  have hql := hline hq (h ▸ hsome)
  have hfront : front lines p = front lines q := by
    have hjoined := (hp.cut hpl).joined_eq.symm.trans (hq.cut hql).joined_eq
    rw [h] at hjoined
    exact List.append_cancel_right hjoined
  have hoffset : offset lines p = offset lines q := by
    rw [(hp.cut hpl).offset_eq, (hq.cut hql).offset_eq, hfront]
  rcases Position.lt_trichotomy p q with hlt | heq | hlt
  · exact absurd hoffset (Nat.ne_of_lt (offset_lt hp hql hlt))
  · exact heq
  · exact absurd hoffset.symm (Nat.ne_of_lt (offset_lt hq hpl hlt))

end

end LineScript.Buffer
