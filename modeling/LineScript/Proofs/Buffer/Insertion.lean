import LineScript.Buffer.Edit
import LineScript.Proofs.Buffer.Offsets

/-! Insertion puts a text at an offset: the lines around the position are cut there and put together
again with the inserted lines between the two parts. -/
namespace LineScript.LineBuffer

open Buffer

/-- The text that an insertion puts into the buffer. -/
def insertion (lines : List String) (newline : Bool) : String :=
  Text.join "\n" lines ++ if newline then "\n" else ""

@[simp] theorem edit_lines (b : LineBuffer) (lines : List String) : (b.edit lines).lines = lines :=
  rfl

section
variable (b : LineBuffer) (p : Position) (lines : List String) (newline : Bool)

@[simp] theorem toList_splitAt_fst :
    (b.splitAt p).1.toList = Text.take ((b.lines[p.line]?).getD "").toList p.column :=
  Text.toList_before _ _

@[simp] theorem toList_splitAt_snd :
    (b.splitAt p).2.toList = Text.drop ((b.lines[p.line]?).getD "").toList p.column :=
  Text.toList_after _ _

theorem splitAt_fst_append_snd : (b.splitAt p).1 ++ (b.splitAt p).2 = (b.lines[p.line]?).getD "" := by
  apply String.toList_inj.mp
  rw [String.toList_append, toList_splitAt_fst, toList_splitAt_snd, Text.take_append_drop]

end

/-- The inserted lines, of which the first is joined to the text before the position. -/
def opened (head : String) (lines : List String) : List String :=
  (head ++ lines.headD "") :: lines.drop 1

theorem opened_ne_nil (head : String) (lines : List String) : opened head lines ≠ [] :=
  List.cons_ne_nil _ _

theorem joined_opened (head : String) (lines : List String) :
    joined (opened head lines) = head.toList ++ joined lines := by
  cases lines <;> simp [opened]

theorem toList_insertion (lines : List String) (newline : Bool) :
    (insertion lines newline).toList = joined lines ++ if newline then ['\n'] else [] := by
  cases newline <;> simp [insertion, joined]

/-- The lines after one text has been inserted into a line. -/
def inlined (b : LineBuffer) (p : Position) (new : String) : List String :=
  b.lines.set p.line ((b.splitAt p).1 ++ new ++ (b.splitAt p).2)

section
variable (b : LineBuffer) (q : Position) {p : Position} (hp : q.clamp b.lines = p)
include hp

theorem insert_nothing : b.insert q [] false = (b, p) := by
  simp [insert, hp]

theorem insert_one (hl : p.line < b.lines.length) (new : String) : b.insert q [new] false =
    ({ b with lines := b.inlined p new, changed := true }, ⟨p.line, p.column + Text.length new⟩) := by
  simp [insert, hp, hl, inlined]

theorem insert_newline (lines : List String) : b.insert q lines true =
    (b.edit (b.lines.take p.line ++ (opened (b.splitAt p).1 lines ++
        if p.line < b.lines.length then [(b.splitAt p).2] else []) ++ b.lines.drop (p.line + 1)),
      ⟨p.line + (opened (b.splitAt p).1 lines).length, 0⟩) := by
  have hb : (lines.isEmpty && !true) = false := by simp
  have hf : ¬(decide (lines.length = 1) && !true && decide (p.line < b.lines.length)) = true := by simp
  unfold insert
  simp only [hp, hb, hf, if_true, if_false, Bool.false_eq_true]
  split <;> simp [opened]

theorem insert_lines {lines : List String} (hn : lines ≠ [])
    (hl : lines.length = 1 → b.lines.length ≤ p.line) : b.insert q lines false =
    (b.edit (b.lines.take p.line ++ ((opened (b.splitAt p).1 lines).dropLast ++
        [(opened (b.splitAt p).1 lines).getLastD "" ++ (b.splitAt p).2]) ++
          b.lines.drop (p.line + 1)),
      ⟨p.line + ((opened (b.splitAt p).1 lines).length - 1),
        Text.length ((opened (b.splitAt p).1 lines).getLastD "")⟩) := by
  have hb : (lines.isEmpty && !false) = false := by simpa using hn
  have hf : ¬(decide (lines.length = 1) && !false && decide (p.line < b.lines.length)) = true := by
    simpa using hl
  unfold insert
  simp only [hp, hb, hf, if_false, Bool.false_eq_true]
  rfl

end

/-- An insertion puts a block of lines in the place of the line of its position. The last line of the
block ends with the text that was behind the position, and the result is the place before that. -/
structure Inserts (b : LineBuffer) (p : Position) (inserted : String) (result : LineBuffer × Position)
    (block : List String) (head : String) : Prop where
  lines : result.1.lines =
    b.lines.take p.line ++ (block ++ [head ++ (b.splitAt p).2]) ++ b.lines.drop (p.line + 1)
  position : result.2 = ⟨p.line + block.length, Text.length head⟩
  text : broken block ++ head.toList = (b.splitAt p).1.toList ++ inserted.toList

theorem length_splitAt_fst {b : LineBuffer} {p : Position} (hc : p.Clamped b.lines)
    (hl : p.line < b.lines.length) : Text.length (b.splitAt p).1 = p.column := by
  obtain ⟨line, hs, hb⟩ := hc.exists_line hl
  rw [Text.length_eq_size, toList_splitAt_fst, hs]
  exact hb

/-- Setting a line is putting a block of one line in its place. -/
theorem set_eq_block {lines : List String} {i : Nat} (hl : i < lines.length) (line : String) :
    lines.set i line = lines.take i ++ ([] ++ [line]) ++ lines.drop (i + 1) := by
  rw [List.set_eq_take_append_cons_drop, if_pos hl]
  simp

theorem inserts_nothing (b : LineBuffer) {p : Position} (hc : p.Clamped b.lines)
    (hl : p.line < b.lines.length) : Inserts b p (insertion [] false) (b, p) [] (b.splitAt p).1 := by
  refine ⟨?_, ?_, ?_⟩
  · rw [splitAt_fst_append_snd, ← set_eq_block hl, List.getElem?_eq_getElem hl, Option.getD_some,
      List.set_getElem_self]
  · rw [length_splitAt_fst hc hl]
    rfl
  · simp [toList_insertion]

theorem inserts_one (b : LineBuffer) {p : Position} (hc : p.Clamped b.lines)
    (hl : p.line < b.lines.length) (new : String) :
    Inserts b p (insertion [new] false)
      ({ b with lines := b.inlined p new, changed := true }, ⟨p.line, p.column + Text.length new⟩)
      [] ((b.splitAt p).1 ++ new) := by
  refine ⟨set_eq_block hl _, ?_, ?_⟩
  · rw [← length_splitAt_fst hc hl]
    simp [Text.length_eq_size]
  · simp [toList_insertion]

theorem insert_inserts (b : LineBuffer) (q : Position) {p : Position} (hp : q.clamp b.lines = p)
    (hl : p.line < b.lines.length) (lines : List String) (newline : Bool) :
    ∃ block head, Inserts b p (insertion lines newline) (b.insert q lines newline) block head := by
  have hc : p.Clamped b.lines := hp ▸ q.clamp_clamped b.lines
  cases newline with
  | true =>
    have hb := opened_ne_nil (b.splitAt p).1 lines
    rw [insert_newline b q hp]
    refine ⟨opened (b.splitAt p).1 lines, "", ?_, ?_, ?_⟩
    · simp [hl]
    · simp [Text.length]
    · rw [toList_insertion, ← joined_append_break hb, joined_opened]
      simp
  | false =>
    match lines with
    | [] =>
      rw [insert_nothing b q hp]
      exact ⟨_, _, inserts_nothing b hc hl⟩
    | [new] =>
      rw [insert_one b q hp hl]
      exact ⟨_, _, inserts_one b hc hl new⟩
    | first :: second :: rest =>
      have hj := joined_opened (b.splitAt p).1 (first :: second :: rest)
      have hb := opened_ne_nil (b.splitAt p).1 (first :: second :: rest)
      rw [insert_lines b q hp (List.cons_ne_nil _ _) (by simp)]
      generalize opened (b.splitAt p).1 (first :: second :: rest) = block at hj hb
      have hlast : block.getLastD "" = block.getLast hb := by
        rw [List.getLastD_eq_getLast?, List.getLast?_eq_some_getLast hb, Option.getD_some]
      refine ⟨block.dropLast, block.getLastD "", edit_lines b _, ?_, ?_⟩
      · rw [List.length_dropLast]
      · rw [toList_insertion, ← joined_concat, hlast, List.dropLast_concat_getLast, hj]
        simp

/-- The result of an insertion is a place of the new text: the inserted text ends there. -/
theorem Inserts.cut {b : LineBuffer} {p : Position} {inserted head : String}
    {result : LineBuffer × Position} {block : List String}
    (h : Inserts b p inserted result block head) (hl : p.line < b.lines.length) :
    Cut result.1.lines result.2 (front b.lines p ++ inserted.toList) (back b.lines p) := by
  have hcut := Cut.intro (b.lines.take p.line ++ block) head (b.splitAt p).2
    (b.lines.drop (p.line + 1))
  have hlines : b.lines.take p.line ++ block ++
      (head ++ (b.splitAt p).2) :: b.lines.drop (p.line + 1) = result.1.lines := by
    rw [h.lines]
    simp
  have hfront : broken (b.lines.take p.line ++ block) ++ head.toList =
      front b.lines p ++ inserted.toList := by
    rw [broken_append, List.append_assoc, h.text, toList_splitAt_fst, front, List.append_assoc]
  have hposition : (⟨(b.lines.take p.line ++ block).length, Text.length head⟩ : Position) =
      result.2 := by
    rw [h.position, List.length_append, List.length_take_of_le (Nat.le_of_lt hl)]
  rw [hlines, hposition, hfront, toList_splitAt_snd] at hcut
  exact hcut

/-- What an insertion behind the last line adds. -/
theorem insert_behind (b : LineBuffer) (q : Position) {p : Position} (hp : q.clamp b.lines = p)
    (hl : b.lines.length ≤ p.line) (lines : List String) (newline : Bool)
    (h : lines ≠ [] ∨ newline = true) :
    let result := b.insert q lines newline
    result.1.lines = b.lines ++ (if lines = [] then [""] else lines) ∧
      result.2 = if newline then ⟨result.1.lines.length, 0⟩ else result.1.endPosition := by
  have hc : p.Clamped b.lines := hp ▸ q.clamp_clamped b.lines
  obtain rfl := hc.eq_behind hl
  have hsplit : b.splitAt ⟨b.lines.length, 0⟩ = ("", "") := by
    simp [splitAt, Text.before, Text.after]
  have hopened : opened "" lines = if lines = [] then [""] else lines := by
    cases lines <;> simp [opened]
  have hdrop : b.lines.drop (b.lines.length + 1) = [] := List.drop_of_length_le (by omega)
  cases newline with
  | true =>
    rw [insert_newline b q hp, hsplit]
    simp [hopened, hdrop]
  | false =>
    have hn : lines ≠ [] := by simpa using h
    rw [insert_lines b q hp hn (fun _ => Nat.le_refl _), hsplit]
    rw [if_neg hn] at hopened
    simp only [hopened, hdrop, edit_lines, List.getLastD_eq_getLast?,
      List.getLast?_eq_some_getLast hn, Option.getD_some, String.append_empty,
      List.dropLast_concat_getLast, List.take_length, List.append_nil, if_neg hn, endPosition,
      List.getLast?_append, Option.some_or, List.length_append]
    refine ⟨trivial, ?_⟩
    have hlen := List.length_pos_iff.mpr hn
    simp
    omega

end LineScript.LineBuffer
