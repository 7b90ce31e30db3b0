import LineScript.Proofs.Buffer.Removal

/-! The edits of a buffer as splices of its text. Positions that the edits are given are moved into the
buffer first, and two of them are put in order; the text is cut at the offsets of what they become. -/
namespace LineScript.LineBuffer

open Buffer

/-- The ends of a part of the text: they are in order and cut the text between characters. -/
structure AreEnds (b : LineBuffer) (s e : Position) : Prop where
  start_clamped : s.Clamped b.lines
  stop_clamped : e.Clamped b.lines
  le : s ≤ e
  offset_le : offset b.lines s ≤ offset b.lines e
  start_boundary : s.line < b.lines.length → Text.IsBoundary b.text.toList (offset b.lines s)
  stop_boundary : e.line < b.lines.length → Text.IsBoundary b.text.toList (offset b.lines e)

/-- What an insertion at a position `p` of the buffer has to come to. -/
structure InsertSplices (b : LineBuffer) (p : Position) (lines : List String) (newline : Bool)
    (result : LineBuffer × Position) : Prop where
  boundary : p.line < b.lines.length → Text.IsBoundary b.text.toList (offset b.lines p)
  nothing : lines = [] → newline = false → result = (b, p)
  text : p.line < b.lines.length → result.1.text =
    Text.before b.text (offset b.lines p) ++ insertion lines newline ++
      Text.after b.text (offset b.lines p)
  position : p.line < b.lines.length → result.2.Clamped result.1.lines ∧
    offset result.1.lines result.2 = offset b.lines p + Text.length (insertion lines newline)
  behind : b.lines.length ≤ p.line → lines ≠ [] ∨ newline = true →
    result.1.lines = b.lines ++ (if lines = [] then [""] else lines) ∧
      result.2 = if newline then ⟨result.1.lines.length, 0⟩ else result.1.endPosition

/-- What a deletion of the text from `s` to `e` has to come to. -/
structure DeleteSplices (b : LineBuffer) (s e : Position) (result : LineBuffer × Bool) : Prop where
  nothing : result.2 = false ↔ s = e
  unchanged : s = e → result.1 = b
  text : e.line < b.lines.length → result.1.text =
    Text.before b.text (offset b.lines s) ++ Text.after b.text (offset b.lines e)
  behind : b.lines.length ≤ e.line → s ≠ e → result.1.lines = b.lines.take s.line ++
    if 0 < s.column then [Text.before ((b.lines[s.line]?).getD "") s.column] else []
  text_behind : b.lines.length ≤ e.line → s ≠ e → result.1.text =
    Text.before b.text (if 0 < s.column then offset b.lines s else offset b.lines s - 1)

/-- What the text from `s` to `e` has to be: as lines, without and with the character at `e`, and as
one text without it. -/
structure ExtractSplices (b : LineBuffer) (s e : Position) (lines : Bool → List String)
    (text : String) : Prop where
  text : text = Text.join "\n" (lines false)
  half_open : e.line < b.lines.length → Text.join "\n" (lines false) =
    Text.between b.text (offset b.lines s) (offset b.lines e)
  closed : e.line < b.lines.length → Text.join "\n" (lines true) =
    Text.between b.text (offset b.lines s) (Text.next b.text.toList (offset b.lines e))
  behind : b.lines.length ≤ e.line → ∀ closed, Text.join "\n" (lines closed) =
    Text.after b.text (offset b.lines s)

section
variable {b : LineBuffer} {p s e : Position}

theorem before_offset (hc : p.Clamped b.lines) (hl : p.line < b.lines.length) :
    (Text.before b.text (offset b.lines p)).toList = front b.lines p := by
  rw [Text.toList_before, toList_text, (hc.cut hl).take_offset]

theorem after_offset (hc : p.Clamped b.lines) (hl : p.line < b.lines.length) :
    (Text.after b.text (offset b.lines p)).toList = back b.lines p := by
  rw [Text.toList_after, toList_text, (hc.cut hl).drop_offset]

theorem after_behind : Text.after b.text (offset b.lines ⟨b.lines.length, 0⟩) = "" := by
  apply String.toList_inj.mp
  rw [Text.toList_after, toList_text, Text.drop_of_size_le (size_joined_le_offset b.lines)]
  rfl

theorem areEnds (hs : s.Clamped b.lines) (he : e.Clamped b.lines) (hle : s ≤ e) : AreEnds b s e := by
  refine ⟨hs, he, hle, ?_, fun hl => (hs.cut hl).boundary, fun hl => (he.cut hl).boundary⟩
  rcases Nat.lt_or_ge e.line b.lines.length with hl | hl
  · have hsl : s.line < b.lines.length := by
      have := Position.le_iff.mp hle
      omega
    rw [(hs.cut hsl).offset_eq, (he.cut hl).offset_eq, ← front_append_pieces hle hl, Text.size_append]
    exact Nat.le_add_right _ _
  · obtain rfl := he.eq_behind hl
    rcases Nat.lt_or_ge s.line b.lines.length with hsl | hsl
    · exact Nat.le_trans (hs.cut hsl).boundary.le_size (size_joined_le_offset b.lines)
    · exact Nat.le_of_eq (by rw [hs.eq_behind hsl])

theorem areEnds_ends (b : LineBuffer) (p q : Position) : AreEnds b (b.ends p q).1 (b.ends p q).2 := by
  obtain ⟨hcases, hle⟩ := Position.ordered_cases (p.clamp b.lines) (q.clamp b.lines)
  unfold ends
  rcases hcases with h | h <;> rw [h] at hle ⊢ <;>
    exact areEnds (Position.clamp_clamped _ _) (Position.clamp_clamped _ _) hle

end

theorem insert_splices (b : LineBuffer) (q : Position) (lines : List String) (newline : Bool) :
    InsertSplices b (q.clamp b.lines) lines newline (b.insert q lines newline) := by
  have hc : (q.clamp b.lines).Clamped b.lines := q.clamp_clamped b.lines
  refine ⟨fun hl => (hc.cut hl).boundary, ?_, fun hl => ?_, fun hl => ?_, fun hl h => ?_⟩
  · rintro rfl rfl
    exact insert_nothing b q rfl
  · obtain ⟨block, head, hi⟩ := insert_inserts b q rfl hl lines newline
    apply String.toList_inj.mp
    rw [toList_text, (hi.cut hl).joined_eq, String.toList_append, String.toList_append,
      before_offset hc hl, after_offset hc hl]
  · obtain ⟨block, head, hi⟩ := insert_inserts b q rfl hl lines newline
    refine ⟨(hi.cut hl).clamped, ?_⟩
    rw [(hi.cut hl).offset_eq, (hc.cut hl).offset_eq, Text.size_append, Text.length_eq_size]
  · exact insert_behind b q rfl hl lines newline h

theorem delete_splices (b : LineBuffer) (p q : Position) :
    DeleteSplices b (b.ends p q).1 (b.ends p q).2 (b.delete p q) := by
  obtain ⟨hs, he, hle, -, -, -⟩ := areEnds_ends b p q
  rw [delete_eq]
  generalize (b.ends p q).1 = s at *
  generalize (b.ends p q).2 = e at *
  have hle := Position.le_iff.mp hle
  split
  · next heq =>
    subst heq
    refine ⟨by simp, fun _ => rfl, fun hl => ?_, fun _ h => absurd rfl h, fun _ h => absurd rfl h⟩
    apply String.toList_inj.mp
    rw [String.toList_append, before_offset hs hl, after_offset hs hl, toList_text,
      (hs.cut hl).joined_eq]
  · next hne =>
    refine ⟨by simpa using hne, fun h => absurd h hne, fun hl => ?_, fun hl _ => ?_, fun hl _ => ?_⟩
    · apply String.toList_inj.mp
      rw [String.toList_append, before_offset hs (by omega), after_offset he hl, toList_text]
      exact joined_without hl
    · exact without_behind hl
    · apply String.toList_inj.mp
      rw [toList_text, edit_lines, joined_without_behind hl, Text.toList_before, toList_text]
      split
      · next hcol =>
        have hsl : s.line < b.lines.length := by
          refine Nat.lt_of_not_le fun hn => ?_
          rw [hs.eq_behind hn] at hcol
          exact Nat.lt_irrefl 0 hcol
        rw [(hs.cut hsl).take_offset]
      · rfl

section
variable {b : LineBuffer} {s e : Position} (hs : s.Clamped b.lines) (he : e.Clamped b.lines)
include hs he

theorem join_pieces (hle : s ≤ e) (hl : e.line < b.lines.length) : Text.join "\n" (b.pieces s e) =
    Text.between b.text (offset b.lines s) (offset b.lines e) := by
  have hsl : s.line < b.lines.length := by
    have := Position.le_iff.mp hle
    omega
  have hcut := he.cut hl
  rw [← front_append_pieces hle hl] at hcut
  apply String.toList_inj.mp
  rw [Text.toList_between, toList_text, (hs.cut hsl).slice_offset hcut]
  rfl

theorem join_pieces_behind (hl : b.lines.length ≤ e.line) : Text.join "\n" (b.pieces s e) =
    Text.after b.text (offset b.lines s) := by
  rcases Nat.lt_or_ge s.line b.lines.length with hsl | hsl
  · apply String.toList_inj.mp
    rw [after_offset hs hsl, ← joined_pieces_behind hsl hl]
    rfl
  · rw [he.eq_behind hl, hs.eq_behind hsl, pieces_self, after_behind]
    rfl

/-- With the character at the later end, or up to the end of the text where no character is left. -/
theorem join_pieces_advance (hle : s ≤ e) (hl : e.line < b.lines.length) :
    Text.join "\n" (b.pieces s (b.advance e)) =
      Text.between b.text (offset b.lines s) (Text.next b.text.toList (offset b.lines e)) := by
  have hle' : s ≤ b.advance e := Position.le_trans hle (le_advance he)
  have hdrop := (he.cut hl).drop_offset
  rcases advance_passes he hl with ⟨c, rest, hback, hcut⟩ | ⟨hback, hend⟩
  · rw [hback] at hdrop
    have hnext : Text.next b.text.toList (offset b.lines e) = offset b.lines (b.advance e) := by
      rw [toList_text, Text.next_of_drop hdrop, hcut.offset_eq, (he.cut hl).offset_eq,
        Text.size_append, Text.size_cons, Text.size_nil, Nat.add_zero]
    rw [hnext]
    exact join_pieces hs hcut.clamped hle' hcut.line_lt
  · rw [hback] at hdrop
    have hnext : Text.next b.text.toList (offset b.lines e) = Text.size b.text.toList := by
      rw [toList_text, Text.next, hdrop]
    rw [hnext, hend, join_pieces_behind hs (Position.clamped_behind _) (Nat.le_refl _)]
    apply String.toList_inj.mp
    rw [Text.toList_between, Text.toList_after, Text.slice, Text.take_of_size_le (Nat.le_refl _)]

end

theorem extract_splices (b : LineBuffer) (p q : Position) :
    ExtractSplices b (b.ends p q).1 (b.ends p q).2 (b.extract p q) (b.textBetween p q) := by
  obtain ⟨hs, he, hle, -, -, -⟩ := areEnds_ends b p q
  refine ⟨rfl, fun hl => ?_, fun hl => ?_, fun hl closed => ?_⟩
  · rw [extract_eq]
    exact join_pieces hs he hle hl
  · rw [extract_eq]
    exact join_pieces_advance hs he hle hl
  · rw [extract_eq, advance_behind hl, ite_self]
    exact join_pieces_behind hs he hl

/-- The edits of a buffer are splices of its text. -/
theorem edits_are_splices (b : LineBuffer) (p q : Position) (lines : List String) (newline : Bool) :
    AreEnds b (b.ends p q).1 (b.ends p q).2 ∧
      InsertSplices b (p.clamp b.lines) lines newline (b.insert p lines newline) ∧
      DeleteSplices b (b.ends p q).1 (b.ends p q).2 (b.delete p q) ∧
      ExtractSplices b (b.ends p q).1 (b.ends p q).2 (b.extract p q) (b.textBetween p q) :=
  ⟨areEnds_ends b p q, insert_splices b p lines newline, delete_splices b p q, extract_splices b p q⟩

end LineScript.LineBuffer
