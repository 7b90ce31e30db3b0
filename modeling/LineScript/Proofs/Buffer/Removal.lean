import LineScript.Proofs.Buffer.Insertion

/-! Deletion takes the text between two offsets out, and extraction returns it. -/
namespace LineScript.LineBuffer

open Buffer

/-- The ends of the text between two positions. -/
def ends (b : LineBuffer) (p q : Position) : Position × Position :=
  Position.ordered (p.clamp b.lines) (q.clamp b.lines)

theorem delete_eq (b : LineBuffer) (p q : Position) : b.delete p q =
    if (b.ends p q).1 = (b.ends p q).2 then (b, false)
    else
      ({ b with
          cursor := afterDelete (b.ends p q).1 (b.ends p q).2 b.cursor
          mark := afterDelete (b.ends p q).1 (b.ends p q).2 b.mark }.edit
        (b.without (b.ends p q).1 (b.ends p q).2), true) :=
  rfl

theorem extract_eq (b : LineBuffer) (p q : Position) (closed : Bool) : b.extract p q closed =
    b.pieces (b.ends p q).1 (if closed then b.advance (b.ends p q).2 else (b.ends p q).2) :=
  rfl

variable {b : LineBuffer} {s e p : Position}

/-- Deleting up to a place on a line joins what is before the start to what is behind the end. -/
theorem joined_without (he : e.line < b.lines.length) :
    joined (b.without s e) = front b.lines s ++ back b.lines e := by
  have hj := joined_around (b.lines.take s.line) (b.lines.drop (e.line + 1))
    (List.cons_ne_nil ((b.splitAt s).1 ++ (b.splitAt e).2) [])
  unfold without
  rw [if_neg (Nat.not_le_of_lt he), hj]
  simp [front, back]

theorem without_behind (he : b.lines.length ≤ e.line) : b.without s e =
    b.lines.take s.line ++ if 0 < s.column then [(b.splitAt s).1] else [] := by
  unfold without
  rw [if_pos he]

/-- The lines before the start of a line are the text before its offset, less a line break. -/
theorem joined_take_eq (lines : List String) {p : Position} (hp : p.column = 0) :
    joined (lines.take p.line) = Text.take (joined lines) (offset lines p - 1) := by
  have ho := offset_eq lines p
  rw [hp, Nat.add_zero] at ho
  by_cases hn : lines.take p.line = []
  · rw [ho, hn]
    simp
  · have hj := joined_around [] (lines.drop p.line) hn
    rw [List.nil_append, List.take_append_drop, broken_nil, List.nil_append] at hj
    have hsize : offset lines p - 1 = Text.size (joined (lines.take p.line)) := by
      rw [ho, ← joined_append_break hn, Text.size_append]
      rfl
    rw [hsize, hj, Text.take_size]

/-- Deleting from a place on a line to behind the last line keeps the text before the place; at the
start of a line the line break before it goes too. -/
theorem joined_without_behind (he : b.lines.length ≤ e.line) : joined (b.without s e) =
    if 0 < s.column then front b.lines s
    else Text.take (joined b.lines) (offset b.lines s - 1) := by
  rw [without_behind he]
  split
  · rw [joined_concat, toList_splitAt_fst]
    rfl
  · next h => rw [List.append_nil, joined_take_eq b.lines (by omega)]

theorem pieces_self (b : LineBuffer) (s : Position) : b.pieces s s = [] := by
  simp [pieces]

/-- Between two places on lines stands what the text before the later one has more. -/
theorem front_append_pieces (hle : s ≤ e) (hl : e.line < b.lines.length) :
    front b.lines s ++ joined (b.pieces s e) = front b.lines e := by
  by_cases hse : s = e
  · rw [hse, pieces_self, joined_nil, List.append_nil]
  · have hle := Position.le_iff.mp hle
    unfold pieces
    rw [if_neg hse]
    split
    · next hline =>
      have hcol : s.column ≤ e.column := by omega
      rw [front, front, hline, joined_cons, Text.toList_between, led_nil, List.append_nil,
        List.append_assoc, Text.take_append_slice _ hcol]
    · next hline =>
      have hlt : s.line < e.line := by omega
      rw [front.eq_1 b.lines e, broken_take hlt (Nat.le_of_lt hl)]
      simp

/-- Between a place on a line and the end stands the rest of the text. -/
theorem joined_pieces_behind (hs : s.line < b.lines.length) (he : b.lines.length ≤ e.line) :
    joined (b.pieces s e) = back b.lines s := by
  have hne : s ≠ e := by
    rintro rfl
    omega
  have hline : s.line ≠ e.line := by omega
  unfold pieces
  rw [if_neg hne, if_neg hline, if_neg (Nat.not_lt_of_le he), List.take_of_length_le he]
  simp [back]

/-- Going on from a place on a line passes the next character of the text, if there is one. -/
theorem advance_passes (hc : p.Clamped b.lines) (hl : p.line < b.lines.length) :
    (∃ c rest, back b.lines p = c :: rest ∧ Cut b.lines (b.advance p) (front b.lines p ++ [c]) rest) ∨
      (back b.lines p = [] ∧ b.advance p = ⟨b.lines.length, 0⟩) := by
  obtain ⟨line, hs, hb⟩ := hc.exists_line hl
  unfold advance
  rw [hs]
  dsimp only
  split
  · next hcol =>
    rw [Text.length_eq_size] at hcol
    obtain ⟨c, rest, hd⟩ := hb.exists_drop hcol
    have hn : Position.Clamped ⟨p.line, Text.next line.toList p.column⟩ b.lines :=
      Position.clamped_iff.mpr (.inl ⟨line, hs, Text.isBoundary_next hb⟩)
    have hcut := hn.cut hl
    have hfront : front b.lines ⟨p.line, Text.next line.toList p.column⟩ = front b.lines p ++ [c] := by
      simp [front, hs, Text.take_next hb hd]
    rw [hfront] at hcut
    exact .inl ⟨c, _, by simp [back, hs, hd, Text.drop_next hb hd], hcut⟩
  · next hcol =>
    rw [Text.length_eq_size] at hcol
    have hd := Text.drop_of_size_le (Nat.le_of_not_lt hcol)
    rcases Nat.lt_or_ge (p.line + 1) b.lines.length with hnext | hnext
    · have hn : Position.Clamped ⟨p.line + 1, 0⟩ b.lines :=
        Position.clamped_iff.mpr (.inl ⟨_, List.getElem?_eq_getElem hnext, Text.isBoundary_zero _⟩)
      have hcut := hn.cut hnext
      have hfront : front b.lines ⟨p.line + 1, 0⟩ = front b.lines p ++ ['\n'] := by
        have hbroken := broken_take (Nat.lt_succ_self p.line) hl
        rw [hs, Option.getD_some, hd, List.drop_of_length_le (List.length_take_le _ _)] at hbroken
        simpa [front] using hbroken
      rw [hfront] at hcut
      refine .inl ⟨'\n', _, ?_, hcut⟩
      rw [back, hs, Option.getD_some, hd, List.drop_eq_getElem_cons hnext, led_cons, back,
        List.getElem?_eq_getElem hnext, Option.getD_some, Text.drop_zero]
      rfl
    · have heq : p.line + 1 = b.lines.length := by omega
      refine .inr ⟨?_, by rw [heq]⟩
      rw [back, hs, Option.getD_some, hd, List.drop_of_length_le hnext]
      rfl

theorem advance_behind (hl : b.lines.length ≤ p.line) : b.advance p = p := by
  unfold advance
  rw [List.getElem?_eq_none hl]

theorem le_advance (hc : p.Clamped b.lines) : p ≤ b.advance p := by
  rw [Position.le_iff]
  rcases Nat.lt_or_ge p.line b.lines.length with hl | hl
  · obtain ⟨line, hs, hb⟩ := hc.exists_line hl
    unfold advance
    rw [hs]
    dsimp only
    split
    · exact .inr ⟨rfl, hb.le_next⟩
    · exact .inl (Nat.lt_succ_self _)
  · rw [advance_behind hl]
    exact .inr ⟨rfl, Nat.le_refl _⟩

end LineScript.LineBuffer
