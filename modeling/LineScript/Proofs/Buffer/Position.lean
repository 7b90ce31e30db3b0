import LineScript.Buffer.Position
import LineScript.Proofs.Text.Bytes

/-! The positions of some lines: on a line at a boundary of it, or behind the last line. -/
namespace LineScript.Buffer.Position

variable {p q : Position} {lines : List String} {line : String}

theorem le_iff : p ≤ q ↔ p.line < q.line ∨ (p.line = q.line ∧ p.column ≤ q.column) :=
  Iff.rfl

theorem le_trans {r : Position} (hpq : p ≤ q) (hqr : q ≤ r) : p ≤ r := by
  rw [le_iff] at *
  omega

theorem le_antisymm (hpq : p ≤ q) (hqp : q ≤ p) : p = q := by
  obtain ⟨line, column⟩ := p
  obtain ⟨line', column'⟩ := q
  simp only [le_iff] at hpq hqp
  rw [mk.injEq]
  omega

theorem lt_iff : p < q ↔ p.line < q.line ∨ (p.line = q.line ∧ p.column < q.column) :=
  Iff.rfl

theorem not_le : ¬ p ≤ q ↔ q < p := by
  rw [le_iff, lt_iff]
  omega

theorem not_lt : ¬ p < q ↔ q ≤ p := by
  rw [le_iff, lt_iff]
  omega

theorem lt_trichotomy (p q : Position) : p < q ∨ p = q ∨ q < p := by
  by_cases hpq : p ≤ q
  · by_cases hqp : q ≤ p
    · exact .inr (.inl (le_antisymm hpq hqp))
    · exact .inl (not_le.mp hqp)
  · exact .inr (.inr (not_le.mp hpq))

theorem lt_of_le_of_ne (h : p ≤ q) (hne : p ≠ q) : p < q := by
  rcases lt_trichotomy p q with hlt | heq | hlt
  · exact hlt
  · exact absurd heq hne
  · exact absurd h (not_le.mpr hlt)

theorem clamp_on (h : lines[p.line]? = some line) :
    p.clamp lines = ⟨p.line, Text.floor line.toList p.column⟩ := by
  obtain ⟨hl, -⟩ := List.getElem?_eq_some_iff.mp h
  have hm : min p.line lines.length = p.line := Nat.min_eq_left (Nat.le_of_lt hl)
  simp only [clamp, hm, h]

theorem clamp_behind (h : lines.length ≤ p.line) : p.clamp lines = ⟨lines.length, 0⟩ := by
  simp [clamp, Nat.min_eq_right h]

theorem clamped_on (h : lines[p.line]? = some line) :
    p.Clamped lines ↔ Text.IsBoundary line.toList p.column := by
  unfold Clamped
  rw [clamp_on h]
  exact ⟨fun he => congrArg column he, fun hc => congrArg (mk p.line) hc⟩

theorem clamped_behind (lines : List String) : Clamped ⟨lines.length, 0⟩ lines :=
  clamp_behind (Nat.le_refl _)

theorem clamp_lineStart (lines : List String) (i : Nat) : clamp ⟨i, 0⟩ lines = ⟨min i lines.length, 0⟩ := by
  rcases Nat.lt_or_ge i lines.length with hlt | hge
  · have hclamped : Clamped ⟨i, 0⟩ lines :=
      (clamped_on (List.getElem?_eq_getElem hlt)).mpr (Text.isBoundary_zero _)
    rw [show clamp ⟨i, 0⟩ lines = ⟨i, 0⟩ from hclamped, Nat.min_eq_left (Nat.le_of_lt hlt)]
  · have hbehind : clamp ⟨i, 0⟩ lines = ⟨lines.length, 0⟩ := clamp_behind hge
    rw [hbehind, Nat.min_eq_right hge]

theorem clamped_iff : p.Clamped lines ↔
    (∃ line, lines[p.line]? = some line ∧ Text.IsBoundary line.toList p.column) ∨
      p = ⟨lines.length, 0⟩ := by
  constructor
  · intro h
    rcases Nat.lt_or_ge p.line lines.length with hl | hl
    · have hs := List.getElem?_eq_getElem hl
      exact .inl ⟨_, hs, (clamped_on hs).mp h⟩
    · exact .inr (h.symm.trans (clamp_behind hl))
  · rintro (⟨line, hl, hc⟩ | rfl)
    · exact (clamped_on hl).mpr hc
    · exact clamped_behind lines

/-- Only the number of lines and the line of a position matter. -/
theorem clamped_congr {lines' : List String} (hlength : lines'.length = lines.length)
    (hline : lines'[p.line]? = lines[p.line]?) : p.Clamped lines' ↔ p.Clamped lines := by
  rw [clamped_iff, clamped_iff, hline, hlength]

theorem clamp_clamped (p : Position) (lines : List String) : (p.clamp lines).Clamped lines := by
  rcases Nat.lt_or_ge p.line lines.length with hl | hl
  · have hs := List.getElem?_eq_getElem hl
    rw [clamp_on hs]
    exact clamped_iff.mpr (.inl ⟨_, hs, Text.isBoundary_floor _ _⟩)
  · rw [clamp_behind hl]
    exact clamped_behind lines

theorem Clamped.line_le (h : p.Clamped lines) : p.line ≤ lines.length := by
  rcases clamped_iff.mp h with ⟨line, hl, -⟩ | rfl
  · exact Nat.le_of_lt (List.getElem?_eq_some_iff.mp hl).1
  · exact Nat.le_refl _

theorem Clamped.eq_behind (h : p.Clamped lines) (hl : lines.length ≤ p.line) :
    p = ⟨lines.length, 0⟩ :=
  h.symm.trans (clamp_behind hl)

theorem Clamped.exists_line (h : p.Clamped lines) (hl : p.line < lines.length) :
    ∃ line, lines[p.line]? = some line ∧ Text.IsBoundary line.toList p.column :=
  ⟨_, List.getElem?_eq_getElem hl, (clamped_on (List.getElem?_eq_getElem hl)).mp h⟩

theorem clamped_append_left {pre : List String} (hp : p.line < pre.length) (post : List String) :
    p.Clamped (pre ++ post) ↔ p.Clamped pre := by
  have hline := List.getElem?_eq_getElem hp
  rw [clamped_on hline, clamped_on ((List.getElem?_append_left hp).trans hline)]

/-- Lines in front of the one of a position count, but do not matter. -/
theorem clamped_append_right (pre post : List String) (i column : Nat) :
    Clamped ⟨pre.length + i, column⟩ (pre ++ post) ↔ Clamped ⟨i, column⟩ post := by
  have hget : (pre ++ post)[pre.length + i]? = post[i]? := by
    rw [List.getElem?_append_right (Nat.le_add_right _ _), Nat.add_sub_cancel_left]
  simp [clamped_iff, hget]

/-- The earlier and the later of two positions are these positions, in order. -/
theorem ordered_cases (p q : Position) :
    (ordered p q = (p, q) ∨ ordered p q = (q, p)) ∧ (ordered p q).1 ≤ (ordered p q).2 := by
  unfold ordered
  split
  · next h => exact ⟨.inl rfl, h⟩
  · next h =>
    refine ⟨.inr rfl, ?_⟩
    simp only [le_iff] at h ⊢
    omega

end LineScript.Buffer.Position
