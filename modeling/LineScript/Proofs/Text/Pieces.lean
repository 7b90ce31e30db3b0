import LineScript.Text.Pieces
import Mathlib.Data.List.Infix
import Mathlib.Tactic.Common

/-! Where one text occurs in another, and the pieces of a text between the occurrences of a separator: joined again
they give the text, and no piece has the separator in it. -/
namespace LineScript.Text

variable {p s r needle separator head rest piece : List Char}

theorem dropStart?_eq_some_iff : dropStart? p s = some r ↔ s = p ++ r := by
  induction p generalizing s with
  | nil => simp [dropStart?, eq_comm]
  | cons a p ih =>
    cases s with
    | nil => simp [dropStart?]
    | cons b s =>
      by_cases h : a = b
      · simp [dropStart?, h, ih]
      · simp [dropStart?, h, Ne.symm h]

theorem dropStart?_eq_none_iff : dropStart? p s = none ↔ ¬p <+: s := by
  constructor
  · intro hnone hstart
    obtain ⟨r, rfl⟩ := hstart
    have hsome := dropStart?_eq_some_iff.mpr (rfl : p ++ r = p ++ r)
    rw [hnone] at hsome
    cases hsome
  · intro hstart
    cases h : dropStart? p s with
    | none => rfl
    | some r => exact absurd ⟨r, (dropStart?_eq_some_iff.mp h).symm⟩ hstart

/-- A text is cut at the first occurrence. -/
theorem cut?_eq_some (h : cut? needle s = some (head, rest)) :
    s = head ++ (needle ++ rest) ∧ ∀ i < head.length, ¬needle <+: s.drop i := by
  induction s generalizing head with
  | nil =>
    unfold cut? at h
    split at h
    · rename_i hneedle
      cases h
      simp [List.isEmpty_iff.mp hneedle]
    · cases h
  | cons c cs ih =>
    unfold cut? at h
    split at h
    · rename_i hdrop
      cases h
      have hs := dropStart?_eq_some_iff.mp hdrop
      simp [hs]
    · rename_i hdrop
      obtain ⟨⟨head', rest'⟩, hcut, heq⟩ := Option.map_eq_some_iff.mp h
      cases heq
      obtain ⟨hs, hfirst⟩ := ih hcut
      constructor
      · rw [hs, List.cons_append]
      · intro i hi
        cases i with
        | zero => exact dropStart?_eq_none_iff.mp hdrop
        | succ i => exact hfirst i (Nat.lt_of_succ_lt_succ hi)

theorem cut?_eq_none_iff : cut? needle s = none ↔ ¬needle <:+: s := by
  induction s with
  | nil =>
    unfold cut?
    split
    · rename_i hneedle
      simp [List.isEmpty_iff.mp hneedle]
    · rename_i hneedle
      simpa using hneedle
  | cons c cs ih =>
    unfold cut?
    rw [List.infix_cons_iff, not_or]
    split
    · rename_i hdrop
      have hstart : needle <+: c :: cs := ⟨_, (dropStart?_eq_some_iff.mp hdrop).symm⟩
      simp [hstart]
    · rename_i hdrop
      have hstart := dropStart?_eq_none_iff.mp hdrop
      simp [hstart, ih]

theorem split_ne_nil (separator s : List Char) : split separator s ≠ [] := by
  unfold split
  split
  · simp
  · split <;> simp

/-- The pieces of a text give the text back. -/
theorem intercalate_split (separator s : List Char) : separator.intercalate (split separator s) = s := by
  fun_induction split separator s with
  | case1 s | case2 s _ _ => simp [List.intercalate_singleton]
  | case3 s hs head rest hcut ih =>
    rw [List.intercalate_cons_of_ne_nil (split_ne_nil separator rest), ih, List.append_assoc]
    exact (cut?_eq_some hcut).1.symm

/-- No piece has the separator in it. -/
theorem not_infix_of_mem_split (hs : separator ≠ []) (h : piece ∈ split separator s) : ¬separator <:+: piece := by
  fun_induction split separator s with
  | case1 s hnil => exact absurd hnil hs
  | case2 s _ hcut =>
    rw [List.mem_singleton.mp h]
    exact cut?_eq_none_iff.mp hcut
  | case3 s _ head rest hcut ih =>
    rcases List.mem_cons.mp h with rfl | h
    · obtain ⟨htext, hfirst⟩ := cut?_eq_some hcut
      intro hinfix
      obtain ⟨front, behind, rfl⟩ := hinfix
      have hlt : front.length < (front ++ separator ++ behind).length := by
        have hpos := List.length_pos_of_ne_nil hs
        simp only [List.length_append]
        omega
      apply hfirst front.length hlt
      rw [htext, List.append_assoc, List.append_assoc, List.drop_left]
      exact List.prefix_append separator _
    · exact ih h

end LineScript.Text
