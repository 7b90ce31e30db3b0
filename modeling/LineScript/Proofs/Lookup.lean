import Mathlib.Tactic.Common

/-! Looking up keys in lists of pairs. -/
namespace LineScript

variable {α β : Type} [BEq α] [LawfulBEq α] {k i : α} {n : β} {l : List (α × β)}

theorem lookup_cons_ne (h : k ≠ i) : List.lookup k ((i, n) :: l) = l.lookup k := by
  rw [List.lookup_cons, beq_false_of_ne h]

theorem lookup_filter (p : α → Bool) (l : List (α × β)) (k : α) :
    (l.filter fun x => p x.1).lookup k = if p k then l.lookup k else none := by
  induction l with
  | nil => simp
  | cons x l ih =>
    obtain ⟨i, n⟩ := x
    by_cases hk : k = i
    · subst hk
      cases hp : p k <;> simp [hp, ih]
    · cases hp : p i <;> simp [hp, ih, lookup_cons_ne hk]

end LineScript
