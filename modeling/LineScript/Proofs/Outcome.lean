import Mathlib.Tactic.Common

/-! What work on a state comes to when it may fail and a failure keeps what was done. -/
namespace LineScript

variable {ε σ α β : Type}

/-- The result of some work, and the state behind it. -/
def outcome (m : ExceptT ε (StateM σ) α) (s : σ) : Except ε α × σ :=
  m s

@[simp] theorem outcome_pure (a : α) (s : σ) :
    outcome (pure a : ExceptT ε (StateM σ) α) s = (.ok a, s) :=
  rfl

@[simp] theorem outcome_throw (e : ε) (s : σ) :
    outcome (throw e : ExceptT ε (StateM σ) α) s = (.error e, s) :=
  rfl

@[simp] theorem outcome_get (s : σ) :
    outcome (get : ExceptT ε (StateM σ) σ) s = (.ok s, s) :=
  rfl

@[simp] theorem outcome_getThe (s : σ) :
    outcome (getThe σ : ExceptT ε (StateM σ) σ) s = (.ok s, s) :=
  rfl

@[simp] theorem outcome_modifyGet (f : σ → α × σ) (s : σ) :
    outcome (modifyGet f : ExceptT ε (StateM σ) α) s = (.ok (f s).1, (f s).2) :=
  rfl

@[simp] theorem outcome_modifyGetThe (f : σ → α × σ) (s : σ) :
    outcome (modifyGetThe σ f : ExceptT ε (StateM σ) α) s = (.ok (f s).1, (f s).2) :=
  rfl

theorem outcome_bind (m : ExceptT ε (StateM σ) α) (f : α → ExceptT ε (StateM σ) β) (s : σ) :
    outcome (m >>= f) s =
      match outcome m s with
      | (.ok a, s') => outcome (f a) s'
      | (.error e, s') => (.error e, s') := by
  cases h : outcome m s with
  | mk r s' =>
    change ExceptT.bindCont f (outcome m s).1 (outcome m s).2 = _
    rw [h]
    cases r <;> rfl

theorem outcome_map (f : α → β) (m : ExceptT ε (StateM σ) α) (s : σ) :
    outcome (f <$> m) s = ((outcome m s).1.map f, (outcome m s).2) := by
  rw [map_eq_pure_bind, outcome_bind]
  cases outcome m s with
  | mk r s' => cases r <;> rfl

theorem outcome_tryCatch (m : ExceptT ε (StateM σ) α) (f : ε → ExceptT ε (StateM σ) α) (s : σ) :
    outcome (tryCatch m f) s =
      match outcome m s with
      | (.ok a, s') => (.ok a, s')
      | (.error e, s') => outcome (f e) s' := by
  change ((match (outcome m s).1 with
    | .ok a => pure (.ok a)
    | .error e => f e : StateM σ (Except ε α)) (outcome m s).2) = _
  cases outcome m s with
  | mk r s' => cases r <;> rfl

/-- A sequence succeeds if and only if both of its parts do. -/
theorem outcome_bind_eq_ok {m : ExceptT ε (StateM σ) α} {f : α → ExceptT ε (StateM σ) β}
    {s s' : σ} {b : β} :
    outcome (m >>= f) s = (.ok b, s') ↔
      ∃ a s₁, outcome m s = (.ok a, s₁) ∧ outcome (f a) s₁ = (.ok b, s') := by
  rw [outcome_bind]
  cases outcome m s with
  | mk r s₁ => cases r <;> simp

theorem outcome_bind_fst_eq_ok {m : ExceptT ε (StateM σ) α} {f : α → ExceptT ε (StateM σ) β}
    {s : σ} {b : β} :
    (outcome (m >>= f) s).1 = .ok b ↔
      ∃ a s₁, outcome m s = (.ok a, s₁) ∧ (outcome (f a) s₁).1 = .ok b := by
  rw [outcome_bind]
  cases outcome m s with
  | mk r s₁ => cases r <;> simp

/-- Whether some work keeps an invariant of the state, and what is true of its result. -/
def Preserves (I : σ → Prop) (m : ExceptT ε (StateM σ) α) (P : α → Prop) : Prop :=
  ∀ s, I s → I (outcome m s).2 ∧ ∀ a, (outcome m s).1 = .ok a → P a

namespace Preserves

variable {I : σ → Prop} {P : α → Prop} {Q : β → Prop}

theorem pure {a : α} (h : P a) : Preserves I (Pure.pure a : ExceptT ε (StateM σ) α) P := by
  refine fun s hs => ⟨hs, fun x hx => ?_⟩
  cases hx
  exact h

theorem throw (e : ε) : Preserves I (MonadExcept.throw e : ExceptT ε (StateM σ) α) P :=
  fun _ hs => ⟨hs, fun _ hx => by cases hx⟩

theorem bind {m : ExceptT ε (StateM σ) α} {f : α → ExceptT ε (StateM σ) β} (hm : Preserves I m P)
    (hf : ∀ a, P a → Preserves I (f a) Q) : Preserves I (m >>= f) Q := by
  intro s hs
  obtain ⟨hleft, hresult⟩ := hm s hs
  rw [outcome_bind]
  cases ho : outcome m s with
  | mk r s' =>
    rw [ho] at hleft hresult
    cases r with
    | error e => exact ⟨hleft, fun _ hx => by cases hx⟩
    | ok a => exact hf a (hresult a rfl) s' hleft

/-- The same where nothing has to be known of the result. -/
theorem seq {m : ExceptT ε (StateM σ) α} {f : α → ExceptT ε (StateM σ) β} (hm : Preserves I m P)
    (hf : ∀ a, Preserves I (f a) Q) : Preserves I (m >>= f) Q :=
  hm.bind fun a _ => hf a

/-- What comes behind a failure does not matter. -/
theorem throw_bind (e : ε) {f : α → ExceptT ε (StateM σ) β} :
    Preserves I ((MonadExcept.throw e : ExceptT ε (StateM σ) α) >>= f) Q :=
  fun _ hs => ⟨hs, fun _ hx => by cases hx⟩

theorem tryCatch {m : ExceptT ε (StateM σ) α} {f : ε → ExceptT ε (StateM σ) α} (hm : Preserves I m P)
    (hf : ∀ e, Preserves I (f e) P) : Preserves I (MonadExcept.tryCatch m f) P := by
  intro s hs
  obtain ⟨hleft, hresult⟩ := hm s hs
  rw [outcome_tryCatch]
  cases ho : outcome m s with
  | mk r s' =>
    rw [ho] at hleft hresult
    cases r with
    | error e => exact hf e s' hleft
    | ok a => exact ⟨hleft, hresult⟩

theorem ite {c : Prop} [Decidable c] {m n : ExceptT ε (StateM σ) α} (hm : Preserves I m P)
    (hn : Preserves I n P) : Preserves I (if c then m else n) P := by
  split
  · exact hm
  · exact hn

end Preserves

end LineScript
