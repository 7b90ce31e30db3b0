import LineScript.Proofs.Run.Whole

/-! Parts of runs that bring no line break into a line, provided that they start in states of some kind. -/
namespace LineScript.Run

variable {α β : Type} {A B C : RunState → Prop} {P : α → Prop} {Q : β → Prop}

/-- Whether some work that starts where `A` holds brings no line break into a line and, if it succeeds, ends
where `B` holds; and what is true of its result. -/
def Carries (A B : RunState → Prop) (m : Run α) (P : α → Prop := fun _ => True) : Prop :=
  ∀ s, A s → s.Whole → (outcome m s).2.Whole ∧ ∀ a, (outcome m s).1 = .ok a → B (outcome m s).2 ∧ P a

/-- Any state will do. -/
def Anywhere (_ : RunState) : Prop :=
  True

/-- Whether nothing is left by naming buffers and recording events. -/
structure Closed (A : RunState → Prop) : Prop where
  named : ∀ s, A s → ∀ name, A (outcome (NamedBuffers.buffer name : Run LineBuffer) s).2
  recorded : ∀ s, A s → ∀ event, A { s with engine := s.engine.record event }

theorem closed_anywhere : Closed Anywhere :=
  ⟨fun _ _ _ => trivial, fun _ _ _ => trivial⟩

/-- What naming a buffer comes to. -/
theorem outcome_buffer (name : String) (s : RunState) :
    outcome (NamedBuffers.buffer name : Run LineBuffer) s =
      match s.buffer? name with
      | some b => (.ok b, s)
      | none => (.ok {}, s.setBuffer name {}) := by
  let named : LineBuffer × RunState :=
    match s.buffer? name with
    | some b => (b, s)
    | none => ({}, s.setBuffer name {})
  change (Except.ok named.1, named.2) = _
  dsimp only [named]
  cases s.buffer? name <;> rfl

namespace Carries

theorem pure {a : α} (h : P a) : Carries A A (Pure.pure a) P := by
  refine fun s hs hwhole => ⟨hwhole, fun x hx => ⟨hs, ?_⟩⟩
  cases hx
  exact h

theorem throw (e : Error) : Carries A B (MonadExcept.throw e : Run α) P :=
  fun _ _ hwhole => ⟨hwhole, fun _ hx => by cases hx⟩

theorem bind {m : Run α} {f : α → Run β} (hm : Carries A B m P)
    (hf : ∀ a, P a → Carries B C (f a) Q) : Carries A C (m >>= f) Q := by
  intro s hs hwhole
  obtain ⟨hwhole', hresult⟩ := hm s hs hwhole
  rw [outcome_bind]
  cases ho : outcome m s with
  | mk r s' =>
    rw [ho] at hwhole' hresult
    cases r with
    | error e => exact ⟨hwhole', fun _ hx => by cases hx⟩
    | ok a =>
      obtain ⟨hs', ha⟩ := hresult a rfl
      exact hf a ha s' hs' hwhole'

/-- The same where nothing has to be known of the result. -/
theorem seq {m : Run α} {f : α → Run β} (hm : Carries A B m P) (hf : ∀ a, Carries B C (f a) Q) :
    Carries A C (m >>= f) Q :=
  hm.bind fun a _ => hf a

/-- What comes behind a failure does not matter. -/
theorem throw_bind (e : Error) {f : α → Run β} :
    Carries A B ((MonadExcept.throw e : Run α) >>= f) Q :=
  (throw (B := A) (P := fun _ => False) e).bind fun _ h => h.elim

theorem ite {c : Prop} [Decidable c] {m n : Run α} (hm : Carries A B m P) (hn : Carries A B n P) :
    Carries A B (if c then m else n) P := by
  split
  · exact hm
  · exact hn

/-- It does not have to matter where work ends. -/
theorem done {m : Run α} (hm : Carries A B m P) : Carries A Anywhere m P := by
  intro s hs hwhole
  obtain ⟨hwhole', hresult⟩ := hm s hs hwhole
  exact ⟨hwhole', fun a ha => ⟨trivial, (hresult a ha).2⟩⟩

theorem result {m : Run α} (hm : Carries A B m)
    (h : ∀ s, A s → s.Whole → ∀ a, (outcome m s).1 = .ok a → P a) : Carries A B m P := by
  intro s hs hwhole
  obtain ⟨hwhole', hresult⟩ := hm s hs hwhole
  exact ⟨hwhole', fun a ha => ⟨(hresult a ha).1, h s hs hwhole a ha⟩⟩

theorem mapM {f : β → Run α} {l : List β} (hf : ∀ b ∈ l, Carries A A (f b)) :
    Carries A A (l.mapM f) := by
  induction l with
  | nil => exact pure trivial
  | cons b l ih =>
    obtain ⟨hb, hl⟩ := List.forall_mem_cons.mp hf
    rw [List.mapM_cons]
    exact hb.seq fun _ => (ih hl).seq fun _ => pure trivial

theorem mapM_option {f : β → Run α} {o : Option β} (hf : ∀ b ∈ o, Carries A A (f b)) :
    Carries A A (o.mapM f) := by
  cases o with
  | none => exact pure trivial
  | some b => exact (hf b rfl).seq fun _ => pure trivial

/-- Work that only reads. -/
theorem of_reads {m : Run α} (h : ∀ s, (outcome m s).2 = s) : Carries A A m := by
  intro s hs hwhole
  rw [h s]
  exact ⟨hwhole, fun _ _ => ⟨hs, trivial⟩⟩

theorem script : Carries A A Run.script :=
  of_reads fun _ => rfl

theorem engine : Carries A A Run.engine :=
  of_reads fun _ => rfl

theorem getWorld : Carries A A (getThe World) :=
  of_reads fun _ => rfl

theorem modifyWorld (f : World → α × World) : Carries A Anywhere (MonadStateOf.modifyGet f : Run α) :=
  fun _ _ hwhole => ⟨⟨hwhole.engine.congr rfl rfl rfl, hwhole.script⟩, fun _ _ => ⟨trivial, trivial⟩⟩

/-- Work on a script that leaves its buffers alone. -/
theorem modifyScript {f : Script → Script} (h : ∀ s, (f s).buffers = s.buffers) :
    Carries A Anywhere (Run.modifyScript f) := by
  refine fun s _ hwhole => ⟨⟨hwhole.engine, ?_⟩, fun _ _ => ⟨trivial, trivial⟩⟩
  have hscript : (f s.active.script).Whole := by
    rw [Script.Whole, h]
    exact hwhole.script
  exact hscript

theorem setBuffer (name : String) {b : LineBuffer} (hb : b.Whole) :
    Carries A Anywhere (NamedBuffers.setBuffer name b) :=
  fun _ _ hwhole => ⟨hwhole.setBuffer name hb, fun _ _ => ⟨trivial, trivial⟩⟩

theorem setSelected {b : LineBuffer} (hb : b.Whole) : Carries A Anywhere (Run.setSelected b) :=
  script.seq fun _ => setBuffer _ hb

section Closed
variable (hA : Closed A)
include hA

theorem record (event : Event) : Carries A A (modifyEngine (·.record event)) :=
  fun s hs hwhole => ⟨hwhole.record event, fun _ _ => ⟨hA.recorded s hs event, trivial⟩⟩

theorem buffer (name : String) : Carries A A (NamedBuffers.buffer name) LineBuffer.Whole := by
  intro s hs hwhole
  have hnamed := hA.named s hs name
  rw [outcome_buffer] at hnamed ⊢
  cases hb : s.buffer? name with
  | some b =>
    rw [hb] at hnamed
    refine ⟨hwhole, fun x hx => ⟨hnamed, ?_⟩⟩
    cases hx
    exact hwhole.buffer? hb
  | none =>
    rw [hb] at hnamed
    refine ⟨hwhole.setBuffer name LineBuffer.whole_empty, fun x hx => ⟨hnamed, ?_⟩⟩
    cases hx
    exact LineBuffer.whole_empty

theorem selected : Carries A A Run.selected fun r => r.2.Whole :=
  script.seq fun _ => (buffer hA _).bind fun _ hb => pure hb

end Closed

theorem asked (path : String) (f : FileTree → List String → String → Bool) :
    Carries A Anywhere (FileAction.asked path f) :=
  (modifyWorld _).seq fun _ => getWorld.seq fun _ => pure trivial

theorem attempt (name : String) (a : FileAction α) : Carries A Anywhere (FileAction.attempt name a) := by
  have hrequest : Carries A Anywhere (FileAction.outcome a) := modifyWorld _
  refine hrequest.seq fun r => ?_
  cases r with
  | ok _ => exact pure trivial
  | error e => exact (modifyWorld _).seq fun _ => pure trivial

theorem demand (path : String) {a : FileAction α} (h : ∀ w x, (outcome a w).1 = .ok x → P x) :
    Carries A Anywhere (FileAction.demand path a) P := by
  have hrequest : Carries A Anywhere (FileAction.outcome a) := modifyWorld _
  refine (hrequest.result fun s _ _ r hr => ?_).bind fun r (hr : ∀ x, r = .ok x → P x) => ?_
  · rintro x rfl
    exact h s.engine.world x (Except.ok.inj hr)
  · cases r with
    | ok x => exact pure (hr x rfl)
    | error e => exact throw _

end Carries

end LineScript.Run
