import LineScript.Proofs.Run.Outcomes

/-! Work that fails for ordinary reasons only: neither because a promise between the parts of the library is
broken, nor because a loop is entered too often. Where it fails is not known to the work itself. -/
namespace LineScript

/-- Whether a cause is no broken promise and no exceeded loop. -/
def Cause.Ordinary : Cause → Prop
  | .fault _ | .failure (.loopLimit _) => False
  | _ => True

/-- Whether an error has an ordinary cause. -/
def Error.Ordinary (e : Error) : Prop :=
  e.cause.Ordinary

theorem Error.Ordinary.located {e : Error} (h : e.Ordinary) (p : SourcePosition) :
    (e.located p).Ordinary :=
  h

theorem Error.ordinary_ofFile (path : String) (e : FileError) : (Error.ofFile path e).Ordinary :=
  trivial

/-- Whether work has succeeded with a result of a kind, or failed for an ordinary reason with an error of a
kind. -/
inductive Achieved {α : Type} (E : Error → Prop) (P : α → Prop) : Except Error α → Prop
  | ok {a : α} : P a → Achieved E P (.ok a)
  | error {e : Error} : e.Ordinary → E e → Achieved E P (.error e)

namespace Run

variable {α β : Type} {P : α → Prop} {Q : β → Prop}

/-- Whether some work fails for ordinary reasons only, with errors that have no place yet, and what is true of
its result. -/
def Orderly (m : Run α) (P : α → Prop := fun _ => True) : Prop :=
  ∀ s, Achieved (·.position = none) P (outcome m s).1

namespace Orderly

theorem pure {a : α} (h : P a) : Orderly (Pure.pure a) P :=
  fun _ => .ok h

theorem throw {e : Error} (h : e.Ordinary) (hplace : e.position = none) :
    Orderly (MonadExcept.throw e : Run α) P :=
  fun _ => .error h hplace

theorem bind {m : Run α} {f : α → Run β} (hm : Orderly m P)
    (hf : ∀ a, P a → Orderly (f a) Q) : Orderly (m >>= f) Q := by
  intro s
  have hfirst := hm s
  rw [outcome_bind]
  generalize outcome m s = r at hfirst
  obtain ⟨r, s'⟩ := r
  cases hfirst with
  | ok ha => exact hf _ ha s'
  | error he hplace => exact .error he hplace

/-- The same for a result of which nothing has to be known. -/
theorem seq {m : Run α} {f : α → Run β} (hm : Orderly m) (hf : ∀ a, Orderly (f a) Q) :
    Orderly (m >>= f) Q :=
  hm.bind fun a _ => hf a

/-- What comes behind a failure does not matter. -/
theorem throw_bind {e : Error} (h : e.Ordinary) (hplace : e.position = none) {f : α → Run β} :
    Orderly (MonadExcept.throw e >>= f) Q :=
  (throw (P := fun _ => False) h hplace).bind fun _ h => h.elim

theorem ite {c : Prop} [Decidable c] {m n : Run α} (hm : Orderly m P) (hn : Orderly n P) :
    Orderly (if c then m else n) P := by
  split
  · exact hm
  · exact hn

theorem mapM {f : β → Run α} {l : List β} (hf : ∀ b ∈ l, Orderly (f b)) : Orderly (l.mapM f) := by
  induction l with
  | nil => exact .pure trivial
  | cons b l ih =>
    rw [List.mapM_cons]
    refine (hf b List.mem_cons_self).seq fun _ => ?_
    exact (ih fun b hb => hf b (List.mem_cons_of_mem _ hb)).seq fun _ => .pure trivial

theorem mapM_option {f : β → Run α} {o : Option β} (hf : ∀ b ∈ o, Orderly (f b)) :
    Orderly (o.mapM f) := by
  cases o with
  | none => exact .pure trivial
  | some b => exact (hf b rfl).seq fun _ => .pure trivial

theorem modifyGet (f : RunState → α × RunState) : Orderly (MonadStateOf.modifyGet f : Run α) :=
  fun _ => .ok trivial

theorem script : Orderly Run.script :=
  fun _ => .ok trivial

theorem engine : Orderly Run.engine :=
  fun _ => .ok trivial

theorem modifyScript (f : Script → Script) : Orderly (Run.modifyScript f) :=
  fun _ => .ok trivial

theorem getWorld : Orderly (getThe World) :=
  fun _ => .ok trivial

theorem modifyWorld (f : World → α × World) : Orderly (MonadStateOf.modifyGet f : Run α) :=
  fun _ => .ok trivial

theorem modifyEngine (f : Engine → Engine) : Orderly (Run.modifyEngine f) :=
  fun _ => .ok trivial

/-- Work on the engine is orderly if it is there. -/
theorem onEngine {a : Engine.Action α} (h : ∀ e, Achieved (·.position = none) P (outcome a e).1) :
    Orderly (Run.onEngine a) P := by
  intro s
  have ha := h s.engine
  rw [outcome_onEngine]
  dsimp only
  generalize (outcome a s.engine).1 = r at ha
  cases ha with
  | ok hx => exact .ok hx
  | error he hplace => exact .error he hplace

theorem buffer (name : String) : Orderly (NamedBuffers.buffer name : Run LineBuffer) :=
  modifyGet _

theorem setBuffer (name : String) (b : LineBuffer) : Orderly (NamedBuffers.setBuffer name b : Run Unit) :=
  modifyGet _

theorem selected : Orderly Run.selected :=
  script.seq fun _ => (buffer _).seq fun _ => .pure trivial

theorem setSelected (b : LineBuffer) : Orderly (Run.setSelected b) :=
  script.seq fun _ => setBuffer _ b

theorem request (a : FileAction α) : Orderly (FileAction.outcome a) :=
  modifyWorld _

theorem asked (path : String) (f : FileTree → List String → String → Bool) :
    Orderly (FileAction.asked path f) :=
  (modifyWorld _).seq fun _ => getWorld.seq fun _ => .pure trivial

theorem attempt (name : String) (a : FileAction α) : Orderly (FileAction.attempt name a) := by
  refine (request a).seq fun r => ?_
  cases r with
  | ok _ => exact .pure trivial
  | error e => exact (modifyWorld _).seq fun _ => .pure trivial

/-- A refused request is an ordinary failure. -/
theorem demand (path : String) (a : FileAction α) : Orderly (FileAction.demand path a) := by
  refine (request a).seq fun r => ?_
  cases r with
  | ok x => exact .pure trivial
  | error e => exact .throw (Error.ordinary_ofFile path e) rfl

end Orderly

end Run

end LineScript
