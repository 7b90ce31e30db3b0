import LineScript.Proofs.Outcome
import LineScript.Run.State

/-! Work that sees and changes nothing but what statements work on: variables, buffers and the world. Where
a script stands, what it consists of, and what else the engine holds, is out of its reach. -/
namespace LineScript

/-- The state with what statements work on, and everything else taken from another state. -/
def RunState.under (s c : RunState) : RunState :=
  { active := { c.active with
      script := { c.active.script with
        bindings := s.active.script.bindings
        buffers := s.active.script.buffers
        selected := s.active.script.selected
        pushed := s.active.script.pushed
        replaced := s.active.script.replaced } }
    engine := { c.engine with
      main := s.engine.main
      buffers := s.engine.buffers
      bindings := s.engine.bindings
      world := s.engine.world } }

/-- Whether two states are those of scripts with the same name, which scripts can see. -/
def RunState.SameName (s c : RunState) : Prop :=
  c.active.script.name = s.active.script.name

namespace Run

variable {α β : Type}

/-- Whether some work comes to the same in all surroundings and leaves them alone. -/
def Steady (m : Run α) : Prop :=
  ∀ s c : RunState, s.SameName c →
    outcome m (s.under c) = ((outcome m s).1, (outcome m s).2.under c)

namespace Steady

theorem pure (a : α) : Steady (Pure.pure a) :=
  fun _ _ _ => rfl

theorem throw (e : Error) : Steady (MonadExcept.throw e : Run α) :=
  fun _ _ _ => rfl

/-- Steady work leaves the name of the script alone. -/
theorem sameName {m : Run α} (hm : Steady m) (s : RunState) : s.SameName (outcome m s).2 := by
  have h := hm s s rfl
  change outcome m s = ((outcome m s).1, (outcome m s).2.under s) at h
  rw [RunState.SameName, h]
  rfl

/-- What steady work leaves behind differs from what it found only in what statements work on. -/
theorem under_self {m : Run α} (hm : Steady m) (s : RunState) :
    (outcome m s).2.under s = (outcome m s).2 :=
  (congrArg Prod.snd (hm s s rfl)).symm

/-- Steady work does the same whether or not there is a program around it. -/
theorem outcome_eq {m : Run α} (hm : Steady m) (a : Activation) (e : Engine) :
    outcome m ⟨a, e⟩ =
      let o := outcome m ⟨{ script := a.script, program := {} }, e⟩
      (o.1, ⟨{ a with script := o.2.active.script }, o.2.engine⟩) := by
  have h := hm ⟨{ script := a.script, program := {} }, e⟩ ⟨a, e⟩ rfl
  have hself := hm.under_self ⟨{ script := a.script, program := {} }, e⟩
  dsimp only
  rw [← hself]
  exact h

theorem bind {m : Run α} {f : α → Run β} (hm : Steady m) (hf : ∀ a, Steady (f a)) :
    Steady (m >>= f) := by
  intro s c hname
  have hnext := hm.sameName s
  rw [outcome_bind, outcome_bind, hm s c hname]
  cases h : outcome m s with
  | mk r s' =>
    rw [h] at hnext
    cases r with
    | error e => rfl
    | ok a => exact hf a s' c (hname.trans hnext.symm)

theorem ite {c : Prop} [Decidable c] {m n : Run α} (hm : Steady m) (hn : Steady n) :
    Steady (if c then m else n) := by
  split
  · exact hm
  · exact hn

theorem modifyGet {f : RunState → α × RunState}
    (h : ∀ s c : RunState, s.SameName c → f (s.under c) = ((f s).1, (f s).2.under c)) :
    Steady (MonadStateOf.modifyGet f : Run α) := by
  intro s c hname
  change (Except.ok (f (s.under c)).1, (f (s.under c)).2) = _
  rw [h s c hname]
  rfl

/-- Reading of the script what statements work on. -/
theorem script {f : Script → Run β} (hf : ∀ s, Steady (f s))
    (hsame : ∀ s c : RunState, s.SameName c →
      f (s.under c).active.script = f s.active.script) :
    Steady (Run.script >>= f) := by
  intro s c hname
  change outcome (f (s.under c).active.script) (s.under c) = _
  rw [hsame s c hname, hf s.active.script s c hname]
  rfl

/-- Reading of the engine what statements work on. -/
theorem engine {f : Engine → Run β} (hf : ∀ e, Steady (f e))
    (hsame : ∀ s c : RunState, f (s.under c).engine = f s.engine) : Steady (Run.engine >>= f) := by
  intro s c hname
  change outcome (f (s.under c).engine) (s.under c) = _
  rw [hsame s c, hf s.engine s c hname]
  rfl

theorem getWorld : Steady (getThe World) :=
  fun _ _ _ => rfl

theorem modifyWorld (f : World → α × World) : Steady (MonadStateOf.modifyGet f) :=
  fun _ _ _ => rfl

theorem record (event : Event) : Steady (modifyEngine (·.record event)) :=
  fun _ _ _ => rfl

theorem note (level : Level) (text : String) : Steady (Run.note level text) :=
  record _

end Steady

theorem buffer?_under {s c : RunState} (name : String) : (s.under c).buffer? name = s.buffer? name :=
  rfl

theorem setBuffer_under {s c : RunState} (name : String) (b : LineBuffer) :
    (s.under c).setBuffer name b = (s.setBuffer name b).under c := by
  unfold RunState.setBuffer Engine.setBuffer
  split
  · split <;> rfl
  · rfl

namespace Steady

theorem buffer (name : String) : Steady (NamedBuffers.buffer name) := by
  refine modifyGet fun s c _ => ?_
  rw [buffer?_under, setBuffer_under]
  split <;> rfl

theorem setBuffer (name : String) (b : LineBuffer) : Steady (NamedBuffers.setBuffer name b) :=
  modifyGet fun _ _ _ => Prod.ext rfl (setBuffer_under name b)

theorem selected : Steady Run.selected :=
  .script (fun _ => (buffer _).bind fun _ => .pure _) fun _ _ _ => rfl

theorem setSelected (b : LineBuffer) : Steady (Run.setSelected b) :=
  .script (fun _ => setBuffer _ b) fun _ _ _ => rfl

end Steady

end Run

end LineScript
