import LineScript.Proofs.Run.Runs

/-! A limit for loops changes nothing but where it ends a run. -/
namespace LineScript

/-- Whether a loop was entered too often. -/
def Error.ExceedsLimit (err : Error) : Prop :=
  ∃ limit, err.cause = .failure (.loopLimit limit)

/-- The state with another limit for loops. -/
def RunState.limited (s : RunState) (limit : Option Nat) : RunState :=
  { s with engine := s.engine.limited limit }

namespace Run

variable {α β : Type}

/-- Whether some work does the same with whatever limit for loops. -/
def Blind (m : Run α) : Prop :=
  ∀ s limit, outcome m (s.limited limit) = ((outcome m s).1, (outcome m s).2.limited limit)

/-- Whether some work does the same without a limit for loops, unless it exceeds the limit. -/
def Unguards (m : Run α) : Prop :=
  ∀ s, (∀ err, (outcome m s).1 = .error err → ¬ err.ExceedsLimit) →
    outcome m (s.limited none) = ((outcome m s).1, (outcome m s).2.limited none)

namespace Blind

/-- Work that sees and changes what statements work on does not see the limit. -/
theorem of_steady {m : Run α} (hm : Steady m) : Blind m := by
  intro s limit
  have hlimited : outcome m (s.limited limit) = _ := hm s (s.limited limit) rfl
  rw [hlimited, ← hm.under_self s]
  rfl

theorem pure (a : α) : Blind (Pure.pure a) :=
  fun _ _ => rfl

theorem bind {m : Run α} {f : α → Run β} (hm : Blind m) (hf : ∀ a, Blind (f a)) : Blind (m >>= f) := by
  intro s limit
  rw [outcome_bind, outcome_bind, hm]
  cases outcome m s with
  | mk r s' =>
    cases r with
    | error _ => rfl
    | ok a => exact hf a s' limit

theorem ite {c : Prop} [Decidable c] {m n : Run α} (hm : Blind m) (hn : Blind n) :
    Blind (if c then m else n) := by
  split
  · exact hm
  · exact hn

theorem jumps : Blind Run.jumps :=
  fun _ _ => rfl

theorem index : Blind Run.index :=
  fun _ _ => rfl

theorem loops : Blind Run.loops :=
  fun _ _ => rfl

theorem setLoops (loops : LoopCounts) : Blind (Run.setLoops loops) :=
  fun _ _ => rfl

theorem jumpBy (table : JumpTable → Targets) : Blind (Run.jumpBy table) := by
  refine jumps.bind fun jumps => index.bind fun index => ?_
  cases JumpTable.target (table jumps) index <;> exact fun _ _ => rfl

end Blind

namespace Unguards

theorem of_blind {m : Run α} (hm : Blind m) : Unguards m :=
  fun s _ => hm s none

theorem bind {m : Run α} {f : α → Run β} (hm : Unguards m) (hf : ∀ a, Unguards (f a)) :
    Unguards (m >>= f) := by
  intro s hs
  rw [outcome_bind] at hs ⊢
  rw [outcome_bind]
  have hfirst := hm s
  cases ho : outcome m s with
  | mk r s' =>
    rw [ho] at hs hfirst
    cases r with
    | error err =>
      have herror : ∀ err', (Except.error err : Except Error α) = .error err' → ¬ err'.ExceedsLimit := by
        intro err' h
        cases h
        exact hs err rfl
      rw [hfirst herror]
    | ok a =>
      have hok : ∀ err, (Except.ok a : Except Error α) = .error err → ¬ err.ExceedsLimit :=
        fun _ h => by cases h
      rw [hfirst hok]
      exact hf a s' hs

theorem ite {c : Prop} [Decidable c] {m n : Run α} (hm : Unguards m) (hn : Unguards n) :
    Unguards (if c then m else n) := by
  split
  · exact hm
  · exact hn

theorem enterLoop : Unguards Run.enterLoop := by
  intro s hs
  rw [outcome_enterLoop] at hs ⊢
  rw [outcome_enterLoop]
  cases hlimit : s.engine.config.loopLimit with
  | none => rfl
  | some limit =>
    rw [hlimit] at hs
    dsimp only at hs ⊢
    split_ifs at hs ⊢ with hexceeds
    · exact absurd ⟨limit, rfl⟩ (hs _ rfl)
    · rfl

/-- No statement does anything else without a limit. -/
theorem execute (text : String) (st : Statement) : Unguards (Run.execute text st) := by
  by_cases hplain : st.isPlain = true
  · exact of_blind (.of_steady (Steady.execute text hplain))
  · cases st with
    | ifTest t =>
      refine of_blind ((Blind.of_steady (Steady.testHolds t)).bind fun holds => ?_)
      exact .ite (.pure _) (.jumpBy _)
    | elseWord | endWhile | script => exact of_blind (.jumpBy _)
    | whileTest t =>
      refine (of_blind (.of_steady (Steady.testHolds t))).bind fun holds => ?_
      refine .ite (enterLoop.bind fun _ => of_blind (.pure _)) (of_blind ?_)
      exact Blind.loops.bind fun _ => Blind.index.bind fun _ => (Blind.setLoops _).bind fun _ => .jumpBy _
    | leave levels condition =>
      have hleave : Blind leaveLoops := by
        refine Blind.jumps.bind fun jumps => Blind.index.bind fun index => ?_
        cases JumpTable.target jumps.blockTargets index with
        | error f => exact fun _ _ => rfl
        | ok t => exact Blind.loops.bind fun _ => (Blind.setLoops _).bind fun _ => .pure _
      cases condition with
      | none => exact of_blind hleave
      | some t =>
        refine of_blind ((Blind.of_steady (Steady.testHolds t)).bind fun leaves => ?_)
        exact .ite (.pure _) hleave
    | endIf | endScript => exact of_blind fun _ _ => rfl
    | _ => exact absurd rfl hplain

end Unguards

end Run

/-- What a step comes to, with another limit for loops. -/
def Progress.limited (limit : Option Nat) : Progress → Progress
  | .running m => .running { m with engine := m.engine.limited limit }
  | .ended e s r => .ended (e.limited limit) s r

namespace Machine

/-- The machine with another limit for loops. -/
def limited (m : Machine) (limit : Option Nat) : Machine :=
  { m with engine := m.engine.limited limit }

variable {m : Machine} {limit : Option Nat}

theorem unwind_limited (e : Engine) (s : Script) (r : Except Error Outcome) (callers : List Activation) :
    unwind (e.limited limit) s r callers = (unwind e s r callers).limited limit := by
  induction callers generalizing e s r with
  | nil => rfl
  | cons caller callers ih =>
    match r with
    | .ok (.finished _) => rfl
    | .ok (.aborted _) => exact ih (e.leave s) _ _
    | .error _ => exact ih (e.leave s) _ _

theorem call_limited (hm : m.engine.Checked) (l : Located) (name : String)
    (parameters : List (String × String)) :
    (m.limited limit).call l name parameters = (m.call l name parameters).limited limit := by
  obtain ⟨-, -, hblind⟩ := Engine.Orderly.enter ⟨l.line, m.active.script.directory?⟩ name parameters
    m.engine hm
  have hentered : outcome (Engine.enter ⟨l.line, (m.limited limit).active.script.directory?⟩ name parameters)
      (m.limited limit).engine = _ := hblind limit
  rw [call_eq, call_eq, hentered]
  cases outcome (Engine.enter ⟨l.line, m.active.script.directory?⟩ name parameters) m.engine with
  | mk r e =>
    cases r with
    | ok a => rfl
    | error err => exact unwind_limited _ _ _ _

theorem proceed_limited {s : RunState} (hs : s.engine.Checked) (callers : List Activation) (l : Located)
    (r : Except Error Flow) :
    proceed callers l (r, s.limited limit) = (proceed callers l (r, s)).limited limit := by
  match r with
  | .error _ | .ok (.finish _) | .ok (.abort _) => exact unwind_limited _ _ _ _
  | .ok .next | .ok (.jump _) => rfl
  | .ok (.call name parameters) =>
    exact call_limited (m := ⟨s.engine, s.active, callers⟩) hs l name parameters

/-- A step that does not exceed the limit is the same without one. -/
theorem step_unguarded (hm : m.Checked)
    (hlimit : ∀ e s err, m.step = .ended e s (.error err) → ¬ err.ExceedsLimit) :
    (m.limited none).step = m.step.limited none := by
  cases hcurrent : m.active.current? with
  | none =>
    have hstep : ∀ m' : Machine, m'.active = m.active → m'.step = m'.finish (.ok (.finished 0)) := by
      intro m' hactive
      rw [step, hactive, hcurrent]
    rw [hstep m rfl, hstep (m.limited none) rfl]
    exact unwind_limited _ _ _ _
  | some slot =>
    cases slot with
    | none =>
      have hstep : ∀ m' : Machine, m'.active = m.active →
          m'.step = .running (m'.goTo (m'.active.script.index + 1)) := by
        intro m' hactive
        rw [step, hactive, hcurrent]
      rw [hstep m rfl, hstep (m.limited none) rfl]
      rfl
    | some l =>
      have hannounced : ((m.limited none).announce l).engine = (m.announce l).engine.limited none := rfl
      have hchecked : (m.announce l).engine.Checked := hm.engine
      have hline : (m.limited none).active.current? = some (some l) := hcurrent
      rw [step_eq hcurrent] at hlimit ⊢
      rw [step_eq hline, hannounced]
      obtain ⟨loops, -, hfollows⟩ :=
        Run.execute_effect (s := ⟨m.active, (m.announce l).engine⟩) hm.accepted hcurrent
      have hexecute := Run.Unguards.execute l.text l.statement ⟨m.active, (m.announce l).engine⟩
      cases ho : outcome (Run.execute l.text l.statement) ⟨m.active, (m.announce l).engine⟩ with
      | mk r s =>
        rw [ho] at hlimit hexecute hfollows
        have hengine := hfollows.engine_checked hchecked
        have hscript := hfollows.script_checked hm.script
        have hproceed : ∀ err, r = .error err → ¬ err.ExceedsLimit := by
          rintro err rfl ⟨limit, hcause⟩
          obtain ⟨e', s', err', hunwind, -, -, hcause'⟩ :=
            unwind_error hengine hscript hm.scripts (err.located (s.active.placeOf l))
          exact hlimit e' s' err' hunwind ⟨limit, hcause'.trans hcause⟩
        have hlimited : outcome (Run.execute l.text l.statement)
            ⟨m.active, (m.announce l).engine.limited none⟩ = (r, s.limited none) := hexecute hproceed
        have hactive : (m.limited none).active = m.active := rfl
        rw [hactive, hlimited]
        exact proceed_limited hengine m.callers l r

/-- A run that does not exceed the limit is the same without one. -/
theorem run_unguarded (hm : m.Checked) (fuel : Nat)
    (hlimit : ∀ e s err, run fuel m = some (e, s, .error err) → ¬ err.ExceedsLimit) :
    run fuel (m.limited none) = (run fuel m).map fun (e, s, r) => (e.limited none, s, r) := by
  induction fuel generalizing m with
  | zero => rfl
  | succ fuel ih =>
    rw [run] at hlimit ⊢
    rw [run]
    have hchecked := (stepped hm).checked hm
    cases hstep : m.step with
    | running m' =>
      have hnext : ∀ e s err, m.step = .ended e s (.error err) → ¬ err.ExceedsLimit := by
        intro e s err h
        rw [hstep] at h
        cases h
      rw [step_unguarded hm hnext]
      rw [hstep] at hchecked hlimit ⊢
      exact ih hchecked hlimit
    | ended e s r =>
      rw [hstep] at hlimit
      have hnext : ∀ e s err, m.step = .ended e s (.error err) → ¬ err.ExceedsLimit := by
        intro e' s' err h
        rw [hstep] at h
        cases h
        exact hlimit e s err rfl
      rw [step_unguarded hm hnext, hstep]
      rfl

/-- As long as a run goes on, it passes the same states without a limit. -/
theorem Reaches.unguarded {m₀ : Machine} {past : List Machine} (h : Reaches m₀ past m) (hm : m₀.Checked) :
    Reaches (m₀.limited none) (past.map (·.limited none)) (m.limited none) := by
  induction h with
  | start => exact .start
  | @step past m m' hreaches hstep ih =>
    have hnext : ∀ e s err, m.step = .ended e s (.error err) → ¬ err.ExceedsLimit := by
      intro e s err h
      rw [hstep] at h
      cases h
    have hunguarded := step_unguarded (hreaches.checked hm) hnext
    rw [hstep] at hunguarded
    exact .step ih hunguarded

end Machine

end LineScript
