import LineScript.Proofs.Run.Checked
import LineScript.Proofs.Run.Effect

/-! What a step of a machine comes to, said once for all properties of runs. -/
namespace LineScript

namespace RunState.Follows

variable {s s' : RunState} {loops : LoopCounts}

theorem engine_checked (h : s'.Follows s loops) (hs : s.engine.Checked) : s'.engine.Checked := by
  rw [Engine.Checked, h.scripts]
  exact hs

theorem script_checked (h : s'.Follows s loops) (hs : s.active.script.Checked) :
    s'.active.script.Checked := by
  rw [Script.Checked, h.program?]
  exact hs

theorem accepted (h : s'.Follows s loops) (hs : s.active.program.Accepted) :
    s'.active.program.Accepted := by
  rw [h.program]
  exact hs

end RunState.Follows

/-- A script that is at a line has not come to its end. -/
theorem Activation.lt_of_current? (a : Activation) {slot : Option Located} (h : a.current? = some slot) :
    a.script.index < a.program.statements.length := by
  obtain ⟨hlt, -⟩ := List.getElem?_eq_some_iff.mp h
  exact hlt

namespace Machine

/-- Whether all scripts, running or not, keep accepted programs only. -/
structure Checked (m : Machine) : Prop where
  engine : m.engine.Checked
  accepted : m.active.program.Accepted
  script : m.active.script.Checked
  callers : ∀ a ∈ m.callers, a.program.Accepted ∧ a.script.Checked

/-- Whether the next statement is a loop whose test holds. -/
def entersLoop (m : Machine) : Bool :=
  match m.active.current? with
  | some (some l) => Run.entersLoop ⟨m.active, (m.announce l).engine⟩ l.statement
  | _ => false

/-- The state on which the next statement works. -/
def state (m : Machine) : RunState :=
  ⟨m.active, m.engine⟩

/-- What a step comes to: the innermost script moves on, calls another one, goes back to its caller, or the
whole run ends, because a loop is entered too often or for another reason. -/
inductive Stepped (m : Machine) : Progress → Prop
  | moved {s : RunState} {j : Nat} {loops : LoopCounts} :
      m.active.script.index < m.active.program.statements.length →
      m.active.Move m.entersLoop j loops →
      (m.entersLoop = true → ∀ limit ∈ m.engine.config.loopLimit,
        m.active.loops.count m.active.script.index < limit) →
      s.Follows m.state loops →
      Stepped m (.running ⟨s.engine, s.active.goTo j, m.callers⟩)
  | called {s : RunState} {l : Located} {name : String} {parameters : List (String × String)}
      {a : Activation} {e : Engine} : m.entersLoop = false →
      m.active.current? = some (some l) → l.statement.isPlain = true →
      outcome (Run.execute l.text l.statement) ⟨m.active, (m.announce l).engine⟩ =
        (.ok (.call name parameters), s) →
      s.Follows m.state m.active.loops →
      outcome (Engine.enter ⟨l.line, s.active.script.directory?⟩ name parameters) s.engine = (.ok a, e) →
      Stepped m (.running ⟨e, a, s.active :: m.callers⟩)
  | returned {s : RunState} {caller : Activation} {callers : List Activation} :
      m.entersLoop = false → m.callers = caller :: callers → s.Follows m.state m.active.loops →
      Stepped m (.running
        ⟨s.engine.leave s.active.script, caller.goTo (caller.script.index + 1), callers⟩)
  | ended {e : Engine} {s : Script} {r : Except Error Outcome} : m.entersLoop = false → e.Checked →
      s.Checked → (∀ err, r = .error err → err.Ordinary) → Stepped m (.ended e s r)
  | exceeded {e : Engine} {s : Script} {err : Error} {limit : Nat} : m.entersLoop = true →
      m.engine.config.loopLimit = some limit →
      limit ≤ m.active.loops.count m.active.script.index → e.Checked → s.Checked →
      err.cause = .failure (.loopLimit limit) → Stepped m (.ended e s (.error err))

section Unwind

variable {e : Engine} {s : Script} {callers : List Activation}

/-- A failure ends the whole run. -/
theorem unwind_error (he : e.Checked) (hs : s.Checked) (hcallers : ∀ a ∈ callers, a.script.Checked)
    (err : Error) :
    ∃ e' s' err', unwind e s (.error err) callers = .ended e' s' (.error err') ∧ e'.Checked ∧
      s'.Checked ∧ err'.cause = err.cause := by
  induction callers generalizing e s err with
  | nil => exact ⟨e, s, err, rfl, he, hs, rfl⟩
  | cons a callers ih =>
    obtain ⟨ha, hcallers⟩ := List.forall_mem_cons.mp hcallers
    obtain ⟨e', s', err', hunwind, he', hs', hcause⟩ := ih (he.leave hs) ha hcallers (a.blame err)
    refine ⟨e', s', err', hunwind, he', hs', hcause.trans ?_⟩
    unfold Activation.blame
    split <;> rfl

/-- An `exit` out of the whole run ends it. -/
theorem unwind_aborted (he : e.Checked) (hs : s.Checked) (hcallers : ∀ a ∈ callers, a.script.Checked)
    (code : Int) :
    ∃ e' s', unwind e s (.ok (.aborted code)) callers = .ended e' s' (.ok (.aborted code)) ∧
      e'.Checked ∧ s'.Checked := by
  induction callers generalizing e s with
  | nil => exact ⟨e, s, rfl, he, hs⟩
  | cons a callers ih =>
    obtain ⟨ha, hcallers⟩ := List.forall_mem_cons.mp hcallers
    exact ih (he.leave hs) ha hcallers

end Unwind

variable {m : Machine} {s : RunState}

theorem Checked.scripts (h : m.Checked) : ∀ a ∈ m.callers, a.script.Checked :=
  fun a ha => (h.callers a ha).2

/-- A failure of the innermost script. -/
theorem stepped_error (hm : m.Checked) (he : s.engine.Checked) (hs : s.active.script.Checked)
    (henters : m.entersLoop = false) {err : Error} (herr : err.Ordinary) :
    m.Stepped (unwind s.engine s.active.script (.error err) m.callers) := by
  obtain ⟨e', s', err', hunwind, he', hs', hcause⟩ := unwind_error he hs hm.scripts err
  rw [hunwind]
  refine .ended henters he' hs' fun err'' h => ?_
  cases h
  rw [Error.Ordinary, hcause]
  exact herr

/-- The end of the innermost script. -/
theorem stepped_finished (hm : m.Checked) (henters : m.entersLoop = false)
    (hs : s.Follows m.state m.active.loops) (code : Int) :
    m.Stepped (unwind s.engine s.active.script (.ok (.finished code)) m.callers) := by
  cases hcallers : m.callers with
  | nil =>
    refine .ended henters (hs.engine_checked hm.engine) (hs.script_checked hm.script) fun _ h => ?_
    cases h
  | cons caller callers => exact .returned henters hcallers hs

/-- The end of the whole run. -/
theorem stepped_aborted (hm : m.Checked) (henters : m.entersLoop = false)
    (hs : s.Follows m.state m.active.loops) (code : Int) :
    m.Stepped (unwind s.engine s.active.script (.ok (.aborted code)) m.callers) := by
  obtain ⟨e', s', hunwind, he', hs'⟩ :=
    unwind_aborted (hs.engine_checked hm.engine) (hs.script_checked hm.script) hm.scripts code
  rw [hunwind]
  refine .ended henters he' hs' fun err h => ?_
  cases h

/-- A line without a statement is passed. -/
theorem stepped_blank (hcurrent : m.active.current? = some none) : m.Stepped m.step := by
  have henters : m.entersLoop = false := by rw [entersLoop, hcurrent]
  have hblank : ∀ p, ¬ m.active.At p := by
    intro p h
    have hslot : m.active.program.statements[m.active.script.index]? = some none := hcurrent
    rw [Activation.At, statesAt, hslot] at h
    cases h
  have hstep : m.step = .running ⟨m.engine, m.active.goTo (m.active.script.index + 1), m.callers⟩ := by
    rw [step, hcurrent]
    rfl
  rw [hstep]
  refine .moved (s := m.state) (m.active.lt_of_current? hcurrent) (henters ▸ .next (hblank _) (hblank _))
    (fun h => ?_) rfl
  rw [henters] at h
  cases h

/-- A call enters a script, or fails. -/
theorem stepped_call (hm : m.Checked) (henters : m.entersLoop = false) {l : Located} {name : String}
    {parameters : List (String × String)} (hcurrent : m.active.current? = some (some l))
    (hplain : l.statement.isPlain = true)
    (hexecute : outcome (Run.execute l.text l.statement) ⟨m.active, (m.announce l).engine⟩ =
      (.ok (.call name parameters), s))
    (hs : s.Follows m.state m.active.loops) :
    m.Stepped (proceed m.callers l (.ok (.call name parameters), s)) := by
  obtain ⟨hentered, hleft, -⟩ := Engine.Orderly.enter ⟨l.line, s.active.script.directory?⟩ name parameters
    s.engine (hs.engine_checked hm.engine)
  rw [proceed_call, call_eq]
  dsimp only
  cases ho : outcome (Engine.enter ⟨l.line, s.active.script.directory?⟩ name parameters) s.engine with
  | mk r e =>
    rw [ho] at hentered hleft
    cases hentered with
    | ok hfresh => exact .called henters hcurrent hplain hexecute hs ho
    | error herr =>
      exact stepped_error (s := ⟨s.active, e⟩) hm hleft (hs.script_checked hm.script) henters
        (herr.located _)

/-- A statement that has a target moves the script there. -/
theorem proceed_of_target {callers : List Activation} {l : Located} {flow : Flow} {j : Nat}
    (h : flow.target? s.active.script.index = some j) :
    proceed callers l (.ok flow, s) = .running ⟨s.engine, s.active.goTo j, callers⟩ := by
  cases flow with
  | next | jump =>
    cases h
    rfl
  | finish | abort | call => cases h

/-- Every step of a machine is one of these. -/
theorem stepped (hm : m.Checked) : m.Stepped m.step := by
  cases hcurrent : m.active.current? with
  | none =>
    have henters : m.entersLoop = false := by rw [entersLoop, hcurrent]
    have hstep : m.step = unwind m.engine m.active.script (.ok (.finished 0)) m.callers := by
      rw [step, hcurrent]
      rfl
    rw [hstep]
    exact stepped_finished (s := m.state) hm henters rfl 0
  | some slot =>
    cases slot with
    | none => exact stepped_blank hcurrent
    | some l =>
      have henters : m.entersLoop = Run.entersLoop ⟨m.active, (m.announce l).engine⟩ l.statement := by
        rw [entersLoop, hcurrent]
      rw [step_eq hcurrent]
      obtain ⟨loops, heffect, hfollows⟩ :=
        Run.execute_effect (s := ⟨m.active, (m.announce l).engine⟩) hm.accepted hcurrent
      -- What has been announced is seen in the world only.
      have hfollows : RunState.Follows _ m.state loops := hfollows
      generalize ho : outcome (Run.execute l.text l.statement) ⟨m.active, (m.announce l).engine⟩ = o
        at heffect hfollows
      obtain ⟨r, s⟩ := o
      have hengine := hfollows.engine_checked hm.engine
      have hscript := hfollows.script_checked hm.script
      cases heffect with
      | failed he _ hnot => exact stepped_error hm hengine hscript (henters.trans hnot) (he.located _)
      | exceeded hdoes hlimit hcount =>
        obtain ⟨e', s', err', hunwind, he', hs', hcause⟩ :=
          unwind_error hengine hscript hm.scripts
            ((Error.ofFailure (.loopLimit _)).located (s.active.placeOf l))
        have hproceed : proceed m.callers l (.error (.ofFailure (.loopLimit _)), s) = _ := hunwind
        rw [hproceed]
        exact .exceeded (henters.trans hdoes) hlimit hcount he' hs' hcause
      | @moved flow j loops htarget hmove hguard =>
        have hindex : s.active.script.index = m.active.script.index := hfollows.index
        rw [proceed_of_target (hindex ▸ htarget)]
        refine .moved (m.active.lt_of_current? hcurrent) (henters ▸ hmove) (fun h => hguard ?_) hfollows
        exact henters ▸ h
      | @ended flow hplain htarget =>
        have hnot : m.entersLoop = false := by
          rw [henters]
          refine Run.entersLoop_eq_false ?_
          cases h : l.statement <;> first | rfl | (rw [h] at hplain; cases hplain)
        cases flow with
        | next | jump => cases htarget
        | finish code => exact stepped_finished hm hnot hfollows code
        | abort code => exact stepped_aborted hm hnot hfollows code
        | call name parameters => exact stepped_call hm hnot hcurrent hplain ho hfollows

end Machine

end LineScript
