import LineScript.Proofs.Run.Restoration

/-! How scripts end, and what becomes of those that wait for them. An `exit` out of the whole run, a `stop` and
an error end all of them at once; the end of one script alone lets its caller go on. -/
namespace LineScript

namespace Run

/-- How a statement that belongs to no block goes on. -/
inductive GoesOn (s s' : RunState) : Statement → Flow → Prop
  | next {st : Statement} : GoesOn s s' st .next
  | exit {code : Option Operand} {n : Int} : outcome (codeOf code 0) s = (.ok n, s') →
      GoesOn s s' (.exit false code) (.finish n)
  | exitAll {code : Option Operand} {n : Int} : outcome (codeOf code 0) s = (.ok n, s') →
      GoesOn s s' (.exit true code) (.abort n)
  | stop {code : Option Operand} {n : Int} : outcome (codeOf code 1) s = (.ok n, s') →
      GoesOn s s' (.stop code) (.abort n)
  | call {script : Value} {given : Parameters} {name : String} {ps : List (String × String)} :
      GoesOn s s' (.call script given) (.call name ps)

/-- What comes of finding out what a call means, if anything, is the call. -/
theorem callee_eq_call {script : Value} {given : Parameters} {s s' : RunState} {flow : Flow}
    (h : outcome (callee script given) s = (.ok flow, s')) : ∃ name ps, flow = .call name ps := by
  obtain ⟨name, s₁, -, h⟩ := outcome_bind_eq_ok.mp h
  match given with
  | .none =>
    cases h
    exact ⟨name, [], rfl⟩
  | .pairs given =>
    obtain ⟨ps, s₂, -, h⟩ := outcome_bind_eq_ok.mp h
    cases h
    exact ⟨name, ps, rfl⟩
  | .buffer b =>
    obtain ⟨b, s₂, -, h⟩ := outcome_bind_eq_ok.mp h
    split at h
    · cases h
      exact ⟨name, _, rfl⟩
    · cases h

theorem goesOn {text : String} {st : Statement} {s s' : RunState} {flow : Flow} (hplain : st.isPlain = true)
    (h : outcome (execute text st) s = (.ok flow, s')) : GoesOn s s' st flow := by
  cases st with
  | exit abort code =>
    obtain ⟨n, s₁, hcode, h⟩ := outcome_bind_eq_ok.mp h
    cases abort with
    | false =>
      cases h
      exact .exit hcode
    | true =>
      cases h
      exact .exitAll hcode
  | stop code =>
    obtain ⟨n, s₁, hcode, h⟩ := outcome_bind_eq_ok.mp h
    cases h
    exact .stop hcode
  | call script given =>
    obtain ⟨name, ps, rfl⟩ := callee_eq_call h
    exact .call
  | ifTest | elseWord | endIf | whileTest | endWhile | leave | script | endScript => cases hplain
  | _ =>
    obtain ⟨_, s₁, -, h⟩ := outcome_bind_eq_ok.mp h
    cases h
    exact .next

end Run

namespace RunState.Follows

variable {s s' : RunState} {loops : LoopCounts}

theorem placeOf (h : s'.Follows s loops) (l : Located) : s'.active.placeOf l = s.active.placeOf l := by
  rw [← h]
  rfl

theorem current? (h : s'.Follows s loops) : s'.active.current? = s.active.current? := by
  unfold Activation.current?
  rw [h.program, h.index]

end RunState.Follows

/-- Whether a script stands at a call. -/
def Activation.Calling (a : Activation) : Prop :=
  ∃ l script given, a.current? = some (some l) ∧ l.statement = .call script given

namespace Machine

/-- How the innermost script ends, by itself: at its end, by an `exit`, by a `stop`, or with an error. An error
of a statement has the place of the statement; so has that of a call that fails before the script that is called
runs, unless the source of a script is refused, where the error has the place of the mistake. -/
inductive EndsWith (m : Machine) : Except Error Outcome → Prop
  | atEnd : m.active.current? = none → EndsWith m (.ok (.finished 0))
  | exit {l : Located} {code : Option Operand} {n : Int} {s : RunState} :
      m.active.current? = some (some l) → l.statement = .exit false code →
      outcome (Run.codeOf code 0) ⟨m.active, (m.announce l).engine⟩ = (.ok n, s) →
      EndsWith m (.ok (.finished n))
  | exitAll {l : Located} {code : Option Operand} {n : Int} {s : RunState} :
      m.active.current? = some (some l) → l.statement = .exit true code →
      outcome (Run.codeOf code 0) ⟨m.active, (m.announce l).engine⟩ = (.ok n, s) →
      EndsWith m (.ok (.aborted n))
  | stop {l : Located} {code : Option Operand} {n : Int} {s : RunState} :
      m.active.current? = some (some l) → l.statement = .stop code →
      outcome (Run.codeOf code 1) ⟨m.active, (m.announce l).engine⟩ = (.ok n, s) →
      EndsWith m (.ok (.aborted n))
  | failed {l : Located} {cause : Cause} {s : RunState} : m.active.current? = some (some l) →
      outcome (Run.execute l.text l.statement) ⟨m.active, (m.announce l).engine⟩ =
        (.error ⟨cause, none⟩, s) →
      EndsWith m (.error ⟨cause, some (m.active.placeOf l)⟩)
  | notCalled {l : Located} {name : String} {ps : List (String × String)} {s : RunState} {cause : Cause}
      {e : Engine} : m.Calls l name ps s →
      outcome (Engine.enter (s.site l) name ps) s.engine = (.error ⟨cause, none⟩, e) →
      EndsWith m (.error ⟨cause, some (m.active.placeOf l)⟩)
  | refused {l : Located} {name : String} {ps : List (String × String)} {s : RunState} {cause : Cause}
      {place : SourcePosition} {e : Engine} : m.Calls l name ps s →
      outcome (Engine.enter (s.site l) name ps) s.engine = (.error ⟨cause, some place⟩, e) →
      Error.OfSource ⟨cause, some place⟩ → EndsWith m (.error ⟨cause, some place⟩)

/-- The innermost script by itself. -/
def alone (m : Machine) : Machine :=
  { m with callers := [] }

variable {m m₀ : Machine} {past : List Machine} {e e' : Engine} {s s' : Script} {callers : List Activation}

section Alone

variable {l : Located} {r : Except Error Outcome} {st : RunState}

/-- A call that does not enter a script fails, and the error is placed at the call unless it has a place. -/
theorem ends_of_call {name : String} {ps : List (String × String)} (hcall : m.Calls l name ps st)
    (hst : st.engine.Checked) (hplace : st.active.placeOf l = m.active.placeOf l)
    (h : call ⟨st.engine, st.active, []⟩ l name ps = .ended e s r) : m.EndsWith r := by
  rw [call_eq] at h
  dsimp only at h
  cases ho : outcome (Engine.enter (st.site l) name ps) st.engine with
  | mk r₁ e₁ =>
    unfold RunState.site at ho
    rw [ho] at h
    cases r₁ with
    | ok a => cases h
    | error err =>
      cases h
      obtain ⟨cause, position⟩ := err
      rw [hplace]
      cases position with
      | none => exact .notCalled hcall ho
      | some place =>
        have hraised := (Engine.Orderly.enter _ _ _).raised hst ho
        rcases hraised with hnone | hsource
        · cases hnone
        · exact .refused hcall ho hsource

/-- A statement that ends its script does so in one of these ways. -/
theorem ends_of_proceed (hm : m.Checked) (hcurrent : m.active.current? = some (some l))
    (h : proceed [] l (outcome (Run.execute l.text l.statement) ⟨m.active, (m.announce l).engine⟩) =
      .ended e s r) : m.EndsWith r := by
  obtain ⟨loops, heffect, hfollows⟩ :=
    Run.execute_effect (s := ⟨m.active, (m.announce l).engine⟩) hm.accepted hcurrent
  cases ho : outcome (Run.execute l.text l.statement) ⟨m.active, (m.announce l).engine⟩ with
  | mk r₁ st =>
    rw [ho] at h heffect hfollows
    have hplace : st.active.placeOf l = m.active.placeOf l := hfollows.placeOf l
    cases r₁ with
    | error err =>
      have hnone : err.position = none := by
        cases heffect with
        | failed _ hnone _ => exact hnone
        | exceeded => rfl
      obtain ⟨cause, position⟩ := err
      obtain rfl : position = none := hnone
      cases h
      rw [hplace]
      exact .failed hcurrent ho
    | ok flow =>
      cases heffect with
      | moved htarget =>
        rw [proceed_of_target (hfollows.index.symm ▸ htarget)] at h
        cases h
      | ended hplain htarget =>
        have hgoes := Run.goesOn hplain ho
        generalize hst : l.statement = statement at hgoes
        cases hgoes with
        | next => cases htarget
        | exit hcode =>
          cases h
          exact .exit hcurrent hst hcode
        | exitAll hcode =>
          cases h
          exact .exitAll hcurrent hst hcode
        | stop hcode =>
          cases h
          exact .stop hcurrent hst hcode
        | call => exact ends_of_call ⟨hcurrent, ho⟩ (hfollows.engine_checked hm.engine) hplace h

/-- A script that is by itself and ends with a step ends in one of these ways. -/
theorem ends_of_alone (hm : m.Checked) (h : m.alone.step = .ended e s r) : m.EndsWith r := by
  cases hcurrent : m.active.current? with
  | none =>
    rw [step, show m.alone.active.current? = none from hcurrent] at h
    cases h
    exact .atEnd hcurrent
  | some slot =>
    cases slot with
    | none =>
      rw [step, show m.alone.active.current? = some none from hcurrent] at h
      cases h
    | some l =>
      have halone : m.alone.active.current? = some (some l) := hcurrent
      rw [step_eq halone] at h
      exact ends_of_proceed hm hcurrent h

end Alone

section Unwind

variable {r : Except Error Outcome}

/-- Whether a result is that of the whole run: `exit` out of all scripts, `stop`, or an error with a place. -/
def Final : Except Error Outcome → Prop
  | .ok (.finished _) => False
  | .ok (.aborted _) => True
  | .error err => err.position.isSome = true

/-- A caller does not move an error that has a place. -/
theorem blame_of_isSome {err : Error} (h : err.position.isSome = true) (a : Activation) :
    a.blame err = err := by
  obtain ⟨cause, position⟩ := err
  cases position with
  | none => cases h
  | some place =>
    unfold Activation.blame
    split <;> rfl

/-- A result of the whole run ends all scripts that wait, and none of them changes it. -/
theorem unwind_of_final (hr : Final r) (e : Engine) (s : Script) (callers : List Activation) :
    unwind e s r callers = .ended (settle e s callers).1 (settle e s callers).2 r := by
  induction callers generalizing e s with
  | nil => rfl
  | cons caller callers ih =>
    unfold unwind settle
    cases r with
    | ok o =>
      cases o with
      | finished n => exact hr.elim
      | aborted n => exact ih _ _
    | error err =>
      dsimp only
      rw [blame_of_isSome hr caller]
      exact ih _ _

/-- Leaving scripts changes nothing but the books. -/
theorem settle_eq (e : Engine) (s : Script) (callers : List Activation) :
    ∃ scripts calls, (settle e s callers).1 = { e with scripts, calls } := by
  induction callers generalizing e s with
  | nil => exact ⟨e.scripts, e.calls, rfl⟩
  | cons caller callers ih => exact ih (e.leave s) caller.script

/-- However the innermost script ends, either it alone ends, or its result is that of the whole run. -/
theorem EndsWith.finished_or_final (h : m.EndsWith r) : (∃ n, r = .ok (.finished n)) ∨ Final r := by
  cases h with
  | atEnd | exit => exact .inl ⟨_, rfl⟩
  | exitAll | stop => exact .inr trivial
  | failed | notCalled | refused => exact .inr rfl

/-- Where a part of the scripts that run ends, it is because the innermost one ends. If that one alone ends,
nothing waits for it in the part. -/
theorem ends_of_part (hm : m.Checked) {inner : List Activation}
    (h : step ⟨m.engine, m.active, inner⟩ = .ended e s r) :
    m.EndsWith r ∧ ∀ n, r = .ok (.finished n) → inner = [] := by
  have hpart : step ⟨m.engine, m.active, inner⟩ = m.alone.step.above inner := step_above m.alone inner
  rw [hpart] at h
  cases halone : m.alone.step with
  | running m' =>
    rw [halone] at h
    cases h
  | ended e₁ s₁ r₁ =>
    have hends := ends_of_alone hm halone
    rw [halone] at h
    rcases hends.finished_or_final with ⟨n, rfl⟩ | hfinal
    · cases inner with
      | nil =>
        cases h
        exact ⟨hends, fun _ _ => rfl⟩
      | cons caller inner => cases h
    · have hunwind : unwind e₁ s₁ r₁ inner = .ended e s r := h
      rw [unwind_of_final hfinal] at hunwind
      cases hunwind
      refine ⟨hends, fun n hn => ?_⟩
      rw [hn] at hfinal
      exact hfinal.elim

end Unwind

section Waiting

/-- A call leaves its script where it stands. -/
theorem calling_of_call {l : Located} {name : String} {ps : List (String × String)} {st : RunState}
    {loops : LoopCounts} (hcurrent : m.active.current? = some (some l))
    (hplain : l.statement.isPlain = true)
    (hcall : outcome (Run.execute l.text l.statement) ⟨m.active, (m.announce l).engine⟩ =
      (.ok (.call name ps), st))
    (hfollows : st.Follows m.state loops) : st.active.Calling := by
  have hgoes := Run.goesOn hplain hcall
  generalize hst : l.statement = statement at hgoes
  cases hgoes with
  | call => exact ⟨l, _, _, hfollows.current?.trans hcurrent, hst⟩

/-- All scripts that wait stand at a call, after a step as before. -/
theorem Stepped.calling {m' : Machine} (hm : ∀ a ∈ m.callers, a.Calling) (h : m.Stepped (.running m')) :
    ∀ a ∈ m'.callers, a.Calling := by
  cases h with
  | moved => exact hm
  | called _ hcurrent hplain hcall hfollows =>
    exact List.forall_mem_cons.mpr ⟨calling_of_call hcurrent hplain hcall hfollows, hm⟩
  | returned _ hcallers =>
    rw [hcallers] at hm
    exact (List.forall_mem_cons.mp hm).2

theorem Reaches.calling (h : Reaches m₀ past m) (hm₀ : m₀.Checked) (hcallers : m₀.callers = []) :
    ∀ a ∈ m.callers, a.Calling := by
  induction h with
  | start =>
    rw [hcallers]
    exact fun _ h => absurd h List.not_mem_nil
  | @step past m m' hreaches hstep ih =>
    have hstepped := stepped (hreaches.checked hm₀)
    rw [hstep] at hstepped
    exact hstepped.calling ih

end Waiting

end Machine

namespace Engine

/-- What a run from outside comes to whose machine has been reached and ends. -/
theorem tryRun_of_reaches {e₀ e₁ e : Engine} {name : Option String} {a : Activation} {past : List Machine}
    {m : Machine} {s : Script} {r : Except Error Outcome} (hstart : outcome (start name) e₀ = (.ok a, e₁))
    (hreaches : Machine.Reaches ⟨e₁, a, []⟩ past m) (hend : m.step = .ended e s r) {fuel : Nat}
    (hfuel : past.length < fuel) : e₀.tryRun fuel name = some (r, e.leave s) := by
  have hrun := Machine.run_eq_some_iff.mpr ⟨past, m, hreaches, hend, hfuel⟩
  rw [tryRun_eq, hstart]
  dsimp only
  rw [hrun]
  rfl

/-- A part of the scripts that run, from the innermost one on, ends as the innermost one does. If that one ends
alone, it is the whole part, and its caller goes on behind the call, whatever the code. If it ends with an `exit`
out of all scripts, a `stop` or an error, all scripts end in the same step, without another statement: nothing
but the books changes. The run from outside comes to the same code, or to the same error with the place where
it arose. -/
theorem unwinds_at_once {e₀ : Engine} (he₀ : e₀.Reachable) {name : Option String} {a : Activation}
    {e₁ : Engine} (hstart : outcome (start name) e₀ = (.ok a, e₁)) {past : List Machine} {m : Machine}
    (hreaches : Machine.Reaches ⟨e₁, a, []⟩ past m) {inner outer : List Activation}
    (hcallers : m.callers = inner ++ outer) {e : Engine} {s : Script} {r : Except Error Outcome}
    (hends : Machine.step ⟨m.engine, m.active, inner⟩ = .ended e s r) :
    m.EndsWith r ∧
      (∀ code, r = .ok (.finished code) → inner = [] ∧
        (outer = [] → ∀ fuel, past.length < fuel → e₀.tryRun fuel name = some (r, e.leave s)) ∧
        ∀ caller callers, outer = caller :: callers → caller.Calling ∧
          m.step = .running ⟨e.leave s, caller.goTo (caller.script.index + 1), callers⟩ ∧
          ∀ code', Machine.unwind e s (.ok (.finished code')) outer = m.step) ∧
      ((∀ code, r ≠ .ok (.finished code)) → ∃ e' s', m.step = .ended e' s' r ∧
        (∃ scripts calls, e' = { e with scripts, calls }) ∧
        ∀ fuel, past.length < fuel → e₀.tryRun fuel name = some (r, e'.leave s')) := by
  obtain ⟨ha, he₁⟩ := (Orderly.start name).of_ok he₀.checked hstart
  have hm₀ := ha.checked_machine he₁
  have hm := hreaches.checked hm₀
  obtain ⟨hinnermost, hinner⟩ := Machine.ends_of_part hm hends
  have hstep : m.step = Machine.unwind e s r outer := by
    have habove := Machine.step_above ⟨m.engine, m.active, inner⟩ outer
    rw [hends] at habove
    have hself : Machine.above outer ⟨m.engine, m.active, inner⟩ = m := by
      unfold Machine.above
      rw [← hcallers]
    rw [hself] at habove
    exact habove
  refine ⟨hinnermost, ?_, ?_⟩
  · rintro code rfl
    refine ⟨hinner code rfl, ?_, ?_⟩
    · rintro rfl fuel hfuel
      exact tryRun_of_reaches hstart hreaches hstep hfuel
    · rintro caller callers rfl
      have hmem : caller ∈ m.callers := by
        rw [hcallers]
        exact List.mem_append_right _ List.mem_cons_self
      refine ⟨hreaches.calling hm₀ rfl caller hmem, hstep, fun code' => ?_⟩
      rw [hstep]
      rfl
  · intro hnot
    have hfinal : Machine.Final r := by
      rcases hinnermost.finished_or_final with ⟨n, hn⟩ | hfinal
      · exact absurd hn (hnot n)
      · exact hfinal
    rw [Machine.unwind_of_final hfinal] at hstep
    refine ⟨_, _, hstep, Machine.settle_eq e s outer, ?_⟩
    intro fuel hfuel
    exact tryRun_of_reaches hstart hreaches hstep hfuel

end Engine

/-- Whether the first statement calls a script whose first statement ends the whole run with a code. -/
def Machine.callsAbort (code : Int) (m : Machine) : Bool :=
  match m.step with
  | .running m' =>
    match Machine.step ⟨m'.engine, m'.active, []⟩ with
    | .ended _ _ (.ok o) => m'.callers.length == 1 && o == .aborted code
    | _ => false
  | .ended .. => false

theorem Machine.exists_of_callsAbort {code : Int} {m : Machine} (h : m.callsAbort code = true) :
    ∃ m' e s, m.step = .running m' ∧ m'.callers.length = 1 ∧
      Machine.step ⟨m'.engine, m'.active, []⟩ = .ended e s (.ok (.aborted code)) := by
  unfold callsAbort at h
  split at h
  next m' hstep =>
    split at h
    next e s o hended =>
      rw [Bool.and_eq_true, beq_iff_eq, beq_iff_eq] at h
      obtain ⟨hlength, rfl⟩ := h
      exact ⟨m', e, s, hstep, hlength, hended⟩
    next => cases h
  next => cases h

/-- A script calls another one, which stops the run before the caller can go on. -/
theorem Engine.unwinds_at_once_stop :
    let p : Program :=
      { statements := [some ⟨1, 1, "call b", .call [.text [.text "b"]] .none⟩, some ⟨2, 1, "mark", .mark⟩] }
    let q : Program := { statements := [some ⟨1, 1, "stop", .stop none⟩] }
    let e₀ := (outcome (Engine.add { name := "a", lines := ["call b", "mark"], program := some p }) {}).2
    let e := (outcome (Engine.add { name := "b", lines := ["stop"], program := some q }) e₀).2
    ∃ a e₁ m e₂ s, outcome (start (some "a")) e = (.ok a, e₁) ∧
      Machine.step ⟨e₁, a, []⟩ = .running m ∧ m.callers.length = 1 ∧
      Machine.step ⟨m.engine, m.active, []⟩ = .ended e₂ s (.ok (.aborted 1)) ∧
      m.EndsWith (.ok (.aborted 1)) ∧
      ∃ e' s', m.step = .ended e' s' (.ok (.aborted 1)) ∧
        (∃ scripts calls, e' = { e₂ with scripts, calls }) ∧
        ∀ fuel, 1 < fuel → e.tryRun fuel (some "a") = some (.ok (.aborted 1), e'.leave s') := by
  intro p q e₀ e
  have hp : Program.check "a" ["call b", "mark"] 0 = .ok p := by cbv
  have hq : Program.check "b" ["stop"] 0 = .ok q := by cbv
  have he₀ : e₀.Reachable := .add (.new {} {}) (.check (.new "a" ["call b", "mark"]) hp)
  have he : e.Reachable := .add he₀ (.check (.new "b" ["stop"]) hq)
  have hcalls : e.startsWith (some "a") (Machine.callsAbort 1) = true := by cbv
  clear_value e
  obtain ⟨a, e₁, hstart, hcalls⟩ := exists_of_startsWith hcalls
  obtain ⟨m, e₂, s, hstep, hlength, hended⟩ := Machine.exists_of_callsAbort hcalls
  have hreaches : Machine.Reaches ⟨e₁, a, []⟩ [⟨e₁, a, []⟩] m := .step .start hstep
  obtain ⟨hends, -, hwhole⟩ := unwinds_at_once he hstart hreaches (List.nil_append _).symm hended
  exact ⟨a, e₁, m, e₂, s, hstart, hstep, hlength, hended, hends, hwhole fun _ h => by cases h⟩

end LineScript
