import LineScript.Proofs.Run.Books
import LineScript.Proofs.Run.Promises

/-! Runs restore the books. However a run or a call in it ends, what is taken out of the books is put back
on the way. -/
namespace LineScript

/-- Where a call of a script stands. -/
def RunState.site (s : RunState) (l : Located) : Engine.CallSite :=
  ⟨l.line, s.active.script.directory?⟩

theorem RunState.Follows.source {s s' : RunState} {loops : LoopCounts} (h : s'.Follows s loops) :
    s'.active.script.source = s.active.script.source := by
  rw [← h]
  rfl

namespace Machine

/-- A statement of the innermost script that calls another one, and the state in which it does. -/
structure Calls (m : Machine) (l : Located) (name : String) (ps : List (String × String))
    (s : RunState) : Prop where
  current : m.active.current? = some (some l)
  called : outcome (Run.execute l.text l.statement) ⟨m.active, (m.announce l).engine⟩ =
    (.ok (.call name ps), s)

/-- What is left of scripts that run once all of them but the outermost are left: the engine, and the
outermost one. -/
def settle (e : Engine) (s : Script) : List Activation → Engine × Script
  | [] => (e, s)
  | caller :: callers => settle (e.leave s) caller.script callers

/-- Whether the books of scripts that run are in order: once all but the outermost are left, the books are
as in a given engine, and the outermost script is from a given source. -/
structure Settles (e₀ : Engine) (source : Source) (e : Engine) (s : Script) (callers : List Activation) :
    Prop where
  tidy : e.Tidy
  restored : e₀.Restored (settle e s callers).1
  source : (settle e s callers).2.source = source

variable {e₀ e e' : Engine} {source : Source} {s s' : Script} {callers : List Activation}

/-- Leaving scripts goes the same way in engines with the same books. -/
theorem settle_restored (h : e.Restored e') (hs : s'.source = s.source) (callers : List Activation) :
    (settle e s callers).1.Restored (settle e' s' callers).1 ∧
      (settle e' s' callers).2.source = (settle e s callers).2.source := by
  induction callers generalizing e e' s s' with
  | nil => exact ⟨h, hs⟩
  | cons caller callers ih => exact ih (h.leave hs) rfl

namespace Settles

theorem start (he : e.Tidy) (s : Script) : Settles e s.source e s [] :=
  ⟨he, .refl e, rfl⟩

/-- Books that were in order stay so where nothing is taken out of them. -/
theorem restored_by (h : Settles e₀ source e s callers) (he' : e'.Tidy) (hrestored : e.Restored e')
    (hs : s'.source = s.source) : Settles e₀ source e' s' callers := by
  obtain ⟨hsettled, hsource⟩ := settle_restored hrestored hs callers
  exact ⟨he', h.restored.trans hsettled, hsource.trans h.source⟩

theorem congr (h : Settles e₀ source e s callers) (hcalls : e'.calls = e.calls)
    (hscripts : e'.scripts = e.scripts) (hs : s'.source = s.source) :
    Settles e₀ source e' s' callers :=
  h.restored_by (h.tidy.congr hcalls hscripts) ((Engine.Restored.refl e).congr hcalls hscripts) hs

/-- A script that is called is left before its caller is. -/
theorem call (h : Settles e₀ source e s callers) {caller : Activation} (hs : caller.script.source = s.source)
    (hlends : e.Lends s' e') : Settles e₀ source e' s' (caller :: callers) := by
  have hleft := h.restored_by (hlends.tidy.leave s') hlends.restored hs
  exact ⟨hlends.tidy, hleft.restored, hleft.source⟩

theorem leave {caller : Activation} (h : Settles e₀ source e s (caller :: callers)) :
    Settles e₀ source (e.leave s) caller.script callers :=
  ⟨h.tidy.leave s, h.restored, h.source⟩

end Settles

end Machine

/-- Whether the books are in order behind a step. -/
def Progress.Settles (e₀ : Engine) (source : Source) : Progress → Prop
  | .running m => Machine.Settles e₀ source m.engine m.active.script m.callers
  | .ended e s _ => Machine.Settles e₀ source e s []

namespace Machine

variable {e₀ e : Engine} {source : Source} {s : Script} {callers : List Activation}

/-- However a script ends, those that end with it are left one after the other. -/
theorem Settles.unwind (h : Settles e₀ source e s callers) (r : Except Error Outcome) :
    (unwind e s r callers).Settles e₀ source := by
  induction callers generalizing e s r with
  | nil => exact h
  | cons caller callers ih =>
    unfold Machine.unwind
    cases r with
    | error err => exact ih h.leave _
    | ok o =>
      cases o with
      | finished code => exact h.leave.congr rfl rfl rfl
      | aborted code => exact ih h.leave _

/-- What a line does keeps the books in order. -/
theorem Settles.proceed {o : Except Error Flow × RunState} {l : Located}
    (h : Settles e₀ source o.2.engine o.2.active.script callers) :
    (proceed callers l o).Settles e₀ source := by
  obtain ⟨r, st⟩ := o
  cases r with
  | error err => exact h.unwind _
  | ok flow =>
    cases flow with
    | next | jump => exact h.congr rfl rfl rfl
    | finish | abort => exact h.unwind _
    | call name ps =>
      let site : Engine.CallSite := ⟨l.line, st.active.script.directory?⟩
      have hbegun := Engine.begun_enter h.tidy site name ps
      rw [Machine.proceed_call, Machine.call_eq]
      dsimp only
      cases ho : outcome (Engine.enter site name ps) st.engine with
      | mk r e' =>
        rw [ho] at hbegun
        cases r with
        | ok a => exact h.call rfl hbegun
        | error err => exact (h.restored_by hbegun.1 hbegun.2 rfl).unwind _

/-- A step keeps the books in order. -/
theorem Settles.step {m : Machine} (hm : m.Checked)
    (h : Settles e₀ source m.engine m.active.script m.callers) : m.step.Settles e₀ source := by
  cases hcurrent : m.active.current? with
  | none =>
    have hstep : m.step = Machine.unwind m.engine m.active.script (.ok (.finished 0)) m.callers := by
      rw [Machine.step, hcurrent]
      rfl
    rw [hstep]
    exact h.unwind _
  | some slot =>
    cases slot with
    | none =>
      have hstep : m.step = .running (m.goTo (m.active.script.index + 1)) := by
        rw [Machine.step, hcurrent]
      rw [hstep]
      exact h.congr rfl rfl rfl
    | some l =>
      obtain ⟨loops, -, hfollows⟩ :=
        Run.execute_effect (s := ⟨m.active, (m.announce l).engine⟩) hm.accepted hcurrent
      rw [step_eq hcurrent]
      exact Settles.proceed (h.congr hfollows.calls hfollows.scripts hfollows.source)

theorem Reaches.settles {m₀ m : Machine} {past : List Machine} (h : Reaches m₀ past m) (hm₀ : m₀.Checked)
    (hsettles : Settles e₀ source m₀.engine m₀.active.script m₀.callers) :
    Settles e₀ source m.engine m.active.script m.callers := by
  induction h with
  | start => exact hsettles
  | @step past m m' hreaches hstep ih =>
    have hbehind := ih.step (hreaches.checked hm₀)
    rw [hstep] at hbehind
    exact hbehind

/-- A script that has run to its end leaves the books as it found them. -/
theorem run_restores {a : Activation} {e₂ : Engine} {r : Except Error Outcome} {fuel : Nat} (he : e.Tidy)
    (hm : Machine.Checked ⟨e, a, []⟩) (hrun : run fuel ⟨e, a, []⟩ = some (e₂, s, r)) :
    e₂.Tidy ∧ e.Restored e₂ ∧ s.source = a.script.source := by
  obtain ⟨past, m, hreaches, hend, -⟩ := run_eq_some_iff.mp hrun
  have hbehind := (hreaches.settles hm (.start he a.script)).step (hreaches.checked hm)
  rw [hend] at hbehind
  exact ⟨hbehind.tidy, hbehind.restored, hbehind.source⟩

/-- The machine with more scripts that wait for the outermost one. -/
def above (outer : List Activation) (m : Machine) : Machine :=
  { m with callers := m.callers ++ outer }

end Machine

/-- How a run goes on that is a part of another one, whose scripts wait for it. -/
def Progress.above (outer : List Activation) : Progress → Progress
  | .running m => .running (m.above outer)
  | .ended e s r => Machine.unwind e s r outer

namespace Machine

variable {outer : List Activation}

theorem unwind_append (e : Engine) (s : Script) (r : Except Error Outcome) (inner outer : List Activation) :
    unwind e s r (inner ++ outer) = (unwind e s r inner).above outer := by
  induction inner generalizing e s r with
  | nil => rfl
  | cons caller inner ih =>
    rw [List.cons_append]
    unfold unwind
    cases r with
    | error err => exact ih _ _ _
    | ok o =>
      cases o with
      | finished code => rfl
      | aborted code => exact ih _ _ _

theorem proceed_append (inner outer : List Activation) (l : Located) (o : Except Error Flow × RunState) :
    proceed (inner ++ outer) l o = (proceed inner l o).above outer := by
  obtain ⟨r, s⟩ := o
  cases r with
  | error err => exact unwind_append _ _ _ inner outer
  | ok flow =>
    cases flow with
    | next | jump => rfl
    | finish | abort => exact unwind_append _ _ _ inner outer
    | call name ps =>
      simp only [proceed, call]
      cases (Engine.enter ⟨l.line, s.active.script.directory?⟩ name ps).run.run s.engine with
      | mk r e =>
        cases r with
        | ok a => rfl
        | error err => exact unwind_append _ _ _ inner outer

/-- A part of a run goes on as it does by itself. -/
theorem step_above (m : Machine) (outer : List Activation) :
    (m.above outer).step = m.step.above outer := by
  cases hcurrent : m.active.current? with
  | none =>
    rw [step, step, above, hcurrent]
    exact unwind_append _ _ _ m.callers outer
  | some slot =>
    cases slot with
    | none =>
      rw [step, step, above, hcurrent]
      rfl
    | some l =>
      have habove : (m.above outer).active.current? = some (some l) := hcurrent
      rw [step_eq hcurrent, step_eq habove]
      exact proceed_append m.callers outer l _

theorem Reaches.above {m₀ m : Machine} {past : List Machine} (h : Reaches m₀ past m)
    (outer : List Activation) :
    Reaches (m₀.above outer) (past.map (Machine.above outer)) (m.above outer) := by
  induction h with
  | start => exact .start
  | @step past m m' _ hstep ih =>
    refine .step ih ?_
    rw [step_above, hstep]
    rfl

end Machine

namespace Engine

theorem Tidy.setParameter {e : Engine} (he : e.Tidy) (name value : String) :
    (outcome (setParameter name value) e).2.Tidy := by
  rcases setParameter_cases name value e with hset | hset | ⟨current, s, hs, hset⟩
  · rw [hset]
    exact (Adds.setVariable name value e he).1
  · rw [hset]
    exact he
  · rw [hset]
    obtain rfl : s.name = current := he.name_eq hs
    exact he.insert (s.setVariable name value)

/-- What is left of a script that has been entered or started and has run to its end. -/
theorem Lends.ran {e e₁ e₂ : Engine} {a : Activation} {s : Script} {r : Except Error Outcome} {fuel : Nat}
    (h : e.Lends a.script e₁) (hm : Machine.Checked ⟨e₁, a, []⟩)
    (hrun : Machine.run fuel ⟨e₁, a, []⟩ = some (e₂, s, r)) :
    (e₂.leave s).Tidy ∧ e.Restored (e₂.leave s) := by
  obtain ⟨htidy, hrestored, hsource⟩ := Machine.run_restores h.tidy hm hrun
  exact ⟨htidy.leave s, h.restored.trans (hrestored.leave hsource)⟩

theorem tryRun_restores {e e' : Engine} (he : e.Tidy) (hchecked : e.Checked) {fuel : Nat}
    {name : Option String} {r : Except Error Outcome} (h : e.tryRun fuel name = some (r, e')) :
    e'.Tidy ∧ e.Restored e' := by
  rcases tryRun_eq_some h with ⟨err, -, hstart⟩ | ⟨a, e₁, e₂, s, hstart, hrun, rfl⟩
  · exact start_fails he hstart
  · obtain ⟨ha, he₁⟩ := (Orderly.start name).of_ok hchecked hstart
    exact (start_lends he hstart).ran (ha.checked_machine he₁) hrun

theorem runApart_restores {e e' : Engine} (he : e.Tidy) (hchecked : e.Checked) {s s' : Script}
    (hs : s.Checked) {fuel : Nat} {r : Except Error Outcome} (h : e.runApart fuel s = some (r, s', e')) :
    e'.Tidy ∧ e.Restored e' := by
  have hactivate := Adds.of_worldOnly (worldOnly_activate s) e he
  rcases runApart_eq_some h with ⟨err, -, -, hstart⟩ | ⟨a, e₁, hstart, hrun⟩
  · rw [hstart] at hactivate
    exact hactivate
  · rw [hstart] at hactivate
    obtain ⟨ha, he₁⟩ := (Orderly.activate hs).of_ok hchecked hstart
    obtain ⟨htidy, hrestored, -⟩ := Machine.run_restores hactivate.1 (ha.checked_machine he₁) hrun
    exact ⟨htidy, hactivate.2.trans hrestored⟩

end Engine

/-- Engines that are used as the library is meant to be used are tidy. -/
theorem Engine.Reachable.tidy {e : Engine} : e.Reachable → e.Tidy
  | .new _ _ => ⟨fun _ h => absurd h List.not_mem_nil, List.nodup_nil⟩
  | .world _ h => h.tidy.congr rfl rfl
  | .setBuffer name b h => by
    have he := h.tidy
    unfold Engine.setBuffer
    split <;> exact he.congr rfl rfl
  | .push name line h => h.tidy.push name line
  | .pop h => h.tidy.pop
  | .setParameter name value h => h.tidy.setParameter name value
  | .load name lines h => (Engine.Adds.load _ _ h.tidy).1
  | .loadFile path h => (Engine.Adds.loadFile path _ h.tidy).1
  | .add h _ => (Engine.Adds.add _ _ h.tidy).1
  | .select name h => (Engine.Adds.select name _ h.tidy).1
  | .setVariable name value h => (Engine.Adds.setVariable name value _ h.tidy).1
  | .tryRun h hrun => (Engine.tryRun_restores h.tidy h.checked hrun).1
  | .testAndRun h hrun => by
    obtain ⟨⟨r, e'⟩, hrun, hsettle⟩ := Option.map_eq_some_iff.mp hrun
    have he' := (Engine.tryRun_restores h.tidy h.checked hrun).1
    cases r with
    | ok o =>
      cases hsettle
      exact he'
    | error err =>
      cases hsettle
      exact he'.congr rfl rfl
  | .runApart h hs hrun => (Engine.runApart_restores h.tidy h.checked hs.checked hrun).1
  | .notCalled h hentered => (Engine.enter_fails h.tidy hentered).1
  | .called h hentered hrun => by
    obtain ⟨ha, he₁⟩ := (Engine.Orderly.enter _ _ _).of_ok h.checked hentered
    exact ((Engine.enter_lends h.tidy hentered).ran (ha.checked_machine he₁) hrun).1

namespace Engine

/-- How a machine comes to run: a script is started from outside, or called, or one that is not loaded is
run. -/
inductive Begins (e : Engine) : Machine → Prop
  | started {name : Option String} {a : Activation} {e₁ : Engine} :
      outcome (start name) e = (.ok a, e₁) → Begins e ⟨e₁, a, []⟩
  | called {site : CallSite} {name : String} {ps : List (String × String)} {a : Activation}
      {e₁ : Engine} : outcome (enter site name ps) e = (.ok a, e₁) → Begins e ⟨e₁, a, []⟩
  | apart {s : Script} {a : Activation} {e₁ : Engine} : s.Made →
      outcome (activate s) e = (.ok a, e₁) → Begins e ⟨e₁, a, []⟩

/-- A machine that begins to run is in order. -/
theorem Begins.in_order {e : Engine} {m : Machine} (he : e.Reachable) (h : e.Begins m) :
    m.Checked ∧ Machine.Settles m.engine m.active.script.source m.engine m.active.script m.callers := by
  cases h with
  | started hstart =>
    obtain ⟨ha, he₁⟩ := (Orderly.start _).of_ok he.checked hstart
    exact ⟨ha.checked_machine he₁, .start (start_lends he.tidy hstart).tidy _⟩
  | called hentered =>
    obtain ⟨ha, he₁⟩ := (Orderly.enter _ _ _).of_ok he.checked hentered
    exact ⟨ha.checked_machine he₁, .start (enter_lends he.tidy hentered).tidy _⟩
  | @apart s a e₁ hs hstart =>
    obtain ⟨ha, he₁⟩ := (Orderly.activate hs.checked).of_ok he.checked hstart
    have hactivate := Adds.of_worldOnly (worldOnly_activate s) e he.tidy
    rw [hstart] at hactivate
    exact ⟨ha.checked_machine he₁, .start hactivate.1 _⟩

end Engine

namespace Machine

variable {m : Machine} {l : Located} {name : String} {ps : List (String × String)} {s : RunState}

/-- A call is made with books in order, in an engine with checked scripts. -/
theorem Calls.in_order {e₀ : Engine} {source : Source} (h : m.Calls l name ps s) (hm : m.Checked)
    (hsettles : Settles e₀ source m.engine m.active.script m.callers) :
    s.engine.Tidy ∧ s.engine.Checked := by
  obtain ⟨loops, -, hfollows⟩ :=
    Run.execute_effect (s := ⟨m.active, (m.announce l).engine⟩) hm.accepted h.current
  rw [h.called] at hfollows
  exact ⟨hsettles.tidy.congr hfollows.calls hfollows.scripts, hfollows.engine_checked hm.engine⟩

/-- What a call comes to. -/
theorem Calls.step_eq (h : m.Calls l name ps s) :
    m.step = match outcome (Engine.enter (s.site l) name ps) s.engine with
      | (.ok a, e) => .running ⟨e, a, s.active :: m.callers⟩
      | (.error err, e) =>
        unwind e s.active.script (.error (err.located (s.active.placeOf l))) m.callers := by
  rw [Machine.step_eq h.current, h.called]
  rfl

end Machine

/-- Runs restore the books. A run from outside and a call, however they end, leave the same scripts running
as before and all scripts loaded that were, from the same sources. So does every call in a run, which goes on
as if it were made from outside. No script ever runs twice at a time. -/
theorem Engine.restores_books {e : Engine} (he : e.Reachable) :
    (∀ fuel name r e', e.tryRun fuel name = some (r, e') → e.Restored e') ∧
    (∀ site name ps,
      (∀ err e', outcome (enter site name ps) e = (.error err, e') → e.Restored e') ∧
      ∀ a e₁, outcome (enter site name ps) e = (.ok a, e₁) →
        ∀ fuel e₂ s r, Machine.run fuel ⟨e₁, a, []⟩ = some (e₂, s, r) → e.Restored (e₂.leave s)) ∧
    ∀ m₀, e.Begins m₀ → ∀ past m, Machine.Reaches m₀ past m →
      (m.engine.calls.map (·.script)).Nodup ∧
      ∀ l name ps s, m.Calls l name ps s →
        (∀ err e', outcome (enter (s.site l) name ps) s.engine = (.error err, e') →
          s.engine.Restored e' ∧
            m.step = Machine.unwind e' s.active.script (.error (err.located (s.active.placeOf l)))
              m.callers) ∧
        ∀ a e₁, outcome (enter (s.site l) name ps) s.engine = (.ok a, e₁) →
          m.step = .running (Machine.above (s.active :: m.callers) ⟨e₁, a, []⟩) ∧
          ∀ past' m', Machine.Reaches ⟨e₁, a, []⟩ past' m' →
            Machine.Reaches m₀ (past'.map (Machine.above (s.active :: m.callers)) ++ m :: past)
              (m'.above (s.active :: m.callers)) ∧
            ∀ e₂ s' r, m'.step = .ended e₂ s' r →
              (m'.above (s.active :: m.callers)).step =
                Machine.unwind e₂ s' r (s.active :: m.callers) ∧
              s.engine.Restored (e₂.leave s') := by
  refine ⟨fun fuel name r e' hrun => ?_, fun site name ps => ⟨fun err e' hentered => ?_,
    fun a e₁ hentered fuel e₂ s r hrun => ?_⟩, fun m₀ hbegins past m hreaches => ?_⟩
  · exact (tryRun_restores he.tidy he.checked hrun).2
  · exact (enter_fails he.tidy hentered).2
  · obtain ⟨ha, he₁⟩ := (Orderly.enter _ _ _).of_ok he.checked hentered
    exact ((enter_lends he.tidy hentered).ran (ha.checked_machine he₁) hrun).2
  · obtain ⟨hm₀, hsettles₀⟩ := hbegins.in_order he
    have hm := hreaches.checked hm₀
    have hsettles := hreaches.settles hm₀ hsettles₀
    refine ⟨hsettles.tidy.distinct, fun l name ps s hcalls => ?_⟩
    obtain ⟨htidy, hchecked⟩ := hcalls.in_order hm hsettles
    have hstep := hcalls.step_eq
    constructor
    · intro err e' hentered
      rw [hentered] at hstep
      exact ⟨(enter_fails htidy hentered).2, hstep⟩
    · intro a e₁ hentered
      rw [hentered] at hstep
      refine ⟨hstep, fun past' m' hreaches' => ?_⟩
      have hnested := (hreaches.step hstep).trans (hreaches'.above (s.active :: m.callers))
      refine ⟨hnested, fun e₂ s' r hend => ⟨?_, ?_⟩⟩
      · rw [Machine.step_above, hend]
        rfl
      · obtain ⟨ha, he₁⟩ := (Orderly.enter _ _ _).of_ok hchecked hentered
        have hrun : Machine.run (past'.length + 1) ⟨e₁, a, []⟩ = some (e₂, s', r) :=
          Machine.run_eq_some_iff.mpr ⟨past', m', hreaches', hend, Nat.lt_succ_self _⟩
        exact ((enter_lends htidy hentered).ran (ha.checked_machine he₁) hrun).2

/-- Whether the next statement calls a script that ends at its first statement. -/
def Machine.callsInVain (m : Machine) : Bool :=
  match m.active.current? with
  | some (some l) =>
    match outcome (Run.execute l.text l.statement) ⟨m.active, (m.announce l).engine⟩ with
    | (.ok (.call name ps), s) =>
      match outcome (Engine.enter (s.site l) name ps) s.engine with
      | (.ok a, e) =>
        match Machine.step ⟨e, a, []⟩ with
        | .ended .. => true
        | .running _ => false
      | _ => false
    | _ => false
  | _ => false

theorem Machine.exists_of_callsInVain {m : Machine} (h : m.callsInVain = true) :
    ∃ l name ps s a e e' s' r, m.Calls l name ps s ∧
      outcome (Engine.enter (s.site l) name ps) s.engine = (.ok a, e) ∧
      Machine.step ⟨e, a, []⟩ = .ended e' s' r := by
  unfold callsInVain at h
  split at h
  next l hcurrent =>
    split at h
    next name ps s hcalled =>
      split at h
      next a e hentered =>
        split at h
        next e' s' r hended =>
          exact ⟨l, name, ps, s, a, e, e', s', r, ⟨hcurrent, hcalled⟩, hentered, hended⟩
        next => cases h
      next => cases h
    next => cases h
  next => cases h

/-- A script calls another one, which fails because it calls the first one. -/
theorem Engine.restores_books_recursion :
    let p : Program :=
      { statements := [some ⟨1, 1, "call b", .call [.text [.text "b"]] .none⟩] }
    let q : Program :=
      { statements := [some ⟨1, 1, "call a", .call [.text [.text "a"]] .none⟩] }
    let e₀ := (outcome (Engine.add { name := "a", lines := ["call b"], program := some p }) {}).2
    let e := (outcome (Engine.add { name := "b", lines := ["call a"], program := some q }) e₀).2
    (∃ err e', e.tryRun 3 (some "a") = some (.error err, e') ∧ e.Restored e') ∧
      ∃ a e₁ l name ps s b e₂ e₃ s' r, outcome (start (some "a")) e = (.ok a, e₁) ∧
        Machine.Calls ⟨e₁, a, []⟩ l name ps s ∧
        outcome (enter (s.site l) name ps) s.engine = (.ok b, e₂) ∧
        Machine.step ⟨e₂, b, []⟩ = .ended e₃ s' r ∧ s.engine.Restored (e₃.leave s') := by
  intro p q e₀ e
  have hp : Program.check "a" ["call b"] 0 = .ok p := by cbv
  have hq : Program.check "b" ["call a"] 0 = .ok q := by cbv
  have he₀ : e₀.Reachable := .add (.new {} {}) (.check (.new "a" ["call b"]) hp)
  have he : e.Reachable := .add he₀ (.check (.new "b" ["call a"]) hq)
  have hfails : (e.tryRun 3 (some "a")).map (·.1) =
      some (.error ⟨.failure (.alreadyRunning "a"), some ⟨"b", 1, 1⟩⟩) := by cbv
  have hcalls : e.startsWith (some "a") Machine.callsInVain = true := by cbv
  obtain ⟨hrun, -, hbooks⟩ := restores_books he
  clear_value e
  constructor
  · obtain ⟨⟨r, e'⟩, ho, hr⟩ := Option.map_eq_some_iff.mp hfails
    cases hr
    exact ⟨_, e', ho, hrun _ _ _ _ ho⟩
  · obtain ⟨a, e₁, hstart, hcalls⟩ := exists_of_startsWith hcalls
    obtain ⟨l, name, ps, s, b, e₂, e₃, s', r, hcall, hentered, hended⟩ :=
      Machine.exists_of_callsInVain hcalls
    obtain ⟨-, hnested⟩ := hbooks _ (.started hstart) _ _ .start
    obtain ⟨-, hpart⟩ := (hnested _ _ _ _ hcall).2 _ _ hentered
    have hrestored := ((hpart _ _ .start).2 _ _ _ hended).2
    exact ⟨a, e₁, l, name, ps, s, b, e₂, e₃, s', r, hstart, hcall, hentered, hended, hrestored⟩

end LineScript
