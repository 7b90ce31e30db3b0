import LineScript.Proofs.Run.Runs

/-! The promises that the parts of the library give each other are kept: whatever scripts are loaded, and
however engines are used, no error of a run is a broken promise. -/
namespace LineScript

open Engine (Action)

mutual

/-- The scripts that can be built and handed to an engine: checked or not, and copied or kept from a run. -/
inductive Script.Made : Script → Prop
  | new (name : String) (lines : List String) : Script.Made { name, lines }
  | offset {s : Script} (offset : Nat) : Script.Made s → Script.Made { s with offset }
  | path {s : Script} (path : String) : Script.Made s → Script.Made { s with path := some path }
  | check {s : Script} {p : Program} : Script.Made s → Program.check s.name s.lines s.offset = .ok p →
      Script.Made { s with program := some p }
  | setVariable {s : Script} (name value : String) : Script.Made s → Script.Made (s.setVariable name value)
  | copy {e : Engine} {s : Script} {name : String} : Engine.Reachable e → e.scripts.get? name = some s →
      Script.Made s
  | ran {e e' : Engine} {s s' : Script} {fuel : Nat} {r : Except Error Outcome} : Engine.Reachable e →
      Script.Made s → e.runApart fuel s = some (r, s', e') → Script.Made s'

/-- The engines that come about by use of what the library offers, while the world around them goes its
own way. -/
inductive Engine.Reachable : Engine → Prop
  | new (config : Config) (world : World) : Engine.Reachable { config, world }
  | world {e : Engine} (world : World) : Engine.Reachable e → Engine.Reachable { e with world }
  | setBuffer {e : Engine} (name : String) (b : LineBuffer) : Engine.Reachable e →
      Engine.Reachable (e.setBuffer name b)
  | load {e : Engine} (name : String) (lines : List String) : Engine.Reachable e →
      Engine.Reachable (outcome (Engine.load { name, lines }) e).2
  | loadFile {e : Engine} (path : String) : Engine.Reachable e →
      Engine.Reachable (outcome (Engine.loadFile path) e).2
  | add {e : Engine} {s : Script} : Engine.Reachable e → Script.Made s →
      Engine.Reachable (outcome (Engine.add s) e).2
  | select {e : Engine} (name : String) : Engine.Reachable e →
      Engine.Reachable (outcome (Engine.select name) e).2
  | push {e : Engine} (name : String) (line : Nat) : Engine.Reachable e →
      Engine.Reachable (outcome (Engine.push name line) e).2
  | pop {e : Engine} : Engine.Reachable e → Engine.Reachable (outcome Engine.pop e).2
  | setParameter {e : Engine} (name value : String) : Engine.Reachable e →
      Engine.Reachable (outcome (Engine.setParameter name value) e).2
  | setVariable {e : Engine} (name value : String) : Engine.Reachable e →
      Engine.Reachable (outcome (Engine.setVariable name value) e).2
  | tryRun {e e' : Engine} {fuel : Nat} {name : Option String} {r : Except Error Outcome} :
      Engine.Reachable e → e.tryRun fuel name = some (r, e') → Engine.Reachable e'
  | testAndRun {e e' : Engine} {fuel : Nat} {name : Option String} {code : Int} :
      Engine.Reachable e → e.testAndRun fuel name = some (code, e') → Engine.Reachable e'
  | runApart {e e' : Engine} {s s' : Script} {fuel : Nat} {r : Except Error Outcome} :
      Engine.Reachable e → Script.Made s → e.runApart fuel s = some (r, s', e') → Engine.Reachable e'
  | notCalled {e e' : Engine} {site : Engine.CallSite} {name : String}
      {parameters : List (String × String)} {err : Error} : Engine.Reachable e →
      outcome (Engine.enter site name parameters) e = (.error err, e') → Engine.Reachable e'
  | called {e e₁ e₂ : Engine} {site : Engine.CallSite} {name : String}
      {parameters : List (String × String)} {a : Activation} {s : Script} {fuel : Nat}
      {r : Except Error Outcome} : Engine.Reachable e →
      outcome (Engine.enter site name parameters) e = (.ok a, e₁) →
      Machine.run fuel ⟨e₁, a, []⟩ = some (e₂, s, r) → Engine.Reachable (e₂.leave s)

end

namespace Engine

variable {e e' : Engine} {fuel : Nat}

/-- A run from outside leaves checked scripts behind. -/
theorem tryRun_checked (he : e.Checked) {name : Option String} {r : Except Error Outcome}
    (h : e.tryRun fuel name = some (r, e')) : e'.Checked := by
  rcases tryRun_eq_some h with ⟨err, -, hstart⟩ | ⟨a, e₁, e₂, s, hstart, hrun, rfl⟩
  · exact ((Orderly.start name).of_error he hstart).2
  · obtain ⟨ha, he₁⟩ := (Orderly.start name).of_ok he hstart
    obtain ⟨he₂, hs⟩ := Machine.run_checked (ha.checked_machine he₁) hrun
    exact he₂.leave hs

theorem runApart_checked (he : e.Checked) {s s' : Script} (hs : s.Checked) {r : Except Error Outcome}
    (h : e.runApart fuel s = some (r, s', e')) : e'.Checked ∧ s'.Checked := by
  rcases runApart_eq_some h with ⟨err, -, rfl, hstart⟩ | ⟨a, e₁, hstart, hrun⟩
  · exact ⟨((Orderly.activate hs).of_error he hstart).2, hs⟩
  · obtain ⟨ha, he₁⟩ := (Orderly.activate hs).of_ok he hstart
    exact Machine.run_checked (ha.checked_machine he₁) hrun

/-- A parameter is a shared variable or one of a loaded script, or nothing is changed. -/
theorem setParameter_cases (name value : String) (e : Engine) :
    (outcome (setParameter name value) e).2 = (outcome (setVariable name value) e).2 ∨
      (outcome (setParameter name value) e).2 = e ∨
      ∃ current s, e.scripts.get? current = some s ∧ (outcome (setParameter name value) e).2 =
        { e with scripts := e.scripts.insert current (s.setVariable name value) } := by
  unfold setParameter
  split
  · exact .inl rfl
  · rw [outcome_bind, outcome_getThe]
    dsimp only
    split
    · exact .inr (.inl rfl)
    · split
      · exact .inr (.inl rfl)
      · rename_i current _ _ s hs
        exact .inr (.inr ⟨current, s, hs, rfl⟩)

theorem setParameter_checked (he : e.Checked) (name value : String) :
    (outcome (setParameter name value) e).2.Checked := by
  rcases setParameter_cases name value e with hset | hset | ⟨current, s, hs, hset⟩
  · rw [hset]
    exact (Orderly.setVariable name value e he).2.1
  · rw [hset]
    exact he
  · rw [hset]
    have hscript : s.Checked := he.get? hs
    have hparameter : (s.setVariable name value).Checked := hscript
    exact Registry.All.insert he _ hparameter

theorem select_checked (he : e.Checked) (name : String) : (outcome (select name) e).2.Checked := by
  have hselect : Orderly (select name) := by
    refine .get (fun _ _ => .ite ?_ ?_) fun _ _ => rfl
    · exact (Orderly.fail (f := .unknownScript name) trivial).seq fun _ =>
        .modify (fun _ he => he) fun _ _ => rfl
    · exact .modify (fun _ he => he) fun _ _ => rfl
  exact (hselect e he).2.1

end Engine

mutual

theorem Script.Made.checked {s : Script} : s.Made → s.Checked
  | .new name lines => Script.checked_of_none rfl
  | .offset _ h | .path _ h | .setVariable _ _ h => h.checked
  | .check _ hcheck => by
    intro p hp
    cases hp
    exact ⟨_, _, _, hcheck⟩
  | .copy he hs => he.checked.get? hs
  | .ran he hs hran => (Engine.runApart_checked he.checked hs.checked hran).2

theorem Engine.Reachable.checked {e : Engine} : e.Reachable → e.Checked
  | .new config world => fun _ h => absurd h List.not_mem_nil
  | .world _ h => h.checked
  | .setBuffer name b h => by
    have he := h.checked
    unfold Engine.setBuffer
    split <;> exact he
  | .load name lines h => (Engine.Orderly.load (Script.checked_of_none rfl) _ h.checked).2.1
  | .loadFile path h => (Engine.Orderly.loadFile path _ h.checked).2.1
  | .add h hs => (Engine.Orderly.add hs.checked _ h.checked).2.1
  | .select name h => Engine.select_checked h.checked name
  | .push name line h => (Engine.Orderly.push name line _ h.checked).2.1
  | .pop h => (Engine.Orderly.pop _ h.checked).2.1
  | .setParameter name value h => Engine.setParameter_checked h.checked name value
  | .setVariable name value h => (Engine.Orderly.setVariable name value _ h.checked).2.1
  | .tryRun h hrun => Engine.tryRun_checked h.checked hrun
  | .testAndRun h hrun => by
    obtain ⟨⟨r, e'⟩, hrun, hsettle⟩ := Option.map_eq_some_iff.mp hrun
    have he' := Engine.tryRun_checked h.checked hrun
    cases r with
    | ok o =>
      cases hsettle
      exact he'
    | error err =>
      cases hsettle
      exact he'
  | .runApart h hs hrun => (Engine.runApart_checked h.checked hs.checked hrun).1
  | .notCalled h hentered => ((Engine.Orderly.enter _ _ _).of_error h.checked hentered).2
  | .called h hentered hrun => by
    obtain ⟨ha, he₁⟩ := (Engine.Orderly.enter _ _ _).of_ok h.checked hentered
    obtain ⟨he₂, hs⟩ := Machine.run_checked (ha.checked_machine he₁) hrun
    exact he₂.leave hs

end

theorem Cause.Ordinary.kind_ne {c : Cause} (h : c.Ordinary) : c.kind ≠ "internal" := by
  cases c with
  | fault f => exact h.elim
  | mistake | failure | file => simp [Cause.kind]

/-- A script is refused for a mistake in it only. Whatever an engine is used for, a run does not fail for a
broken promise: a statement that jumps finds where to, and a call that has been read is as the signature of
its function says, finds what it needs and gets to a function. -/
theorem Engine.keeps_promises :
    (∀ name lines offset err, Program.check name lines offset = .error err → err.cause.kind = "parse") ∧
    (∀ e : Engine, e.Reachable → ∀ fuel name err e', e.tryRun fuel name = some (.error err, e') →
      err.cause.kind ≠ "internal") ∧
    (∀ e : Engine, e.Reachable → ∀ name a e₁, outcome (Engine.start name) e = (.ok a, e₁) →
      ∀ past m, Machine.Reaches ⟨e₁, a, []⟩ past m → ∀ l, m.active.current? = some (some l) →
        (l.statement.isIf = true →
          ∃ t, JumpTable.target m.active.program.jumps.ifTargets m.active.script.index = .ok t) ∧
        (l.statement.isJump = true →
          ∃ t, JumpTable.target m.active.program.jumps.blockTargets m.active.script.index = .ok t) ∧
        l.statement.Callable) ∧
    (∀ f args, Script.callMistake? f args = none → argumentsCallable args → ∀ (s : RunState) (err : Error),
      (outcome (Call.asText ⟨f, Run.supplied args⟩) s).1 = .error err ∨
        (outcome (Call.asNumber ⟨f, Run.supplied args⟩) s).1 = .error err →
      err.cause.kind ≠ "internal") := by
  refine ⟨fun name lines offset err h => ?_, fun e he fuel name err e' h => ?_,
    fun e he name a e₁ hstart past m hreaches l hline => ?_, fun f args hf hargs s err h => ?_⟩
  · obtain ⟨mistake, hmistake⟩ := Program.isMistake_of_check h
    rw [hmistake]
    rfl
  · rcases Engine.tryRun_eq_some h with ⟨err', hr, hstart⟩ | ⟨a, e₁, e₂, s, hstart, hrun, -⟩
    · cases hr
      exact ((Engine.Orderly.start name).of_error he.checked hstart).1.kind_ne
    · obtain ⟨ha, he₁⟩ := (Engine.Orderly.start name).of_ok he.checked hstart
      rcases Machine.run_error (ha.checked_machine he₁) hrun with hordinary | ⟨limit, hlimit⟩
      · exact hordinary.kind_ne
      · rw [hlimit]
        simp [Cause.kind]
  · obtain ⟨ha, he₁⟩ := (Engine.Orderly.start name).of_ok he.checked hstart
    have hp := (hreaches.checked (ha.checked_machine he₁)).accepted
    have hslot : m.active.program.statements[m.active.script.index]? = some (some l) := hline
    refine ⟨fun hif => ?_, fun hjump => ?_, hp.callable l (List.mem_of_getElem? hslot)⟩
    · obtain ⟨j, hj⟩ := hp.exists_ifTarget ((Program.statesAt_eq_true hslot).trans hif)
      exact ⟨j, by rw [JumpTable.target, hp.ordered.1.lookup_of_mem hj]⟩
    · obtain ⟨j, hj⟩ := hp.exists_blockTarget ((Program.statesAt_eq_true hslot).trans hjump)
      exact ⟨j, by rw [JumpTable.target, hp.ordered.2.lookup_of_mem hj]⟩
  · have hfits := Run.Orderly.fits hf (Run.Orderly.supplied args hargs)
    have hordinary : err.Ordinary := by
      rcases h with h | h
      · have htext := hfits.asText s
        rw [h] at htext
        cases htext with
        | error herr => exact herr
      · have hnumber := hfits.asNumber s
        rw [h] at hnumber
        cases hnumber with
        | error herr => exact herr
    exact hordinary.kind_ne

/-- A script that is refused, one that fails, and a call that fails. -/
theorem Engine.keeps_promises_pop :
    let p : Program := { statements := [some ⟨1, 1, "select pop", .select .pop⟩] }
    let e := (outcome (Engine.add { name := "a", lines := ["select pop"], program := some p }) {}).2
    let s : RunState := ⟨{ script := { name := "a", lines := [] }, program := {} }, {}⟩
    (∃ err, Program.check "a" ["endif"] 0 = .error err ∧ err.cause.kind = "parse") ∧
      (∃ err e', e.tryRun 2 (some "a") = some (.error err, e') ∧ err.cause.kind ≠ "internal") ∧
      (∃ a e₁ l, outcome (Engine.start (some "a")) e = (.ok a, e₁) ∧ a.current? = some (some l) ∧
        l.statement.Callable) ∧
      ∃ err, (outcome (Call.asText ⟨.osCd, Run.supplied []⟩) s).1 = .error err ∧
        err.cause.kind ≠ "internal" := by
  intro p e s
  have hread : Program.check "a" ["select pop"] 0 = .ok p := by cbv
  have he : e.Reachable := .add (.new {} {}) (.check (.new "a" ["select pop"]) hread)
  have hrefused : Program.check "a" ["endif"] 0 =
      .error ⟨.mistake (.closerWithoutOpener "endif" .ifWord), some ⟨"a", 1, 1⟩⟩ := by cbv
  have hfails : (e.tryRun 2 (some "a")).map (·.1) =
      some (.error ⟨.failure .popWithoutPush, some ⟨"a", 1, 1⟩⟩) := by cbv
  have hstarts : (outcome (Engine.start (some "a")) e).1.toOption.bind Activation.current? =
      some (some ⟨1, 1, "select pop", .select .pop⟩) := by cbv
  have hhome : (outcome (Call.asText ⟨.osCd, Run.supplied []⟩) s).1 =
      .error (.ofFailure .noHome) := by cbv
  have hfits : Script.callMistake? .osCd [] = none := by cbv
  clear_value e s
  obtain ⟨hcheck, hrun, hline, hcall⟩ := Engine.keeps_promises
  refine ⟨⟨_, hrefused, hcheck _ _ _ _ hrefused⟩, ?_, ?_, ?_⟩
  · obtain ⟨⟨r, e'⟩, ho, hr⟩ := Option.map_eq_some_iff.mp hfails
    cases hr
    exact ⟨_, e', ho, hrun e he _ _ _ _ ho⟩
  · cases ho : outcome (Engine.start (some "a")) e with
    | mk r e₁ =>
      rw [ho] at hstarts
      cases r with
      | error err => cases hstarts
      | ok a => exact ⟨a, e₁, _, rfl, hstarts, (hline e he _ a e₁ ho [] _ .start _ hstarts).2.2⟩
  · exact ⟨_, hhome, hcall _ [] hfits trivial s _ (.inl hhome)⟩

end LineScript
