import LineScript.Proofs.Run.Runs
import LineScript.Proofs.Run.Substitutions

/-! Lines stay lines: in a run, a line break gets into a line only where a function makes a line of a text or
of a path that has one, or where a statement puts such a text in place of a match or of a line. -/
namespace LineScript

open Text (Unbroken)

/-- Lines are stored and loaded again as so many lines exactly if none of them has a line break. -/
theorem LineBuffer.whole_iff_reloads (b : LineBuffer) :
    b.Whole ↔ ∃ lines, Files.lines (Files.content b.lines) = .ok lines ∧ lines.length = b.lines.length := by
  rw [Files.content, Files.lines_toUTF8]
  refine (Files.length_linesOfText_textOfLines b.lines).symm.trans ⟨fun h => ⟨_, rfl, h⟩, ?_⟩
  rintro ⟨lines, hok, hlength⟩
  cases hok
  exact hlength

/-- The buffers of an engine: its own ones and those of its scripts. -/
inductive Engine.Holds (e : Engine) : LineBuffer → Prop
  | main : Holds e e.main
  | shared {name : String} {b : LineBuffer} : (name, b) ∈ e.buffers.entries → Holds e b
  | own {script name : String} {s : Script} {b : LineBuffer} : (script, s) ∈ e.scripts.entries →
      (name, b) ∈ s.buffers.entries → Holds e b

theorem Engine.whole_iff (e : Engine) : e.Whole ↔ ∀ b, e.Holds b → b.Whole := by
  refine ⟨fun h b hb => ?_, fun h => ⟨h _ .main, fun x hx => h _ (.shared hx), fun x hx y hy => ?_⟩⟩
  · cases hb with
    | main => exact h.main
    | shared hb => exact h.buffers _ hb
    | own hs hb => exact h.scripts _ hs _ hb
  · exact h _ (.own hx hy)

/-- An engine with a main buffer and a script that is new. -/
theorem Engine.whole_of_alone {b : LineBuffer} {s : Script} (hb : ∀ line ∈ b.lines, Unbroken line)
    (hs : s.buffers = .empty) : Engine.Whole { main := b, scripts := Registry.empty.insert s.name s } := by
  refine ⟨hb, fun x hx => absurd hx List.not_mem_nil, ?_⟩
  refine Registry.All.insert (fun x hx => absurd hx List.not_mem_nil) _ ?_
  rw [Script.Whole, hs]
  exact fun x hx => absurd hx List.not_mem_nil

namespace Machine

/-- Whether no line of the buffers of an engine, and of scripts that run, has a line break. -/
structure Whole (m : Machine) : Prop where
  engine : m.engine.Whole
  active : m.active.script.Whole
  callers : ∀ a ∈ m.callers, a.script.Whole

/-- Whether a call in the next statement can make a line with a line break. -/
def MakesBreak (m : Machine) : Prop :=
  ∃ l, m.active.current? = some (some l) ∧ Run.MakesBreak ⟨m.active, (m.announce l).engine⟩ l.statement

/-- Whether the next statement puts a text with a line break in place of a match or of a line. -/
def PutsBreak (m : Machine) : Prop :=
  ∃ l, m.active.current? = some (some l) ∧
    Run.PutsBreak l.text ⟨m.active, (m.announce l).engine⟩ l.statement

end Machine

/-- Whether no line has a line break behind a step. -/
def Progress.Whole : Progress → Prop
  | .running m => m.Whole
  | .ended e s _ => e.Whole ∧ s.Whole

namespace Machine

variable {m m₀ : Machine} {past : List Machine} {callers : List Activation}

theorem whole_unwind {e : Engine} {s : Script} (he : e.Whole) (hs : s.Whole)
    (hcallers : ∀ a ∈ callers, a.script.Whole) (r : Except Error Outcome) :
    (unwind e s r callers).Whole := by
  induction callers generalizing e s r with
  | nil => exact ⟨he, hs⟩
  | cons caller callers ih =>
    obtain ⟨hcaller, hcallers⟩ := List.forall_mem_cons.mp hcallers
    unfold unwind
    cases r with
    | error err => exact ih (he.leave hs) hcaller hcallers _
    | ok o =>
      cases o with
      | finished code => exact ⟨he.leave hs, hcaller, hcallers⟩
      | aborted code => exact ih (he.leave hs) hcaller hcallers _

theorem whole_proceed {o : Except Error Flow × RunState} (ho : o.2.Whole)
    (hcallers : ∀ a ∈ callers, a.script.Whole) (l : Located) : (proceed callers l o).Whole := by
  obtain ⟨r, s⟩ := o
  obtain ⟨he, hs⟩ := ho
  cases r with
  | error err => exact whole_unwind he hs hcallers _
  | ok flow =>
    cases flow with
    | next | jump => exact ⟨he, hs, hcallers⟩
    | finish | abort => exact whole_unwind he hs hcallers _
    | call name ps =>
      let site : Engine.CallSite := ⟨l.line, s.active.script.directory?⟩
      obtain ⟨he', ha⟩ := Engine.Spares.enter site name ps s.engine he
      rw [proceed_call, call_eq]
      dsimp only
      cases hentered : outcome (Engine.enter site name ps) s.engine with
      | mk r e' =>
        rw [hentered] at he' ha
        cases r with
        | ok a => exact ⟨he', ha a rfl, List.forall_mem_cons.mpr ⟨hs, hcallers⟩⟩
        | error err => exact whole_unwind he' hs hcallers _

/-- A step that puts a text with a line break into a line does not end a run. -/
theorem step_of_putsBreak (hm : m.Whole) (hmakes : ¬m.MakesBreak) (hputs : m.PutsBreak) :
    ∃ m', m.step = .running m' ∧ ¬m'.Whole := by
  obtain ⟨l, hcurrent, hputs⟩ := hputs
  have hwhole : RunState.Whole ⟨m.active, (m.announce l).engine⟩ :=
    ⟨hm.engine.congr rfl rfl rfl, hm.active⟩
  have hbroken := Run.execute_whole_iff l.text hwhole fun h => hmakes ⟨l, hcurrent, h⟩
  obtain ⟨s, hdone⟩ := hputs.done
  rw [hdone] at hbroken
  refine ⟨_, (step_eq hcurrent).trans (by rw [hdone]; rfl), fun h => ?_⟩
  exact hbroken.mp ⟨h.engine, h.active⟩ hputs

/-- A step that does not leaves lines whole. -/
theorem whole_step (hm : m.Whole) (hmakes : ¬m.MakesBreak) (hputs : ¬m.PutsBreak) : m.step.Whole := by
  cases hcurrent : m.active.current? with
  | none =>
    have hstep : m.step = unwind m.engine m.active.script (.ok (.finished 0)) m.callers := by
      rw [step, hcurrent]
      rfl
    rw [hstep]
    exact whole_unwind hm.engine hm.active hm.callers _
  | some slot =>
    cases slot with
    | none =>
      have hstep : m.step = .running (m.goTo (m.active.script.index + 1)) := by
        rw [step, hcurrent]
      rw [hstep]
      exact ⟨hm.engine, hm.active, hm.callers⟩
    | some l =>
      have hwhole : RunState.Whole ⟨m.active, (m.announce l).engine⟩ :=
        ⟨hm.engine.congr rfl rfl rfl, hm.active⟩
      have hbehind := Run.execute_whole_iff l.text hwhole fun h => hmakes ⟨l, hcurrent, h⟩
      rw [step_eq hcurrent]
      exact whole_proceed (hbehind.mpr fun h => hputs ⟨l, hcurrent, h⟩) hm.callers l

theorem Reaches.exists_of_mem (h : Reaches m₀ past m) {m' : Machine} (hm' : m' ∈ past) :
    ∃ past', Reaches m₀ past' m' := by
  induction h with
  | start => cases hm'
  | @step past m _ hreaches _ ih =>
    rcases List.mem_cons.mp hm' with rfl | hm'
    · exact ⟨past, hreaches⟩
    · exact ih hm'

theorem Reaches.whole (h : Reaches m₀ past m) (hm₀ : m₀.Whole)
    (hsteps : ∀ m' ∈ past, ¬m'.MakesBreak ∧ ¬m'.PutsBreak) : m.Whole := by
  induction h with
  | start => exact hm₀
  | @step past m m' _ hstep ih =>
    obtain ⟨⟨hmakes, hputs⟩, hpast⟩ := List.forall_mem_cons.mp hsteps
    have hbehind := whole_step (ih hpast) hmakes hputs
    rw [hstep] at hbehind
    exact hbehind

/-- Whether the next statement calls no function, and puts no text in place of a match or of a line. -/
def isHarmless (m : Machine) : Bool :=
  match m.active.current? with
  | some (some l) => l.statement.calls.isEmpty && !l.statement.substitutes
  | _ => true

theorem breaks_none_of_isHarmless (h : m.isHarmless = true) : ¬m.MakesBreak ∧ ¬m.PutsBreak := by
  unfold isHarmless at h
  constructor
  · rintro ⟨l, hcurrent, hmakes⟩
    simp only [hcurrent, Bool.and_eq_true, List.isEmpty_iff] at h
    refine Run.not_makesBreak (fun c hc => ?_) hmakes
    rw [h.1] at hc
    cases hc
  · rintro ⟨l, hcurrent, hputs⟩
    simp only [hcurrent, Bool.and_eq_true, Bool.not_eq_true'] at h
    exact Run.not_putsBreak h.2 hputs

end Machine

namespace Engine

variable {e : Engine} {name : Option String} {m : Machine}

/-- Whether a run of a script, or of the chosen one, passes a state. -/
def Passes (e : Engine) (name : Option String) (m : Machine) : Prop :=
  ∃ a e₁ past, outcome (start name) e = (.ok a, e₁) ∧ Machine.Reaches ⟨e₁, a, []⟩ past m

theorem Passes.step (h : e.Passes name m) {m' : Machine} (hstep : m.step = .running m') :
    e.Passes name m' := by
  obtain ⟨a, e₁, past, hstart, hreaches⟩ := h
  exact ⟨a, e₁, m :: past, hstart, hreaches.step hstep⟩

/-- A run leaves lines whole as long as no statement brings a line break into one. -/
theorem Passes.whole (he : e.Whole) (h : e.Passes name m)
    (hsteps : ∀ m', e.Passes name m' → ¬m'.MakesBreak ∧ ¬m'.PutsBreak) : m.Whole := by
  obtain ⟨a, e₁, past, hstart, hreaches⟩ := h
  obtain ⟨he₁, ha⟩ := Spares.start name e he
  rw [hstart] at he₁ ha
  have hm₀ : Machine.Whole ⟨e₁, a, []⟩ := ⟨he₁, ha a rfl, fun _ h => absurd h List.not_mem_nil⟩
  refine hreaches.whole hm₀ fun m' hm' => ?_
  obtain ⟨past', hreaches'⟩ := hreaches.exists_of_mem hm'
  exact hsteps m' ⟨a, e₁, past', hstart, hreaches'⟩

end Engine

/-- Lines stay lines. In a run whose calls of functions make no line with a line break, no line of any buffer
ever has one if and only if no statement puts a text with one in place of a match or of a line; and then every
buffer behind the run is stored and loaded again as so many lines as it has. -/
theorem Engine.lines_stay_lines {e : Engine} (he : e.Whole) {name : Option String}
    (hmakes : ∀ m, e.Passes name m → ¬m.MakesBreak) :
    ((∀ m, e.Passes name m → m.Whole) ↔ ∀ m, e.Passes name m → ¬m.PutsBreak) ∧
    ((∀ m, e.Passes name m → ¬m.PutsBreak) → ∀ fuel r e', e.tryRun fuel name = some (r, e') →
      ∀ b, e'.Holds b → b.Whole ∧
        ∃ lines, Files.lines (Files.content b.lines) = .ok lines ∧ lines.length = b.lines.length) := by
  refine ⟨⟨fun hwhole m hm hputs => ?_, fun hputs m hm => ?_⟩, fun hputs fuel r e' hrun b hb => ?_⟩
  · obtain ⟨m', hstep, hbroken⟩ := Machine.step_of_putsBreak (hwhole m hm) (hmakes m hm) hputs
    exact hbroken (hwhole m' (hm.step hstep))
  · exact hm.whole he fun m' hm' => ⟨hmakes m' hm', hputs m' hm'⟩
  · have he' : e'.Whole := by
      rcases tryRun_eq_some hrun with ⟨err, -, hstart⟩ | ⟨a, e₁, e₂, s, hstart, hmachine, rfl⟩
      · have hleft := (Spares.start name e he).1
        rw [hstart] at hleft
        exact hleft
      · obtain ⟨past, m, hreaches, hend, -⟩ := Machine.run_eq_some_iff.mp hmachine
        have hm : e.Passes name m := ⟨a, e₁, past, hstart, hreaches⟩
        have hwhole := hm.whole he fun m' hm' => ⟨hmakes m' hm', hputs m' hm'⟩
        have hbehind := Machine.whole_step hwhole (hmakes m hm) (hputs m hm)
        rw [hend] at hbehind
        exact hbehind.1.leave hbehind.2
    have hbuffer := e'.whole_iff.mp he' b hb
    exact ⟨hbuffer, b.whole_iff_reloads.mp hbuffer⟩

/-- A text that is inserted is split at its line breaks. -/
theorem Engine.lines_stay_lines_insert :
    let p : Program :=
      { statements := [some ⟨1, 1, "insert \"x\\ny\"", .insert false [.text [.text "x\ny"]]⟩] }
    let s : Script := { name := "s", lines := ["insert \"x\\ny\""], program := some p }
    let e : Engine := { main := { lines := ["ab"] }, scripts := Registry.empty.insert "s" s }
    e.Whole ∧ ∃ r e', e.tryRun 2 (some "s") = some (r, e') ∧ e'.main.lines = ["x", "yab"] ∧
      e'.main.Whole := by
  intro p s e
  have hmain : ∀ line ∈ ["ab"], Unbroken line := by decide
  have he : e.Whole := whole_of_alone (s := s) hmain rfl
  have hpasses : e.startsWith (some "s") (Machine.passesThroughout Machine.isHarmless 2) = true := by
    decide +kernel
  have hlines : (e.tryRun 2 (some "s")).map (fun o => o.2.main.lines) = some ["x", "yab"] := by
    decide +kernel
  have hsteps (m : Machine) (hm : e.Passes (some "s") m) : ¬m.MakesBreak ∧ ¬m.PutsBreak := by
    obtain ⟨a, e₁, past, hstart, hreaches⟩ := hm
    obtain ⟨_, _, hstart', hpasses⟩ := exists_of_startsWith hpasses
    rw [hstart] at hstart'
    cases hstart'
    exact Machine.breaks_none_of_isHarmless (hreaches.passes hpasses)
  obtain ⟨⟨r, e'⟩, hrun, hleft⟩ := Option.map_eq_some_iff.mp hlines
  obtain ⟨-, hbehind⟩ := lines_stay_lines he fun m hm => (hsteps m hm).1
  exact ⟨he, r, e', hrun, hleft, (hbehind (fun m hm => (hsteps m hm).2) 2 r e' hrun _ .main).1⟩

/-- A text that is put in place of a match is not. -/
theorem Engine.replace_breaks_line :
    let x : Search.Expression := {
      pattern := "a"
      kind := .literal
      machine := .cat (.mark 0 0) (.cat (.set 2 (.range 97 97)) (.mark 1 1)) }
    let p : Program := { statements := [some ⟨1, 1, "replace s/a/ \"x\\ny\"",
      .replace ⟨.literal, [.text "a"], "", some x⟩ [.text [.text "x\ny"]] none none none⟩] }
    let s : Script := { name := "s", lines := ["replace s/a/ \"x\\ny\""], program := some p }
    let e : Engine := { main := { lines := ["ab"] }, scripts := Registry.empty.insert "s" s }
    Search.Expression.new "a" .literal "" = .ok x ∧ e.Whole ∧
      ∃ r e', e.tryRun 2 (some "s") = some (r, e') ∧ ¬e'.Whole := by
  intro x p s e
  have hlines : (e.tryRun 2 (some "s")).map (fun o => o.2.main.lines) = some ["x\nyb"] := by
    decide +kernel
  have hmain : ∀ line ∈ ["ab"], Unbroken line := by decide
  have he : e.Whole := whole_of_alone (s := s) hmain rfl
  obtain ⟨⟨r, e'⟩, hrun, hleft⟩ := Option.map_eq_some_iff.mp hlines
  refine ⟨by decide +kernel, he, r, e', hrun, fun hwhole => ?_⟩
  have hleft : e'.main.lines = ["x\nyb"] := hleft
  have hline : Unbroken "x\nyb" := hwhole.main _ (hleft ▸ List.mem_singleton_self _)
  exact absurd hline (by decide)

end LineScript
