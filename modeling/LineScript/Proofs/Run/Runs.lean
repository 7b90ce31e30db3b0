import LineScript.Proofs.Run.Steps

/-! Runs: the states that a machine passes, and what holds in all of them. The counts of loops are the turns that a
script has taken around a loop since it came to it, as read off the states that a run has passed. -/
namespace LineScript

/-- Whether all scripts behind a step keep accepted programs only. -/
def Progress.Checked : Progress → Prop
  | .running m => m.Checked
  | .ended e s _ => e.Checked ∧ s.Checked

namespace Machine

/-- Whether a machine becomes another one by taking steps; the states that it passes on the way are listed,
the last one first. -/
inductive Reaches (m₀ : Machine) : List Machine → Machine → Prop
  | start : Reaches m₀ [] m₀
  | step {past : List Machine} {m m' : Machine} : Reaches m₀ past m → m.step = .running m' →
      Reaches m₀ (m :: past) m'

variable {m₀ m m' : Machine} {past past' : List Machine}

theorem Reaches.trans (h : Reaches m₀ past m) (h' : Reaches m past' m') :
    Reaches m₀ (past' ++ past) m' := by
  induction h' with
  | start => exact h
  | step _ hstep ih => exact .step ih hstep

theorem Reaches.run_eq (h : Reaches m₀ past m) (fuel : Nat) :
    run (past.length + fuel) m₀ = run fuel m := by
  induction h generalizing fuel with
  | start => rw [List.length_nil, Nat.zero_add]
  | @step past m m' _ hstep ih =>
    have hnext : run (fuel + 1) m = run fuel m' := by rw [run, hstep]
    rw [← hnext, ← ih, List.length_cons, Nat.add_assoc, Nat.add_comm 1]

/-- A run that ends passes some states, and its last step ends it. -/
theorem run_eq_some_iff {fuel : Nat} {e : Engine} {s : Script} {r : Except Error Outcome} :
    run fuel m₀ = some (e, s, r) ↔
      ∃ past m, Reaches m₀ past m ∧ m.step = .ended e s r ∧ past.length < fuel := by
  constructor
  · intro h
    induction fuel generalizing m₀ with
    | zero => cases h
    | succ fuel ih =>
      rw [run] at h
      split at h
      · rename_i m₁ hstep
        obtain ⟨past, m, hreaches, hend, hlength⟩ := ih h
        have hfirst : Reaches m₀ [m₀] m₁ := .step .start hstep
        refine ⟨past ++ [m₀], m, hfirst.trans hreaches, hend, ?_⟩
        rw [List.length_append, List.length_singleton]
        exact Nat.succ_lt_succ hlength
      · rename_i hstep
        cases h
        exact ⟨[], m₀, .start, hstep, Nat.succ_pos fuel⟩
  · rintro ⟨past, m, hreaches, hend, hlength⟩
    obtain ⟨n, rfl⟩ := Nat.exists_eq_add_of_lt hlength
    rw [Nat.add_assoc, hreaches.run_eq, run, hend]

theorem Reaches.eq_or_exists_step (h : Reaches m₀ past m) :
    m = m₀ ∨ ∃ m₁ past', m₀.step = .running m₁ ∧ Reaches m₁ past' m := by
  induction h with
  | start => exact .inl rfl
  | @step past m m' _ hstep ih =>
    rcases ih with rfl | ⟨m₁, past', hfirst, hreaches⟩
    · exact .inr ⟨m', [], hstep, .start⟩
    · exact .inr ⟨m₁, _, hfirst, .step hreaches hstep⟩

/-- Whether a run ends within some steps, and every state that it passes passes a test. -/
def passesThroughout (test : Machine → Bool) : Nat → Machine → Bool
  | 0, _ => false
  | fuel + 1, m =>
    test m &&
      match m.step with
      | .running m => passesThroughout test fuel m
      | .ended .. => true

theorem Reaches.passes {test : Machine → Bool} (h : Reaches m₀ past m) {fuel : Nat}
    (hpasses : passesThroughout test fuel m₀ = true) : test m = true := by
  induction fuel generalizing m₀ past with
  | zero => cases hpasses
  | succ fuel ih =>
    rw [passesThroughout, Bool.and_eq_true] at hpasses
    obtain ⟨htest, hrest⟩ := hpasses
    rcases h.eq_or_exists_step with rfl | ⟨m₁, past', hstep, hreaches⟩
    · exact htest
    · rw [hstep] at hrest
      exact ih hreaches hrest

/-- A step keeps all programs accepted. -/
theorem Stepped.checked {p : Progress} (hm : m.Checked) (h : m.Stepped p) : p.Checked := by
  cases h with
  | @moved s j loops _ _ _ hs =>
    refine ⟨hs.engine_checked hm.engine, hs.accepted hm.accepted, ?_, hm.callers⟩
    exact hs.script_checked hm.script
  | @called s l name parameters a e _ _ _ _ hs hentered =>
    obtain ⟨ha, he⟩ := (Engine.Orderly.enter _ name parameters).of_ok (hs.engine_checked hm.engine) hentered
    refine ⟨he, ha.accepted, ha.checked, List.forall_mem_cons.mpr ⟨?_, hm.callers⟩⟩
    exact ⟨hs.accepted hm.accepted, hs.script_checked hm.script⟩
  | @returned s caller callers _ hcallers hs =>
    have hwaiting := hm.callers
    rw [hcallers] at hwaiting
    obtain ⟨hcaller, hrest⟩ := List.forall_mem_cons.mp hwaiting
    have hleft := (hs.engine_checked hm.engine).leave (hs.script_checked hm.script)
    exact ⟨hleft, hcaller.1, hcaller.2, hrest⟩
  | ended _ he hs _ => exact ⟨he, hs⟩
  | exceeded _ _ _ he hs _ => exact ⟨he, hs⟩

theorem Reaches.checked (h : Reaches m₀ past m) (hm : m₀.Checked) : m.Checked := by
  induction h with
  | start => exact hm
  | @step past m m' _ hstep ih =>
    have hchecked := (stepped ih).checked ih
    rw [hstep] at hchecked
    exact hchecked

/-- A run keeps all programs accepted. -/
theorem run_checked (hm : m₀.Checked) {fuel : Nat} {e : Engine} {s : Script}
    {r : Except Error Outcome} (h : run fuel m₀ = some (e, s, r)) : e.Checked ∧ s.Checked := by
  obtain ⟨past, m, hreaches, hend, -⟩ := run_eq_some_iff.mp h
  have hm := hreaches.checked hm
  have hchecked := (stepped hm).checked hm
  rw [hend] at hchecked
  exact hchecked

/-- A run fails for ordinary reasons, or because a loop is entered too often. -/
theorem run_error (hm : m₀.Checked) {fuel : Nat} {e : Engine} {s : Script} {err : Error}
    (h : run fuel m₀ = some (e, s, .error err)) :
    err.Ordinary ∨ ∃ limit, err.cause = .failure (.loopLimit limit) := by
  obtain ⟨past, m, hreaches, hend, -⟩ := run_eq_some_iff.mp h
  have hstepped := stepped (hreaches.checked hm)
  rw [hend] at hstepped
  cases hstepped with
  | ended _ _ _ hordinary => exact .inl (hordinary err rfl)
  | exceeded _ _ _ _ _ hcause => exact .inr ⟨_, hcause⟩

end Machine

/-- A script at its start makes a machine of checked scripts. -/
theorem Activation.Fresh.checked_machine {a : Activation} (ha : a.Fresh) {e : Engine} (he : e.Checked) :
    Machine.Checked ⟨e, a, []⟩ :=
  ⟨he, ha.accepted, ha.checked, fun _ h => absurd h List.not_mem_nil⟩

namespace Engine

variable {e e' : Engine} {fuel : Nat} {r : Except Error Outcome}

/-- Whether a script, or the chosen one, starts and its machine passes a test. -/
def startsWith (e : Engine) (name : Option String) (test : Machine → Bool) : Bool :=
  match outcome (start name) e with
  | (.ok a, e₁) => test ⟨e₁, a, []⟩
  | (.error _, _) => false

theorem exists_of_startsWith {name : Option String} {test : Machine → Bool}
    (h : e.startsWith name test = true) :
    ∃ a e₁, outcome (start name) e = (.ok a, e₁) ∧ test ⟨e₁, a, []⟩ = true := by
  unfold startsWith at h
  split at h
  · exact ⟨_, _, ‹_›, h⟩
  · cases h

theorem tryRun_eq (fuel : Nat) (name : Option String) (e : Engine) :
    e.tryRun fuel name =
      match outcome (start name) e with
      | (.error err, e) => some (.error err, e)
      | (.ok a, e) => (Machine.run fuel ⟨e, a, []⟩).map fun (e, s, r) => (r, e.leave s) :=
  rfl

theorem runApart_eq (fuel : Nat) (s : Script) (e : Engine) :
    e.runApart fuel s =
      match outcome (activate s) e with
      | (.error err, e) => some (.error err, s, e)
      | (.ok a, e) => (Machine.run fuel ⟨e, a, []⟩).map fun (e, s, r) => (r, s, e) :=
  rfl

/-- What a run from outside comes to: the script does not start, or a machine runs it to its end. -/
theorem tryRun_eq_some {name : Option String} (h : e.tryRun fuel name = some (r, e')) :
    (∃ err, r = .error err ∧ outcome (start name) e = (.error err, e')) ∨
      ∃ a e₁ e₂ s, outcome (start name) e = (.ok a, e₁) ∧
        Machine.run fuel ⟨e₁, a, []⟩ = some (e₂, s, r) ∧ e' = e₂.leave s := by
  rw [tryRun_eq] at h
  cases ho : outcome (start name) e with
  | mk r₁ e₁ =>
    rw [ho] at h
    cases r₁ with
    | error err =>
      cases h
      exact .inl ⟨err, rfl, rfl⟩
    | ok a =>
      obtain ⟨⟨e₂, s, r₂⟩, hmachine, hend⟩ := Option.map_eq_some_iff.mp h
      cases hend
      exact .inr ⟨a, e₁, e₂, s, rfl, hmachine, rfl⟩

/-- The same for a script that is not loaded. -/
theorem runApart_eq_some {s s' : Script} (h : e.runApart fuel s = some (r, s', e')) :
    (∃ err, r = .error err ∧ s' = s ∧ outcome (activate s) e = (.error err, e')) ∨
      ∃ a e₁, outcome (activate s) e = (.ok a, e₁) ∧
        Machine.run fuel ⟨e₁, a, []⟩ = some (e', s', r) := by
  rw [runApart_eq] at h
  cases ho : outcome (activate s) e with
  | mk r₁ e₁ =>
    rw [ho] at h
    cases r₁ with
    | error err =>
      cases h
      exact .inl ⟨err, rfl, rfl, rfl⟩
    | ok a =>
      obtain ⟨⟨e₂, s₂, r₂⟩, hmachine, hend⟩ := Option.map_eq_some_iff.mp h
      cases hend
      exact .inr ⟨a, e₁, rfl, hmachine⟩

end Engine

/-- A line at which a script has been, and whether it was a loop that the script entered. -/
abbrev Visit := Nat × Bool

namespace Machine

/-- What a machine is about to do, as far as loops are concerned. -/
def visit (m : Machine) : Visit :=
  (m.active.script.index, m.entersLoop)

/-- The lines at which the script that now runs with a number of callers has been, the last one first. The
scripts that it has called are passed over; where fewer scripts were running, it had not started yet. -/
def pastOf (depth : Nat) : List Machine → List Visit
  | [] => []
  | m :: past =>
    if m.callers.length < depth then []
    else if m.callers.length = depth then m.visit :: pastOf depth past
    else pastOf depth past

end Machine

/-- How often a script has entered the loop between two lines since it came to it. -/
def turns (w c : Nat) : List Visit → Nat
  | [] => 0
  | (k, enters) :: past =>
    if w ≤ k ∧ k ≤ c then turns w c past + (if enters = true ∧ k = w then 1 else 0) else 0

/-- A script that was outside of a loop has taken no turns around it. -/
theorem turns_eq_zero {w c : Nat} {past : List Visit}
    (h : ∀ v ∈ past.head?, v.1 < w ∨ c < v.1) : turns w c past = 0 := by
  cases past with
  | nil => rfl
  | cons v past =>
    have hout := h v rfl
    rw [turns, if_neg (by omega)]

/-- To be seen at a line twice makes no difference. -/
theorem turns_cons_again {w c k : Nat} {past : List Visit} (h : past.head? = some (k, false)) :
    turns w c ((k, false) :: past) = turns w c past := by
  cases past with
  | nil => cases h
  | cons v past =>
    cases h
    simp only [turns, Bool.false_eq_true, false_and, if_false, Nat.add_zero]
    split <;> rfl

namespace Activation

/-- The counts of a script are the turns that it has taken. -/
structure Counted (a : Activation) (past : List Visit) : Prop where
  nested : a.Nested
  count : ∀ {w c : Nat}, a.program.LoopAt w c → w ≤ a.script.index → a.script.index ≤ c →
    a.loops.count w = turns w c past

/-- The same for a script that waits for one that it has called. -/
structure Waiting (a : Activation) (past : List Visit) : Prop where
  accepted : a.program.Accepted
  counted : a.Counted past
  last : past.head? = some (a.script.index, false)
  move : a.Move false (a.script.index + 1) a.loops

variable {a : Activation} {past : List Visit} {j : Nat} {enters : Bool} {loops : LoopCounts}

theorem Fresh.counted (h : a.Fresh) : a.Counted [] := by
  refine ⟨nested_of_start h.index h.loops, fun _ _ _ => ?_⟩
  rw [h.loops]
  rfl

/-- The counts stay the turns that are taken. -/
theorem Counted.move (hp : a.program.Accepted) (h : a.Counted past) (hmove : a.Move enters j loops)
    {a' : Activation} (hprogram : a'.program = a.program) (hindex : a'.script.index = j)
    (hloops : a'.loops = loops) : a'.Counted ((a.script.index, enters) :: past) := by
  refine ⟨h.nested.move hp hmove hprogram hindex hloops, fun {w c} hloop hw hc => ?_⟩
  rw [hprogram] at hloop
  rw [hindex] at hw hc
  rw [hloops, LoopCounts.count, hmove.lookup hp h.nested hloop, if_pos ⟨hw, hc⟩, turns]
  by_cases hin : w ≤ a.script.index ∧ a.script.index ≤ c
  · rw [if_pos hin, ← h.count hloop hin.1 hin.2]
    split
    · rfl
    · rfl
  · have hnone := h.nested.lookup_outside hp hloop (by omega)
    rw [if_neg hin, if_neg (by omega), hnone]
    rfl

/-- A script that waits goes on behind its call. -/
theorem Waiting.resume (h : a.Waiting past) : (a.goTo (a.script.index + 1)).Counted past := by
  have hmoved : (a.goTo (a.script.index + 1)).Counted _ :=
    h.counted.move h.accepted h.move rfl rfl rfl
  refine ⟨hmoved.nested, fun hloop hw hc => ?_⟩
  rw [hmoved.count hloop hw hc, turns_cons_again h.last]

end Activation

namespace Machine

variable {m : Machine} {past : List Machine} {depth : Nat}

theorem pastOf_cons_deeper (h : depth < m.callers.length) :
    pastOf depth (m :: past) = pastOf depth past := by
  rw [pastOf, if_neg (by omega), if_neg (by omega)]

theorem pastOf_cons_same : pastOf m.callers.length (m :: past) = m.visit :: pastOf m.callers.length past := by
  rw [pastOf, if_neg (Nat.lt_irrefl _), if_pos rfl]

theorem pastOf_cons_shallower (h : m.callers.length < depth) : pastOf depth (m :: past) = [] := by
  rw [pastOf, if_pos h]

/-- The counts of all scripts that wait are the turns that they have taken. -/
def AllWaiting (past : List Machine) : List Activation → Prop
  | [] => True
  | a :: callers => a.Waiting (pastOf callers.length past) ∧ AllWaiting past callers

/-- Scripts that wait are not concerned with what those do that they have called. -/
theorem AllWaiting.cons {callers : List Activation} (h : AllWaiting past callers)
    (hdepth : callers.length ≤ m.callers.length) : AllWaiting (m :: past) callers := by
  induction callers with
  | nil => trivial
  | cons a callers ih =>
    rw [List.length_cons] at hdepth
    refine ⟨?_, ih h.2 (by omega)⟩
    rw [pastOf_cons_deeper (by omega)]
    exact h.1

/-- The counts of all scripts are the turns that they have taken in a past. -/
structure Tracked (past : List Machine) (m : Machine) : Prop where
  active : m.active.Counted (pastOf m.callers.length past)
  callers : AllWaiting past m.callers

theorem tracked_start {a : Activation} (ha : a.Fresh) (e : Engine) : Tracked [] ⟨e, a, []⟩ :=
  ⟨ha.counted, trivial⟩

/-- A script that calls another one waits at the line of the call. -/
theorem waiting_of_call (hm : m.Checked) (h : Tracked past m) (henters : m.entersLoop = false)
    {l : Located} (hline : m.active.current? = some (some l)) (hplain : l.statement.isPlain = true)
    {s : RunState} (hs : s.Follows m.state m.active.loops) :
    s.active.Waiting (pastOf m.callers.length (m :: past)) := by
  have hprogram : s.active.program = m.active.program := hs.program
  have hindex : s.active.script.index = m.active.script.index := hs.index
  have hloops : s.active.loops = m.active.loops := hs.loops_eq
  have hcurrent : s.active.current? = some (some l) := by
    rw [Activation.current?, hprogram, hindex]
    exact hline
  rw [pastOf_cons_same, visit, henters]
  refine ⟨hs.accepted hm.accepted, ⟨?_, fun {w c} hloop hw hc => ?_⟩, ?_,
    Run.move_of_isPlain (s := s) hcurrent hplain⟩
  · exact h.active.nested.same hprogram hindex hloops
  · rw [hprogram] at hloop
    rw [hindex] at hw hc
    rw [hloops, turns, if_pos ⟨hw, hc⟩, h.active.count hloop hw hc, if_neg (by simp), Nat.add_zero]
  · rw [hindex]
    rfl

/-- All counts stay the turns that are taken. -/
theorem Tracked.step {m' : Machine} (hm : m.Checked) (h : Tracked past m) (hstep : m.step = .running m') :
    Tracked (m :: past) m' := by
  have hstepped := stepped hm
  rw [hstep] at hstepped
  cases hstepped with
  | @moved s j loops _ hmove _ hs =>
    refine ⟨?_, h.callers.cons le_rfl⟩
    have hpast : pastOf m.callers.length (m :: past) = _ := pastOf_cons_same
    rw [visit] at hpast
    rw [hpast]
    exact h.active.move hm.accepted hmove hs.program rfl hs.loops_eq
  | @called s l name parameters a e henters hline hplain _ hs hentered =>
    obtain ⟨ha, -⟩ := (Engine.Orderly.enter _ name parameters).of_ok (hs.engine_checked hm.engine) hentered
    refine ⟨?_, waiting_of_call hm h henters hline hplain hs, h.callers.cons le_rfl⟩
    rw [pastOf_cons_shallower (by simp)]
    exact ha.counted
  | @returned s caller callers henters hcallers hs =>
    have hwaiting := h.callers
    rw [hcallers] at hwaiting
    have hdepth : callers.length < m.callers.length := by
      rw [hcallers, List.length_cons]
      exact Nat.lt_succ_self _
    refine ⟨?_, hwaiting.2.cons hdepth.le⟩
    rw [pastOf_cons_deeper hdepth]
    exact hwaiting.1.resume

/-- In a whole run all counts are the turns that are taken. -/
theorem Reaches.tracked {m₀ : Machine} (h : Reaches m₀ past m) (hm : m₀.Checked)
    (hstart : Tracked [] m₀) : Tracked past m := by
  induction h with
  | start => exact hstart
  | step hreaches hstep ih => exact ih.step (hreaches.checked hm) hstep

end Machine

end LineScript
