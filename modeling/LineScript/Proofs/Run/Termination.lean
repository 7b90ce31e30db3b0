import Mathlib.Data.DFinsupp.WellFounded
import LineScript.Proofs.Run.Calls
import LineScript.Proofs.Run.LoopGuard

/-! If loops are limited and only loaded scripts are called, every run ends. A script that is called is taken
from the loaded ones until it ends; while the innermost script runs, its loops count for less and less, those
further out before those inside them. -/
namespace LineScript

namespace Registry

variable {α : Type} {r : Registry α} {name : String}

theorem length_insert_le (v : α) : (r.insert name v).entries.length ≤ r.entries.length + 1 := by
  unfold insert
  generalize r.entries = entries
  induction entries with
  | nil => exact le_rfl
  | cons x entries ih =>
    obtain ⟨n, u⟩ := x
    dsimp only at ih ⊢
    unfold place
    split_ifs
    · exact le_rfl
    · exact Nat.le_succ _
    · exact Nat.succ_le_succ ih

theorem length_erase_lt {v : α} (h : r.get? name = some v) :
    (r.erase name).entries.length < r.entries.length := by
  refine List.length_filter_lt_length_iff_exists.mpr ⟨(name, v), mem_of_lookup h, ?_⟩
  simp

end Registry

namespace Activation

/-- What a line of a script counts for while the script runs. Ahead of the script, and at its line, it counts
for what is left of the turns of a loop; behind it, only if it is a loop that is open. -/
def weight (limit : Nat) (a : Activation) (k : Nat) : Nat :=
  if a.script.index ≤ k then 2 * (limit + 1 - a.loops.count k)
  else if (a.loops.lookup k).isSome then 2 * (limit + 1 - a.loops.count k) + 1
  else 0

variable {a a' : Activation} {limit j k : Nat} {enters : Bool} {loops : LoopCounts}

theorem weight_ahead (h : a.script.index ≤ k) : a.weight limit k = 2 * (limit + 1 - a.loops.count k) :=
  if_pos h

theorem weight_behind (h : k < a.script.index) :
    a.weight limit k =
      if (a.loops.lookup k).isSome then 2 * (limit + 1 - a.loops.count k) + 1 else 0 :=
  if_neg (Nat.not_le_of_lt h)

/-- Behind a script that moves on, no line counts for more. -/
theorem Move.weight_le (h : a.Move enters j loops) (hindex : a'.script.index = j) (hloops : a'.loops = loops)
    (hk : k < a.script.index) (hkj : k < j) : a'.weight limit k ≤ a.weight limit k := by
  rw [weight_behind hk, weight_behind (hindex ▸ hkj), hloops, LoopCounts.count, LoopCounts.count]
  have hlookup : loops.lookup k = none ∨ loops.lookup k = a.loops.lookup k := by
    cases h with
    | next | otherwise | jump => exact .inr rfl
    | entered => exact .inr (by rw [LoopCounts.lookup_enter, if_neg hk.ne])
    | passed => exact .inr (by rw [LoopCounts.lookup_close, if_neg hk.ne])
    | left =>
      rw [LoopCounts.lookup_leave]
      split
      · exact .inl rfl
      · exact .inr rfl
  rcases hlookup with hnone | hsame
  · rw [hnone]
    exact Nat.zero_le _
  · rw [hsame]

/-- The line that a script leaves downwards counts for less. -/
theorem Move.weight_lt_of_forward (hp : a.program.Accepted) (hnested : a.Nested)
    (h : a.Move enters j loops) (hindex : a'.script.index = j) (hloops : a'.loops = loops)
    (hcount : a.loops.count a.script.index ≤ limit) (hj : a.script.index < j) :
    a'.weight limit a.script.index < a.weight limit a.script.index := by
  rw [weight_ahead le_rfl, weight_behind (hindex ▸ hj), hloops, LoopCounts.count]
  cases hlookup : loops.lookup a.script.index with
  | none =>
    simp only [Option.isSome_none, Bool.false_eq_true, if_false]
    omega
  | some n =>
    obtain ⟨c, hloop⟩ := h.exists_loopAt hp hnested hlookup
    rcases h.start hp hloop with ⟨-, -, hentered⟩ | ⟨-, -, hpassed⟩
    · rw [hlookup] at hentered
      cases hentered
      simp only [Option.isSome_some, if_true, Option.getD_some]
      omega
    · rw [hlookup] at hpassed
      cases hpassed

/-- The start of a loop to which a script goes back counts for less. -/
theorem Move.weight_lt_of_back (hp : a.program.Accepted) (hnested : a.Nested)
    (h : a.Move enters j loops) (hindex : a'.script.index = j) (hloops : a'.loops = loops)
    (hback : a.program.LoopAt j a.script.index) : a'.weight limit j < a.weight limit j := by
  have hlt := (hp.loopAt_lt hback).1
  have hopen := hnested.counted hback hlt le_rfl
  have hsame := h.lookup hp hnested hback
  rw [if_pos ⟨le_rfl, hlt.le⟩, if_neg fun henters => hlt.ne' henters.2] at hsame
  rw [weight_ahead (hindex ▸ le_rfl), weight_behind hlt, hloops, if_pos hopen, LoopCounts.count, hsame,
    LoopCounts.count]
  exact Nat.lt_succ_self _

/-- Whether a script is further on than another one in the same program: some line counts for less, and no
line before it for more. -/
def Further (limit : Nat) (a' a : Activation) : Prop :=
  a'.program = a.program ∧
    ∃ k < a.program.statements.length, (∀ i < k, a'.weight limit i = a.weight limit i) ∧
      a'.weight limit k < a.weight limit k

theorem exists_first_lt {f g : Nat → Nat} {k : Nat} (hle : ∀ i < k, f i ≤ g i) (hlt : f k < g k) :
    ∃ i ≤ k, (∀ i' < i, f i' = g i') ∧ f i < g i := by
  induction k using Nat.strong_induction_on with
  | _ k ih =>
    by_cases hbefore : ∃ i < k, f i < g i
    · obtain ⟨i, hi, hlt'⟩ := hbefore
      obtain ⟨i', hi', hfirst⟩ := ih i hi (fun l hl => hle l (hl.trans hi)) hlt'
      exact ⟨i', hi'.trans hi.le, hfirst⟩
    · refine ⟨k, le_rfl, fun i hi => Nat.le_antisymm (hle i hi) ?_, hlt⟩
      exact Nat.le_of_not_lt fun hlt' => hbefore ⟨i, hi, hlt'⟩

/-- A script that moves on is further on. -/
theorem Move.further (hp : a.program.Accepted) (hnested : a.Nested) (h : a.Move enters j loops)
    (hprogram : a'.program = a.program) (hindex : a'.script.index = j) (hloops : a'.loops = loops)
    (hcount : a.loops.count a.script.index ≤ limit)
    (hline : a.script.index < a.program.statements.length) : Further limit a' a := by
  refine ⟨hprogram, ?_⟩
  rcases h.forward_or_back hp with hj | hback
  · obtain ⟨k, hk, hfirst⟩ :=
      exists_first_lt (fun i hi => h.weight_le hindex hloops hi (hi.trans hj))
        (h.weight_lt_of_forward hp hnested hindex hloops hcount hj)
    exact ⟨k, hk.trans_lt hline, hfirst⟩
  · have hlt := (hp.loopAt_lt hback).1
    obtain ⟨k, hk, hfirst⟩ :=
      exists_first_lt (fun i hi => h.weight_le hindex hloops (hi.trans hlt) hi)
        (h.weight_lt_of_back hp hnested hindex hloops hback)
    exact ⟨k, hk.trans_lt (hlt.trans hline), hfirst⟩

/-- No script gets further and further on. -/
theorem wellFounded_further (limit : Nat) : WellFounded (Further limit) := by
  refine ⟨fun a => ?_⟩
  have hwf : WellFounded (Pi.Lex (· < ·) (· < ·) : (Fin a.program.statements.length → Nat) → _ → Prop) :=
    Pi.Lex.wellFounded _ fun _ => wellFounded_lt
  suffices haccessible : ∀ (f : Fin a.program.statements.length → Nat) (b : Activation),
      b.program = a.program → (fun i : Fin _ => b.weight limit i) = f → Acc (Further limit) b from
    haccessible _ a rfl rfl
  intro f
  induction f using hwf.induction with
  | _ f ih =>
    rintro b hb rfl
    refine ⟨b, ?_⟩
    rintro b' ⟨hprogram, k, hk, hsame, hlt⟩
    rw [hb] at hk
    exact ih (fun i => b'.weight limit i) ⟨⟨k, hk⟩, fun i hi => hsame i hi, hlt⟩ b' (hprogram.trans hb) rfl

end Activation

namespace Machine

/-- Whether the call that is to run, if there is one, means a loaded script, one that runs, or none: no script
is read from a file for it. -/
def CallsLoaded (m : Machine) : Prop :=
  ∀ l name ps s, m.active.current? = some (some l) →
    outcome (Run.execute l.text l.statement) ⟨m.active, (m.announce l).engine⟩ = (.ok (.call name ps), s) →
    (∀ f ∈ s.engine.calls, f.script ≠ name) →
    ∀ resolved e, outcome (Engine.resolve ⟨l.line, s.active.script.directory?⟩ name) s.engine =
      (.ok resolved, e) →
      s.engine.scripts.contains resolved = true ∨ ∃ f ∈ s.engine.calls, f.script = resolved

/-- The same, computed. -/
def callsLoaded (m : Machine) : Bool :=
  match m.active.current? with
  | some (some l) =>
    match outcome (Run.execute l.text l.statement) ⟨m.active, (m.announce l).engine⟩ with
    | (.ok (.call name _), s) =>
      match (outcome (Engine.resolve ⟨l.line, s.active.script.directory?⟩ name) s.engine).1 with
      | .ok resolved => s.engine.scripts.contains resolved || s.engine.calls.any (·.script == resolved)
      | .error _ => true
    | _ => true
  | _ => true

theorem callsLoaded_of_eq_true {m : Machine} (h : m.callsLoaded = true) : m.CallsLoaded := by
  intro l name ps s hline hexecute _ resolved e hresolve
  rw [callsLoaded, hline] at h
  dsimp only at h
  rw [hexecute] at h
  dsimp only at h
  rw [hresolve, Bool.or_eq_true, List.any_eq_true] at h
  simpa only [beq_iff_eq] using h

/-- How many scripts are loaded and do not run. -/
def idle (m : Machine) : Nat :=
  m.engine.scripts.entries.length

/-- Whether a run ends. -/
def Ends (m : Machine) : Prop :=
  ∃ fuel, (run fuel m).isSome = true

/-- Whether the innermost script goes back to its caller, if not the whole run ends. -/
def ComesBack (m : Machine) : Prop :=
  m.Ends ∨ ∃ past m' caller, Reaches m past m' ∧ m.callers = caller :: m'.callers ∧
    m'.active = caller.goTo (caller.script.index + 1) ∧ m'.idle ≤ m.idle + 1

variable {m m' m₀ : Machine} {past : List Machine} {limit : Nat}

theorem Ends.of_reaches (h : Reaches m past m') (hends : m'.Ends) : m.Ends := by
  obtain ⟨fuel, hfuel⟩ := hends
  exact ⟨past.length + fuel, by rwa [h.run_eq]⟩

theorem ends_of_step {e : Engine} {s : Script} {r : Except Error Outcome} (h : m.step = .ended e s r) :
    m.Ends :=
  ⟨1, by rw [run, h]; rfl⟩

theorem ComesBack.of_reaches (h : Reaches m past m') (hcallers : m'.callers = m.callers)
    (hidle : m'.idle ≤ m.idle) (hback : m'.ComesBack) : m.ComesBack := by
  rcases hback with hends | ⟨past', m'', caller, hreaches, hcaller, hactive, hidle'⟩
  · exact .inl (.of_reaches h hends)
  · refine .inr ⟨past' ++ past, m'', caller, h.trans hreaches, hcallers.symm.trans hcaller, hactive, ?_⟩
    omega

/-- A script that calls a loaded one takes it from the loaded ones. -/
theorem idle_of_entered {s : RunState} {l : Located} {name : String} {ps : List (String × String)}
    {a : Activation} {e : Engine} (hloaded : m.CallsLoaded) (hline : m.active.current? = some (some l))
    (hexecute : outcome (Run.execute l.text l.statement) ⟨m.active, (m.announce l).engine⟩ =
      (.ok (.call name ps), s))
    (hentered : outcome (Engine.enter ⟨l.line, s.active.script.directory?⟩ name ps) s.engine = (.ok a, e)) :
    e.scripts.entries.length < s.engine.scripts.entries.length := by
  obtain ⟨resolved, e₁, script, hresolve, hname, hidle, hget, -, hscripts⟩ := Engine.enter_eq_ok hentered
  have hcontains : s.engine.scripts.contains resolved = true := by
    rcases hloaded l name ps s hline hexecute hname resolved e₁ hresolve with hcontains | ⟨f, hf, hruns⟩
    · exact hcontains
    · exact absurd hruns (hidle f hf)
  have hsame := Engine.resolve_loaded hresolve hcontains
  rw [hscripts, ← hsame]
  exact Registry.length_erase_lt hget

/-- If loops are limited and only loaded scripts are called, every script that runs comes back. -/
theorem comesBack (hm₀ : m₀.Checked) (htracked : Tracked [] m₀) (hguarded : Guarded limit m₀)
    (hloaded : ∀ past m, Reaches m₀ past m → m.CallsLoaded) (n : Nat) :
    ∀ past m, Reaches m₀ past m → m.idle ≤ n → m.ComesBack := by
  -- Outside, on the scripts that are left to be called; inside, on how far the innermost script is.
  induction n using Nat.strong_induction_on with
  | _ n ihcallee =>
    have hscript : ∀ a : Activation, ∀ past m, m.active = a → Reaches m₀ past m → m.idle ≤ n →
        m.ComesBack := by
      intro a
      induction a using (Activation.wellFounded_further limit).induction with
      | _ a ih =>
        rintro past m rfl hreaches hidle
        have hm := hreaches.checked hm₀
        have hnested := (hreaches.tracked hm₀ htracked).active.nested
        have hcount := (hreaches.guarded hm₀ hguarded).count_le m.active List.mem_cons_self
          m.active.script.index
        have hstepped := stepped hm
        generalize hstep : m.step = p at hstepped
        cases hstepped with
        | ended | exceeded => exact .inl (ends_of_step hstep)
        | @moved s j loops hline hmove _ hs =>
          have hnext : Reaches m [m] _ := .step .start hstep
          have hfurther : Activation.Further limit (s.active.goTo j) m.active :=
            hmove.further hm.accepted hnested hs.program rfl hs.loops_eq hcount hline
          have hsame : s.engine.scripts.entries.length = m.idle := by
            rw [hs.scripts]
            rfl
          refine ComesBack.of_reaches hnext rfl hsame.le ?_
          exact ih _ hfurther _ _ rfl (.step hreaches hstep) (hsame.trans_le hidle)
        | @called s l name ps a e henters hline hplain hexecute hs hentered =>
          have hnext : Reaches m [m] _ := .step .start hstep
          have hless := idle_of_entered (hloaded past m hreaches) hline hexecute hentered
          rw [hs.scripts] at hless
          have hcallee := ihcallee _ (hless.trans_le hidle) _ _ (.step hreaches hstep) le_rfl
          rcases hcallee with hends | ⟨past', m', caller, hback, hcallers, hactive, hidle'⟩
          · exact .inl (.of_reaches hnext hends)
          · obtain ⟨hcaller, hrest⟩ := List.cons.inj hcallers
            rw [← hcaller] at hactive
            have hmove := Run.move_of_isPlain (s := m.state) hline hplain
            have hfurther : Activation.Further limit (s.active.goTo (s.active.script.index + 1)) m.active :=
              hmove.further hm.accepted hnested hs.program (congrArg (· + 1) hs.index) hs.loops_eq hcount
                (m.active.lt_of_current? hline)
            have hless' : m'.idle ≤ m.idle := hidle'.trans hless
            refine ComesBack.of_reaches (hnext.trans hback) hrest.symm hless' ?_
            exact ih _ hfurther _ _ hactive ((hreaches.step hstep).trans hback) (hless'.trans hidle)
        | @returned s caller callers _ hcallers hs =>
          refine .inr ⟨[m], _, caller, .step .start hstep, hcallers, rfl, ?_⟩
          have hput : (s.engine.leave s.active.script).scripts.entries.length ≤
              s.engine.scripts.entries.length + 1 := Registry.length_insert_le _
          rw [hs.scripts] at hput
          exact hput
    exact fun past m hreaches hidle => hscript m.active past m rfl hreaches hidle

theorem ends_of_loaded {e : Engine} {a : Activation} (he : e.Checked) (ha : a.Fresh)
    (hlimit : e.config.loopLimit = some limit)
    (hloaded : ∀ past m, Reaches ⟨e, a, []⟩ past m → m.CallsLoaded) : Ends ⟨e, a, []⟩ := by
  have hback := comesBack (ha.checked_machine he) (tracked_start ha e) (guarded_start ha hlimit) hloaded
    _ _ _ .start le_rfl
  rcases hback with hends | ⟨_, _, _, _, hcallers, _⟩
  · exact hends
  · cases hcallers

/-- A script that moves on without calling or coming back moves down, or from the end of a loop back to its
start. -/
theorem forward_or_back (hm : m.Checked) (hstep : m.step = .running m')
    (hdepth : m'.callers.length = m.callers.length) :
    m.active.script.index < m'.active.script.index ∨
      m.active.program.LoopAt m'.active.script.index m.active.script.index := by
  have hstepped := stepped hm
  rw [hstep] at hstepped
  cases hstepped with
  | moved _ hmove => exact hmove.forward_or_back hm.accepted
  | called => simp at hdepth
  | returned _ hcallers =>
    rw [hcallers] at hdepth
    simp at hdepth

/-- A script that is called was not running. -/
theorem calls_of_step (hm : m.Checked) (hstep : m.step = .running m')
    (hdepth : m.callers.length < m'.callers.length) :
    ∃ f, m'.engine.calls = f :: m.engine.calls ∧ ∀ f' ∈ m.engine.calls, f'.script ≠ f.script := by
  have hstepped := stepped hm
  rw [hstep] at hstepped
  cases hstepped with
  | moved => exact absurd hdepth (Nat.lt_irrefl _)
  | @called s l name ps a e _ _ _ _ hs hentered =>
    obtain ⟨resolved, _, _, -, -, hidle, -, hcalls, -⟩ := Engine.enter_eq_ok hentered
    rw [hs.calls] at hidle hcalls
    exact ⟨_, hcalls, hidle⟩
  | returned _ hcallers =>
    rw [hcallers] at hdepth
    exact absurd (Nat.lt_of_succ_lt hdepth) (Nat.lt_irrefl _)

end Machine

namespace Engine

/-- If loops are limited and only loaded scripts are called, every run ends. In it a script goes back only
from the end of a loop to its start, no script takes more turns around a loop than allowed since it came to
the loop, and no script is called that runs. -/
theorem tryRun_ends {e : Engine} (he : e.Checked) {limit : Nat} (hlimit : e.config.loopLimit = some limit)
    (name : Option String)
    (hloaded : ∀ a e₁, outcome (start name) e = (.ok a, e₁) →
      ∀ past m, Machine.Reaches ⟨e₁, a, []⟩ past m → m.CallsLoaded) :
    (∃ fuel, (e.tryRun fuel name).isSome = true) ∧
      (∀ a e₁, outcome (start name) e = (.ok a, e₁) → ∀ past m, Machine.Reaches ⟨e₁, a, []⟩ past m →
        (∀ m', m.step = .running m' → m'.callers.length = m.callers.length →
          m.active.script.index < m'.active.script.index ∨
            m.active.program.LoopAt m'.active.script.index m.active.script.index) ∧
        (∀ x callers, x :: callers <:+ m.active :: m.callers → ∀ w c, x.program.LoopAt w c →
          w ≤ x.script.index → x.script.index ≤ c →
          turns w c (Machine.pastOf callers.length past) ≤ limit) ∧
        ∀ m', m.step = .running m' → m.callers.length < m'.callers.length →
          ∃ f, m'.engine.calls = f :: m.engine.calls ∧ ∀ f' ∈ m.engine.calls, f'.script ≠ f.script) := by
  have hstarted : ∀ a e₁, outcome (start name) e = (.ok a, e₁) →
      a.Fresh ∧ e₁.Checked ∧ e₁.config.loopLimit = some limit := by
    intro a e₁ hstart
    obtain ⟨ha, he₁⟩ := (Orderly.start name).of_ok he hstart
    exact ⟨ha, he₁, ((Orderly.start name).loopLimit he hstart).trans hlimit⟩
  refine ⟨?_, fun a e₁ hstart past m hreaches => ?_⟩
  · simp only [tryRun_eq]
    cases ho : outcome (start name) e with
    | mk r e₁ =>
      cases r with
      | error err => exact ⟨0, rfl⟩
      | ok a =>
        obtain ⟨ha, he₁, hlimit₁⟩ := hstarted a e₁ ho
        obtain ⟨fuel, hends⟩ := Machine.ends_of_loaded he₁ ha hlimit₁ (hloaded a e₁ ho)
        exact ⟨fuel, by rw [Option.isSome_map, hends]⟩
  · obtain ⟨ha, he₁, hlimit₁⟩ := hstarted a e₁ hstart
    have hm := hreaches.checked (ha.checked_machine he₁)
    refine ⟨fun m' hstep hdepth => Machine.forward_or_back hm hstep hdepth,
      fun x callers hsuffix w c hloop hw hc => ?_, fun m' hstep hdepth => ?_⟩
    · have htracked := hreaches.tracked (ha.checked_machine he₁) (Machine.tracked_start ha e₁)
      have hguarded := hreaches.guarded (ha.checked_machine he₁) (Machine.guarded_start ha hlimit₁)
      rw [← (htracked.of_suffix hsuffix).count hloop hw hc]
      exact hguarded.count_le x (hsuffix.subset List.mem_cons_self) w
    · exact Machine.calls_of_step hm hstep hdepth

/-- A script that calls another one in a loop without an end, of which one turn is allowed. -/
theorem tryRun_ends_call :
    let e : Engine :=
      { config := { loopLimit := some 1 }
        scripts := ⟨[("a", { name := "a", lines := ["while not found", "call b", "endwhile"] }),
          ("b", { name := "b", lines := [] })]⟩ }
    ∃ fuel, (e.tryRun fuel (some "a")).isSome = true := by
  intro e
  have he : e.Checked :=
    List.forall_mem_cons.mpr ⟨Script.checked_of_none rfl,
      List.forall_mem_singleton.mpr (Script.checked_of_none rfl)⟩
  have hpasses : e.startsWith (some "a") (Machine.passesThroughout Machine.callsLoaded 6) = true := by cbv
  refine (tryRun_ends he rfl (some "a") ?_).1
  intro a e₁ hstart past m hreaches
  obtain ⟨_, _, hstart', hpasses⟩ := exists_of_startsWith hpasses
  rw [hstart] at hstart'
  cases hstart'
  exact Machine.callsLoaded_of_eq_true (hreaches.passes hpasses)

end Engine

end LineScript
