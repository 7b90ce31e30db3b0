import LineScript.Proofs.Run.Runs
import LineScript.Proofs.Run.Unguarded

/-! The limit for loops: it ends a run exactly when a loop is entered too often since the script came to it. -/
namespace LineScript

namespace Activation

variable {a : Activation} {w n j : Nat} {enters : Bool} {loops : LoopCounts} {past : List Visit}

/-- A script has an entry for each loop around its line of which it has taken turns, and for no other. -/
theorem Counted.lookup_eq_some_iff (h : a.Counted past) :
    a.loops.lookup w = some n ↔
      ∃ c, a.program.LoopAt w c ∧ w ≤ a.script.index ∧ a.script.index ≤ c ∧ n = turns w c past ∧ 0 < n := by
  constructor
  · intro hlookup
    obtain ⟨hpos, c, hloop, hw, hc⟩ := h.nested.around hlookup
    have hcount := h.count hloop hw hc
    rw [LoopCounts.count, hlookup, Option.getD_some] at hcount
    exact ⟨c, hloop, hw, hc, hcount, hpos⟩
  · rintro ⟨c, hloop, hw, hc, rfl, hpos⟩
    have hcount := h.count hloop hw hc
    rw [LoopCounts.count] at hcount
    cases hlookup : a.loops.lookup w with
    | none =>
      rw [hlookup, Option.getD_none] at hcount
      omega
    | some n =>
      rw [hlookup, Option.getD_some] at hcount
      rw [hcount]

/-- No count grows but that of a loop that is entered. -/
theorem Move.count_le (h : a.Move enters j loops) (w : Nat) :
    loops.count w ≤ a.loops.count w ∨
      (enters = true ∧ w = a.script.index ∧ loops.count w = a.loops.count w + 1) := by
  cases h with
  | next | otherwise | jump => exact .inl le_rfl
  | entered =>
    by_cases hw : w = a.script.index
    · subst hw
      exact .inr ⟨rfl, rfl, LoopCounts.count_enter _ _⟩
    · rw [LoopCounts.count, LoopCounts.lookup_enter, if_neg hw]
      exact .inl le_rfl
  | passed =>
    rw [LoopCounts.count, LoopCounts.lookup_close]
    split
    · exact .inl (Nat.zero_le _)
    · exact .inl le_rfl
  | left =>
    rw [LoopCounts.count, LoopCounts.lookup_leave]
    split
    · exact .inl (Nat.zero_le _)
    · exact .inl le_rfl

end Activation

namespace Machine

variable {m m' m₀ : Machine} {past : List Machine} {limit : Nat}

/-- The limit for loops stays what it is. -/
theorem loopLimit_step (hm : m.Checked) (hstep : m.step = .running m') :
    m'.engine.config.loopLimit = m.engine.config.loopLimit := by
  have hstepped := stepped hm
  rw [hstep] at hstepped
  cases hstepped with
  | moved _ _ _ hs => rw [hs.config, state]
  | @called s l name parameters a e _ _ _ _ hs hentered =>
    have hsame := (Engine.Orderly.enter _ name parameters).loopLimit (hs.engine_checked hm.engine) hentered
    exact hsame.trans (congrArg Config.loopLimit hs.config)
  | returned _ _ hs => exact congrArg Config.loopLimit hs.config

/-- No loop has been entered more often than the limit allows. -/
structure Guarded (limit : Nat) (m : Machine) : Prop where
  loopLimit : m.engine.config.loopLimit = some limit
  count_le : ∀ a ∈ m.active :: m.callers, ∀ w, a.loops.count w ≤ limit

theorem Guarded.step (hm : m.Checked) (h : Guarded limit m) (hstep : m.step = .running m') :
    Guarded limit m' := by
  have hlimit := (loopLimit_step hm hstep).trans h.loopLimit
  refine ⟨hlimit, ?_⟩
  obtain ⟨hactive, hcallers⟩ := List.forall_mem_cons.mp h.count_le
  have hstepped := stepped hm
  rw [hstep] at hstepped
  cases hstepped with
  | @moved s j loops _ hmove hguard hs =>
    refine List.forall_mem_cons.mpr ⟨fun w => ?_, hcallers⟩
    have hloops : (s.active.goTo j).loops = loops := hs.loops_eq
    rw [hloops]
    rcases hmove.count_le w with hle | ⟨henters, rfl, hcount⟩
    · exact hle.trans (hactive w)
    · rw [hcount]
      exact hguard henters limit h.loopLimit
  | @called s l name parameters a e _ _ _ _ hs hentered =>
    obtain ⟨ha, -⟩ := (Engine.Orderly.enter _ name parameters).of_ok (hs.engine_checked hm.engine) hentered
    refine List.forall_mem_cons.mpr ⟨fun w => ?_, List.forall_mem_cons.mpr ⟨fun w => ?_, hcallers⟩⟩
    · rw [ha.loops]
      exact Nat.zero_le _
    · rw [hs.loops_eq]
      exact hactive w
  | @returned s caller callers _ heq hs =>
    rw [heq] at hcallers
    exact List.forall_mem_cons.mpr (List.forall_mem_cons.mp hcallers)

theorem Reaches.guarded (h : Reaches m₀ past m) (hm : m₀.Checked) (hstart : Guarded limit m₀) :
    Guarded limit m := by
  induction h with
  | start => exact hstart
  | step hreaches hstep ih => exact ih.step (hreaches.checked hm) hstep

theorem Reaches.loopLimit (h : Reaches m₀ past m) (hm : m₀.Checked) :
    m.engine.config.loopLimit = m₀.engine.config.loopLimit := by
  induction h with
  | start => rfl
  | step hreaches hstep ih => exact (loopLimit_step (hreaches.checked hm) hstep).trans ih

theorem guarded_start {a : Activation} (ha : a.Fresh) {e : Engine} (he : e.config.loopLimit = some limit) :
    Guarded limit ⟨e, a, []⟩ := by
  refine ⟨he, List.forall_mem_cons.mpr ⟨fun w => ?_, fun _ h => absurd h List.not_mem_nil⟩⟩
  rw [ha.loops]
  exact Nat.zero_le _

theorem AllWaiting.of_suffix {x : Activation} {callers others : List Activation}
    (h : AllWaiting past others) (hsuffix : x :: callers <:+ others) :
    x.Waiting (pastOf callers.length past) := by
  induction others with
  | nil => cases List.suffix_nil.mp hsuffix
  | cons y others ih =>
    rcases List.suffix_cons_iff.mp hsuffix with heq | hsuffix
    · cases heq
      exact h.1
    · exact ih h.2 hsuffix

/-- Every script that runs has counts, the innermost one and those that wait. -/
theorem Tracked.of_suffix {x : Activation} {callers : List Activation} (h : Tracked past m)
    (hsuffix : x :: callers <:+ m.active :: m.callers) : x.Counted (pastOf callers.length past) := by
  rcases List.suffix_cons_iff.mp hsuffix with heq | hsuffix
  · cases heq
    exact h.active
  · exact (h.callers.of_suffix hsuffix).counted

/-- Only a limit that is set is exceeded. -/
theorem exceeded_of_step (hm : m.Checked) {e : Engine} {s : Script} {err : Error}
    (hstep : m.step = .ended e s (.error err)) (hcause : err.cause = .failure (.loopLimit limit)) :
    m.entersLoop = true ∧ m.engine.config.loopLimit = some limit ∧
      limit ≤ m.active.loops.count m.active.script.index := by
  have hstepped := stepped hm
  rw [hstep] at hstepped
  cases hstepped with
  | ended _ _ _ hordinary =>
    have hnot := hordinary err rfl
    rw [Error.Ordinary, hcause] at hnot
    exact hnot.elim
  | exceeded henters hlimit hle _ _ hcause' =>
    rw [hcause] at hcause'
    cases hcause'
    exact ⟨henters, hlimit, hle⟩

/-- A loop that has been entered as often as allowed is not entered again. -/
theorem step_exceeds (hm : m.Checked) (hlimit : m.engine.config.loopLimit = some limit)
    (henters : m.entersLoop = true) (hfull : limit ≤ m.active.loops.count m.active.script.index) :
    ∃ e s err, m.step = .ended e s (.error err) ∧ err.cause = .failure (.loopLimit limit) := by
  have hstepped := stepped hm
  generalize m.step = p at hstepped
  cases hstepped with
  | moved _ _ hguard _ =>
    have hlt := hguard henters limit hlimit
    omega
  | called hnot | returned hnot | ended hnot =>
    rw [hnot] at henters
    cases henters
  | exceeded _ hlimit' _ _ _ hcause =>
    rw [hlimit] at hlimit'
    cases hlimit'
    exact ⟨_, _, _, rfl, hcause⟩

theorem at_while_of_entersLoop (h : m.entersLoop = true) : m.active.At Statement.isWhile := by
  unfold entersLoop at h
  split at h
  · rename_i l hline
    refine (Run.at_iff (s := m.state) hline).mpr ?_
    cases hst : l.statement with
    | whileTest t => rfl
    | _ =>
      rw [hst] at h
      cases h
  · cases h

/-- The counts of the scripts that run are the turns that they have taken around the loops at which they
are, and there are no others; a script that comes to a loop from outside starts with none. A run ends for
want of turns exactly where a loop is to be entered of which all turns are taken, and any other run passes
the same states and ends the same way if loops are not limited. -/
theorem counts_are_turns {e : Engine} {a : Activation} (he : e.Checked) (ha : a.Fresh) :
    (∀ past m, Reaches ⟨e, a, []⟩ past m → ∀ x callers, x :: callers <:+ m.active :: m.callers →
      (∀ w n, x.loops.lookup w = some n ↔
        ∃ c, x.program.LoopAt w c ∧ w ≤ x.script.index ∧ x.script.index ≤ c ∧
          n = turns w c (pastOf callers.length past) ∧ 0 < n) ∧
      ∀ w c, x.program.LoopAt w c →
        (∀ v ∈ (pastOf callers.length past).head?, v.1 < w ∨ c < v.1) → x.loops.lookup w = none) ∧
    (∀ limit, (∃ fuel e' s err, run fuel ⟨e, a, []⟩ = some (e', s, .error err) ∧
        err.cause = .failure (.loopLimit limit)) ↔
      e.config.loopLimit = some limit ∧ ∃ past m c, Reaches ⟨e, a, []⟩ past m ∧ m.entersLoop = true ∧
        m.active.program.LoopAt m.active.script.index c ∧
        turns m.active.script.index c (pastOf m.callers.length past) = limit) ∧
    (∀ past m, Reaches ⟨e, a, []⟩ past m →
      Reaches ⟨e.limited none, a, []⟩ (past.map (·.limited none)) (m.limited none)) ∧
    ∀ fuel, (∀ e' s err, run fuel ⟨e, a, []⟩ = some (e', s, .error err) → ¬ err.ExceedsLimit) →
      run fuel ⟨e.limited none, a, []⟩ =
        (run fuel ⟨e, a, []⟩).map fun (e', s, r) => (e'.limited none, s, r) := by
  have hstart : Machine.Checked ⟨e, a, []⟩ := ha.checked_machine he
  have htracked := fun past m (h : Reaches ⟨e, a, []⟩ past m) => h.tracked hstart (tracked_start ha e)
  refine ⟨fun past m hreaches x callers hsuffix => ?_, fun limit => ⟨?_, ?_⟩,
    fun past m hreaches => hreaches.unguarded hstart, fun fuel hlimit => run_unguarded hstart fuel hlimit⟩
  · have hcounted := (htracked past m hreaches).of_suffix hsuffix
    refine ⟨fun w n => hcounted.lookup_eq_some_iff, fun w c hloop hout => ?_⟩
    cases hlookup : x.loops.lookup w with
    | none => rfl
    | some n =>
      obtain ⟨c', hloop', -, -, hn, hpos⟩ := hcounted.lookup_eq_some_iff.mp hlookup
      have haccepted : x.program.Accepted := by
        have hm := hreaches.checked hstart
        rcases List.mem_cons.mp (hsuffix.subset List.mem_cons_self) with rfl | hx
        · exact hm.accepted
        · exact (hm.callers x hx).1
      rw [haccepted.loopAt_unique hloop' hloop, turns_eq_zero hout] at hn
      omega
  · rintro ⟨fuel, e', s, err, hrun, hcause⟩
    obtain ⟨past, m, hreaches, hend, -⟩ := run_eq_some_iff.mp hrun
    have hm := hreaches.checked hstart
    obtain ⟨henters, hlimit, hfull⟩ := exceeded_of_step hm hend hcause
    rw [hreaches.loopLimit hstart] at hlimit
    have hguarded := hreaches.guarded hstart (guarded_start ha hlimit)
    have hle := hguarded.count_le m.active List.mem_cons_self m.active.script.index
    obtain ⟨c, hloop⟩ := hm.accepted.exists_loopAt_of_while (at_while_of_entersLoop henters)
    have hcount := (htracked past m hreaches).active.count hloop le_rfl (hm.accepted.loopAt_lt hloop).1.le
    exact ⟨hlimit, past, m, c, hreaches, henters, hloop, by omega⟩
  · rintro ⟨hlimit, past, m, c, hreaches, henters, hloop, hturns⟩
    have hm := hreaches.checked hstart
    have hcount := (htracked past m hreaches).active.count hloop le_rfl (hm.accepted.loopAt_lt hloop).1.le
    rw [← hreaches.loopLimit hstart] at hlimit
    obtain ⟨e', s, err, hend, hcause⟩ := step_exceeds hm hlimit henters (by omega)
    exact ⟨past.length + 1, e', s, err,
      run_eq_some_iff.mpr ⟨past, m, hreaches, hend, Nat.lt_succ_self _⟩, hcause⟩

/-- A loop without an end, of which one turn is allowed. -/
theorem counts_are_turns_endless :
    let lines := ["while not found", "endwhile"]
    let e : Engine := { config := { loopLimit := some 1 } }
    ∃ p, Program.check "a" lines 0 = .ok p ∧
      let a : Activation := { script := { name := "a", lines }, program := p }
      (∃ past m, Reaches ⟨e, a, []⟩ past m ∧ m.entersLoop = true ∧
        m.active.loops.lookup m.active.script.index = some 1) ∧
      run 2 ⟨e.limited none, a, []⟩ =
        (run 2 ⟨e, a, []⟩).map fun (e', s, r) => (e'.limited none, s, r) := by
  intro lines e
  have hcheck : Program.check "a" lines 0 =
      .ok { statements :=
              [some ⟨1, 1, "while not found", .whileTest ⟨true, .found⟩⟩,
                some ⟨2, 1, "endwhile", .endWhile⟩]
            jumps := ⟨[], [(0, 2), (1, 0)]⟩ } := by cbv
  refine ⟨_, hcheck, ?_⟩
  intro a
  have he : e.Checked := fun _ h => absurd h List.not_mem_nil
  have ha : a.Fresh := ⟨⟨_, _, _, hcheck⟩, Script.checked_of_none rfl, rfl, rfl⟩
  obtain ⟨hcounts, hlimit, -, hunguarded⟩ := counts_are_turns he ha
  have hfails : (run 3 ⟨e, a, []⟩).map (·.2.2) =
      some (.error ⟨.failure (.loopLimit 1), some ⟨"a", 1, 1⟩⟩) := by cbv
  have hgoes : (run 2 ⟨e, a, []⟩).isNone = true := by cbv
  constructor
  · obtain ⟨⟨e', s, r⟩, hrun, hr⟩ := Option.map_eq_some_iff.mp hfails
    obtain ⟨-, past, m, c, hreaches, henters, hloop, hturns⟩ :=
      (hlimit 1).mp ⟨3, e', s, _, hrun.trans (congrArg (fun r => some (e', s, r)) hr), rfl⟩
    have hlookup := (hcounts past m hreaches m.active m.callers List.suffix_rfl).1 m.active.script.index 1
    have hrange := ((hreaches.checked (ha.checked_machine he)).accepted.loopAt_lt hloop).1.le
    exact ⟨past, m, hreaches, henters, hlookup.mpr ⟨c, hloop, le_rfl, hrange, hturns.symm, Nat.one_pos⟩⟩
  · refine hunguarded 2 fun e' s err hrun => ?_
    rw [hrun] at hgoes
    cases hgoes

end Machine

end LineScript
