import LineScript.Proofs.Run.Lockstep
import LineScript.Proofs.Run.Moves
import LineScript.Proofs.Run.Values

/-! What a statement of an accepted program does: where it leads, which loops it opens and closes, and how it
can fail. -/
namespace LineScript

/-- Whether a state comes from another one by work on what statements work on, and other counts of
loops. -/
def RunState.Follows (s' s : RunState) (loops : LoopCounts) : Prop :=
  s'.under (s.withLoops loops) = s'

namespace RunState.Follows

variable {s s' : RunState} {loops : LoopCounts}

theorem of_steady {α : Type} {m : Run α} (hm : Run.Steady m) (s : RunState) :
    (outcome m s).2.Follows s s.active.loops :=
  hm.under_self s

theorem program (h : s'.Follows s loops) : s'.active.program = s.active.program := by
  rw [← h]
  rfl

theorem index (h : s'.Follows s loops) : s'.active.script.index = s.active.script.index := by
  rw [← h]
  rfl

theorem loops_eq (h : s'.Follows s loops) : s'.active.loops = loops := by
  rw [← h]
  rfl

theorem config (h : s'.Follows s loops) : s'.engine.config = s.engine.config := by
  rw [← h]
  rfl

theorem scripts (h : s'.Follows s loops) : s'.engine.scripts = s.engine.scripts := by
  rw [← h]
  rfl

theorem calls (h : s'.Follows s loops) : s'.engine.calls = s.engine.calls := by
  rw [← h]
  rfl

theorem program? (h : s'.Follows s loops) : s'.active.script.program = s.active.script.program := by
  rw [← h]
  rfl

/-- Counting loops differently afterwards. -/
theorem setLoops (h : s'.Follows s loops) (loops' : LoopCounts) :
    (s'.withLoops loops').Follows s loops' := by
  unfold Follows at h ⊢
  rw [← h]
  rfl

end RunState.Follows

/-- Where a script goes on, if it goes on by itself. -/
def Flow.target? (index : Nat) : Flow → Option Nat
  | next => some (index + 1)
  | jump target => some target
  | finish _ | abort _ | call .. => none

namespace Run

/-- Whether a statement is a loop whose test holds. -/
def entersLoop (s : RunState) : Statement → Bool
  | .whileTest t =>
    match (outcome (testHolds t) s).1 with
    | .ok holds => holds
    | .error _ => false
  | _ => false

/-- What a statement may come to, and the counts of loops behind it. -/
inductive Effect (s : RunState) (st : Statement) : Except Error Flow → LoopCounts → Prop
  | failed {e : Error} : e.Ordinary → e.position = none → entersLoop s st = false →
      Effect s st (.error e) s.active.loops
  | exceeded {limit : Nat} : entersLoop s st = true → s.engine.config.loopLimit = some limit →
      limit ≤ s.active.loops.count s.active.script.index →
      Effect s st (.error (.ofFailure (.loopLimit limit)))
        (s.active.loops.enter s.active.script.index)
  | ended {flow : Flow} : st.isPlain = true → flow.target? s.active.script.index = none →
      Effect s st (.ok flow) s.active.loops
  | moved {flow : Flow} {j : Nat} {loops : LoopCounts} :
      flow.target? s.active.script.index = some j → s.active.Move (entersLoop s st) j loops →
      (entersLoop s st = true → ∀ limit ∈ s.engine.config.loopLimit,
        s.active.loops.count s.active.script.index < limit) →
      Effect s st (.ok flow) loops

/-- What a statement may come to, with the state behind it. -/
def HasEffect (s : RunState) (st : Statement) (r : Except Error Flow × RunState) : Prop :=
  ∃ loops, Effect s st r.1 loops ∧ r.2.Follows s loops

variable {s : RunState}

/-- What a test comes to. -/
theorem test_cases {t : Test} (ht : t.Callable) (s : RunState) :
    (∃ e s', outcome (testHolds t) s = (.error e, s') ∧ (e.Ordinary ∧ e.position = none) ∧
        s'.Follows s s.active.loops) ∨
      ∃ holds s', outcome (testHolds t) s = (.ok holds, s') ∧ s'.Follows s s.active.loops := by
  have hfollows := RunState.Follows.of_steady (Steady.testHolds t) s
  have horderly := Orderly.testHolds ht s
  generalize outcome (testHolds t) s = r at hfollows horderly
  obtain ⟨r, s'⟩ := r
  cases horderly with
  | ok _ => exact .inr ⟨_, s', rfl, hfollows⟩
  | error he hplace => exact .inl ⟨_, s', rfl, ⟨he, hplace⟩, hfollows⟩

theorem entersLoop_eq_false {st : Statement} (h : st.isWhile = false) : entersLoop s st = false := by
  cases st <;> first | rfl | cases h

section Line

variable {l : Located} {p : Statement → Bool}

theorem at_iff (hline : s.active.current? = some (some l)) : s.active.At p ↔ p l.statement = true := by
  have hslot : s.active.program.statements[s.active.script.index]? = some (some l) := hline
  rw [Activation.At, Program.statesAt_eq_true hslot]

theorem not_at (hline : s.active.current? = some (some l)) (h : p l.statement = false) :
    ¬ s.active.At p := by
  rw [at_iff hline, h]
  exact Bool.false_ne_true

/-- A script goes on behind a statement that belongs to no block. -/
theorem move_of_isPlain (hline : s.active.current? = some (some l)) (hplain : l.statement.isPlain = true) :
    s.active.Move false (s.active.script.index + 1) s.active.loops := by
  refine .next (not_at hline ?_) (not_at hline ?_) <;>
    cases h : l.statement <;> first | rfl | (rw [h] at hplain; cases hplain)

/-- A statement that does not jump. -/
theorem effect_next (hline : s.active.current? = some (some l)) (hwhile : l.statement.isWhile = false)
    (hend : l.statement.isEndWhile = false) : Effect s l.statement (.ok .next) s.active.loops := by
  refine .moved rfl ?_ fun henters => ?_
  · rw [entersLoop_eq_false hwhile]
    exact .next (not_at hline hwhile) (not_at hline hend)
  · rw [entersLoop_eq_false hwhile] at henters
    cases henters

/-- A statement that moves on without entering a loop. -/
theorem effect_move {st : Statement} {j : Nat} {loops : LoopCounts} (henters : entersLoop s st = false)
    (hmove : s.active.Move false j loops) : Effect s st (.ok (.jump j)) loops := by
  refine .moved rfl (henters ▸ hmove) fun htrue => ?_
  rw [henters] at htrue
  cases htrue

theorem effect_plain (text : String) (hline : s.active.current? = some (some l))
    (hplain : l.statement.isPlain = true) (hst : l.statement.Callable) :
    HasEffect s l.statement (outcome (execute text l.statement) s) := by
  have hfollows := RunState.Follows.of_steady (Steady.execute text hplain) s
  have hwhile : l.statement.isWhile = false := by
    cases h : l.statement <;> first | rfl | (rw [h] at hplain; cases hplain)
  have hend : l.statement.isEndWhile = false := by
    cases h : l.statement <;> first | rfl | (rw [h] at hplain; cases hplain)
  have horderly : Orderly (execute text l.statement) := by
    match h : l.statement, hst with
    | .exit abort code, hst => exact (Orderly.codeOf hst 0).seq fun _ => .pure trivial
    | .stop code, hst => exact (Orderly.codeOf hst 1).seq fun _ => .pure trivial
    | .call name ps, hst => exact Orderly.callee hst.1 hst.2
    | .ifTest _, _ | .elseWord, _ | .endIf, _ | .whileTest _, _ | .endWhile, _ | .leave .., _
    | .script _, _ | .endScript, _ =>
      rw [h] at hplain
      cases hplain
    | .assign .., hst | .assignBuffer .., hst | .assignNumeric .., hst | .adapt .., hst
    | .assert _, hst | .copy .., hst | .delete _, hst | .insert .., hst | .load .., hst
    | .store .., hst | .log _, hst | .mark, hst | .move _, hst | .replace .., hst
    | .select _, hst => exact (Orderly.perform text hst).seq fun _ => .pure trivial
  have hresult := horderly s
  have hjump : ∀ j s', outcome (execute text l.statement) s ≠ (.ok (.jump j), s') :=
    fun j s' => not_jump_of_plain hplain
  refine ⟨s.active.loops, ?_, hfollows⟩
  generalize outcome (execute text l.statement) s = r at hresult hjump
  obtain ⟨r, s'⟩ := r
  cases hresult with
  | error he hplace => exact .failed he hplace (entersLoop_eq_false hwhile)
  | @ok flow _ =>
    cases flow with
    | next => exact effect_next hline hwhile hend
    | jump j => exact absurd rfl (hjump j s')
    | finish | abort | call => exact .ended hplain rfl

/-- An `if` goes on with its block, or jumps. -/
theorem effect_ifTest (text : String) {t : Test} (hp : s.active.program.Accepted) (ht : t.Callable)
    (hline : s.active.current? = some (some l)) (hst : l.statement = .ifTest t) :
    HasEffect s (.ifTest t) (outcome (execute text (.ifTest t)) s) := by
  have hexecute : outcome (execute text (.ifTest t)) s =
      outcome (testHolds t >>= fun holds =>
        if holds then pure Flow.next else jumpBy (·.ifTargets)) s := rfl
  have hif : l.statement.isIf = true := by rw [hst]; rfl
  have hwhile : l.statement.isWhile = false := by rw [hst]; rfl
  have hend : l.statement.isEndWhile = false := by rw [hst]; rfl
  rw [hexecute, outcome_bind]
  rcases test_cases ht s with ⟨e, s', ho, he, hfollows⟩ | ⟨holds, s', ho, hfollows⟩
  · rw [ho]
    exact ⟨_, .failed he.1 he.2 rfl, hfollows⟩
  · rw [ho]
    cases holds with
    | true => exact ⟨_, hst ▸ effect_next hline hwhile hend, hfollows⟩
    | false =>
      obtain ⟨j, hj⟩ := hp.exists_ifTarget ((at_iff hline).mpr hif)
      have hj' : (s'.active.script.index, j) ∈ s'.active.program.jumps.ifTargets := by
        rw [hfollows.index, hfollows.program]
        exact hj
      have hordered : s'.active.program.jumps.ifTargets.Ascending := by
        rw [hfollows.program]
        exact hp.ordered.1
      have hjump : outcome (jumpBy (·.ifTargets)) s' = (.ok (.jump j), s') :=
        outcome_jumpBy hordered hj'
      simp only [Bool.false_eq_true, if_false, hjump]
      exact ⟨_, effect_move rfl (.otherwise (not_at hline hwhile) hj), hfollows⟩

/-- An `else`, an `endwhile` and a `script` jump. -/
theorem effect_jump (text : String) (hp : s.active.program.Accepted)
    (hline : s.active.current? = some (some l)) (hjump : l.statement.isJump = true)
    (hst : execute text l.statement = jumpBy (·.blockTargets)) (hwhile : l.statement.isWhile = false)
    (hleave : l.statement.isLeave = false) :
    HasEffect s l.statement (outcome (execute text l.statement) s) := by
  obtain ⟨j, hj⟩ := hp.exists_blockTarget ((at_iff hline).mpr hjump)
  have hoc : outcome (jumpBy (·.blockTargets)) s = (.ok (.jump j), s) :=
    outcome_jumpBy hp.ordered.2 hj
  rw [hst, hoc]
  have hmove := Activation.Move.jump (not_at hline hwhile) (not_at hline hleave) hj
  exact ⟨_, effect_move (entersLoop_eq_false hwhile) hmove, rfl⟩

/-- A `while` is entered if its test holds and it has not been entered too often, and else passed. -/
theorem effect_whileTest (text : String) {t : Test} (hp : s.active.program.Accepted) (ht : t.Callable)
    (hline : s.active.current? = some (some l)) (hst : l.statement = .whileTest t) :
    HasEffect s (.whileTest t) (outcome (execute text (.whileTest t)) s) := by
  have hexecute : outcome (execute text (.whileTest t)) s =
      outcome (testHolds t >>= fun holds =>
        if holds then enterLoop >>= fun _ => pure Flow.next
        else do
          setLoops ((← loops).close (← index))
          jumpBy (·.blockTargets)) s := rfl
  have hwhile : s.active.At Statement.isWhile := (at_iff hline).mpr (by rw [hst]; rfl)
  have hjump : s.active.At Statement.isJump := (at_iff hline).mpr (by rw [hst]; rfl)
  rw [hexecute, outcome_bind]
  rcases test_cases ht s with ⟨e, s', ho, he, hfollows⟩ | ⟨holds, s', ho, hfollows⟩
  · have henters : entersLoop s (.whileTest t) = false := by rw [entersLoop, ho]
    rw [ho]
    exact ⟨_, .failed he.1 he.2 henters, hfollows⟩
  · have henters : entersLoop s (.whileTest t) = holds := by rw [entersLoop, ho]
    rw [ho]
    cases holds with
    | true =>
      have hmoved := hfollows.setLoops (s.active.loops.enter s.active.script.index)
      simp only [if_true]
      rw [outcome_bind, outcome_enterLoop, hfollows.loops_eq, hfollows.index, hfollows.config,
        LoopCounts.count_enter]
      have hmove := henters ▸ Activation.Move.entered hwhile
      cases hlimit : s.engine.config.loopLimit with
      | none =>
        refine ⟨_, .moved rfl hmove fun _ limit hl => ?_, hmoved⟩
        rw [hlimit] at hl
        cases hl
      | some limit =>
        dsimp only
        split_ifs with hexceeds
        · exact ⟨_, .exceeded henters hlimit (Nat.le_of_lt_succ hexceeds), hmoved⟩
        · refine ⟨_, .moved rfl hmove fun _ limit' hl => ?_, hmoved⟩
          rw [hlimit] at hl
          cases hl
          omega
    | false =>
      obtain ⟨j, hj⟩ := hp.exists_blockTarget hjump
      have hmoved := hfollows.setLoops (s.active.loops.close s.active.script.index)
      have hj' : (s'.active.script.index, j) ∈ s'.active.program.jumps.blockTargets := by
        rw [hfollows.index, hfollows.program]
        exact hj
      have hordered : s'.active.program.jumps.blockTargets.Ascending := by
        rw [hfollows.program]
        exact hp.ordered.2
      have hclose : outcome (do
            setLoops ((← loops).close (← index))
            jumpBy (·.blockTargets) : Run Flow) s' =
          (.ok (.jump j), s'.withLoops (s.active.loops.close s.active.script.index)) := by
        rw [← hfollows.loops_eq, ← hfollows.index]
        exact outcome_jumpBy
          (s := s'.withLoops (s'.active.loops.close s'.active.script.index)) hordered hj'
      simp only [Bool.false_eq_true, if_false, hclose]
      exact ⟨_, effect_move henters (.passed hwhile hj), hmoved⟩

/-- What a `leave` does whose condition is settled. -/
theorem outcome_leave (hp : s.active.program.Accepted) (hline : s.active.At Statement.isJump)
    {s' : RunState} (hfollows : s'.Follows s s.active.loops) :
    ∃ j, (s.active.script.index, j) ∈ s.active.program.jumps.blockTargets ∧
      outcome leaveLoops s' =
        (.ok (.jump j), s'.withLoops
          (s.active.loops.leave s.active.program.jumps.blockTargets s.active.script.index j)) := by
  obtain ⟨j, hj⟩ := hp.exists_blockTarget hline
  refine ⟨j, hj, ?_⟩
  have htarget : JumpTable.target s.active.program.jumps.blockTargets s.active.script.index = .ok j := by
    rw [JumpTable.target, hp.ordered.2.lookup_of_mem hj]
  rw [← hfollows.program, ← hfollows.index] at htarget ⊢
  rw [← hfollows.loops_eq]
  exact outcome_leaveLoops htarget

/-- A `leave` goes on behind what it leaves if it has no condition, or if its condition holds. -/
theorem effect_leave (text : String) {levels : Nat} {condition : Option Test}
    (hp : s.active.program.Accepted) (ht : ∀ t ∈ condition, t.Callable)
    (hline : s.active.current? = some (some l)) (hst : l.statement = .leave levels condition) :
    HasEffect s (.leave levels condition) (outcome (execute text (.leave levels condition)) s) := by
  have hleave : s.active.At Statement.isLeave := (at_iff hline).mpr (by rw [hst]; rfl)
  have hjump : s.active.At Statement.isJump := (at_iff hline).mpr (by rw [hst]; rfl)
  have hwhile : l.statement.isWhile = false := by rw [hst]; rfl
  have hend : l.statement.isEndWhile = false := by rw [hst]; rfl
  cases condition with
  | none =>
    have hself : s.Follows s s.active.loops := rfl
    obtain ⟨j, hj, ho⟩ := outcome_leave hp hjump hself
    have hexecute : outcome (execute text (.leave levels none)) s = _ := ho
    rw [hexecute]
    exact ⟨_, effect_move rfl (.left hleave hj), hself.setLoops _⟩
  | some t =>
    rw [execute_leave, Option.elim_some, outcome_bind]
    rcases test_cases (ht t rfl) s with ⟨e, s', ho, he, hfollows⟩ | ⟨holds, s', ho, hfollows⟩
    · rw [ho]
      exact ⟨_, .failed he.1 he.2 rfl, hfollows⟩
    · rw [ho]
      cases holds with
      | false => exact ⟨_, hst ▸ effect_next hline hwhile hend, hfollows⟩
      | true =>
        obtain ⟨j, hj, hleft⟩ := outcome_leave hp hjump hfollows
        simp only [Bool.not_true, Bool.false_eq_true, if_false, hleft]
        exact ⟨_, effect_move rfl (.left hleave hj), hfollows.setLoops _⟩

/-- What the statement at which a script is may come to. -/
theorem execute_effect (hp : s.active.program.Accepted) (hline : s.active.current? = some (some l)) :
    HasEffect s l.statement (outcome (execute l.text l.statement) s) := by
  have hcallable := hp.callable l (List.mem_of_getElem? hline)
  by_cases hplain : l.statement.isPlain = true
  · exact effect_plain l.text hline hplain hcallable
  · cases hst : l.statement with
    | ifTest t =>
      rw [hst] at hcallable
      exact effect_ifTest l.text hp hcallable hline hst
    | whileTest t =>
      rw [hst] at hcallable
      exact effect_whileTest l.text hp hcallable hline hst
    | leave levels condition =>
      rw [hst] at hcallable
      exact effect_leave l.text hp hcallable hline hst
    | elseWord | endWhile | script =>
      rw [← hst]
      refine effect_jump l.text hp hline ?_ ?_ ?_ ?_ <;> (rw [hst]; rfl)
    | endIf | endScript =>
      have hnext := effect_next hline (by rw [hst]; rfl) (by rw [hst]; rfl)
      rw [hst] at hnext
      exact ⟨s.active.loops, hnext, rfl⟩
    | _ =>
      rw [hst] at hplain
      exact absurd rfl hplain

end Line

end Run

end LineScript
