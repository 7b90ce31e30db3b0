import LineScript.Proofs.Outcome
import LineScript.Run.Statement

/-! What the parts of statements come to that work on the engine, jump, enter loops and leave them. -/
namespace LineScript

/-- The state with other counts of loops. -/
def RunState.withLoops (s : RunState) (loops : LoopCounts) : RunState :=
  { s with active := { s.active with loops } }

namespace Run

theorem outcome_onEngine {α : Type} (a : Engine.Action α) (s : RunState) :
    outcome (onEngine a) s = ((outcome a s.engine).1, { s with engine := (outcome a s.engine).2 }) := by
  have hrun : a.run.run s.engine = outcome a s.engine := rfl
  unfold onEngine
  rw [outcome_bind, outcome_modifyGetThe, hrun]
  cases outcome a s.engine with
  | mk r e => cases r <;> rfl

theorem outcome_jumps (s : RunState) : outcome jumps s = (.ok s.active.program.jumps, s) :=
  rfl

theorem outcome_index (s : RunState) : outcome index s = (.ok s.active.script.index, s) :=
  rfl

theorem outcome_engine (s : RunState) : outcome engine s = (.ok s.engine, s) :=
  rfl

theorem outcome_loops (s : RunState) : outcome loops s = (.ok s.active.loops, s) :=
  rfl

theorem outcome_setLoops (loops : LoopCounts) (s : RunState) :
    outcome (setLoops loops) s = (.ok (), s.withLoops loops) :=
  rfl

theorem outcome_jumpBy_eq (table : JumpTable → Targets) (s : RunState) :
    outcome (jumpBy table) s =
      (((JumpTable.target (table s.active.program.jumps) s.active.script.index).mapError .ofFault).map .jump,
        s) := by
  unfold jumpBy
  rw [outcome_bind, outcome_jumps]
  dsimp only
  rw [outcome_bind, outcome_index]
  dsimp only
  cases JumpTable.target (table s.active.program.jumps) s.active.script.index <;> rfl

theorem outcome_enterLoop (s : RunState) :
    outcome enterLoop s =
      (match s.engine.config.loopLimit with
        | some limit =>
          if limit < (s.active.loops.enter s.active.script.index).count s.active.script.index then
            .error (.ofFailure (.loopLimit limit))
          else .ok ()
        | none => .ok (), s.withLoops (s.active.loops.enter s.active.script.index)) := by
  unfold enterLoop
  rw [outcome_bind, outcome_index]
  dsimp only
  rw [outcome_bind, outcome_loops]
  dsimp only
  rw [outcome_bind, outcome_setLoops]
  dsimp only
  rw [outcome_bind, outcome_engine]
  dsimp only [RunState.withLoops]
  cases s.engine.config.loopLimit with
  | none => rfl
  | some limit =>
    dsimp only
    split <;> rfl

/-- Goes on behind the loops that are left. -/
def leaveLoops : Run Flow := do
  let table := (← jumps).blockTargets
  let i ← index
  match JumpTable.target table i with
  | .error f => throw (.ofFault f)
  | .ok t =>
    setLoops ((← loops).leave table i t)
    return .jump t

theorem execute_leave (text : String) (levels : Nat) (condition : Option Test) :
    execute text (.leave levels condition) =
      condition.elim (pure true) testHolds >>= fun leaves =>
        if !leaves then pure .next else leaveLoops := by
  cases condition <;> rfl

theorem outcome_leaveLoops {s : RunState} {j : Nat}
    (h : JumpTable.target s.active.program.jumps.blockTargets s.active.script.index = .ok j) :
    outcome leaveLoops s = (.ok (.jump j),
      s.withLoops (s.active.loops.leave s.active.program.jumps.blockTargets s.active.script.index j)) := by
  unfold leaveLoops
  rw [outcome_bind, outcome_jumps]
  dsimp only
  rw [outcome_bind, outcome_index]
  dsimp only
  rw [h]
  rfl

/-- The ends of a part of the selected buffer that is so many lines long, if its length is given. -/
def endsOf (r : Range) (count : Nat) : Run (Buffer.Position × Buffer.Position) := do
  let (_, b) ← selected
  let line := b.cursor.line
  match r with
  | .all => return ({}, ⟨b.lines.length, 0⟩)
  | .line | .lines _ => return (⟨line, 0⟩, ⟨line + count, 0⟩)
  | .mark => return b.mark.ordered b.cursor
  | .hit =>
    if b.lastSearch.found then return (b.lastSearch.position, b.lastSearch.stop)
    else throw (.ofFailure .noHit)

end Run

end LineScript
