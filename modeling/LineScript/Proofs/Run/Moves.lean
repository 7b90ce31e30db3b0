import LineScript.Proofs.Lookup
import LineScript.Proofs.Script.Accepted
import LineScript.Run.Statement

/-! How a script moves on from line to line, and what becomes of the counts of its loops. -/
namespace LineScript

namespace LoopCounts

theorem lookup_close (l : LoopCounts) (i k : Nat) :
    (l.close i).lookup k = if k = i then none else l.lookup k := by
  have hfilter := lookup_filter (· != i) l k
  by_cases hk : k = i <;> simpa [close, hk] using hfilter

theorem lookup_enter (l : LoopCounts) (i k : Nat) :
    (l.enter i).lookup k = if k = i then some (l.count i + 1) else l.lookup k := by
  by_cases hk : k = i
  · simp [enter, hk]
  · rw [enter, lookup_cons_ne hk, lookup_close, if_neg hk, if_neg hk]

theorem lookup_leave (l : LoopCounts) (table : Targets) (i t k : Nat) :
    (l.leave table i t).lookup k =
      if k < i ∧ (table.lookup k).any (· ≤ t) = true then none else l.lookup k := by
  have hfilter := lookup_filter (fun start => !(start < i && (table.lookup start).any (· ≤ t))) l k
  refine hfilter.trans ?_
  by_cases hk : k < i
  · cases (table.lookup k).any (· ≤ t) <;> simp [hk]
  · simp [hk]

theorem count_enter (l : LoopCounts) (i : Nat) : (l.enter i).count i = l.count i + 1 := by
  rw [count, lookup_enter, if_pos rfl, Option.getD_some]

end LoopCounts

namespace Activation

/-- Whether the line at which a script is holds a statement of a kind. -/
def At (a : Activation) (p : Statement → Bool) : Prop :=
  statesAt p a.program.statements a.script.index = true

/-- How a script moves on from the line that it is at: whether it enters the loop that is there, to which
line it goes, and the counts of loops behind that. -/
inductive Move (a : Activation) : Bool → Nat → LoopCounts → Prop
  | next : ¬ a.At Statement.isWhile → ¬ a.At Statement.isEndWhile →
      Move a false (a.script.index + 1) a.loops
  | otherwise {j : Nat} : ¬ a.At Statement.isWhile →
      (a.script.index, j) ∈ a.program.jumps.ifTargets → Move a false j a.loops
  | jump {j : Nat} : ¬ a.At Statement.isWhile → ¬ a.At Statement.isLeave →
      (a.script.index, j) ∈ a.program.jumps.blockTargets → Move a false j a.loops
  | entered : a.At Statement.isWhile →
      Move a true (a.script.index + 1) (a.loops.enter a.script.index)
  | passed {j : Nat} : a.At Statement.isWhile →
      (a.script.index, j) ∈ a.program.jumps.blockTargets →
      Move a false j (a.loops.close a.script.index)
  | left {j : Nat} : a.At Statement.isLeave →
      (a.script.index, j) ∈ a.program.jumps.blockTargets →
      Move a false j (a.loops.leave a.program.jumps.blockTargets a.script.index j)

/-- The counts of a script are those of the loops around the line at which it is, and of these each has
one that does not start there. -/
structure Nested (a : Activation) : Prop where
  around : ∀ {w n : Nat}, a.loops.lookup w = some n →
    0 < n ∧ ∃ c, a.program.LoopAt w c ∧ w ≤ a.script.index ∧ a.script.index ≤ c
  counted : ∀ {w c : Nat}, a.program.LoopAt w c → w < a.script.index → a.script.index ≤ c →
    (a.loops.lookup w).isSome

variable {a : Activation} {w c j : Nat} {enters : Bool} {loops : LoopCounts}

/-- A line does not hold statements of two kinds that exclude each other. -/
theorem At.not {p q : Statement → Bool} (h : a.At p) (hpq : ∀ s, p s = true → q s = false) :
    ¬ a.At q := by
  unfold At statesAt at *
  cases hslot : a.program.statements[a.script.index]?.join with
  | none => simp [hslot] at h
  | some l =>
    rw [hslot, Option.any_some] at h
    simp [hpq l.statement h]

theorem isEndWhile_of_isWhile (s : Statement) (h : s.isWhile = true) : s.isEndWhile = false := by
  cases s <;> first | rfl | cases h

theorem isLeave_of_isWhile (s : Statement) (h : s.isWhile = true) : s.isLeave = false := by
  cases s <;> first | rfl | cases h

/-- In front of the end of a loop there is another line of it. -/
theorem lt_of_not_endWhile (hp : a.program.Accepted) (hloop : a.program.LoopAt w c)
    (hle : a.script.index ≤ c) (hnot : ¬ a.At Statement.isEndWhile) : a.script.index < c := by
  refine Nat.lt_of_le_of_ne hle fun heq => hnot ?_
  rw [At, heq]
  exact hp.endWhile_of_loopAt hloop

/-- A line outside of a loop has no count of it. -/
theorem Nested.lookup_outside (hp : a.program.Accepted) (hnested : a.Nested)
    (hloop : a.program.LoopAt w c) (hout : a.script.index < w ∨ c < a.script.index) :
    a.loops.lookup w = none := by
  cases hlookup : a.loops.lookup w with
  | none => rfl
  | some n =>
    obtain ⟨-, c', hloop', hw, hc⟩ := hnested.around hlookup
    rw [hp.loopAt_unique hloop' hloop] at hc
    omega

namespace Move

/-- A script gets into a loop by its start only. -/
theorem outside (hp : a.program.Accepted) (h : a.Move enters j loops)
    (hloop : a.program.LoopAt w c) (hout : a.script.index < w ∨ c < a.script.index) :
    j ≤ w ∨ c < j := by
  cases h with
  | next | entered => omega
  | otherwise _ hjump => exact (hp.ifTarget_respects hloop hjump).2.1 hout
  | jump _ _ hjump | passed _ hjump | left _ hjump =>
    exact (hp.blockTarget_respects hloop hjump).1 hout

/-- No count comes up but that of the loop that is entered. -/
theorem lookup_none (h : a.Move enters j loops) (hw : ¬ (enters = true ∧ a.script.index = w))
    (hnone : a.loops.lookup w = none) : loops.lookup w = none := by
  cases h with
  | next | otherwise | jump => exact hnone
  | entered =>
    have hne : ¬ w = a.script.index := fun heq => hw ⟨rfl, heq.symm⟩
    rw [LoopCounts.lookup_enter, if_neg hne, hnone]
  | passed => rw [LoopCounts.lookup_close, hnone, ite_self]
  | left => rw [LoopCounts.lookup_leave, hnone, ite_self]

/-- At its start a loop is entered, or passed for good. -/
theorem start (hp : a.program.Accepted) (h : a.Move enters j loops)
    (hloop : a.program.LoopAt a.script.index c) :
    (enters = true ∧ j = a.script.index + 1 ∧
        loops.lookup a.script.index = some (a.loops.count a.script.index + 1)) ∨
      (enters = false ∧ j = c + 1 ∧ loops.lookup a.script.index = none) := by
  cases h with
  | next hnot | otherwise hnot | jump hnot => exact absurd hloop.1 hnot
  | entered => exact .inl ⟨rfl, rfl, by rw [LoopCounts.lookup_enter, if_pos rfl]⟩
  | passed _ hjump =>
    exact .inr ⟨rfl, hp.target_unique hjump hloop.2, by rw [LoopCounts.lookup_close, if_pos rfl]⟩
  | left hleave => exact absurd hleave (At.not hloop.1 isLeave_of_isWhile)

/-- Within a loop its count stays, unless the loop is left. -/
theorem lookup_inside (hp : a.program.Accepted) (h : a.Move enters j loops)
    (hloop : a.program.LoopAt w c) (hw : w < a.script.index) (hc : a.script.index ≤ c) :
    loops.lookup w = if w ≤ j ∧ j ≤ c then a.loops.lookup w else none := by
  cases h with
  | next _ hnot =>
    have hlt := lt_of_not_endWhile hp hloop hc hnot
    rw [if_pos ⟨by omega, hlt⟩]
  | otherwise _ hjump =>
    have hin := (hp.ifTarget_respects hloop hjump).2.2 hw hc
    rw [if_pos hin]
  | jump _ hnot hjump =>
    rcases (hp.blockTarget_respects hloop hjump).2 hw hc with hin | ⟨-, hleave⟩
    · rw [if_pos hin]
    · exact absurd hleave hnot
  | entered hwhile =>
    have hlt := lt_of_not_endWhile hp hloop hc (At.not hwhile isEndWhile_of_isWhile)
    rw [LoopCounts.lookup_enter, if_neg hw.ne, if_pos ⟨by omega, hlt⟩]
  | passed hwhile hjump =>
    rcases (hp.blockTarget_respects hloop hjump).2 hw hc with hin | ⟨-, hleave⟩
    · rw [LoopCounts.lookup_close, if_neg hw.ne, if_pos hin]
    · exact absurd hleave (At.not hwhile isLeave_of_isWhile)
  | left _ hjump =>
    have hexit : a.program.jumps.blockTargets.lookup w = some (c + 1) :=
      hp.ordered.2.lookup_of_mem hloop.2
    rw [LoopCounts.lookup_leave]
    simp only [hexit, Option.any_some, decide_eq_true_iff]
    rcases (hp.blockTarget_respects hloop hjump).2 hw hc with hin | ⟨hout, -⟩
    · rw [if_neg (by omega), if_pos hin]
    · rw [if_pos ⟨hw, hout⟩, if_neg (by omega)]

/-- What becomes of the count of a loop: it is dropped if the script moves out of the loop, it grows by one
if the script enters the loop, and else it stays. -/
theorem lookup (hp : a.program.Accepted) (hnested : a.Nested) (h : a.Move enters j loops)
    (hloop : a.program.LoopAt w c) :
    loops.lookup w =
      if w ≤ j ∧ j ≤ c then
        if enters = true ∧ a.script.index = w then some (a.loops.count w + 1) else a.loops.lookup w
      else none := by
  by_cases hstart : a.script.index = w
  · subst hstart
    have hlt := (hp.loopAt_lt hloop).1
    rcases h.start hp hloop with ⟨rfl, rfl, hlookup⟩ | ⟨rfl, rfl, hlookup⟩
    · rw [hlookup, if_pos ⟨Nat.le_succ _, hlt⟩, if_pos ⟨rfl, rfl⟩]
    · rw [hlookup, if_neg (by omega)]
  · simp only [hstart, and_false, if_false]
    by_cases hin : w < a.script.index ∧ a.script.index ≤ c
    · exact h.lookup_inside hp hloop hin.1 hin.2
    · have hnone := hnested.lookup_outside hp hloop (by omega)
      rw [h.lookup_none (fun henters => hstart henters.2) hnone, hnone, ite_self]

/-- All counts are those of loops. -/
theorem exists_loopAt (hp : a.program.Accepted) (hnested : a.Nested) (h : a.Move enters j loops) {n : Nat}
    (hsome : loops.lookup w = some n) : ∃ c, a.program.LoopAt w c := by
  by_cases henters : enters = true ∧ a.script.index = w
  · obtain ⟨rfl, rfl⟩ := henters
    cases h with
    | entered hwhile => exact hp.exists_loopAt_of_while hwhile
  · cases hlookup : a.loops.lookup w with
    | none =>
      rw [h.lookup_none henters hlookup] at hsome
      cases hsome
    | some n =>
      obtain ⟨-, c, hloop, -⟩ := hnested.around hlookup
      exact ⟨c, hloop⟩

end Move

/-- The counts stay those of the loops around the line. -/
theorem Nested.move (hp : a.program.Accepted) (hnested : a.Nested) (h : a.Move enters j loops)
    {a' : Activation} (hprogram : a'.program = a.program) (hindex : a'.script.index = j)
    (hloops : a'.loops = loops) : a'.Nested := by
  constructor
  · intro w n hlookup
    rw [hloops] at hlookup
    rw [hprogram, hindex]
    obtain ⟨c, hloop⟩ := h.exists_loopAt hp hnested hlookup
    rw [h.lookup hp hnested hloop] at hlookup
    split_ifs at hlookup with hin henters
    · cases hlookup
      exact ⟨Nat.succ_pos _, c, hloop, hin⟩
    · exact ⟨(hnested.around hlookup).1, c, hloop, hin⟩
  · intro w c hloop hw hc
    rw [hprogram] at hloop
    rw [hindex] at hw hc
    rw [hloops, h.lookup hp hnested hloop, if_pos ⟨hw.le, hc⟩]
    split_ifs with henters
    · rfl
    by_cases hin : w < a.script.index ∧ a.script.index ≤ c
    · exact hnested.counted hloop hin.1 hin.2
    by_cases hstart : a.script.index = w
    · subst hstart
      rcases h.start hp hloop with ⟨henters', -⟩ | ⟨-, hj, -⟩
      · exact absurd ⟨henters', rfl⟩ henters
      · omega
    · have hout := h.outside hp hloop (by omega)
      omega

/-- Nothing else of a script matters. -/
theorem Nested.same (h : a.Nested) {a' : Activation} (hprogram : a'.program = a.program)
    (hindex : a'.script.index = a.script.index) (hloops : a'.loops = a.loops) : a'.Nested := by
  constructor
  · intro w n hlookup
    rw [hloops] at hlookup
    rw [hprogram, hindex]
    exact h.around hlookup
  · intro w c
    rw [hprogram, hindex, hloops]
    exact h.counted

/-- A script that starts has no counts. -/
theorem nested_of_start (hindex : a.script.index = 0) (hloops : a.loops = []) : a.Nested := by
  constructor
  · intro w n hlookup
    rw [hloops] at hlookup
    cases hlookup
  · intro w c _ hw _
    omega

/-- Scripts move down, or from the end of a loop back to its start. -/
theorem Move.forward_or_back (hp : a.program.Accepted) (h : a.Move enters j loops) :
    a.script.index < j ∨ a.program.LoopAt j a.script.index := by
  cases h with
  | next | entered => exact .inl (Nat.lt_succ_self _)
  | otherwise _ hjump => exact .inl (hp.ifTarget_forward hjump)
  | jump _ _ hjump | passed _ hjump | left _ hjump => exact hp.forward_or_loopAt hjump

end Activation

end LineScript
