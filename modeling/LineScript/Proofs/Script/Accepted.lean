import LineScript.Proofs.Script.Loops
import LineScript.Proofs.Script.Statements

/-! What is known of the program of an accepted script: its jumps are there, and its loops are nested. -/
namespace LineScript.Program

open Targets

/-- Whether a program is that of an accepted script. -/
def Accepted (p : Program) : Prop :=
  ∃ name lines offset, check name lines offset = .ok p

/-- Whether there is a loop from one line to another: a `while`, from which one gets behind the other line. -/
def LoopAt (p : Program) (w c : Nat) : Prop :=
  statesAt Statement.isWhile p.statements w = true ∧ (w, c + 1) ∈ p.jumps.blockTargets

theorem mem_indicesOf_zero {p : Statement → Bool} {slots : List (Option Located)} {k : Nat} :
    k ∈ indicesOf p 0 slots ↔ statesAt p slots k = true := by
  rw [mem_indicesOf, statesAt, Nat.sub_zero]
  cases slots[k]? with
  | none => simp
  | some slot => cases slot <;> simp

theorem statesAt_eq_true {p : Statement → Bool} {slots : List (Option Located)} {k : Nat}
    {l : Located} (h : slots[k]? = some (some l)) : statesAt p slots k = p l.statement := by
  rw [statesAt, h]
  rfl

/-- The statements and the jumps are those of a tree. -/
structure Spells (t : BlockTree) (p : Program) : Prop where
  lines : t.lines = p.statements
  nested : t.Nested ([] : List Nat).length
  jumps : p.jumps = t.jumps

namespace Spells

variable {p : Program} {t : BlockTree} {k w c j : Nat}

theorem ordered (h : Spells t p) : p.jumps.ifTargets.Ascending ∧ p.jumps.blockTargets.Ascending := by
  rw [h.jumps]
  exact ⟨BlockTree.ascending_ifTargets h.nested 0, BlockTree.ascending_blockTargets h.nested 0⟩

theorem mem_ifTargets (h : Spells t p) : (k, j) ∈ p.jumps.ifTargets ↔ (k, j) ∈ t.ifTargets 0 := by
  rw [h.jumps]
  rfl

theorem mem_blockTargets (h : Spells t p) :
    (k, j) ∈ p.jumps.blockTargets ↔ (k, j) ∈ t.blockTargets [] 0 := by
  rw [h.jumps]
  rfl

/-- The loops of the program are those of the tree. -/
theorem loopAt_iff (h : Spells t p) : p.LoopAt w c ↔ (w, c) ∈ t.loops 0 := by
  constructor
  · rintro ⟨hwhile, hexit⟩
    rw [← mem_indicesOf_zero, ← h.lines, ← BlockTree.keys_loops h.nested] at hwhile
    obtain ⟨⟨w', c'⟩, hloop, rfl⟩ := List.mem_map.mp hwhile
    have hexit' := h.mem_blockTargets.mpr (BlockTree.mem_blockTargets_of_mem_loops (x := []) hloop).1
    have hfirst := h.ordered.2.lookup_of_mem hexit
    have hsecond := h.ordered.2.lookup_of_mem hexit'
    rw [hfirst] at hsecond
    have hc : c = c' := Nat.succ.inj (Option.some.inj hsecond)
    exact hc ▸ hloop
  · intro hloop
    refine ⟨?_, h.mem_blockTargets.mpr (BlockTree.mem_blockTargets_of_mem_loops hloop).1⟩
    rw [← mem_indicesOf_zero, ← h.lines, ← BlockTree.keys_loops h.nested]
    exact List.mem_map.mpr ⟨(w, c), hloop, rfl⟩

end Spells

namespace Accepted

variable {p : Program} {k j w c c' : Nat}

theorem spells (h : p.Accepted) : ∃ t, Spells t p := by
  obtain ⟨name, lines, offset, hcheck⟩ := h
  obtain ⟨-, t, ht, hnested, hjumps⟩ := exists_nested_of_check hcheck
  exact ⟨t, ht, hnested, hjumps⟩

theorem callable (h : p.Accepted) : p.Callable := by
  obtain ⟨name, lines, offset, hcheck⟩ := h
  exact callable_of_check hcheck

theorem ordered (h : p.Accepted) : p.jumps.ifTargets.Ascending ∧ p.jumps.blockTargets.Ascending := by
  obtain ⟨t, ht⟩ := h.spells
  exact ht.ordered

theorem exists_ifTarget (h : p.Accepted) (hk : statesAt Statement.isIf p.statements k = true) :
    ∃ j, (k, j) ∈ p.jumps.ifTargets := by
  obtain ⟨t, ht⟩ := h.spells
  rw [← mem_indicesOf_zero, ← ht.lines, ← BlockTree.keys_ifTargets ht.nested] at hk
  obtain ⟨x, hx, rfl⟩ := List.mem_map.mp hk
  exact ⟨x.2, ht.mem_ifTargets.mpr hx⟩

theorem exists_blockTarget (h : p.Accepted) (hk : statesAt Statement.isJump p.statements k = true) :
    ∃ j, (k, j) ∈ p.jumps.blockTargets := by
  obtain ⟨t, ht⟩ := h.spells
  rw [← mem_indicesOf_zero, ← ht.lines, ← BlockTree.keys_blockTargets ht.nested] at hk
  obtain ⟨x, hx, rfl⟩ := List.mem_map.mp hk
  exact ⟨x.2, ht.mem_blockTargets.mpr hx⟩

theorem exists_loopAt_of_while (h : p.Accepted)
    (hk : statesAt Statement.isWhile p.statements k = true) : ∃ c, p.LoopAt k c := by
  obtain ⟨t, ht⟩ := h.spells
  rw [← mem_indicesOf_zero, ← ht.lines, ← BlockTree.keys_loops ht.nested] at hk
  obtain ⟨x, hx, rfl⟩ := List.mem_map.mp hk
  exact ⟨x.2, ht.loopAt_iff.mpr hx⟩

theorem endWhile_of_loopAt (h : p.Accepted) (hloop : p.LoopAt w c) :
    statesAt Statement.isEndWhile p.statements c = true := by
  obtain ⟨t, ht⟩ := h.spells
  rw [← mem_indicesOf_zero, ← ht.lines, BlockTree.mem_indicesOf_isEndWhile ht.nested]
  exact ⟨w, ht.loopAt_iff.mp hloop⟩

theorem loopAt_lt (h : p.Accepted) (hloop : p.LoopAt w c) : w < c ∧ c < p.statements.length := by
  obtain ⟨t, ht⟩ := h.spells
  have hrange := BlockTree.loops_range (ht.loopAt_iff.mp hloop)
  rw [BlockTree.size, ht.lines] at hrange
  omega

theorem loopAt_unique (h : p.Accepted) (hloop : p.LoopAt w c) (hloop' : p.LoopAt w c') : c = c' := by
  have hfirst := h.ordered.2.lookup_of_mem hloop.2
  have hsecond := h.ordered.2.lookup_of_mem hloop'.2
  rw [hfirst] at hsecond
  exact Nat.succ.inj (Option.some.inj hsecond)

theorem target_unique (h : p.Accepted) {j' : Nat} (hj : (k, j) ∈ p.jumps.blockTargets)
    (hj' : (k, j') ∈ p.jumps.blockTargets) : j = j' := by
  have hfirst := h.ordered.2.lookup_of_mem hj
  have hsecond := h.ordered.2.lookup_of_mem hj'
  rw [hfirst] at hsecond
  exact Option.some.inj hsecond

/-- Where a jump leads if it starts outside of a loop, and if it starts inside. -/
theorem blockTarget_respects (h : p.Accepted) (hloop : p.LoopAt w c)
    (hjump : (k, j) ∈ p.jumps.blockTargets) :
    (k < w ∨ c < k → j ≤ w ∨ c < j) ∧
      (w < k → k ≤ c → (w ≤ j ∧ j ≤ c) ∨
        (c < j ∧ statesAt Statement.isLeave p.statements k = true)) := by
  obtain ⟨t, ht⟩ := h.spells
  have hrespects := BlockTree.respects_blockTargets ht.nested (by simp) (ht.loopAt_iff.mp hloop)
    (ht.mem_blockTargets.mp hjump)
  refine ⟨hrespects.outside, fun hw hc => (hrespects.inside hw hc).imp_right fun hleave => ?_⟩
  rw [BlockTree.leaves, ht.lines, mem_indicesOf_zero] at hleave
  exact hleave

theorem ifTarget_respects (h : p.Accepted) (hloop : p.LoopAt w c)
    (hjump : (k, j) ∈ p.jumps.ifTargets) :
    k < j ∧ (k < w ∨ c < k → j ≤ w ∨ c < j) ∧ (w < k → k ≤ c → w ≤ j ∧ j ≤ c) := by
  obtain ⟨t, ht⟩ := h.spells
  have hjump := ht.mem_ifTargets.mp hjump
  have hrespects := BlockTree.respects_ifTargets (ht.loopAt_iff.mp hloop) hjump
  refine ⟨BlockTree.lt_of_mem_ifTargets hjump, hrespects.outside, fun hw hc => ?_⟩
  rcases hrespects.inside hw hc with hin | ⟨-, hleave⟩
  · exact hin
  · exact absurd hleave List.not_mem_nil

theorem ifTarget_forward (h : p.Accepted) (hjump : (k, j) ∈ p.jumps.ifTargets) : k < j := by
  obtain ⟨t, ht⟩ := h.spells
  exact BlockTree.lt_of_mem_ifTargets (ht.mem_ifTargets.mp hjump)

/-- A jump leads down, unless it is that from the end of a loop to its start. -/
theorem forward_or_loopAt (h : p.Accepted) (hjump : (k, j) ∈ p.jumps.blockTargets) :
    k < j ∨ p.LoopAt j k := by
  obtain ⟨t, ht⟩ := h.spells
  have hjump := ht.mem_blockTargets.mp hjump
  exact (BlockTree.forward_or_mem_loops ht.nested (by simp) hjump).imp_right ht.loopAt_iff.mpr

end Accepted

end LineScript.Program
