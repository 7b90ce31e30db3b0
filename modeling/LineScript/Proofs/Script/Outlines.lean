import LineScript.Proofs.Script.BlockTree

/-! How the outline of a script grows along the lines of a tree: every jump of the tree is recorded once,
and those that leave the tree wait at the blocks around it. -/
namespace LineScript

open Targets

/-- Whether a `leave` with this statement's levels is allowed inside of some blocks. -/
def Statement.levelsFit (depth : Nat) : Statement → Bool
  | .leave levels _ => 1 ≤ levels && levels ≤ depth
  | _ => true

/-- What a block is apart from the statements that leave it. -/
def Block.shape (b : Block) : Block :=
  { b with leaving := [] }

/-- Whether both tables are in ascending order. -/
def JumpTable.Ordered (t : JumpTable) : Prop :=
  t.ifTargets.Ascending ∧ t.blockTargets.Ascending

namespace Outline

/-- The outline behind a statement, if it may stand there. In an embedded script only its end may. -/
def take? (name : String) (o : Outline) (index : Nat) (l : Located) : Option Outline :=
  match o.embedded, l.statement with
  | some (opener, _), .endScript => some ({ o with embedded := none }.jump opener (index + 1))
  | some _, _ => none
  | none, s =>
    if s.levelsFit o.blocks.length then
      match o.advance index ⟨name, l.line, l.column⟩ s with
      | .ok o => some o
      | .error _ => none
    else none

/-- The outline behind some lines, if their statements may stand there. -/
def follow? (name : String) : Outline → Nat → List (Option Located) → Option Outline
  | o, _, [] => some o
  | o, i, none :: slots => follow? name o (i + 1) slots
  | o, i, some l :: slots =>
    match take? name o i l with
    | some o => follow? name o (i + 1) slots
    | none => none

/-- The jumps that wait at some blocks, as soon as the exits of the blocks are known. -/
def waiting : List Block → List Nat → Targets
  | b :: bs, exit :: exits => b.leaving.map (·, exit) ++ waiting bs exits
  | _, _ => []

/-- The jumps recorded, and those that will be once the open blocks are left through some exits. -/
def promised (o : Outline) (exits : List Nat) : Targets :=
  waiting o.blocks exits ++ o.jumps.blockTargets

/-- The statements with a jump in this outline, apart from `if` statements. -/
def jumping (o : Outline) : List Nat :=
  o.blocks.flatMap (·.leaving) ++ keys o.jumps.blockTargets

/-- No line from an index on jumps yet, and none jumps twice. -/
structure Fresh (o : Outline) (i : Nat) : Prop where
  ifs : ∀ k ∈ keys o.jumps.ifTargets, k < i
  others : ∀ k ∈ o.jumping, k < i
  nodup : o.jumping.Nodup

/-- An outline outside of embedded scripts has grown by some jumps, with the same blocks open. -/
structure Grown (o o' : Outline) (ifs : Targets) (others : List Nat → Targets) : Prop where
  embedded : o'.embedded = none
  shape : o'.blocks.map Block.shape = o.blocks.map Block.shape
  ifs : o'.jumps.ifTargets.Perm (ifs ++ o.jumps.ifTargets)
  others : ∀ exits, exits.length = o.blocks.length →
    (o'.promised exits).Perm (others exits ++ o.promised exits)
  ordered : o.jumps.Ordered → o'.jumps.Ordered

theorem keys_waiting {bs : List Block} {exits : List Nat} (h : exits.length = bs.length) :
    keys (waiting bs exits) = bs.flatMap (·.leaving) := by
  induction bs generalizing exits with
  | nil => cases exits <;> rfl
  | cons b bs ih =>
    cases exits with
    | nil => simp at h
    | cons exit exits =>
      have hb : keys (b.leaving.map (·, exit)) = b.leaving := by
        simp [keys, Function.comp_def]
      rw [waiting, keys_append, hb, ih (by simpa using h), List.flatMap_cons]

theorem keys_promised {o : Outline} {exits : List Nat} (h : exits.length = o.blocks.length) :
    keys (o.promised exits) = o.jumping := by
  rw [promised, keys_append, keys_waiting h, jumping]

theorem Fresh.mono {o : Outline} {i j : Nat} (h : o.Fresh i) (hij : i ≤ j) : o.Fresh j :=
  ⟨fun k hk => (h.ifs k hk).trans_le hij, fun k hk => (h.others k hk).trans_le hij, h.nodup⟩

namespace Grown

variable {o o' o'' : Outline} {ifs ifs' : Targets} {others others' : List Nat → Targets}

theorem refl (h : o.embedded = none) : Grown o o [] fun _ => [] :=
  ⟨h, rfl, List.Perm.refl _, fun _ _ => List.Perm.refl _, id⟩

theorem length (h : Grown o o' ifs others) : o'.blocks.length = o.blocks.length := by
  simpa using congrArg List.length h.shape

theorem trans (h : Grown o o' ifs others) (h' : Grown o' o'' ifs' others') :
    Grown o o'' (ifs ++ ifs') fun exits => others exits ++ others' exits := by
  refine ⟨h'.embedded, h'.shape.trans h.shape, ?_, fun exits hexits => ?_, h'.ordered ∘ h.ordered⟩
  · refine h'.ifs.trans ((h.ifs.append_left ifs').trans ?_)
    rw [← List.append_assoc]
    exact List.perm_append_comm.append_right _
  · have hexits' : exits.length = o'.blocks.length := hexits.trans h.length.symm
    refine (h'.others exits hexits').trans (((h.others exits hexits).append_left _).trans ?_)
    rw [← List.append_assoc]
    exact List.perm_append_comm.append_right _

/-- Jumps of the lines between two indices, each of another line, leave the lines behind fresh. -/
theorem fresh {i j : Nat} (h : Grown o o' ifs others) (ho : o.Fresh i) (hij : i ≤ j)
    (hifs : ∀ k ∈ keys ifs, k < j)
    (hothers : ∀ exits, exits.length = o.blocks.length →
      (keys (others exits)).Nodup ∧ ∀ k ∈ keys (others exits), i ≤ k ∧ k < j) :
    o'.Fresh j := by
  have hlen : (List.replicate o.blocks.length 0).length = o.blocks.length := List.length_replicate
  obtain ⟨hnodup, hrange⟩ := hothers _ hlen
  have hperm : o'.jumping.Perm (keys (others (List.replicate o.blocks.length 0)) ++ o.jumping) := by
    have hp := keys_perm (h.others _ hlen)
    rwa [keys_append, keys_promised hlen, keys_promised (hlen.trans h.length.symm)] at hp
  refine ⟨fun k hk => ?_, fun k hk => ?_, hperm.nodup_iff.mpr ?_⟩
  · have hp := keys_perm h.ifs
    rw [keys_append] at hp
    rcases List.mem_append.mp (hp.mem_iff.mp hk) with hk | hk
    · exact hifs k hk
    · exact (ho.ifs k hk).trans_le hij
  · rcases List.mem_append.mp (hperm.mem_iff.mp hk) with hk | hk
    · exact (hrange k hk).2
    · exact (ho.others k hk).trans_le hij
  · refine List.nodup_append.mpr ⟨hnodup, ho.nodup, fun a ha b hb => ?_⟩
    have := (hrange a ha).1
    have := ho.others b hb
    omega

/-- The jumps of a grown outline that are recorded are old ones or among those that were added. -/
theorem mem_keys_others (h : Grown o o' ifs others) {k : Nat} (hk : k ∈ keys o'.jumps.blockTargets)
    {exits : List Nat} (hexits : exits.length = o.blocks.length) :
    k ∈ keys (others exits) ∨ k ∈ o.jumping := by
  have hp := keys_perm (h.others exits hexits)
  rw [keys_append, keys_promised hexits] at hp
  apply List.mem_append.mp (hp.mem_iff.mp _)
  rw [promised, keys_append]
  exact List.mem_append_right _ hk

theorem mem_keys_ifs (h : Grown o o' ifs others) {k : Nat} (hk : k ∈ keys o'.jumps.ifTargets) :
    k ∈ keys ifs ∨ k ∈ keys o.jumps.ifTargets := by
  have hp := keys_perm h.ifs
  rw [keys_append] at hp
  exact List.mem_append.mp (hp.mem_iff.mp hk)

theorem jumpIf (h : Grown o o' ifs others) {k : Nat} (target : Nat)
    (hk : k ∉ keys o'.jumps.ifTargets) :
    Grown o (o'.jumpIf k target) ((k, target) :: ifs) others :=
  ⟨h.embedded, h.shape, (insert_perm hk target).trans (h.ifs.cons _), h.others, fun ho =>
    ⟨(h.ordered ho).1.insert k target, (h.ordered ho).2⟩⟩

theorem jump (h : Grown o o' ifs others) {k : Nat} (target : Nat)
    (hk : k ∉ keys o'.jumps.blockTargets) :
    Grown o (o'.jump k target) ifs fun exits => (k, target) :: others exits := by
  refine ⟨h.embedded, h.shape, h.ifs, fun exits hexits => ?_, fun ho =>
    ⟨(h.ordered ho).1, (h.ordered ho).2.insert k target⟩⟩
  refine ((insert_perm hk target).append_left (waiting o'.blocks exits)).trans ?_
  exact List.perm_middle.trans ((h.others exits hexits).cons _)

end Grown

theorem foldl_jump (leaving : List Nat) (exit : Nat) (o : Outline) :
    leaving.foldl (fun o leave => o.jump leave exit) o =
      { o with
        jumps := { o.jumps with
          blockTargets :=
            leaving.foldl (fun t leave => t.insert leave exit) o.jumps.blockTargets } } := by
  induction leaving generalizing o with
  | nil => rfl
  | cons k leaving ih => rw [List.foldl_cons, ih, List.foldl_cons, jump]

theorem ascending_foldl_insert {t : Targets} (ht : t.Ascending) (leaving : List Nat) (exit : Nat) :
    Ascending (leaving.foldl (fun t leave => t.insert leave exit) t) := by
  induction leaving generalizing t with
  | nil => exact ht
  | cons k leaving ih => exact ih (ht.insert k exit)

@[simp] theorem closeBlock_blocks (o : Outline) (b : Block) (bs : List Block) (i : Nat) :
    (o.closeBlock b bs i).blocks = bs := by
  rw [closeBlock, foldl_jump]

@[simp] theorem closeBlock_embedded (o : Outline) (b : Block) (bs : List Block) (i : Nat) :
    (o.closeBlock b bs i).embedded = o.embedded := by
  rw [closeBlock, foldl_jump]

@[simp] theorem jump_blocks (o : Outline) (i target : Nat) : (o.jump i target).blocks = o.blocks :=
  rfl

@[simp] theorem jump_embedded (o : Outline) (i target : Nat) :
    (o.jump i target).embedded = o.embedded :=
  rfl

@[simp] theorem jumpIf_blocks (o : Outline) (i target : Nat) :
    (o.jumpIf i target).blocks = o.blocks :=
  rfl

@[simp] theorem jumpIf_embedded (o : Outline) (i target : Nat) :
    (o.jumpIf i target).embedded = o.embedded :=
  rfl

theorem foldl_insert_perm {leaving : List Nat} {t : Targets} (exit : Nat)
    (h : (leaving ++ keys t).Nodup) :
    (leaving.foldl (fun t leave => t.insert leave exit) t).Perm
      (leaving.map (·, exit) ++ t) := by
  induction leaving generalizing t with
  | nil => exact List.Perm.refl _
  | cons k leaving ih =>
    rw [List.cons_append, List.nodup_cons, List.mem_append] at h
    obtain ⟨hk, hnodup⟩ := h
    have hperm := insert_perm (fun hmem => hk (.inr hmem)) exit
    have hkeys : (leaving ++ keys (t.insert k exit)).Nodup := by
      have hp : (leaving ++ keys (t.insert k exit)).Perm (k :: (leaving ++ keys t)) :=
        ((keys_perm hperm).append_left leaving).trans List.perm_middle
      exact hp.nodup_iff.mpr (List.nodup_cons.mpr ⟨fun hm => hk (List.mem_append.mp hm), hnodup⟩)
    rw [List.foldl_cons]
    refine (ih hkeys).trans ((hperm.append_left _).trans ?_)
    exact List.perm_middle

/-- Once a block is closed, what waited at it is recorded. -/
theorem Grown.closeBlock {o o₁ o₂ : Outline} {ifs : Targets} {others : List Nat → Targets} {b b₂ : Block}
    {bs : List Block} {j : Nat} (h : Grown o₁ o₂ ifs others) (hfresh : o₂.Fresh j)
    (hblocks : o₂.blocks = b₂ :: bs) (hopen : o₁.blocks = b :: o.blocks)
    (hjumps : o₁.jumps = o.jumps) (hb : b.leaving = []) :
    Grown o (o₂.closeBlock b₂ bs j) ifs fun exits => others ((j + 1) :: exits) := by
  have hshape := h.shape
  rw [hblocks, hopen, List.map_cons, List.map_cons, List.cons.injEq] at hshape
  rw [Outline.closeBlock, foldl_jump]
  refine ⟨h.embedded, hshape.2, hjumps ▸ h.ifs, fun exits hexits => ?_, fun ho =>
    ⟨(h.ordered (hjumps ▸ ho)).1, ascending_foldl_insert (h.ordered (hjumps ▸ ho)).2 _ _⟩⟩
  have hold : o₁.promised ((j + 1) :: exits) = o.promised exits := by
    rw [promised, promised, hopen, hjumps, waiting, hb, List.map_nil, List.nil_append]
  have hlen : ((j + 1) :: exits).length = o₁.blocks.length := by
    rw [hopen, List.length_cons, List.length_cons, hexits]
  have hnodup : (b₂.leaving ++ keys o₂.jumps.blockTargets).Nodup := by
    have hn := hfresh.nodup
    rw [jumping, hblocks, List.flatMap_cons, List.append_assoc] at hn
    refine hn.sublist (List.Sublist.append_left ?_ _)
    exact List.sublist_append_right _ _
  have hinsert := foldl_insert_perm (j + 1) hnodup
  have hp := h.others _ hlen
  rw [hold, promised, hblocks, waiting] at hp
  refine ((hinsert.append_left (waiting bs exits)).trans ?_).trans hp
  rw [← List.append_assoc]
  exact List.perm_append_comm.append_right _

/-- An outline has grown by the jumps of a tree that stands from an index on. -/
abbrev GrownBy (t : BlockTree) (i : Nat) (o o' : Outline) : Prop :=
  Grown o o' (t.ifTargets i) fun exits => t.blockTargets exits i

theorem GrownBy.fresh {t : BlockTree} {i : Nat} {o o' : Outline} (h : GrownBy t i o o')
    (ht : t.Nested o.blocks.length) (ho : o.Fresh i) : o'.Fresh (i + t.size) := by
  refine Grown.fresh h ho (by omega) (fun k hk => ?_) fun exits hexits => ?_
  · exact (BlockTree.mem_keys_ifTargets ht hk).2
  · rw [← hexits] at ht
    exact ⟨(BlockTree.ascending_blockTargets ht i).nodup_keys, fun k hk =>
      BlockTree.mem_keys_blockTargets ht hk⟩

end Outline

end LineScript
