import LineScript.Proofs.Script.Outlines

/-! An outline can be followed along every tree whose levels fit, and records the jumps of the tree. -/
namespace LineScript

open Targets

namespace Outline

variable {name : String} {o : Outline} {i : Nat}

theorem take?_of_advance {o' : Outline} {l : Located} (he : o.embedded = none)
    (hfit : l.statement.levelsFit o.blocks.length = true)
    (h : o.advance i ⟨name, l.line, l.column⟩ l.statement = .ok o') :
    take? name o i l = some o' := by
  simp [take?, he, hfit, h]

theorem advance_plain {s : Statement} (h : s.isPlain = true) (position : SourcePosition) :
    o.advance i position s = .ok o := by
  cases s <;> first | rfl | simp [Statement.isPlain] at h

theorem follow?_some {o' : Outline} {l : Located} (h : take? name o i l = some o')
    (slots : List (Option Located)) :
    follow? name o i (some l :: slots) = follow? name o' (i + 1) slots := by
  simp [follow?, h]

theorem follow?_replicate_none (n : Nat) (slots : List (Option Located)) :
    follow? name o i (List.replicate n none ++ slots) = follow? name o (i + n) slots := by
  induction n generalizing i with
  | zero => rfl
  | succ n ih =>
    rw [List.replicate_succ, List.cons_append, follow?, ih]
    congr 1
    omega

/-- An outline outside of embedded scripts can be followed along a tree whose levels fit, and grows by the
jumps of the tree. -/
def Follows (name : String) (t : BlockTree) : Prop :=
  ∀ (o : Outline) (i : Nat), o.embedded = none → t.Nested o.blocks.length → o.Fresh i →
    ∃ o', (∀ slots, follow? name o i (t.lines ++ slots) = follow? name o' (i + t.size) slots) ∧
      GrownBy t i o o'

theorem follows_done : Follows name .done :=
  fun o _ he _ _ => ⟨o, fun _ => rfl, Grown.refl he⟩

/-- Behind some lines along which an outline has grown, it can be followed along what remains. -/
theorem Follows.behind {o₁ : Outline} {j : Nat} {rest : BlockTree} {ifs : Targets}
    {others : List Nat → Targets} (ih : Follows name rest) (front : List (Option Located))
    (hfront : ∀ slots, follow? name o i (front ++ slots) = follow? name o₁ j slots)
    (hgrown : Grown o o₁ ifs others) (hfresh : o₁.Fresh j) (ht : rest.Nested o.blocks.length) :
    ∃ o', (∀ slots, follow? name o i (front ++ rest.lines ++ slots) =
        follow? name o' (j + rest.size) slots) ∧
      Grown o o' (ifs ++ rest.ifTargets j) fun exits => others exits ++ rest.blockTargets exits j := by
  obtain ⟨o', hfollow, hrest⟩ := ih o₁ j hgrown.embedded (hgrown.length.symm ▸ ht) hfresh
  refine ⟨o', fun slots => ?_, hgrown.trans hrest⟩
  rw [List.append_assoc, hfront, hfollow]

theorem follows_blank {rest : BlockTree} (ih : Follows name rest) : Follows name (.blank rest) := by
  intro o i he ht hf
  obtain ⟨o', hfollow, hgrown⟩ :=
    ih.behind [none] (fun _ => rfl) (Grown.refl he) (hf.mono (Nat.le_succ i)) ht
  refine ⟨o', fun slots => ?_, hgrown⟩
  have hsize : i + 1 + rest.size = i + (BlockTree.blank rest).size := by
    rw [BlockTree.size_blank]
    omega
  exact hsize ▸ hfollow slots

theorem follows_plain {l : Located} {rest : BlockTree} (ih : Follows name rest) :
    Follows name (.plain l rest) := by
  intro o i he ht hf
  obtain ⟨hl, hrest⟩ := ht
  have hfit : l.statement.levelsFit o.blocks.length = true := by
    cases hs : l.statement <;> simp_all [Statement.levelsFit, Statement.isPlain]
  have htake : take? name o i l = some o := take?_of_advance he hfit (advance_plain hl _)
  obtain ⟨o', hfollow, hgrown⟩ :=
    ih.behind [some l] (follow?_some htake) (Grown.refl he) (hf.mono (Nat.le_succ i)) hrest
  refine ⟨o', fun slots => ?_, hgrown⟩
  have hsize : i + 1 + rest.size = i + (BlockTree.plain l rest).size := by
    rw [BlockTree.size_plain]
    omega
  exact hsize ▸ hfollow slots

/-- A jump that waits at one of the open blocks. -/
theorem waiting_modify {bs : List Block} {exits : List Nat} {k : Nat} (hexits : exits.length = bs.length)
    (hk : k < bs.length) (leave : Nat) :
    (waiting (bs.modify k fun b => { b with leaving := leave :: b.leaving }) exits).Perm
      ((exits[k]?).toList.map (leave, ·) ++ waiting bs exits) := by
  induction bs generalizing exits k with
  | nil => exact absurd hk (Nat.not_lt_zero k)
  | cons b bs ih =>
    cases exits with
    | nil => simp at hexits
    | cons exit exits =>
      cases k with
      | zero => exact List.Perm.refl _
      | succ k =>
        have hk' : k < bs.length := by simpa using hk
        have hp := ih (by simpa using hexits) hk'
        rw [List.modify_succ_cons, waiting, waiting, List.getElem?_cons_succ]
        refine (hp.append_left _).trans ?_
        rw [← List.append_assoc, ← List.append_assoc]
        exact List.perm_append_comm.append_right _

theorem follows_leave {l : Located} {levels : Nat} {condition : Option Test} {rest : BlockTree}
    (ih : Follows name rest) : Follows name (.leave l levels condition rest) := by
  intro o i he ht hf
  obtain ⟨hl, ⟨hlow, hhigh⟩, hrest⟩ := ht
  let o₁ : Outline :=
    { o with
      blocks := o.blocks.modify (levels - 1) fun b => { b with leaving := i :: b.leaving } }
  have hfit : l.statement.levelsFit o.blocks.length = true := by
    rw [hl]
    simp [Statement.levelsFit, hlow, hhigh]
  have htake : take? name o i l = some o₁ := take?_of_advance he hfit (by rw [hl]; rfl)
  have hshape : o₁.blocks.map Block.shape = o.blocks.map Block.shape := by
    refine List.ext_getElem? fun k => ?_
    simp only [o₁, List.getElem?_map, List.getElem?_modify]
    cases o.blocks[k]? with
    | none => rfl
    | some b => by_cases hk : levels - 1 = k <;> simp [hk, Block.shape]
  have hgrown₁ : GrownBy (.leave l levels condition .done) i o o₁ := by
    refine ⟨he, hshape, List.Perm.refl _, fun exits hexits => ?_, id⟩
    have hp := waiting_modify hexits (by omega : levels - 1 < o.blocks.length) i
    simpa [promised, o₁, BlockTree.blockTargets] using hp.append_right o.jumps.blockTargets
  have hfresh : o₁.Fresh (i + 1) := hgrown₁.fresh ⟨hl, ⟨hlow, hhigh⟩, trivial⟩ hf
  obtain ⟨o', hfollow, hgrown⟩ :=
    ih.behind [some l] (follow?_some htake) hgrown₁ hfresh hrest
  refine ⟨o', fun slots => ?_, ?_⟩
  · have hsize : i + 1 + rest.size = i + (BlockTree.leave l levels condition rest).size := by
      rw [BlockTree.size_leave]
      omega
    exact hsize ▸ hfollow slots
  · simpa [GrownBy, BlockTree.ifTargets, BlockTree.blockTargets] using hgrown

theorem follows_embedded {l closer : Located} {skipped : Nat} {rest : BlockTree}
    (ih : Follows name rest) : Follows name (.embedded l skipped closer rest) := by
  intro o i he ht hf
  obtain ⟨⟨⟨script, hl⟩, hcloser⟩, hdepth, hrest⟩ := ht
  have hblocks : o.blocks = [] := List.length_eq_zero_iff.mp hdepth
  let o₁ : Outline := { o with embedded := some (i, ⟨name, l.line, l.column⟩) }
  let o₂ : Outline := o.jump i (i + skipped + 2)
  have hfit : l.statement.levelsFit o.blocks.length = true := by
    rw [hl]
    rfl
  have hopen : take? name o i l = some o₁ := by
    refine take?_of_advance he hfit ?_
    rw [hl]
    simp [advance, hblocks, o₁]
  have hclose : take? name o₁ (i + 1 + skipped) closer = some o₂ := by
    have hindex : i + 1 + skipped + 1 = i + skipped + 2 := by omega
    simp [take?, o₁, o₂, hcloser, hindex, jump, he]
  have hfront : ∀ slots,
      follow? name o i (some l :: (List.replicate skipped none ++ [some closer]) ++ slots) =
        follow? name o₂ (i + skipped + 2) slots := by
    intro slots
    have hindex : i + 1 + skipped + 1 = i + skipped + 2 := by omega
    rw [List.cons_append, follow?_some hopen, List.append_assoc, follow?_replicate_none]
    exact (follow?_some hclose slots).trans (by rw [hindex])
  have hkey : i ∉ keys o.jumps.blockTargets := fun h =>
    Nat.lt_irrefl i (hf.others i (List.mem_append_right _ h))
  have hgrown₂ : GrownBy (.embedded l skipped closer .done) i o o₂ :=
    (Grown.refl he).jump (i + skipped + 2) hkey
  have hfresh : o₂.Fresh (i + skipped + 2) := by
    have h := hgrown₂.fresh ⟨⟨⟨script, hl⟩, hcloser⟩, hdepth, trivial⟩ hf
    have hindex : i + (BlockTree.embedded l skipped closer .done).size = i + skipped + 2 := by
      rw [BlockTree.size_embedded, BlockTree.size_done]
      omega
    rwa [hindex] at h
  obtain ⟨o', hfollow, hgrown⟩ := ih.behind _ hfront hgrown₂ hfresh hrest
  refine ⟨o', fun slots => ?_, by simpa [GrownBy, BlockTree.ifTargets, BlockTree.blockTargets] using hgrown⟩
  have hsize : i + skipped + 2 + rest.size = i + (BlockTree.embedded l skipped closer rest).size := by
    rw [BlockTree.size_embedded]
    omega
  rw [← hsize, ← hfollow slots, BlockTree.lines]
  simp

theorem Fresh.openBlock (hf : o.Fresh i) (kind : BlockKind) (position : SourcePosition) :
    (o.openBlock kind i position).Fresh (i + 1) := by
  have hjumping : (o.openBlock kind i position).jumping = o.jumping := by
    simp [jumping, Outline.openBlock]
  have hf' := hf.mono (Nat.le_succ i)
  exact ⟨hf'.ifs, hjumping ▸ hf'.others, hjumping ▸ hf'.nodup⟩

theorem Fresh.jumpIf (hf : o.Fresh i) {k : Nat} (hk : k < i) (target : Nat) :
    (o.jumpIf k target).Fresh i := by
  refine ⟨fun n hn => ?_, hf.others, hf.nodup⟩
  obtain ⟨x, hx, rfl⟩ := List.mem_map.mp hn
  rcases mem_insert hx with rfl | hx
  · exact hk
  · exact hf.ifs _ (List.mem_map_of_mem hx)

/-- The innermost block is still the same one when an outline has grown. -/
theorem Grown.top {o₁ : Outline} {ifs : Targets} {others : List Nat → Targets} {b : Block}
    {bs : List Block} (h : Grown o o₁ ifs others) (hblocks : o.blocks = b :: bs) :
    ∃ b₁ bs₁, o₁.blocks = b₁ :: bs₁ ∧ b₁.shape = b.shape := by
  have hshape := h.shape
  rw [hblocks] at hshape
  cases hblocks₁ : o₁.blocks with
  | nil => simp [hblocks₁] at hshape
  | cons b₁ bs₁ =>
    rw [hblocks₁, List.map_cons, List.map_cons, List.cons.injEq] at hshape
    exact ⟨b₁, bs₁, rfl, hshape.1⟩

/-- Changing the innermost block, but not what leaves it, before or behind the growth is the same. -/
theorem Grown.turn {o₁ : Outline} {ifs : Targets} {others : List Nat → Targets} {b b₁ : Block}
    {bs bs₁ : List Block} (h : Grown o o₁ ifs others) (hblocks : o.blocks = b :: bs)
    (hblocks₁ : o₁.blocks = b₁ :: bs₁) (kind : BlockKind) (alternative : Option Nat) :
    Grown { o with blocks := { b with kind, alternative } :: bs }
      { o₁ with blocks := { b₁ with kind, alternative } :: bs₁ } ifs others := by
  have hshape := h.shape
  rw [hblocks, hblocks₁, List.map_cons, List.map_cons, List.cons.injEq] at hshape
  refine ⟨h.embedded, ?_, h.ifs, fun exits hexits => ?_, h.ordered⟩
  · have hb := hshape.1
    simp only [Block.shape, Block.mk.injEq] at hb
    simp [Block.shape, hb, hshape.2]
  · have hp := h.others exits (by simpa [hblocks] using hexits)
    rw [promised, promised, hblocks, hblocks₁] at hp
    cases exits <;> exact hp

/-- The line in front of a tree does not jump yet when the outline has grown along the tree. -/
theorem Grown.opener_not_mem {t : BlockTree} {depth : Nat} {o₁ : Outline}
    {others : List Nat → Targets} (h : Grown o o₁ (t.ifTargets (i + 1)) others)
    (ht : t.Nested depth) (hf : ∀ k ∈ keys o.jumps.ifTargets, k < i) :
    i ∉ keys o₁.jumps.ifTargets := by
  intro hmem
  rcases h.mem_keys_ifs hmem with hmem | hmem
  · have := (BlockTree.mem_keys_ifTargets ht hmem).1
    omega
  · exact Nat.lt_irrefl i (hf i hmem)

/-- The body of a block can be followed from the line behind the opener on; at its end the block is the
innermost one again. -/
theorem Follows.inBlock {body : BlockTree} (ihbody : Follows name body) (kind : BlockKind)
    (position : SourcePosition) (he : o.embedded = none) (hbody : body.Nested (o.blocks.length + 1))
    (hf : o.Fresh i) : ∃ o₂ b bs,
      (∀ slots, follow? name (o.openBlock kind i position) (i + 1) (body.lines ++ slots) =
        follow? name o₂ (i + body.size + 1) slots) ∧
      GrownBy body (i + 1) (o.openBlock kind i position) o₂ ∧ o₂.Fresh (i + body.size + 1) ∧
      o₂.blocks = b :: bs ∧ b.kind = kind ∧ b.opener = i ∧ b.alternative = none := by
  have hj : i + 1 + body.size = i + body.size + 1 := by omega
  have hfresh := hf.openBlock kind position
  obtain ⟨o₂, hfollow, hgrown⟩ := ihbody (o.openBlock kind i position) (i + 1) he hbody hfresh
  have hfresh₂ := hgrown.fresh hbody hfresh
  rw [hj] at hfollow hfresh₂
  obtain ⟨b, bs, hblocks, hb⟩ := hgrown.top rfl
  have hkind : b.kind = kind := congrArg Block.kind hb
  have hopener : b.opener = i := congrArg Block.opener hb
  have halternative : b.alternative = none := congrArg Block.alternative hb
  exact ⟨o₂, b, bs, hfollow, hgrown, hfresh₂, hblocks, hkind, hopener, halternative⟩

theorem follows_ifThen {head closer : Located} {test : Test} {body rest : BlockTree}
    (ihbody : Follows name body) (ih : Follows name rest) :
    Follows name (.ifThen head test body closer rest) := by
  intro o i he ht hf
  obtain ⟨⟨hhead, hcloser⟩, hbody, hrest⟩ := ht
  let block : Block := { kind := .ifPart, opener := i, position := ⟨name, head.line, head.column⟩ }
  let o₁ : Outline := o.openBlock .ifPart i ⟨name, head.line, head.column⟩
  have hopen : take? name o i head = some o₁ := by
    refine take?_of_advance he ?_ ?_ <;> rw [hhead] <;> rfl
  obtain ⟨o₂, b, bs, hfollow₂, hgrown₂, hfresh₂, hblocks, hkind, hopener, halternative⟩ :=
    ihbody.inBlock .ifPart ⟨name, head.line, head.column⟩ he hbody hf
  let o₃ := (o₂.closeBlock b bs (i + body.size + 1)).jumpIf i (i + body.size + 2)
  have hclose : take? name o₂ (i + body.size + 1) closer = some o₃ := by
    refine take?_of_advance hgrown₂.embedded ?_ ?_ <;> rw [hcloser]
    · rfl
    · simp only [advance, hblocks, hkind, halternative, hopener, o₃]
  have hclosed := hgrown₂.closeBlock (b := block) (o := o) hfresh₂ hblocks rfl rfl rfl
  have hkey : i ∉ keys (o₂.closeBlock b bs (i + body.size + 1)).jumps.ifTargets :=
    hclosed.opener_not_mem hbody hf.ifs
  have hgrown₃ : GrownBy (.ifThen head test body closer .done) i o o₃ := by
    have h := hclosed.jumpIf (i + body.size + 2) hkey
    simpa [GrownBy, BlockTree.ifTargets, BlockTree.blockTargets] using h
  have hfresh₃ : o₃.Fresh (i + body.size + 2) := by
    have h := hgrown₃.fresh ⟨⟨hhead, hcloser⟩, hbody, trivial⟩ hf
    simpa [Nat.add_assoc] using h
  have hfront : ∀ slots,
      follow? name o i (some head :: (body.lines ++ [some closer]) ++ slots) =
        follow? name o₃ (i + body.size + 2) slots := by
    intro slots
    rw [List.cons_append, follow?_some hopen, List.append_assoc, hfollow₂]
    exact follow?_some hclose slots
  obtain ⟨o', hfollow, hgrown⟩ := ih.behind _ hfront hgrown₃ hfresh₃ hrest
  refine ⟨o', fun slots => ?_, ?_⟩
  · have hsize : i + body.size + 2 + rest.size =
        i + (BlockTree.ifThen head test body closer rest).size := by
      rw [BlockTree.size_ifThen]
      omega
    rw [← hsize, ← hfollow slots, BlockTree.lines]
    simp
  · simpa [GrownBy, BlockTree.ifTargets, BlockTree.blockTargets] using hgrown

theorem follows_ifElse {head middle closer : Located} {test : Test} {body other rest : BlockTree}
    (ihbody : Follows name body) (ihother : Follows name other) (ih : Follows name rest) :
    Follows name (.ifElse head test body middle other closer rest) := by
  intro o i he ht hf
  obtain ⟨⟨hhead, hmiddle, hcloser⟩, hbody, hother, hrest⟩ := ht
  let m := i + body.size + 1
  let block : Block := { kind := .ifPart, opener := i, position := ⟨name, head.line, head.column⟩ }
  let o₁ : Outline := o.openBlock .ifPart i ⟨name, head.line, head.column⟩
  have hopen : take? name o i head = some o₁ := by
    refine take?_of_advance he ?_ ?_ <;> rw [hhead] <;> rfl
  obtain ⟨o₂, b, bs, hfollow₂, hgrown₂, hfresh₂, hblocks, hkind, hopener, -⟩ :=
    ihbody.inBlock .ifPart ⟨name, head.line, head.column⟩ he hbody hf
  -- the `else` turns the block into another one, and what follows grows from that one
  let block' : Block := { block with kind := .elsePart, alternative := some m }
  let o₁' : Outline := { o with blocks := block' :: o.blocks }
  let o₃ : Outline :=
    { o₂ with blocks := { b with kind := .elsePart, alternative := some m } :: bs }.jumpIf i (m + 1)
  have hturn : take? name o₂ m middle = some o₃ := by
    refine take?_of_advance hgrown₂.embedded ?_ ?_ <;> rw [hmiddle]
    · rfl
    · simp [advance, hblocks, hkind, hopener, o₃]
  have hkey : i ∉ keys o₂.jumps.ifTargets := hgrown₂.opener_not_mem hbody hf.ifs
  have hgrown₃ : Grown o₁' o₃ ((i, m + 1) :: body.ifTargets (i + 1))
      fun exits => body.blockTargets exits (i + 1) :=
    (hgrown₂.turn rfl hblocks .elsePart (some m)).jumpIf (m + 1) hkey
  have hfresh₃ : o₃.Fresh (m + 1) := by
    have hjumping : o₃.jumping = o₂.jumping := by
      simp [jumping, hblocks, o₃, jumpIf]
    have h := (hfresh₂.mono (Nat.le_succ m)).jumpIf (by omega : i < m + 1) (m + 1)
    exact ⟨h.ifs, hjumping ▸ h.others, hjumping ▸ h.nodup⟩
  let j := m + 1 + other.size
  obtain ⟨o₄, hfollow₄, hgrown₄⟩ :=
    ihother o₃ (m + 1) hgrown₃.embedded (hgrown₃.length.symm ▸ hother) hfresh₃
  have hfresh₄ := hgrown₄.fresh (hgrown₃.length.symm ▸ hother) hfresh₃
  have hparts := hgrown₃.trans hgrown₄
  obtain ⟨b', bs', hblocks', hb'⟩ := hparts.top rfl
  have hkind' : b'.kind = .elsePart := congrArg Block.kind hb'
  have halternative' : b'.alternative = some m := congrArg Block.alternative hb'
  let o₅ := (o₄.closeBlock b' bs' j).jump m (j + 1)
  have hclose : take? name o₄ j closer = some o₅ := by
    refine take?_of_advance hgrown₄.embedded ?_ ?_ <;> rw [hcloser]
    · rfl
    · simp only [advance, hblocks', hkind', halternative', o₅]
  have hclosed := hparts.closeBlock (b := block') (o := o) hfresh₄ hblocks' rfl rfl rfl
  have hkey' : m ∉ keys (o₄.closeBlock b' bs' j).jumps.blockTargets := by
    intro hmem
    have hlen : (List.replicate o.blocks.length 0).length = o.blocks.length :=
      List.length_replicate
    have hlen' : ((j + 1) :: List.replicate o.blocks.length 0).length = o.blocks.length + 1 :=
      congrArg (· + 1) hlen
    rcases hclosed.mem_keys_others hmem hlen with hmem | hmem
    · rcases List.mem_append.mp (keys_append _ _ ▸ hmem) with hmem | hmem
      · have := BlockTree.mem_keys_blockTargets (hlen'.symm ▸ hbody) hmem
        omega
      · have := BlockTree.mem_keys_blockTargets (hlen'.symm ▸ hother) hmem
        omega
    · have := hf.others m hmem
      omega
  have hgrown₅ : GrownBy (.ifElse head test body middle other closer .done) i o o₅ := by
    have h := hclosed.jump (j + 1) hkey'
    have hj : i + body.size + 1 + other.size + 2 = j + 1 := by omega
    refine ⟨h.embedded, h.shape, ?_, fun exits hexits => ?_, h.ordered⟩
    · simpa [BlockTree.ifTargets] using h.ifs
    · refine (h.others exits hexits).trans (List.Perm.append_right _ ?_)
      simp only [BlockTree.blockTargets, List.append_nil, hj]
      exact List.perm_middle.symm
  have hfresh₅ : o₅.Fresh (j + 1) := by
    have h := hgrown₅.fresh ⟨⟨hhead, hmiddle, hcloser⟩, hbody, hother, trivial⟩ hf
    have hsize : i + (BlockTree.ifElse head test body middle other closer .done).size = j + 1 := by
      simp only [BlockTree.size_ifElse, BlockTree.size_done, j, m]
      omega
    rwa [hsize] at h
  have hfront : ∀ slots,
      follow? name o i
          (some head :: (body.lines ++ some middle :: (other.lines ++ [some closer])) ++ slots) =
        follow? name o₅ (j + 1) slots := by
    intro slots
    rw [List.cons_append, follow?_some hopen, List.append_assoc, hfollow₂, List.cons_append,
      follow?_some hturn, List.append_assoc, hfollow₄]
    exact follow?_some hclose slots
  obtain ⟨o', hfollow, hgrown⟩ := ih.behind _ hfront hgrown₅ hfresh₅ hrest
  refine ⟨o', fun slots => ?_, ?_⟩
  · have hsize : j + 1 + rest.size =
        i + (BlockTree.ifElse head test body middle other closer rest).size := by
      simp only [BlockTree.size_ifElse, j, m]
      omega
    rw [← hsize, ← hfollow slots, BlockTree.lines]
    simp
  · have hj : j + 1 = i + body.size + 1 + other.size + 2 := by omega
    simpa [GrownBy, BlockTree.ifTargets, BlockTree.blockTargets, hj] using hgrown

theorem follows_loop {head closer : Located} {test : Test} {body rest : BlockTree}
    (ihbody : Follows name body) (ih : Follows name rest) :
    Follows name (.loop head test body closer rest) := by
  intro o i he ht hf
  obtain ⟨⟨hhead, hcloser⟩, hbody, hrest⟩ := ht
  let j := i + body.size + 1
  let block : Block := { kind := .loop, opener := i, position := ⟨name, head.line, head.column⟩ }
  let o₁ : Outline := o.openBlock .loop i ⟨name, head.line, head.column⟩
  have hopen : take? name o i head = some o₁ := by
    refine take?_of_advance he ?_ ?_ <;> rw [hhead] <;> rfl
  obtain ⟨o₂, b, bs, hfollow₂, hgrown₂, hfresh₂, hblocks, hkind, hopener, -⟩ :=
    ihbody.inBlock .loop ⟨name, head.line, head.column⟩ he hbody hf
  let o₃ := ((o₂.closeBlock b bs j).jump i (j + 1)).jump j i
  have hclose : take? name o₂ j closer = some o₃ := by
    refine take?_of_advance hgrown₂.embedded ?_ ?_ <;> rw [hcloser]
    · rfl
    · simp only [advance, hblocks, hkind, hopener, o₃, if_true]
  have hclosed := hgrown₂.closeBlock (b := block) (o := o) hfresh₂ hblocks rfl rfl rfl
  have hlen : (List.replicate o.blocks.length 0).length = o.blocks.length := List.length_replicate
  have hrange : ∀ k ∈ keys (o₂.closeBlock b bs j).jumps.blockTargets, k < j ∧ k ≠ i := by
    intro k hmem
    have hlen' : ((j + 1) :: List.replicate o.blocks.length 0).length = o.blocks.length + 1 :=
      congrArg (· + 1) hlen
    rcases hclosed.mem_keys_others hmem hlen with hmem | hmem
    · have := BlockTree.mem_keys_blockTargets (hlen'.symm ▸ hbody) hmem
      omega
    · have := hf.others k hmem
      omega
  have hstart := hclosed.jump (j + 1) (k := i) fun hmem => (hrange i hmem).2 rfl
  have hback := hstart.jump i (k := j) fun hmem => by
    obtain ⟨x, hx, hxj⟩ := List.mem_map.mp hmem
    rcases mem_insert hx with rfl | hx
    · simp only at hxj
      omega
    · have := (hrange x.1 (List.mem_map_of_mem hx)).1
      omega
  have hgrown₃ : GrownBy (.loop head test body closer .done) i o o₃ := by
    refine ⟨hback.embedded, hback.shape, ?_, fun exits hexits => ?_, hback.ordered⟩
    · simpa [BlockTree.ifTargets] using hback.ifs
    · refine (hback.others exits hexits).trans (List.Perm.append_right _ ?_)
      refine (List.Perm.swap _ _ _).trans (List.Perm.cons _ ?_)
      simpa [BlockTree.blockTargets] using (List.perm_append_singleton (j, i) _).symm
  have hfresh₃ : o₃.Fresh (j + 1) := by
    have h := hgrown₃.fresh ⟨⟨hhead, hcloser⟩, hbody, trivial⟩ hf
    have hsize : i + (BlockTree.loop head test body closer .done).size = j + 1 := by
      simp only [BlockTree.size_loop, BlockTree.size_done, j]
      omega
    rwa [hsize] at h
  have hfront : ∀ slots,
      follow? name o i (some head :: (body.lines ++ [some closer]) ++ slots) =
        follow? name o₃ (j + 1) slots := by
    intro slots
    rw [List.cons_append, follow?_some hopen, List.append_assoc, hfollow₂]
    exact follow?_some hclose slots
  obtain ⟨o', hfollow, hgrown⟩ := ih.behind _ hfront hgrown₃ hfresh₃ hrest
  refine ⟨o', fun slots => ?_, ?_⟩
  · have hsize : j + 1 + rest.size = i + (BlockTree.loop head test body closer rest).size := by
      simp only [BlockTree.size_loop, j]
      omega
    rw [← hsize, ← hfollow slots, BlockTree.lines]
    simp
  · simpa [GrownBy, BlockTree.ifTargets, BlockTree.blockTargets] using hgrown

/-- Every tree can be followed where its levels fit. -/
theorem follows (name : String) (t : BlockTree) : Follows name t := by
  induction t with
  | done => exact follows_done
  | blank rest ih => exact follows_blank ih
  | plain l rest ih => exact follows_plain ih
  | leave l levels condition rest ih => exact follows_leave ih
  | embedded l skipped closer rest ih => exact follows_embedded ih
  | ifThen head test body closer rest ihbody ih => exact follows_ifThen ihbody ih
  | ifElse head test body middle other closer rest ihbody ihother ih =>
    exact follows_ifElse ihbody ihother ih
  | loop head test body closer rest ihbody ih => exact follows_loop ihbody ih

/-- A tree without blocks around it is followed to its end, and its jumps are those recorded. -/
theorem follow?_tree (name : String) {t : BlockTree} (ht : t.Nested 0) :
    ∃ o, follow? name {} 0 t.lines = some o ∧ o.leftOpen? = none ∧ o.jumps = t.jumps := by
  have hfresh : Fresh {} 0 := ⟨by simp, by simp [jumping], by simp [jumping]⟩
  obtain ⟨o, hfollow, hgrown⟩ := follows name t {} 0 rfl ht hfresh
  have hblocks : o.blocks = [] := List.length_eq_zero_iff.mp hgrown.length
  have hordered := hgrown.ordered ⟨List.Pairwise.nil, List.Pairwise.nil⟩
  have hifs : o.jumps.ifTargets = t.ifTargets 0 :=
    hordered.1.eq_of_perm (BlockTree.ascending_ifTargets ht 0) (by simpa using hgrown.ifs)
  have hothers : o.jumps.blockTargets = t.blockTargets [] 0 := by
    have hnested : t.Nested ([] : List Nat).length := ht
    have hascending := BlockTree.ascending_blockTargets hnested 0
    refine hordered.2.eq_of_perm hascending ?_
    simpa [promised, hblocks, waiting] using hgrown.others [] rfl
  refine ⟨o, ?_, ?_, ?_⟩
  · have h := hfollow []
    rwa [List.append_nil, follow?] at h
  · rw [leftOpen?, hgrown.embedded, hblocks]
  · rw [BlockTree.jumps, ← hifs, ← hothers]

end Outline

end LineScript
