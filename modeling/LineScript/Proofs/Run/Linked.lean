import LineScript.Proofs.Run.TreeMachine

/-! Where a tree and the blocks around it stand in a program: the lines of the program are theirs, and its
jumps lead along them. -/
namespace LineScript

/-- Whether a tree stands in a program from an index on, with exits of the blocks around it. -/
structure Placed (p : Program) (exits : List Nat) (i : Nat) (t : BlockTree) : Prop where
  nested : t.Nested exits.length
  lines : t.lines <+: p.statements.drop i
  ifs : t.ifTargets i ⊆ p.jumps.ifTargets
  others : t.blockTargets exits i ⊆ p.jumps.blockTargets

/-- Whether the line with an index ends a part of a block and leads to what comes next. -/
structure OpenBlock.ClosesAt (b : OpenBlock) (p : Program) (j : Nat) : Prop where
  line : p.statements[j]? = some (some b.closer)
  leads : (b.closer.statement = .endIf ∧ b.next.index = j + 1) ∨
    ((b.closer.statement = .elseWord ∨ b.closer.statement = .endWhile) ∧
      (j, b.next.index) ∈ p.jumps.blockTargets)

/-- Where the exits of some blocks are. -/
def exitsOf (blocks : List OpenBlock) : List Nat :=
  blocks.map (·.exit.index)

/-- Whether some blocks stand around the lines in front of an index. -/
def Around (p : Program) : List OpenBlock → Nat → Prop
  | [], j => p.statements.length = j
  | b :: blocks, j =>
    b.ClosesAt p j ∧
      (Placed p (exitsOf blocks) b.next.index b.next.tree ∧
        Around p blocks (b.next.index + b.next.tree.size)) ∧
      Placed p (exitsOf blocks) b.exit.index b.exit.tree ∧
        Around p blocks (b.exit.index + b.exit.tree.size)

/-- Whether a tree stands in a program with some blocks around it. -/
structure Linked (p : Program) (i : Nat) (t : BlockTree) (blocks : List OpenBlock) : Prop where
  placed : Placed p (exitsOf blocks) i t
  around : Around p blocks (i + t.size)

section Prefix

variable {α : Type} {as bs l : List α} {i : Nat}

theorem prefix_drop_left (h : as ++ bs <+: l.drop i) : as <+: l.drop i :=
  (List.prefix_append as bs).trans h

theorem prefix_drop_right (h : as ++ bs <+: l.drop i) : bs <+: l.drop (i + as.length) := by
  obtain ⟨rest, hrest⟩ := h
  refine ⟨rest, ?_⟩
  rw [← List.drop_drop, ← hrest, List.append_assoc, List.drop_left]

theorem prefix_drop_tail {a : α} (h : a :: as <+: l.drop i) : as <+: l.drop (i + 1) := by
  have h' : [a] ++ as <+: l.drop i := h
  exact prefix_drop_right h'

theorem getElem?_of_prefix_drop {a : α} (h : a :: as <+: l.drop i) : l[i]? = some a := by
  obtain ⟨rest, hrest⟩ := h
  have hget : (l.drop i)[0]? = some a := by
    rw [← hrest]
    rfl
  rwa [List.getElem?_drop, Nat.add_zero] at hget

end Prefix

namespace Linked

variable {p : Program} {i : Nat} {blocks : List OpenBlock} {l head middle closer : Located}
  {test : Test} {body other rest : BlockTree}

theorem blank (h : Linked p i (.blank rest) blocks) :
    p.statements[i]? = some none ∧ Linked p (i + 1) rest blocks := by
  obtain ⟨⟨hnested, hlines, hifs, hothers⟩, haround⟩ := h
  refine ⟨getElem?_of_prefix_drop hlines, ⟨hnested, prefix_drop_tail hlines, hifs, hothers⟩, ?_⟩
  have hsize : i + (BlockTree.blank rest).size = i + 1 + rest.size := by
    rw [BlockTree.size_blank]
    omega
  exact hsize ▸ haround

theorem plain (h : Linked p i (.plain l rest) blocks) :
    p.statements[i]? = some (some l) ∧ l.statement.isPlain = true ∧ Linked p (i + 1) rest blocks := by
  obtain ⟨⟨⟨hl, hnested⟩, hlines, hifs, hothers⟩, haround⟩ := h
  refine ⟨getElem?_of_prefix_drop hlines, hl, ⟨hnested, prefix_drop_tail hlines, hifs, hothers⟩, ?_⟩
  have hsize : i + (BlockTree.plain l rest).size = i + 1 + rest.size := by
    rw [BlockTree.size_plain]
    omega
  exact hsize ▸ haround

/-- Blocks can be left up to any of them. -/
theorem drop_of_around {k j : Nat} (h : Around p blocks j) (hk : k < blocks.length) :
    ∃ b outer, blocks.drop k = b :: outer ∧ Linked p b.exit.index b.exit.tree outer := by
  induction k generalizing blocks j with
  | zero =>
    cases blocks with
    | nil => exact absurd hk (Nat.lt_irrefl 0)
    | cons b blocks => exact ⟨b, blocks, rfl, h.2.2.1, h.2.2.2⟩
  | succ k ih =>
    cases blocks with
    | nil => exact absurd hk (Nat.not_lt_zero _)
    | cons b blocks =>
      rw [List.drop_succ_cons]
      exact ih h.2.2.2 (Nat.lt_of_succ_lt_succ hk)

theorem leave {levels : Nat} {condition : Option Test}
    (h : Linked p i (.leave l levels condition rest) blocks) :
    p.statements[i]? = some (some l) ∧ l.statement = .leave levels condition ∧
      Linked p (i + 1) rest blocks ∧
      ∃ b outer, blocks.drop (levels - 1) = b :: outer ∧ Linked p b.exit.index b.exit.tree outer ∧
        (i, b.exit.index) ∈ p.jumps.blockTargets := by
  obtain ⟨⟨⟨hl, ⟨hlow, hhigh⟩, hnested⟩, hlines, hifs, hothers⟩, haround⟩ := h
  rw [exitsOf, List.length_map] at hhigh
  rw [BlockTree.blockTargets, List.append_subset] at hothers
  have hrest : Linked p (i + 1) rest blocks := by
    refine ⟨⟨hnested, prefix_drop_tail hlines, hifs, hothers.2⟩, ?_⟩
    have hsize : i + (BlockTree.leave l levels condition rest).size = i + 1 + rest.size := by
      rw [BlockTree.size_leave]
      omega
    exact hsize ▸ haround
  obtain ⟨b, outer, hdrop, hexit⟩ := drop_of_around haround (by omega : levels - 1 < blocks.length)
  refine ⟨getElem?_of_prefix_drop hlines, hl, hrest, b, outer, hdrop, hexit, hothers.1 ?_⟩
  have hb : blocks[levels - 1]? = some b := by
    rw [← Nat.add_zero (levels - 1), ← List.getElem?_drop, hdrop]
    rfl
  simp [exitsOf, hb]

theorem embedded {skipped : Nat} (h : Linked p i (.embedded l skipped closer rest) blocks) :
    p.statements[i]? = some (some l) ∧ (∃ name, l.statement = .script name) ∧
      Linked p (i + skipped + 2) rest blocks ∧ (i, i + skipped + 2) ∈ p.jumps.blockTargets := by
  obtain ⟨⟨⟨⟨hl, -⟩, -, hnested⟩, hlines, hifs, hothers⟩, haround⟩ := h
  rw [BlockTree.blockTargets, List.cons_subset] at hothers
  refine ⟨getElem?_of_prefix_drop hlines, hl, ⟨⟨hnested, ?_, hifs, hothers.2⟩, ?_⟩, hothers.1⟩
  · have hrest := prefix_drop_tail (prefix_drop_right (prefix_drop_tail hlines))
    have hindex : i + 1 + (List.replicate skipped (none : Option Located)).length + 1 =
        i + skipped + 2 := by
      rw [List.length_replicate]
      omega
    exact hindex ▸ hrest
  · have hsize : i + (BlockTree.embedded l skipped closer rest).size =
        i + skipped + 2 + rest.size := by
      rw [BlockTree.size_embedded]
      omega
    exact hsize ▸ haround

theorem done {b : OpenBlock} (h : Linked p i .done (b :: blocks)) :
    b.ClosesAt p i ∧ Linked p b.next.index b.next.tree blocks := by
  obtain ⟨-, hcloses, ⟨hplaced, haround⟩, -⟩ := h
  exact ⟨hcloses, hplaced, haround⟩

theorem ifThen (h : Linked p i (.ifThen head test body closer rest) blocks) :
    let behind : TreeSpot := ⟨i + body.size + 2, rest⟩
    p.statements[i]? = some (some head) ∧ head.statement = .ifTest test ∧
      Linked p (i + 1) body (⟨closer, behind, behind⟩ :: blocks) ∧
      Linked p behind.index rest blocks ∧ (i, behind.index) ∈ p.jumps.ifTargets := by
  obtain ⟨⟨⟨⟨hhead, hcloser⟩, hbody, hrest⟩, hlines, hifs, hothers⟩, haround⟩ := h
  rw [BlockTree.ifTargets, List.cons_subset, List.append_subset] at hifs
  rw [BlockTree.blockTargets, List.append_subset] at hothers
  obtain ⟨hjump, hifsbody, hifsrest⟩ := hifs
  have htail := prefix_drop_tail hlines
  have hclose := prefix_drop_right htail
  have hend : i + 1 + body.lines.length = i + 1 + body.size := rfl
  rw [hend] at hclose
  have hbehind : Linked p (i + body.size + 2) rest blocks := by
    refine ⟨⟨hrest, ?_, hifsrest, hothers.2⟩, ?_⟩
    · have hindex : i + 1 + body.size + 1 = i + body.size + 2 := by omega
      exact hindex ▸ prefix_drop_tail hclose
    · have hsize : i + (BlockTree.ifThen head test body closer rest).size =
          i + body.size + 2 + rest.size := by
        rw [BlockTree.size_ifThen]
        omega
      exact hsize ▸ haround
  refine ⟨getElem?_of_prefix_drop hlines, hhead, ⟨⟨?_, prefix_drop_left htail, hifsbody, hothers.1⟩,
    ⟨getElem?_of_prefix_drop hclose, .inl ⟨hcloser, ?_⟩⟩, ⟨hbehind.placed, hbehind.around⟩,
    hbehind.placed, hbehind.around⟩, hbehind, hjump⟩
  · exact hbody
  · change i + body.size + 2 = i + 1 + body.size + 1
    omega

theorem ifElse (h : Linked p i (.ifElse head test body middle other closer rest) blocks) :
    let behind : TreeSpot := ⟨i + body.size + other.size + 3, rest⟩
    p.statements[i]? = some (some head) ∧ head.statement = .ifTest test ∧
      Linked p (i + 1) body (⟨middle, behind, behind⟩ :: blocks) ∧
      Linked p (i + body.size + 2) other (⟨closer, behind, behind⟩ :: blocks) ∧
      (i, i + body.size + 2) ∈ p.jumps.ifTargets := by
  obtain ⟨⟨⟨⟨hhead, hmiddle, hcloser⟩, hbody, hother, hrest⟩, hlines, hifs, hothers⟩, haround⟩ := h
  have hexit : i + body.size + 1 + other.size + 2 = i + body.size + other.size + 3 := by omega
  have hexit' : i + body.size + 1 + other.size + 1 + 1 = i + body.size + other.size + 3 := by omega
  simp only [BlockTree.ifTargets, hexit', List.cons_subset, List.append_subset] at hifs
  simp only [BlockTree.blockTargets, hexit, List.cons_subset, List.append_subset] at hothers
  obtain ⟨hjump, hifsbody, hifsother, hifsrest⟩ := hifs
  obtain ⟨hothersbody, hturn, hothersother, hothersrest⟩ := hothers
  have htail := prefix_drop_tail hlines
  have hmid : i + 1 + body.lines.length = i + body.size + 1 := by
    rw [BlockTree.size]
    omega
  have hmiddleline := hmid ▸ prefix_drop_right htail
  have htail' := prefix_drop_tail hmiddleline
  have hend : i + body.size + 1 + 1 + other.lines.length = i + body.size + 2 + other.size := rfl
  have hcloserline := hend ▸ prefix_drop_right htail'
  have hbehind : Linked p (i + body.size + other.size + 3) rest blocks := by
    refine ⟨⟨hrest, ?_, hifsrest, hothersrest⟩, ?_⟩
    · have hindex : i + body.size + 2 + other.size + 1 = i + body.size + other.size + 3 := by omega
      exact hindex ▸ prefix_drop_tail hcloserline
    · have hsize : i + (BlockTree.ifElse head test body middle other closer rest).size =
          i + body.size + other.size + 3 + rest.size := by
        rw [BlockTree.size_ifElse]
        omega
      exact hsize ▸ haround
  refine ⟨getElem?_of_prefix_drop hlines, hhead,
    ⟨⟨hbody, prefix_drop_left htail, hifsbody, hothersbody⟩, ⟨?_, .inr ⟨.inl hmiddle, ?_⟩⟩,
      ⟨hbehind.placed, hbehind.around⟩, hbehind.placed, hbehind.around⟩,
    ⟨⟨hother, prefix_drop_left htail', hifsother, hothersother⟩,
      ⟨getElem?_of_prefix_drop hcloserline, .inl ⟨hcloser, ?_⟩⟩,
      ⟨hbehind.placed, hbehind.around⟩, hbehind.placed, hbehind.around⟩, hjump⟩
  · have hindex : i + 1 + body.size = i + body.size + 1 := by omega
    exact hindex ▸ getElem?_of_prefix_drop hmiddleline
  · have hindex : i + 1 + body.size = i + body.size + 1 := by omega
    exact hindex ▸ hturn
  · change i + body.size + other.size + 3 = i + body.size + 2 + other.size + 1
    omega

theorem loop (h : Linked p i (.loop head test body closer rest) blocks) :
    let behind : TreeSpot := ⟨i + body.size + 2, rest⟩
    p.statements[i]? = some (some head) ∧ head.statement = .whileTest test ∧
      Linked p (i + 1) body
        (⟨closer, ⟨i, .loop head test body closer rest⟩, behind⟩ :: blocks) ∧
      Linked p behind.index rest blocks ∧ (i, behind.index) ∈ p.jumps.blockTargets := by
  have hloop := h
  obtain ⟨⟨⟨⟨hhead, hcloser⟩, hbody, hrest⟩, hlines, hifs, hothers⟩, haround⟩ := h
  simp only [BlockTree.ifTargets, List.append_subset] at hifs
  simp only [BlockTree.blockTargets, List.cons_subset, List.append_subset] at hothers
  obtain ⟨hstart, hothersbody, hback, hothersrest⟩ := hothers
  have htail := prefix_drop_tail hlines
  have hindex : i + 1 + body.lines.length = i + body.size + 1 := by
    rw [BlockTree.size]
    omega
  have hend : i + 1 + body.size = i + body.size + 1 := by omega
  have hcloserline := hindex ▸ prefix_drop_right htail
  have hbehind : Linked p (i + body.size + 2) rest blocks := by
    refine ⟨⟨hrest, prefix_drop_tail hcloserline, hifs.2, hothersrest⟩, ?_⟩
    have hsize : i + (BlockTree.loop head test body closer rest).size =
        i + body.size + 2 + rest.size := by
      rw [BlockTree.size_loop]
      omega
    exact hsize ▸ haround
  refine ⟨getElem?_of_prefix_drop hlines, hhead,
    ⟨⟨hbody, prefix_drop_left htail, hifs.1, hothersbody⟩, ⟨?_, .inr ⟨.inr hcloser, ?_⟩⟩,
      ⟨hloop.placed, hloop.around⟩, hbehind.placed, hbehind.around⟩, hbehind, hstart⟩
  · exact hend ▸ getElem?_of_prefix_drop hcloserline
  · exact hend ▸ hback

end Linked

end LineScript
