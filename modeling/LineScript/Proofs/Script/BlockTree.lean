import Mathlib.Data.List.Sort
import LineScript.Script.Blocks

/-! Scripts as trees of blocks. A tree has lines and jumps of its own; reading lines backwards finds the
tree that they spell. Jump targets are finite maps: a recorded target is found again, and the order of recording does not
show. -/
namespace LineScript.Targets

/-- At most one target for every index, in ascending order. -/
def Ascending (t : Targets) : Prop :=
  t.Pairwise fun x y => x.1 < y.1

/-- The indices that jump. -/
def keys (t : Targets) : List Nat :=
  t.map (·.1)

@[simp] theorem keys_nil : keys [] = [] :=
  rfl

@[simp] theorem keys_cons (x : Nat × Nat) (t : Targets) : keys (x :: t) = x.1 :: keys t :=
  rfl

@[simp] theorem keys_append (t u : Targets) : keys (t ++ u) = keys t ++ keys u :=
  List.map_append

theorem keys_perm {t u : Targets} (h : t.Perm u) : (keys t).Perm (keys u) :=
  h.map _

theorem ascending_iff_keys {t : Targets} : t.Ascending ↔ (keys t).Pairwise (· < ·) :=
  List.pairwise_map.symm

theorem Ascending.nodup_keys {t : Targets} (h : t.Ascending) : (keys t).Nodup :=
  (ascending_iff_keys.mp h).imp Nat.ne_of_lt

theorem mem_insert {x : Nat × Nat} {t : Targets} {i target : Nat} (h : x ∈ Targets.insert i target t) :
    x = (i, target) ∨ x ∈ t := by
  induction t with
  | nil => simpa [Targets.insert] using h
  | cons y t ih =>
    obtain ⟨j, u⟩ := y
    unfold Targets.insert at h
    split at h
    · simpa using h
    · split at h
      · rcases List.mem_cons.mp h with rfl | h
        · exact .inl rfl
        · exact .inr (List.mem_cons_of_mem _ h)
      · rcases List.mem_cons.mp h with rfl | h
        · exact .inr List.mem_cons_self
        · exact (ih h).imp_right (List.mem_cons_of_mem _)

theorem Ascending.insert {t : Targets} (ht : t.Ascending) (i target : Nat) :
    Ascending (Targets.insert i target t) := by
  induction t with
  | nil => exact List.pairwise_singleton _ _
  | cons y t ih =>
    obtain ⟨j, u⟩ := y
    obtain ⟨hhead, htail⟩ := List.pairwise_cons.mp ht
    unfold Targets.insert
    split_ifs with hlt heq
    · refine List.pairwise_cons.mpr ⟨fun x hx => ?_, ht⟩
      rcases List.mem_cons.mp hx with rfl | hx
      · exact hlt
      · exact hlt.trans (hhead x hx)
    · exact List.pairwise_cons.mpr ⟨fun x hx => heq ▸ hhead x hx, htail⟩
    · refine List.pairwise_cons.mpr ⟨fun x hx => ?_, ih htail⟩
      rcases mem_insert hx with rfl | hx
      · simp only
        omega
      · exact hhead x hx

/-- Recording a target for an index without one adds exactly this target. -/
theorem insert_perm {t : Targets} {i : Nat} (hi : i ∉ keys t) (target : Nat) :
    (Targets.insert i target t).Perm ((i, target) :: t) := by
  induction t with
  | nil => exact List.Perm.refl _
  | cons y t ih =>
    obtain ⟨j, u⟩ := y
    have hij : i ≠ j := fun h => hi (h ▸ List.mem_cons_self)
    have hit : i ∉ keys t := fun h => hi (List.mem_cons_of_mem _ h)
    unfold Targets.insert
    split_ifs with hlt
    · exact List.Perm.refl _
    · exact ((ih hit).cons _).trans (List.Perm.swap _ _ _)

/-- Two ascending tables with the same targets are the same. -/
theorem Ascending.eq_of_perm {t u : Targets} (ht : t.Ascending) (hu : u.Ascending) (h : t.Perm u) :
    t = u :=
  h.eq_of_pairwise (fun _ _ _ _ hab hba => absurd hab (Nat.lt_asymm hba)) ht hu

/-- A recorded target is the one that is found. -/
theorem Ascending.lookup_of_mem {t : Targets} (ht : t.Ascending) {x : Nat × Nat} (hx : x ∈ t) :
    t.lookup x.1 = some x.2 := by
  induction t with
  | nil => exact absurd hx List.not_mem_nil
  | cons y t ih =>
    obtain ⟨hhead, htail⟩ := List.pairwise_cons.mp ht
    rcases List.mem_cons.mp hx with rfl | hx
    · exact List.lookup_cons_self
    · have hne : x.1 ≠ y.1 := Nat.ne_of_gt (hhead x hx)
      rw [List.lookup_cons, beq_false_of_ne hne]
      exact ih htail hx

end LineScript.Targets

namespace LineScript

/-- The statements of a script from some line on. Every statement that is a line stands in the tree with
its place and its text. -/
inductive BlockTree where
  | done
  /-- A blank line or a comment. -/
  | blank (rest : BlockTree)
  /-- A statement that belongs to no block and leaves none. -/
  | plain (l : Located) (rest : BlockTree)
  | leave (l : Located) (levels : Nat) (condition : Option Test) (rest : BlockTree)
  /-- An embedded script, of which only the number of its lines counts. -/
  | embedded (l : Located) (skipped : Nat) (closer : Located) (rest : BlockTree)
  | ifThen (head : Located) (test : Test) (body : BlockTree) (closer : Located) (rest : BlockTree)
  | ifElse (head : Located) (test : Test) (body : BlockTree) (middle : Located) (other : BlockTree)
      (closer : Located) (rest : BlockTree)
  | loop (head : Located) (test : Test) (body : BlockTree) (closer : Located) (rest : BlockTree)

/-- Whether a statement belongs to no block and leaves none. -/
def Statement.isPlain : Statement → Bool
  | .ifTest _ | .elseWord | .endIf | .whileTest _ | .endWhile | .leave .. | .script _
  | .endScript => false
  | _ => true

namespace BlockTree

/-- The lines that a tree spells. -/
def lines : BlockTree → List (Option Located)
  | done => []
  | blank rest => none :: rest.lines
  | plain l rest | leave l _ _ rest => some l :: rest.lines
  | embedded l skipped closer rest =>
    some l :: (List.replicate skipped none ++ some closer :: rest.lines)
  | ifThen head _ body closer rest | loop head _ body closer rest =>
    some head :: (body.lines ++ some closer :: rest.lines)
  | ifElse head _ body middle other closer rest =>
    some head :: (body.lines ++ some middle :: (other.lines ++ some closer :: rest.lines))

/-- The number of lines. -/
def size (t : BlockTree) : Nat :=
  t.lines.length

/-- Whether the statements of a tree are what its nodes say, embedded scripts stand in no block, and
every `leave` leaves at least one and at most all of the blocks around it; `depth` blocks are around the
whole tree. -/
def Nested : Nat → BlockTree → Prop
  | _, done => True
  | depth, blank rest => rest.Nested depth
  | depth, plain l rest => l.statement.isPlain = true ∧ rest.Nested depth
  | depth, leave l levels condition rest =>
    l.statement = .leave levels condition ∧ (1 ≤ levels ∧ levels ≤ depth) ∧ rest.Nested depth
  | depth, embedded l _ closer rest =>
    ((∃ name, l.statement = .script name) ∧ closer.statement = .endScript) ∧ depth = 0 ∧
      rest.Nested depth
  | depth, ifThen head test body closer rest =>
    (head.statement = .ifTest test ∧ closer.statement = .endIf) ∧ body.Nested (depth + 1) ∧
      rest.Nested depth
  | depth, ifElse head test body middle other closer rest =>
    (head.statement = .ifTest test ∧ middle.statement = .elseWord ∧ closer.statement = .endIf) ∧
      body.Nested (depth + 1) ∧ other.Nested (depth + 1) ∧ rest.Nested depth
  | depth, loop head test body closer rest =>
    (head.statement = .whileTest test ∧ closer.statement = .endWhile) ∧ body.Nested (depth + 1) ∧
      rest.Nested depth

/-- Where the `if` statements of a tree go on if their test fails: behind their `else`, or else behind
their `endif`. The index is that of the first line. -/
def ifTargets : Nat → BlockTree → Targets
  | _, done => []
  | i, blank rest | i, plain _ rest | i, leave _ _ _ rest => rest.ifTargets (i + 1)
  | i, embedded _ skipped _ rest => rest.ifTargets (i + skipped + 2)
  | i, ifThen _ _ body _ rest =>
    (i, i + body.size + 2) :: (body.ifTargets (i + 1) ++ rest.ifTargets (i + body.size + 2))
  | i, ifElse _ _ body _ other _ rest =>
    let middle := i + body.size + 1
    let closer := middle + other.size + 1
    (i, middle + 1) :: (body.ifTargets (i + 1) ++
      (other.ifTargets (middle + 1) ++ rest.ifTargets (closer + 1)))
  | i, loop _ _ body _ rest => body.ifTargets (i + 1) ++ rest.ifTargets (i + body.size + 2)

/-- Where the other jumps of a tree lead: from an `else` behind its `endif`, from a `while` behind its
`endwhile` and back from there, from a `script` behind its `endscript`, and from a `leave` to the exit of
the outermost block that it leaves. The exits are those of the blocks around the tree, from the inside
out. -/
def blockTargets (exits : List Nat) : Nat → BlockTree → Targets
  | _, done => []
  | i, blank rest | i, plain _ rest => rest.blockTargets exits (i + 1)
  | i, leave _ levels _ rest =>
    (exits[levels - 1]?).toList.map (i, ·) ++ rest.blockTargets exits (i + 1)
  | i, embedded _ skipped _ rest =>
    (i, i + skipped + 2) :: rest.blockTargets exits (i + skipped + 2)
  | i, ifThen _ _ body _ rest =>
    let exit := i + body.size + 2
    body.blockTargets (exit :: exits) (i + 1) ++ rest.blockTargets exits exit
  | i, ifElse _ _ body _ other _ rest =>
    let middle := i + body.size + 1
    let exit := middle + other.size + 2
    body.blockTargets (exit :: exits) (i + 1) ++
      ((middle, exit) :: (other.blockTargets (exit :: exits) (middle + 1) ++
        rest.blockTargets exits exit))
  | i, loop _ _ body _ rest =>
    let exit := i + body.size + 2
    (i, exit) :: (body.blockTargets (exit :: exits) (i + 1) ++
      ((i + body.size + 1, i) :: rest.blockTargets exits exit))

/-- The jumps of a whole script. -/
def jumps (t : BlockTree) : JumpTable :=
  { ifTargets := t.ifTargets 0, blockTargets := t.blockTargets [] 0 }

section Size

variable (l head middle closer : Located) (body other rest : BlockTree)

@[simp] theorem size_done : done.size = 0 :=
  rfl

@[simp] theorem size_blank : (blank rest).size = rest.size + 1 :=
  rfl

@[simp] theorem size_plain : (plain l rest).size = rest.size + 1 :=
  rfl

@[simp] theorem size_leave (n : Nat) (c : Option Test) : (leave l n c rest).size = rest.size + 1 :=
  rfl

@[simp] theorem size_embedded (n : Nat) : (embedded l n closer rest).size = n + rest.size + 2 := by
  simp only [size, lines, List.length_cons, List.length_append, List.length_replicate]
  omega

@[simp] theorem size_ifThen (t : Test) :
    (ifThen head t body closer rest).size = body.size + rest.size + 2 := by
  simp only [size, lines, List.length_cons, List.length_append]
  omega

@[simp] theorem size_ifElse (t : Test) :
    (ifElse head t body middle other closer rest).size =
      body.size + other.size + rest.size + 3 := by
  simp only [size, lines, List.length_cons, List.length_append]
  omega

@[simp] theorem size_loop (t : Test) :
    (loop head t body closer rest).size = body.size + rest.size + 2 := by
  simp only [size, lines, List.length_cons, List.length_append]
  omega

end Size

end BlockTree

/-- The indices of the lines with a certain kind of statement, given the index of the first line. -/
def indicesOf (p : Statement → Bool) : Nat → List (Option Located) → List Nat
  | _, [] => []
  | i, slot :: slots =>
    if slot.any (p ·.statement) then i :: indicesOf p (i + 1) slots else indicesOf p (i + 1) slots

theorem indicesOf_cons (p : Statement → Bool) (i : Nat) (slot : Option Located)
    (slots : List (Option Located)) :
    indicesOf p i (slot :: slots) =
      if slot.any (p ·.statement) then i :: indicesOf p (i + 1) slots
      else indicesOf p (i + 1) slots :=
  rfl

theorem indicesOf_append (p : Statement → Bool) (i : Nat) (as bs : List (Option Located)) :
    indicesOf p i (as ++ bs) = indicesOf p i as ++ indicesOf p (i + as.length) bs := by
  induction as generalizing i with
  | nil => simp [indicesOf]
  | cons a as ih =>
    have hlen : i + (a :: as).length = i + 1 + as.length := by
      rw [List.length_cons]
      omega
    rw [List.cons_append, indicesOf_cons, indicesOf_cons, ih, hlen]
    split <;> rfl

theorem indicesOf_replicate_none (p : Statement → Bool) (i n : Nat) :
    indicesOf p i (List.replicate n none) = [] := by
  induction n generalizing i with
  | zero => rfl
  | succ n ih => simpa [List.replicate_succ, indicesOf] using ih (i + 1)

theorem mem_indicesOf {p : Statement → Bool} {i k : Nat} {slots : List (Option Located)} :
    k ∈ indicesOf p i slots ↔
      i ≤ k ∧ ∃ l, slots[k - i]? = some (some l) ∧ p l.statement = true := by
  induction slots generalizing i with
  | nil => simp [indicesOf]
  | cons slot slots ih =>
    have hmem : k ∈ indicesOf p i (slot :: slots) ↔
        (k = i ∧ slot.any (p ·.statement) = true) ∨ k ∈ indicesOf p (i + 1) slots := by
      rw [indicesOf_cons]
      split <;> simp_all
    rw [hmem, ih]
    rcases Nat.lt_trichotomy k i with hlt | rfl | hgt
    · have hne : k ≠ i := by omega
      have hni : ¬ i ≤ k := by omega
      have hni' : ¬ i + 1 ≤ k := by omega
      simp [hne, hni, hni']
    · cases slot <;> simp
    · obtain ⟨n, rfl⟩ : ∃ n, k = i + 1 + n := ⟨k - i - 1, by omega⟩
      have hsub : i + 1 + n - i = n + 1 := by omega
      have hsub' : i + 1 + n - (i + 1) = n := by omega
      have hne : i + 1 + n ≠ i := by omega
      have hle : i ≤ i + 1 + n := by omega
      have hle' : i + 1 ≤ i + 1 + n := by omega
      simp only [hsub, hsub', hne, hle, hle', false_and, false_or, true_and,
        List.getElem?_cons_succ]

theorem pairwise_indicesOf (p : Statement → Bool) (i : Nat) (slots : List (Option Located)) :
    (indicesOf p i slots).Pairwise (· < ·) := by
  induction slots generalizing i with
  | nil => exact List.Pairwise.nil
  | cons slot slots ih =>
    rw [indicesOf_cons]
    split
    · exact List.pairwise_cons.mpr ⟨fun k hk => (mem_indicesOf.mp hk).1, ih (i + 1)⟩
    · exact ih (i + 1)

theorem lt_of_mem_indicesOf {p : Statement → Bool} {i k : Nat} {slots : List (Option Located)}
    (h : k ∈ indicesOf p i slots) : i ≤ k ∧ k < i + slots.length := by
  obtain ⟨hle, l, hl, -⟩ := mem_indicesOf.mp h
  have := (List.getElem?_eq_some_iff.mp hl).1
  omega

/-- Whether a statement is an `if`. -/
def Statement.isIf : Statement → Bool
  | .ifTest _ => true
  | _ => false

/-- Whether a statement opens an embedded script. -/
def Statement.isScript : Statement → Bool
  | .script _ => true
  | _ => false

/-- Whether a statement jumps in another way than a failing `if`. -/
def Statement.isJump : Statement → Bool
  | .elseWord | .whileTest _ | .endWhile | .leave .. | .script _ => true
  | _ => false

namespace BlockTree

open Targets

/-- Exactly the `if` statements have a target for a failing test. -/
theorem keys_ifTargets {t : BlockTree} {depth : Nat} (ht : t.Nested depth) (i : Nat) :
    keys (t.ifTargets i) = indicesOf Statement.isIf i t.lines := by
  induction t generalizing depth i with
  | done => rfl
  | blank rest ih => exact ih ht (i + 1)
  | plain l rest ih =>
    obtain ⟨hl, hrest⟩ := ht
    have hif : l.statement.isIf = false := by
      cases hs : l.statement <;> simp_all [Statement.isPlain, Statement.isIf]
    simpa [ifTargets, lines, indicesOf_cons, hif] using ih hrest (i + 1)
  | leave l _ _ rest ih =>
    obtain ⟨hl, -, hrest⟩ := ht
    simpa [ifTargets, lines, indicesOf_cons, hl, Statement.isIf] using ih hrest (i + 1)
  | embedded l skipped closer rest ih =>
    obtain ⟨⟨⟨name, hl⟩, hcloser⟩, -, hrest⟩ := ht
    have hindex : i + 1 + skipped + 1 = i + skipped + 2 := by omega
    simp [ifTargets, lines, indicesOf_cons, indicesOf_append, indicesOf_replicate_none, hl, hcloser,
      Statement.isIf, hindex, ih hrest]
  | ifThen head test body closer rest ihbody ihrest =>
    obtain ⟨⟨hhead, hcloser⟩, hbody, hrest⟩ := ht
    have hindex : i + 1 + body.lines.length + 1 = i + body.size + 2 := by
      rw [size]
      omega
    simp [ifTargets, lines, indicesOf_cons, indicesOf_append, hhead, hcloser, Statement.isIf, hindex,
      ihbody hbody, ihrest hrest]
  | ifElse head test body middle other closer rest ihbody ihother ihrest =>
    obtain ⟨⟨hhead, hmiddle, hcloser⟩, hbody, hother, hrest⟩ := ht
    have hindex : i + 1 + body.lines.length + 1 = i + body.size + 1 + 1 := by
      rw [size]
      omega
    have hindex' : i + body.size + 1 + 1 + other.lines.length + 1 =
        i + body.size + 1 + other.size + 1 + 1 := by
      simp only [size]
      omega
    simp [ifTargets, lines, indicesOf_cons, indicesOf_append, hhead, hmiddle, hcloser,
      Statement.isIf, hindex, hindex', ihbody hbody, ihother hother, ihrest hrest]
  | loop head test body closer rest ihbody ihrest =>
    obtain ⟨⟨hhead, hcloser⟩, hbody, hrest⟩ := ht
    have hindex : i + 1 + body.lines.length + 1 = i + body.size + 2 := by
      rw [size]
      omega
    simp [ifTargets, lines, indicesOf_cons, indicesOf_append, hhead, hcloser, Statement.isIf, hindex,
      ihbody hbody, ihrest hrest]

/-- Exactly the statements that jump have another target. -/
theorem keys_blockTargets {t : BlockTree} {exits : List Nat} (ht : t.Nested exits.length) (i : Nat) :
    keys (t.blockTargets exits i) = indicesOf Statement.isJump i t.lines := by
  induction t generalizing exits i with
  | done => rfl
  | blank rest ih => exact ih ht (i + 1)
  | plain l rest ih =>
    obtain ⟨hl, hrest⟩ := ht
    have hjump : l.statement.isJump = false := by
      cases hs : l.statement <;> simp_all [Statement.isPlain, Statement.isJump]
    simpa [blockTargets, lines, indicesOf_cons, hjump] using ih hrest (i + 1)
  | leave l levels _ rest ih =>
    obtain ⟨hl, ⟨hlow, hhigh⟩, hrest⟩ := ht
    have hlt : levels - 1 < exits.length := by omega
    simp [blockTargets, lines, indicesOf_cons, hl, Statement.isJump, List.getElem?_eq_getElem hlt,
      ih hrest]
  | embedded l skipped closer rest ih =>
    obtain ⟨⟨⟨name, hl⟩, hcloser⟩, -, hrest⟩ := ht
    have hindex : i + 1 + skipped + 1 = i + skipped + 2 := by omega
    simp [blockTargets, lines, indicesOf_cons, indicesOf_append, indicesOf_replicate_none, hl, hcloser,
      Statement.isJump, hindex, ih hrest]
  | ifThen head test body closer rest ihbody ihrest =>
    obtain ⟨⟨hhead, hcloser⟩, hbody, hrest⟩ := ht
    have hindex : i + 1 + body.lines.length + 1 = i + body.size + 2 := by
      rw [size]
      omega
    have hbody' : body.Nested ((i + body.size + 2) :: exits).length := hbody
    have ihbody := ihbody hbody'
    simp [blockTargets, lines, indicesOf_cons, indicesOf_append, hhead, hcloser, Statement.isJump,
      hindex, ihbody, ihrest hrest]
  | ifElse head test body middle other closer rest ihbody ihother ihrest =>
    obtain ⟨⟨hhead, hmiddle, hcloser⟩, hbody, hother, hrest⟩ := ht
    have hmid : i + 1 + body.lines.length = i + body.size + 1 := by
      rw [size]
      omega
    have hindex : i + body.size + 1 + 1 + other.lines.length + 1 =
        i + body.size + 1 + other.size + 2 := by
      simp only [size]
      omega
    have hbody' : body.Nested ((i + body.size + 1 + other.size + 2) :: exits).length := hbody
    have hother' : other.Nested ((i + body.size + 1 + other.size + 2) :: exits).length := hother
    have ihbody := ihbody hbody'
    have ihother := ihother hother'
    simp [blockTargets, lines, indicesOf_cons, indicesOf_append, hhead, hmiddle, hcloser,
      Statement.isJump, hmid, hindex, ihbody, ihother, ihrest hrest]
  | loop head test body closer rest ihbody ihrest =>
    obtain ⟨⟨hhead, hcloser⟩, hbody, hrest⟩ := ht
    have hclose : i + 1 + body.lines.length = i + body.size + 1 := by
      rw [size]
      omega
    have hbody' : body.Nested ((i + body.size + 2) :: exits).length := hbody
    have ihbody := ihbody hbody'
    simp [blockTargets, lines, indicesOf_cons, indicesOf_append, hhead, hcloser, Statement.isJump,
      hclose, ihbody, ihrest hrest]

theorem mem_keys_ifTargets {t : BlockTree} {depth i k : Nat} (ht : t.Nested depth)
    (h : k ∈ keys (t.ifTargets i)) : i ≤ k ∧ k < i + t.size := by
  rw [keys_ifTargets ht] at h
  exact lt_of_mem_indicesOf h

theorem mem_keys_blockTargets {t : BlockTree} {exits : List Nat} {i k : Nat}
    (ht : t.Nested exits.length) (h : k ∈ keys (t.blockTargets exits i)) :
    i ≤ k ∧ k < i + t.size := by
  rw [keys_blockTargets ht] at h
  exact lt_of_mem_indicesOf h

theorem ascending_ifTargets {t : BlockTree} {depth : Nat} (ht : t.Nested depth) (i : Nat) :
    Ascending (t.ifTargets i) := by
  rw [ascending_iff_keys, keys_ifTargets ht]
  exact pairwise_indicesOf _ _ _

theorem ascending_blockTargets {t : BlockTree} {exits : List Nat} (ht : t.Nested exits.length)
    (i : Nat) : Ascending (t.blockTargets exits i) := by
  rw [ascending_iff_keys, keys_blockTargets ht]
  exact pairwise_indicesOf _ _ _

end BlockTree

end LineScript
