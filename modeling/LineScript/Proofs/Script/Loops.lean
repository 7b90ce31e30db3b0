import LineScript.Proofs.Script.Acceptance

/-! The loops of a script: where they begin and end, and how jumps stand to them. Only the end of a loop jumps
back. No jump from outside leads into a loop, and only a `leave`, or the test of the loop, leads out. -/
namespace LineScript

/-- Whether a statement opens a loop. -/
def Statement.isWhile : Statement → Bool
  | .whileTest _ => true
  | _ => false

/-- Whether a statement closes a loop. -/
def Statement.isEndWhile : Statement → Bool
  | .endWhile => true
  | _ => false

/-- Whether a statement leaves blocks. -/
def Statement.isLeave : Statement → Bool
  | .leave .. => true
  | _ => false

namespace BlockTree

/-- The loops of a tree: for each, the lines of its `while` and of its `endwhile`. The index is that of the
first line. -/
def loops : Nat → BlockTree → List (Nat × Nat)
  | _, done => []
  | i, blank rest | i, plain _ rest | i, leave _ _ _ rest => rest.loops (i + 1)
  | i, embedded _ skipped _ rest => rest.loops (i + skipped + 2)
  | i, ifThen _ _ body _ rest => body.loops (i + 1) ++ rest.loops (i + body.size + 2)
  | i, ifElse _ _ body _ other _ rest =>
    let middle := i + body.size + 1
    body.loops (i + 1) ++ (other.loops (middle + 1) ++ rest.loops (middle + other.size + 2))
  | i, loop _ _ body _ rest =>
    (i, i + body.size + 1) :: (body.loops (i + 1) ++ rest.loops (i + body.size + 2))

/-- A loop can be left past its end, and its end leads back. -/
theorem mem_blockTargets_of_mem_loops {t : BlockTree} {x : List Nat} {i w c : Nat}
    (h : (w, c) ∈ t.loops i) :
    (w, c + 1) ∈ t.blockTargets x i ∧ (c, w) ∈ t.blockTargets x i := by
  induction t generalizing x i with
  | done => cases h
  | blank rest ih | plain _ rest ih => exact ih (i := i + 1) h
  | leave _ _ _ rest ih =>
    obtain ⟨hexit, hback⟩ := ih (x := x) (i := i + 1) h
    exact ⟨List.mem_append_right _ hexit, List.mem_append_right _ hback⟩
  | embedded _ skipped _ rest ih =>
    obtain ⟨hexit, hback⟩ := ih (x := x) (i := i + skipped + 2) h
    exact ⟨List.mem_cons_of_mem _ hexit, List.mem_cons_of_mem _ hback⟩
  | ifThen _ _ body _ rest ihbody ihrest =>
    simp only [blockTargets, List.mem_append]
    rcases List.mem_append.mp h with h | h
    · obtain ⟨hexit, hback⟩ := ihbody (x := (i + body.size + 2) :: x) h
      exact ⟨.inl hexit, .inl hback⟩
    · obtain ⟨hexit, hback⟩ := ihrest (x := x) h
      exact ⟨.inr hexit, .inr hback⟩
  | ifElse _ _ body _ other _ rest ihbody ihother ihrest =>
    simp only [blockTargets, List.mem_append, List.mem_cons]
    rcases List.mem_append.mp h with h | h
    · obtain ⟨hexit, hback⟩ := ihbody (x := (i + body.size + 1 + other.size + 2) :: x) h
      exact ⟨.inl hexit, .inl hback⟩
    · rcases List.mem_append.mp h with h | h
      · obtain ⟨hexit, hback⟩ := ihother (x := (i + body.size + 1 + other.size + 2) :: x) h
        exact ⟨.inr (.inr (.inl hexit)), .inr (.inr (.inl hback))⟩
      · obtain ⟨hexit, hback⟩ := ihrest (x := x) h
        exact ⟨.inr (.inr (.inr hexit)), .inr (.inr (.inr hback))⟩
  | loop _ _ body _ rest ihbody ihrest =>
    simp only [blockTargets, List.mem_append, List.mem_cons]
    rcases List.mem_cons.mp h with h | h
    · cases h
      exact ⟨.inl rfl, .inr (.inr (.inl rfl))⟩
    · rcases List.mem_append.mp h with h | h
      · obtain ⟨hexit, hback⟩ := ihbody (x := (i + body.size + 2) :: x) h
        exact ⟨.inr (.inl hexit), .inr (.inl hback)⟩
      · obtain ⟨hexit, hback⟩ := ihrest (x := x) h
        exact ⟨.inr (.inr (.inr hexit)), .inr (.inr (.inr hback))⟩

/-- Exactly the `while` statements begin loops. -/
theorem keys_loops {t : BlockTree} {depth : Nat} (ht : t.Nested depth) (i : Nat) :
    Targets.keys (t.loops i) = indicesOf Statement.isWhile i t.lines := by
  induction t generalizing depth i with
  | done => rfl
  | blank rest ih => exact ih ht (i + 1)
  | plain l rest ih =>
    obtain ⟨hl, hrest⟩ := ht
    have hwhile : l.statement.isWhile = false := by
      cases hs : l.statement <;> simp_all [Statement.isPlain, Statement.isWhile]
    simpa [loops, lines, indicesOf_cons, hwhile] using ih hrest (i + 1)
  | leave l _ _ rest ih =>
    obtain ⟨hl, -, hrest⟩ := ht
    simpa [loops, lines, indicesOf_cons, hl, Statement.isWhile] using ih hrest (i + 1)
  | embedded l skipped closer rest ih =>
    obtain ⟨⟨⟨name, hl⟩, hcloser⟩, -, hrest⟩ := ht
    have hindex : i + 1 + skipped + 1 = i + skipped + 2 := by omega
    simp [loops, lines, indicesOf_cons, indicesOf_append, indicesOf_replicate_none, hl, hcloser,
      Statement.isWhile, hindex, ih hrest]
  | ifThen head test body closer rest ihbody ihrest =>
    obtain ⟨⟨hhead, hcloser⟩, hbody, hrest⟩ := ht
    have hindex : i + 1 + body.lines.length + 1 = i + body.size + 2 := by
      rw [size]
      omega
    simp [loops, lines, indicesOf_cons, indicesOf_append, hhead, hcloser, Statement.isWhile, hindex,
      ihbody hbody, ihrest hrest]
  | ifElse head test body middle other closer rest ihbody ihother ihrest =>
    obtain ⟨⟨hhead, hmiddle, hcloser⟩, hbody, hother, hrest⟩ := ht
    have hindex : i + 1 + body.lines.length + 1 = i + body.size + 1 + 1 := by
      rw [size]
      omega
    have hindex' : i + body.size + 1 + 1 + other.lines.length + 1 =
        i + body.size + 1 + other.size + 2 := by
      simp only [size]
      omega
    simp [loops, lines, indicesOf_cons, indicesOf_append, hhead, hmiddle, hcloser,
      Statement.isWhile, hindex, hindex', ihbody hbody, ihother hother, ihrest hrest]
  | loop head test body closer rest ihbody ihrest =>
    obtain ⟨⟨hhead, hcloser⟩, hbody, hrest⟩ := ht
    have hindex : i + 1 + body.lines.length + 1 = i + body.size + 2 := by
      rw [size]
      omega
    simp [loops, lines, indicesOf_cons, indicesOf_append, hhead, hcloser, Statement.isWhile, hindex,
      ihbody hbody, ihrest hrest]

/-- Exactly the `endwhile` statements end loops. -/
theorem mem_indicesOf_isEndWhile {t : BlockTree} {depth : Nat} (ht : t.Nested depth) {i c : Nat} :
    c ∈ indicesOf Statement.isEndWhile i t.lines ↔ ∃ w, (w, c) ∈ t.loops i := by
  induction t generalizing depth i with
  | done => simp [loops, lines, indicesOf]
  | blank rest ih => exact ih ht
  | plain l rest ih =>
    obtain ⟨hl, hrest⟩ := ht
    have hend : l.statement.isEndWhile = false := by
      cases hs : l.statement <;> simp_all [Statement.isPlain, Statement.isEndWhile]
    simpa [loops, lines, indicesOf_cons, hend] using ih hrest
  | leave l _ _ rest ih =>
    obtain ⟨hl, -, hrest⟩ := ht
    simpa [loops, lines, indicesOf_cons, hl, Statement.isEndWhile] using ih hrest
  | embedded l skipped closer rest ih =>
    obtain ⟨⟨⟨name, hl⟩, hcloser⟩, -, hrest⟩ := ht
    have hindex : i + 1 + skipped + 1 = i + skipped + 2 := by omega
    simp [loops, lines, indicesOf_cons, indicesOf_append, indicesOf_replicate_none, hl, hcloser,
      Statement.isEndWhile, hindex, ih hrest]
  | ifThen head test body closer rest ihbody ihrest =>
    obtain ⟨⟨hhead, hcloser⟩, hbody, hrest⟩ := ht
    have hindex : i + 1 + body.lines.length + 1 = i + body.size + 2 := by
      rw [size]
      omega
    simp [loops, lines, indicesOf_cons, indicesOf_append, hhead, hcloser, Statement.isEndWhile, hindex,
      ihbody hbody, ihrest hrest, exists_or]
  | ifElse head test body middle other closer rest ihbody ihother ihrest =>
    obtain ⟨⟨hhead, hmiddle, hcloser⟩, hbody, hother, hrest⟩ := ht
    have hindex : i + 1 + body.lines.length + 1 = i + body.size + 1 + 1 := by
      rw [size]
      omega
    have hindex' : i + body.size + 1 + 1 + other.lines.length + 1 =
        i + body.size + 1 + other.size + 2 := by
      simp only [size]
      omega
    simp [loops, lines, indicesOf_cons, indicesOf_append, hhead, hmiddle, hcloser,
      Statement.isEndWhile, hindex, hindex', ihbody hbody, ihother hother, ihrest hrest, exists_or]
  | loop head test body closer rest ihbody ihrest =>
    obtain ⟨⟨hhead, hcloser⟩, hbody, hrest⟩ := ht
    have hclose : i + 1 + body.lines.length = i + body.size + 1 := by
      rw [size]
      omega
    simp [loops, lines, indicesOf_cons, indicesOf_append, hhead, hcloser, Statement.isEndWhile, hclose,
      ihbody hbody, ihrest hrest, exists_or]
    tauto

/-- A failing `if` goes on further down. -/
theorem lt_of_mem_ifTargets {t : BlockTree} {i k j : Nat} (h : (k, j) ∈ t.ifTargets i) : k < j := by
  induction t generalizing i with
  | done => cases h
  | blank rest ih | plain _ rest ih | leave _ _ _ rest ih => exact ih (i := i + 1) h
  | embedded _ skipped _ rest ih => exact ih (i := i + skipped + 2) h
  | ifThen _ _ body _ rest ihbody ihrest =>
    simp only [ifTargets, List.mem_cons, List.mem_append, Prod.mk.injEq] at h
    rcases h with h | h | h
    · omega
    · exact ihbody h
    · exact ihrest h
  | ifElse _ _ body _ other _ rest ihbody ihother ihrest =>
    simp only [ifTargets, List.mem_cons, List.mem_append, Prod.mk.injEq] at h
    rcases h with h | h | h | h
    · omega
    · exact ihbody h
    · exact ihother h
    · exact ihrest h
  | loop _ _ body _ rest ihbody ihrest =>
    rcases List.mem_append.mp h with h | h
    · exact ihbody h
    · exact ihrest h

/-- The lines that leave blocks. -/
def leaves (i : Nat) (t : BlockTree) : List Nat :=
  indicesOf Statement.isLeave i t.lines

section Leaves

variable (i : Nat) (l head middle closer : Located) (test : Test) (body other rest : BlockTree)

theorem leaves_rest_subset {i : Nat} {rest : BlockTree} {slot : Option Located} {t : BlockTree}
    (h : t.lines = slot :: rest.lines) : leaves (i + 1) rest ⊆ leaves i t := by
  intro k hk
  rw [leaves, h, indicesOf_cons]
  split
  · exact List.mem_cons_of_mem _ hk
  · exact hk

theorem leaves_embedded (skipped : Nat) :
    leaves (i + skipped + 2) rest ⊆ leaves i (embedded l skipped closer rest) := by
  have hindex : i + 1 + skipped + 1 = i + skipped + 2 := by omega
  intro k hk
  simp only [leaves, lines, indicesOf_cons, indicesOf_append, List.length_replicate, hindex]
  split <;> split <;> simp [leaves] at hk ⊢ <;> tauto

theorem leaves_ifThen :
    leaves (i + 1) body ⊆ leaves i (ifThen head test body closer rest) ∧
      leaves (i + body.size + 2) rest ⊆ leaves i (ifThen head test body closer rest) := by
  have hindex : i + 1 + body.lines.length + 1 = i + body.size + 2 := by
    rw [size]
    omega
  constructor <;> intro k hk <;>
    simp only [leaves, lines, indicesOf_cons, indicesOf_append, hindex] at hk ⊢ <;>
    split <;> split <;> simp only [List.mem_cons, List.mem_append] <;> tauto

theorem leaves_loop :
    leaves (i + 1) body ⊆ leaves i (loop head test body closer rest) ∧
      leaves (i + body.size + 2) rest ⊆ leaves i (loop head test body closer rest) :=
  leaves_ifThen i head closer test body rest

theorem leaves_ifElse :
    leaves (i + 1) body ⊆ leaves i (ifElse head test body middle other closer rest) ∧
      leaves (i + body.size + 1 + 1) other ⊆ leaves i (ifElse head test body middle other closer rest) ∧
      leaves (i + body.size + 1 + other.size + 2) rest ⊆
        leaves i (ifElse head test body middle other closer rest) := by
  have hindex : i + 1 + body.lines.length + 1 = i + body.size + 1 + 1 := by
    rw [size]
    omega
  have hindex' : i + body.size + 1 + 1 + other.lines.length + 1 =
      i + body.size + 1 + other.size + 2 := by
    simp only [size]
    omega
  refine ⟨fun k hk => ?_, fun k hk => ?_, fun k hk => ?_⟩ <;>
    simp only [leaves, lines, indicesOf_cons, indicesOf_append, hindex, hindex'] at hk ⊢ <;>
    split <;> split <;> split <;> simp only [List.mem_cons, List.mem_append] <;> tauto

end Leaves

/-- Whether a jump starts at one of `n` lines from `i` on, and leads to one of them or right behind them,
or leaves for an exit. -/
def JumpsWithin (x leaves : List Nat) (i n k j : Nat) : Prop :=
  (i ≤ k ∧ k < i + n) ∧ ((i ≤ j ∧ j ≤ i + n) ∨ (j ∈ x ∧ k ∈ leaves))

/-- How a jump stands to a loop: from outside it leads at most to the `while`, and from inside it leads out
only if it leaves. -/
structure Respects (leaves : List Nat) (w c k j : Nat) : Prop where
  outside : k < w ∨ c < k → j ≤ w ∨ c < j
  inside : w < k → k ≤ c → (w ≤ j ∧ j ≤ c) ∨ (c < j ∧ k ∈ leaves)

theorem Respects.mono {leaves leaves' : List Nat} {w c k j : Nat} (h : Respects leaves w c k j)
    (hleaves : leaves ⊆ leaves') : Respects leaves' w c k j :=
  ⟨h.outside, fun hw hc => (h.inside hw hc).imp_right fun ⟨hj, hk⟩ => ⟨hj, hleaves hk⟩⟩

/-- Loops and jumps of `n` lines from `i` on, and how they stand to the lines, to the exits of the blocks
around and to one another. Put together, such lines are such lines again. -/
structure Segment (x leaves : List Nat) (i n : Nat) (loops jumps : Targets) : Prop where
  range : ∀ w c, (w, c) ∈ loops → i ≤ w ∧ w < c ∧ c < i + n
  within : ∀ k j, (k, j) ∈ jumps → JumpsWithin x leaves i n k j
  respects : ∀ w c k j, (w, c) ∈ loops → (k, j) ∈ jumps → Respects leaves w c k j
  forward : ∀ k j, (k, j) ∈ jumps → k < j ∨ (j, k) ∈ loops

namespace Segment

variable {x leaves leaves' : List Nat} {i i' n n' exit k j : Nat} {loops loops' jumps jumps' : Targets}

theorem empty (x leaves : List Nat) (i n : Nat) : Segment x leaves i n [] [] :=
  ⟨nofun, nofun, nofun, nofun⟩

theorem of_subset (h : Segment x leaves i n loops jumps) (hjumps : jumps' ⊆ jumps) :
    Segment x leaves i n loops jumps' :=
  ⟨h.range, fun k j hj => h.within k j (hjumps hj), fun w c k j hw hj => h.respects w c k j hw (hjumps hj),
    fun k j hj => h.forward k j (hjumps hj)⟩

theorem widen (h : Segment x leaves i n loops jumps) (hstart : i' ≤ i) (hstop : i + n ≤ i' + n')
    (hleaves : leaves ⊆ leaves') : Segment x leaves' i' n' loops jumps := by
  refine ⟨fun w c hw => ?_, fun k j hj => ?_, fun w c k j hw hj => (h.respects w c k j hw hj).mono hleaves,
    h.forward⟩
  · have hrange := h.range w c hw
    omega
  · obtain ⟨hk, hj⟩ := h.within k j hj
    refine ⟨by omega, ?_⟩
    rcases hj with hj | ⟨hj, hleave⟩
    · exact .inl (by omega)
    · exact .inr ⟨hj, hleaves hleave⟩

/-- An exit right behind the lines is no exit for those around them. -/
theorem close (h : Segment (exit :: x) leaves i n loops jumps) (hexit : exit = i + n) :
    Segment x leaves i n loops jumps := by
  refine ⟨h.range, fun k j hj => ?_, h.respects, h.forward⟩
  obtain ⟨hk, hj⟩ := h.within k j hj
  refine ⟨hk, ?_⟩
  rcases hj with hj | ⟨hj, hleave⟩
  · exact .inl hj
  · rcases List.mem_cons.mp hj with rfl | hj
    · exact .inl (by omega)
    · exact .inr ⟨hj, hleave⟩

/-- One more jump. -/
theorem cons (h : Segment x leaves i n loops jumps) (hwithin : JumpsWithin x leaves i n k j)
    (hrespects : ∀ w c, (w, c) ∈ loops → Respects leaves w c k j) (hforward : k < j ∨ (j, k) ∈ loops) :
    Segment x leaves i n loops ((k, j) :: jumps) := by
  refine ⟨h.range, fun k' j' hj => ?_, fun w c k' j' hw hj => ?_, fun k' j' hj => ?_⟩ <;>
    rcases List.mem_cons.mp hj with heq | hj
  · cases heq
    exact hwithin
  · exact h.within k' j' hj
  · cases heq
    exact hrespects w c hw
  · exact h.respects w c k' j' hw hj
  · cases heq
    exact hforward
  · exact h.forward k' j' hj

/-- One more jump, past some loops and in front of the others. -/
theorem cons_past (h : Segment x leaves i n loops jumps) (hk : i ≤ k) (hkj : k < j) (hj : j ≤ i + n)
    (hloops : ∀ w c, (w, c) ∈ loops → c < k ∨ j ≤ w ∨ (k ≤ w ∧ c < j)) :
    Segment x leaves i n loops ((k, j) :: jumps) := by
  refine h.cons ⟨by omega, .inl (by omega)⟩ (fun w c hw => ?_) (.inl hkj)
  have hrange := h.range w c hw
  have hpast := hloops w c hw
  exact ⟨fun _ => by omega, fun _ _ => by omega⟩

/-- Lines behind others. -/
theorem append {m k : Nat} (h : Segment x leaves i n loops jumps) (h' : Segment x leaves i' n' loops' jumps')
    (hstart : k ≤ i) (hmiddle : i + n ≤ i') (hstop : i' + n' ≤ k + m) (hexits : ∀ e ∈ x, k + m ≤ e) :
    Segment x leaves k m (loops ++ loops') (jumps ++ jumps') := by
  have hwide : Segment x leaves k m loops jumps := h.widen hstart (by omega) (List.Subset.refl leaves)
  have hwide' : Segment x leaves k m loops' jumps' :=
    h'.widen (by omega) hstop (List.Subset.refl leaves)
  refine ⟨fun w c hw => ?_, fun k j hj => ?_, fun w c k j hw hj => ?_, fun k j hj => ?_⟩
  · rcases List.mem_append.mp hw with hw | hw
    · exact hwide.range w c hw
    · exact hwide'.range w c hw
  · rcases List.mem_append.mp hj with hj | hj
    · exact hwide.within k j hj
    · exact hwide'.within k j hj
  · rcases List.mem_append.mp hw with hw | hw <;> rcases List.mem_append.mp hj with hj | hj
    · exact h.respects w c k j hw hj
    · have hrange := h.range w c hw
      obtain ⟨hk, hj | ⟨hj, -⟩⟩ := h'.within k j hj
      · exact ⟨fun _ => by omega, fun _ _ => by omega⟩
      · have hexit := hexits j hj
        exact ⟨fun _ => by omega, fun _ _ => by omega⟩
    · have hrange := h'.range w c hw
      obtain ⟨hk, hj | ⟨hj, -⟩⟩ := h.within k j hj
      · exact ⟨fun _ => by omega, fun _ _ => by omega⟩
      · have hexit := hexits j hj
        exact ⟨fun _ => by omega, fun _ _ => by omega⟩
    · exact h'.respects w c k j hw hj
  · rcases List.mem_append.mp hj with hj | hj
    · exact (h.forward k j hj).imp_right fun hw => List.mem_append_left _ hw
    · exact (h'.forward k j hj).imp_right fun hw => List.mem_append_right _ hw

/-- The loop around lines. -/
theorem around (h : Segment x leaves (i + 1) n loops jumps) (hexits : ∀ e ∈ x, i + n + 1 < e) :
    Segment x leaves i (n + 2) ((i, i + n + 1) :: loops) jumps := by
  have hwide : Segment x leaves i (n + 2) loops jumps :=
    h.widen (by omega) (by omega) (List.Subset.refl leaves)
  refine ⟨fun w c hw => ?_, hwide.within, fun w c k j hw hj => ?_, fun k j hj => ?_⟩
  · rcases List.mem_cons.mp hw with heq | hw
    · cases heq
      omega
    · exact hwide.range w c hw
  · rcases List.mem_cons.mp hw with heq | hw
    · cases heq
      obtain ⟨hk, hj | ⟨hj, hleave⟩⟩ := h.within k j hj
      · exact ⟨fun _ => by omega, fun _ _ => .inl (by omega)⟩
      · exact ⟨fun _ => by omega, fun _ _ => .inr ⟨hexits j hj, hleave⟩⟩
    · exact h.respects w c k j hw hj
  · exact (h.forward k j hj).imp_right fun hw => List.mem_cons_of_mem _ hw

end Segment

theorem forall_lt_of_le {x : List Nat} {m n : Nat} (h : ∀ e ∈ x, n < e) (hle : m ≤ n) : ∀ e ∈ x, m < e :=
  fun e he => hle.trans_lt (h e he)

theorem forall_le_of_lt {x : List Nat} {m n : Nat} (h : ∀ e ∈ x, n < e) (hle : m ≤ n) : ∀ e ∈ x, m ≤ e :=
  fun e he => (forall_lt_of_le h hle e he).le

/-- The loops of a tree, and the jumps that are no failing `if`. -/
theorem segment_blockTargets {t : BlockTree} {x : List Nat} {i : Nat} (ht : t.Nested x.length)
    (hexits : ∀ e ∈ x, i + t.size < e) :
    Segment x (t.leaves i) i t.size (t.loops i) (t.blockTargets x i) := by
  induction t generalizing x i with
  | done => exact .empty x _ i 0
  | blank rest ih =>
    rw [size_blank] at hexits ⊢
    have hrest := ih (x := x) (i := i + 1) ht (forall_lt_of_le hexits (by omega))
    exact hrest.widen (by omega) (by omega) (leaves_rest_subset rfl)
  | plain l rest ih =>
    rw [size_plain] at hexits ⊢
    have hrest := ih (i := i + 1) ht.2 (forall_lt_of_le hexits (by omega))
    exact hrest.widen (by omega) (by omega) (leaves_rest_subset rfl)
  | leave l levels condition rest ih =>
    rw [size_leave] at hexits ⊢
    have hleave : i ∈ leaves i (leave l levels condition rest) := by
      simp [leaves, lines, indicesOf_cons, ht.1, Statement.isLeave]
    have hjump : ∀ k j, (k, j) ∈ (x[levels - 1]?).toList.map (i, ·) → k = i ∧ j ∈ x := by
      intro k j h
      obtain ⟨e, he, heq⟩ := List.mem_map.mp h
      cases heq
      exact ⟨rfl, List.mem_of_getElem? (Option.mem_toList.mp he)⟩
    have hown : Segment x (leaves i (leave l levels condition rest)) i 1 []
        ((x[levels - 1]?).toList.map (i, ·)) := by
      refine ⟨fun _ _ h => absurd h List.not_mem_nil, fun k j h => ?_,
        fun _ _ _ _ h => absurd h List.not_mem_nil, fun k j h => ?_⟩ <;>
        obtain ⟨rfl, hj⟩ := hjump k j h
      · exact ⟨by omega, .inr ⟨hj, hleave⟩⟩
      · have := hexits j hj
        exact .inl (by omega)
    have hrest := ih (i := i + 1) ht.2.2 (forall_lt_of_le hexits (by omega))
    exact hown.append (hrest.widen le_rfl le_rfl (leaves_rest_subset rfl)) le_rfl le_rfl (by omega)
      (forall_le_of_lt hexits le_rfl)
  | embedded l skipped closer rest ih =>
    rw [size_embedded] at hexits ⊢
    have hrest := ih (i := i + skipped + 2) ht.2.2 (forall_lt_of_le hexits (by omega))
    have hwide : Segment x _ i (skipped + rest.size + 2) _ _ :=
      hrest.widen (by omega) (by omega) (leaves_embedded i l closer rest skipped)
    refine hwide.cons_past le_rfl (by omega) (by omega) fun w c hw => ?_
    exact .inr (.inl (hrest.range w c hw).1)
  | ifThen head test body closer rest ihbody ihrest =>
    rw [size_ifThen] at hexits ⊢
    obtain ⟨hleaves, hleaves'⟩ := leaves_ifThen i head closer test body rest
    have hbody := ihbody (x := (i + body.size + 2) :: x) (i := i + 1) ht.2.1
      (List.forall_mem_cons.mpr ⟨by omega, forall_lt_of_le hexits (by omega)⟩)
    have hrest := ihrest (i := i + body.size + 2) ht.2.2 (forall_lt_of_le hexits (by omega))
    have hblock : Segment x _ i (body.size + 2) _ _ := (hbody.widen (by omega) (by omega) hleaves).close rfl
    exact hblock.append (hrest.widen le_rfl le_rfl hleaves') le_rfl le_rfl (by omega)
      (forall_le_of_lt hexits le_rfl)
  | ifElse head test body middle other closer rest ihbody ihother ihrest =>
    rw [size_ifElse] at hexits ⊢
    obtain ⟨hleaves, hleaves', hleaves''⟩ := leaves_ifElse i head middle closer test body other rest
    let m := i + body.size + 1
    let exit := m + other.size + 2
    have hbody := ihbody (x := exit :: x) (i := i + 1) ht.2.1
      (List.forall_mem_cons.mpr ⟨by omega, forall_lt_of_le hexits (by omega)⟩)
    have hother := ihother (x := exit :: x) (i := m + 1) ht.2.2.1
      (List.forall_mem_cons.mpr ⟨by omega, forall_lt_of_le hexits (by omega)⟩)
    have hrest := ihrest (i := exit) ht.2.2.2 (forall_lt_of_le hexits (by omega))
    have hbranches : Segment (exit :: x) _ i (body.size + other.size + 3) _ _ :=
      (hbody.widen le_rfl le_rfl hleaves).append (hother.widen le_rfl le_rfl hleaves')
        (by omega) (by omega) (by omega)
        (List.forall_mem_cons.mpr ⟨by omega, forall_le_of_lt hexits (by omega)⟩)
    -- The `else` jumps past the first branch and over the second one.
    have helse : Segment (exit :: x) _ i (body.size + other.size + 3) _ ((m, exit) :: _) :=
      hbranches.cons_past (by omega) (by omega) (by omega) fun w c hw => by
        rcases List.mem_append.mp hw with hw | hw
        · have := hbody.range w c hw
          omega
        · have := hother.range w c hw
          omega
    have hboth := (helse.close (by omega)).append (hrest.widen le_rfl le_rfl hleaves'')
      le_rfl (by omega) (by omega) (forall_le_of_lt hexits le_rfl)
    rw [loops, ← List.append_assoc]
    refine hboth.of_subset fun p hp => ?_
    simp only [blockTargets, List.mem_append, List.mem_cons] at hp ⊢
    tauto
  | loop head test body closer rest ihbody ihrest =>
    rw [size_loop] at hexits ⊢
    obtain ⟨hleaves, hleaves'⟩ := leaves_loop i head closer test body rest
    have hbody := ihbody (x := (i + body.size + 2) :: x) (i := i + 1) ht.2.1
      (List.forall_mem_cons.mpr ⟨by omega, forall_lt_of_le hexits (by omega)⟩)
    have hrest := ihrest (i := i + body.size + 2) ht.2.2 (forall_lt_of_le hexits (by omega))
    have haround : Segment ((i + body.size + 2) :: x) _ i (body.size + 2) _ _ :=
      (hbody.widen le_rfl le_rfl hleaves).around
        (List.forall_mem_cons.mpr ⟨by omega, forall_lt_of_le hexits (by omega)⟩)
    -- The `while` jumps over the loop, and the `endwhile` jumps back to it.
    have hover : Segment _ _ _ _ _ ((i, i + body.size + 2) :: _) :=
      haround.cons_past le_rfl (by omega) le_rfl fun w c hw => by
        have := haround.range w c hw
        omega
    have hback : Segment _ _ _ _ _ ((i + body.size + 1, i) :: _) :=
      hover.cons ⟨by omega, .inl (by omega)⟩
        (fun w c hw => by
          rcases List.mem_cons.mp hw with heq | hw
          · cases heq
            exact ⟨fun _ => by omega, fun _ _ => by omega⟩
          · have := hbody.range w c hw
            exact ⟨fun _ => by omega, fun _ _ => by omega⟩)
        (.inr List.mem_cons_self)
    have hboth := (hback.close rfl).append (hrest.widen le_rfl le_rfl hleaves')
      le_rfl le_rfl (by omega) (forall_le_of_lt hexits le_rfl)
    refine hboth.of_subset fun p hp => ?_
    simp only [blockTargets, List.mem_append, List.mem_cons] at hp ⊢
    tauto

/-- The loops of a tree, and what its failing `if` statements jump. -/
theorem segment_ifTargets (t : BlockTree) (i : Nat) :
    Segment [] [] i t.size (t.loops i) (t.ifTargets i) := by
  have hsame : ([] : List Nat) ⊆ [] := List.Subset.refl []
  induction t generalizing i with
  | done => exact .empty [] [] i 0
  | blank rest ih | plain _ rest ih | leave _ _ _ rest ih =>
    exact (ih (i + 1)).widen (by omega) (by simp; omega) hsame
  | embedded _ skipped _ rest ih => exact (ih (i + skipped + 2)).widen (by omega) (by simp; omega) hsame
  | ifThen _ _ body _ rest ihbody ihrest =>
    rw [size_ifThen]
    have hbody := ihbody (i + 1)
    have hrest := ihrest (i + body.size + 2)
    have hboth := hbody.append hrest (k := i) (m := body.size + rest.size + 2)
      (by omega) (by omega) (by omega) nofun
    refine hboth.cons_past le_rfl (by omega) (by omega) fun w c hw => ?_
    rcases List.mem_append.mp hw with hw | hw
    · have := hbody.range w c hw
      omega
    · have := hrest.range w c hw
      omega
  | ifElse _ _ body _ other _ rest ihbody ihother ihrest =>
    rw [size_ifElse]
    have hbody := ihbody (i + 1)
    have hother := ihother (i + body.size + 1 + 1)
    have hrest := ihrest (i + body.size + 1 + other.size + 2)
    have hbehind := hother.append hrest le_rfl (m := other.size + rest.size + 1)
      (by omega) (by omega) nofun
    have hall := hbody.append hbehind (k := i) (m := body.size + other.size + rest.size + 3)
      (by omega) (by omega) (by omega) nofun
    refine hall.cons_past le_rfl (by omega) (by omega) fun w c hw => ?_
    rcases List.mem_append.mp hw with hw | hw
    · have := hbody.range w c hw
      omega
    · have := hbehind.range w c hw
      omega
  | loop _ _ body _ rest ihbody ihrest =>
    rw [size_loop]
    exact ((ihbody (i + 1)).around nofun).append (ihrest (i + body.size + 2)) le_rfl le_rfl (by omega) nofun

section
variable {t : BlockTree} {x : List Nat} {i w c k j : Nat}

theorem loops_range (h : (w, c) ∈ t.loops i) : i ≤ w ∧ w < c ∧ c < i + t.size :=
  (t.segment_ifTargets i).range w c h

theorem respects_blockTargets (ht : t.Nested x.length) (hexits : ∀ e ∈ x, i + t.size < e)
    (hloop : (w, c) ∈ t.loops i) (hjump : (k, j) ∈ t.blockTargets x i) : Respects (t.leaves i) w c k j :=
  (segment_blockTargets ht hexits).respects w c k j hloop hjump

/-- A failing `if` stays in all loops around it and enters none. -/
theorem respects_ifTargets (hloop : (w, c) ∈ t.loops i) (hjump : (k, j) ∈ t.ifTargets i) :
    Respects [] w c k j :=
  (t.segment_ifTargets i).respects w c k j hloop hjump

/-- Only from the end of a loop to its start is there a jump back. -/
theorem forward_or_mem_loops (ht : t.Nested x.length) (hexits : ∀ e ∈ x, i + t.size < e)
    (hjump : (k, j) ∈ t.blockTargets x i) : k < j ∨ (j, k) ∈ t.loops i :=
  (segment_blockTargets ht hexits).forward k j hjump

end

end BlockTree

end LineScript
