import LineScript.Proofs.Regex.Matching

/-! What a search finds are the ends of a match, and it finds one whenever there is one. -/
namespace LineScript.Regex

/-- Whether a machine records neither end of the whole match. -/
def Node.Quiet : Node → Prop
  | .mark _ slot => 2 ≤ slot
  | .cat a b | .alt _ a b => a.Quiet ∧ b.Quiet
  | .loop _ _ a => a.Quiet
  | .set .. | .look .. | .skip => True

/-- How far a thread of a whole machine has come: where it started, and what the body still has to match. -/
inductive Spans (start : Place) (body : Node) (p : Place) : List Node → List (Nat × Nat) → Prop
  | fresh : Spans start body p [.cat (.mark 0 0) (.cat body (.mark 1 1))] []
  | entered : Spans start body p [.mark 0 0, .cat body (.mark 1 1)] []
  | started {marks : List (Nat × Nat)} : marks.lookup 0 = some p.offset →
      Spans start body p [.cat body (.mark 1 1)] marks
  | inside {o : Place} {k : List Node} {marks : List (Nat × Nat)} : start.Ahead o →
      marks.lookup 0 = some o.offset → (∀ n ∈ k, n.Quiet) → (∀ q, Leads k p q → body.Matches o q) →
      Spans start body p (k ++ [.mark 1 1]) marks
  | ended {o : Place} {marks : List (Nat × Nat)} : start.Ahead o → marks.lookup 0 = some o.offset →
      marks.lookup 1 = some p.offset → body.Matches o p → Spans start body p [] marks

section Spans

variable {start p q : Place} {body : Node} {t u : Thread} {k tail : List Node} {marks : List (Nat × Nat)}

/-- What stands behind a state has no part in how it goes on. -/
theorem Thread.next_append (n : Node) :
    Thread.next p ⟨n :: k ++ tail, marks⟩ =
      (Thread.next p ⟨n :: k, marks⟩).map fun u => ⟨u.todo ++ tail, u.marks⟩ := by
  cases n with
  | look label l =>
    simp only [Thread.next, List.cons_append]
    split <;> rfl
  | loop label greedy a => cases greedy <;> rfl
  | set | mark | skip | cat | alt => rfl

theorem Follow.quiet (hf : Follow p t u) (ht : ∀ n ∈ t.todo, n.Quiet) :
    (∀ n ∈ u.todo, n.Quiet) ∧ u.marks.lookup 0 = t.marks.lookup 0 := by
  cases hf with
  | look htodo | skip htodo | done htodo =>
    rw [htodo] at ht
    exact ⟨(List.forall_mem_cons.mp ht).2, rfl⟩
  | mark htodo =>
    rw [htodo] at ht
    obtain ⟨hslot, hk⟩ := List.forall_mem_cons.mp ht
    have hne : 0 ≠ _ := Nat.ne_of_lt (Nat.lt_of_lt_of_le Nat.two_pos hslot)
    refine ⟨hk, ?_⟩
    rw [List.lookup_cons, beq_eq_false_iff_ne.mpr hne]
  | cat htodo =>
    rw [htodo] at ht
    obtain ⟨⟨ha, hb⟩, hk⟩ := List.forall_mem_cons.mp ht
    exact ⟨List.forall_mem_cons.mpr ⟨ha, List.forall_mem_cons.mpr ⟨hb, hk⟩⟩, rfl⟩
  | left htodo =>
    rw [htodo] at ht
    obtain ⟨⟨ha, -⟩, hk⟩ := List.forall_mem_cons.mp ht
    exact ⟨List.forall_mem_cons.mpr ⟨ha, hk⟩, rfl⟩
  | right htodo =>
    rw [htodo] at ht
    obtain ⟨⟨-, hb⟩, hk⟩ := List.forall_mem_cons.mp ht
    exact ⟨List.forall_mem_cons.mpr ⟨hb, hk⟩, rfl⟩
  | again htodo =>
    rw [htodo] at ht
    exact ⟨List.forall_mem_cons.mpr ⟨(List.forall_mem_cons.mp ht).1, ht⟩, rfl⟩

theorem Spans.next (h : Spans start body p t.todo t.marks) (hp : start.Ahead p) (hbody : body.Quiet)
    (hu : u ∈ t.next p) : Spans start body p u.todo u.marks := by
  obtain ⟨todo, marks⟩ := t
  dsimp only at h
  cases h with
  | fresh =>
    rw [List.mem_singleton.mp hu]
    exact .entered
  | entered =>
    rw [List.mem_singleton.mp hu]
    exact .started List.lookup_cons_self
  | started hstart =>
    rw [List.mem_singleton.mp hu]
    exact .inside (k := [body]) hp hstart (by simpa using hbody) fun q ⟨m, hm, hq⟩ => hq ▸ hm
  | @inside o k _ ho hstart hk hleads =>
    cases k with
    | nil =>
      rw [List.mem_singleton.mp hu]
      exact .ended ho (by simpa [List.lookup_cons] using hstart) List.lookup_cons_self (hleads p rfl)
    | cons n k =>
      rw [Thread.next_append] at hu
      obtain ⟨v, hv, rfl⟩ := List.mem_map.mp hu
      have hf := Thread.mem_next_iff.mp hv
      obtain ⟨hquiet, hmarks⟩ := hf.quiet hk
      exact .inside ho (hmarks.trans hstart) hquiet fun q hq => hleads q (hf.leads hq)
  | ended => cases hu

theorem Spans.take {c : Char} {cs : List Char} (h : Spans start body p t.todo t.marks) (hrest : p.rest = c :: cs)
    (hu : t.take? c = some u) : Spans start body (p.step c cs) u.todo u.marks := by
  obtain ⟨label, s, k', htodo, hs, rfl⟩ := Thread.take?_eq_some_iff.mp hu
  obtain ⟨todo, marks⟩ := t
  dsimp only at h htodo
  subst htodo
  generalize hx : Node.set label s :: k' = x at h
  cases h with
  | fresh | entered | started | ended => cases hx
  | @inside o k _ ho hstart hk hleads =>
    cases k with
    | nil => cases hx
    | cons n k =>
      cases hx
      exact .inside ho hstart (List.forall_mem_cons.mp hk).2 fun q hq =>
        hleads q ⟨p.step c cs, ⟨c, cs, hrest, hs, rfl⟩, hq⟩

theorem Spans.of_nil (h : Spans start body p k marks) (hk : k = []) : ∃ o, start.Ahead o ∧ body.Matches o p ∧
    marks.lookup 0 = some o.offset ∧ marks.lookup 1 = some p.offset := by
  cases h with
  | ended ho hstart hstop hmatches => exact ⟨_, ho, hmatches, hstart, hstop⟩
  | inside => simp at hk
  | fresh | entered | started => cases hk

/-- The match that a run of a whole machine ends with is one of its body. -/
theorem advance_spans (hbody : body.Quiet) {t : Thread}
    (h : advance (.cat (.mark 0 0) (.cat body (.mark 1 1))) start.rest start [] none = some t) :
    ∃ p q, start.Ahead p ∧ body.Matches p q ∧ t.mark? 0 = some p.offset ∧ t.mark? 1 = some q.offset := by
  obtain ⟨q, -, hspans, htodo⟩ := advance_keeps (Q := start.Ahead)
    (P := fun p t => Spans start body p t.todo t.marks)
    (fun p c rest hp hrest => hp.step hrest) (fun p => .fresh)
    (fun p t u hp ht hf => ht.next hp hbody (Thread.mem_next_iff.mpr hf))
    (fun p t u c rest hrest ht hu => ht.take hrest hu)
    start.rest start [] none ⟨[], .nil⟩ rfl (fun t ht => nomatch ht) (fun t ht => nomatch ht) h
  obtain ⟨o, ho, hmatches, hmarks⟩ := hspans.of_nil htodo
  exact ⟨o, q, ho, hmatches, hmarks⟩

end Spans

section Quiet

variable {make last : Labeled Node} {n : Nat}

theorem quiet_copies (hmake : ∀ label, (make.run label).1.Quiet) (hlast : ∀ label, (last.run label).1.Quiet)
    (n : Nat) : ∀ label, ((copies make n last).run label).1.Quiet := by
  induction n with
  | zero => exact hlast
  | succ n ih => exact fun label => ⟨hmake label, ih _⟩

theorem quiet_upTo (hmake : ∀ label, (make.run label).1.Quiet) (greedy : Bool) (n : Nat) :
    ∀ label, ((upTo make greedy n).run label).1.Quiet := by
  induction n with
  | zero => exact fun _ => trivial
  | succ n ih =>
    intro label
    cases greedy
    · exact ⟨trivial, hmake _, ih _⟩
    · exact ⟨⟨hmake _, ih _⟩, trivial⟩

theorem quiet_rounds (hmake : ∀ label, (make.run label).1.Quiet) (greedy : Bool) :
    ∀ label, ((rounds make greedy).run label).1.Quiet :=
  fun label => ⟨hmake label, hmake label⟩

theorem quiet_anyRounds (hmake : ∀ label, (make.run label).1.Quiet) (greedy consumes : Bool) :
    ∀ label, ((anyRounds make greedy consumes).run label).1.Quiet := by
  intro label
  cases consumes
  · cases greedy
    · exact ⟨trivial, quiet_rounds hmake false label⟩
    · exact ⟨quiet_rounds hmake true label, trivial⟩
  · exact hmake label

/-- Only the ends of groups are recorded by the machine of an expression. -/
theorem Syntax.quiet_toNode {r : Syntax} (hr : r.WellFormed) : ∀ label, (r.toNode.run label).1.Quiet := by
  induction r with
  | empty | set | look => exact fun _ => trivial
  | cat a b iha ihb | alt a b iha ihb => exact fun label => ⟨iha hr.1 _, ihb hr.2 _⟩
  | group i r ih =>
    have hi := hr.1
    exact fun label => ⟨by change 2 ≤ 2 * i; omega, ih hr.2 _, by change 2 ≤ 2 * i + 1; omega⟩
  | repeated r low high greedy ih =>
    have hbody := ih hr.2
    unfold Syntax.toNode
    split
    · exact quiet_anyRounds hbody greedy _
    · exact quiet_copies hbody (quiet_rounds hbody greedy) _
    · exact quiet_copies hbody (quiet_upTo hbody greedy _) _

end Quiet

/-- The text from the start on, as a place. -/
theorem Place.seek_zero (cs : List Char) : Place.seek cs 0 = ⟨none, cs, 0⟩ := by
  simp [Place.seek]

/-- A search finds something exactly if there is a match at or behind the place where it starts, and what it finds are
the ends of one. -/
theorem search?_matches {r : Syntax} (hr : r.WellFormed) (groupCount : Nat) (cs : List Char) (start : Nat) :
    ((search? r.machine groupCount cs start).isSome = true ↔
      ∃ p, (Place.seek cs start).Ahead p ∧ ∃ q, r.Matches p q) ∧
    ∀ w, search? r.machine groupCount cs start = some w →
      ∃ p q, (Place.seek cs start).Ahead p ∧ r.Matches p q ∧ w.start = p.offset ∧ w.stop = q.offset := by
  have hfound : ∀ w, search? r.machine groupCount cs start = some w →
      ∃ p q, (Place.seek cs start).Ahead p ∧ r.Matches p q ∧ w.start = p.offset ∧ w.stop = q.offset := by
    intro w hw
    obtain ⟨t, ht, rfl⟩ := Option.map_eq_some_iff.mp hw
    obtain ⟨p, q, hp, hmatches, hstart, hstop⟩ := advance_spans (Syntax.quiet_toNode hr 1) ht
    refine ⟨p, q, hp, (Syntax.denotes_toNode hr 1 p q).mp hmatches, ?_⟩
    simp only [Nat.mul_zero, Nat.zero_add, hstart, hstop, Option.getD_some, and_self]
  refine ⟨⟨fun h => ?_, fun ⟨p, hp, q, hq⟩ => ?_⟩, hfound⟩
  · obtain ⟨w, hw⟩ := Option.isSome_iff_exists.mp h
    obtain ⟨p, q, hp, hmatches, -⟩ := hfound w hw
    exact ⟨p, hp, q, hmatches⟩
  · have hroot : r.machine.Matches p q := ⟨p, rfl, q, (Syntax.denotes_toNode hr 1 p q).mpr hq, rfl⟩
    unfold search?
    rw [Option.isSome_map]
    exact advance_isSome (fun t ht => nomatch ht) rfl (.inr ⟨p, hp, q, hroot⟩)

end LineScript.Regex
