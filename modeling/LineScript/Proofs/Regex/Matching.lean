import LineScript.Proofs.Regex.Bounds
import LineScript.Proofs.Regex.Language
import Mathlib.Data.List.Perm.Subperm

/-! A run of a machine ends with a match whenever there is one. Threads in a state that was seen at a place may be
dropped there, since what has been seen is closed under going on. -/
namespace LineScript.Regex

/-- Whether machines one behind the other match what stands between two places. -/
def Leads : List Node → Place → Place → Prop
  | [], p, q => q = p
  | n :: k, p, q => ∃ m, n.Matches p m ∧ Leads k m q

/-- The threads that a thread goes on as without taking a character, the preferred one first. -/
def Thread.next (p : Place) (t : Thread) : List Thread :=
  match t.todo with
  | [] => []
  | .set .. :: _ => []
  | .look _ l :: k => if l.holds p.prev p.rest.head? then [⟨k, t.marks⟩] else []
  | .mark _ slot :: k => [⟨k, (slot, p.offset) :: t.marks⟩]
  | .skip :: k => [⟨k, t.marks⟩]
  | .cat a b :: k => [⟨a :: b :: k, t.marks⟩]
  | .alt _ a b :: k => [⟨a :: k, t.marks⟩, ⟨b :: k, t.marks⟩]
  | .loop label greedy a :: k =>
    let again : Thread := ⟨a :: .loop label greedy a :: k, t.marks⟩
    let done : Thread := ⟨k, t.marks⟩
    if greedy then [again, done] else [done, again]

/-- Whether a thread waits for a character. -/
def Thread.Waits (t : Thread) : Prop :=
  ∃ label s k, t.todo = .set label s :: k

/-- What can be left to match behind a part of what was left. -/
inductive Successor : List Node → List Node → Prop
  | drop {n : Node} {k : List Node} : Successor (n :: k) k
  | cat {a b : Node} {k : List Node} : Successor (.cat a b :: k) (a :: b :: k)
  | left {label : Nat} {a b : Node} {k : List Node} : Successor (.alt label a b :: k) (a :: k)
  | right {label : Nat} {a b : Node} {k : List Node} : Successor (.alt label a b :: k) (b :: k)
  | again {label : Nat} {greedy : Bool} {a : Node} {k : List Node} :
      Successor (.loop label greedy a :: k) (a :: .loop label greedy a :: k)

/-- The states of a machine with something behind it. -/
def Node.states : Node → List Node → List (List Node)
  | .cat a b, k => (.cat a b :: k) :: (a.states (b :: k) ++ b.states k)
  | .alt label a b, k => (.alt label a b :: k) :: (a.states k ++ b.states k)
  | .loop label greedy a, k => (.loop label greedy a :: k) :: a.states (.loop label greedy a :: k)
  | .set label s, k => [.set label s :: k]
  | .look label l, k => [.look label l :: k]
  | .mark label slot, k => [.mark label slot :: k]
  | .skip, k => [.skip :: k]

section Leads

variable {p q : Place} {k k' : List Node}

theorem leads_append : Leads (k ++ k') p q ↔ ∃ m, Leads k p m ∧ Leads k' m q := by
  induction k generalizing p with
  | nil => simp [Leads]
  | cons n k ih =>
    simp only [List.cons_append, Leads, ih]
    constructor
    · rintro ⟨m, hm, m', hk, hk'⟩
      exact ⟨m', ⟨m, hm, hk⟩, hk'⟩
    · rintro ⟨m', ⟨m, hm, hk⟩, hk'⟩
      exact ⟨m, hm, m', hk, hk'⟩

/-- What a thread goes on as can match no more than the thread. -/
theorem Follow.leads {t u : Thread} (hf : Follow p t u) (h : Leads u.todo p q) : Leads t.todo p q := by
  cases hf with
  | look htodo hl =>
    rw [htodo]
    exact ⟨p, ⟨hl, rfl⟩, h⟩
  | mark htodo | skip htodo =>
    rw [htodo]
    exact ⟨p, rfl, h⟩
  | cat htodo =>
    rw [htodo]
    obtain ⟨m, hm, m', hm', h⟩ := h
    exact ⟨m', ⟨m, hm, hm'⟩, h⟩
  | left htodo =>
    rw [htodo]
    obtain ⟨m, hm, h⟩ := h
    exact ⟨m, .inl hm, h⟩
  | right htodo =>
    rw [htodo]
    obtain ⟨m, hm, h⟩ := h
    exact ⟨m, .inr hm, h⟩
  | again htodo =>
    rw [htodo]
    obtain ⟨m, hm, m', ⟨n, hn⟩, h⟩ := h
    exact ⟨m', ⟨n + 1, m, hm, hn⟩, h⟩
  | done htodo =>
    rw [htodo]
    exact ⟨p, ⟨0, rfl⟩, h⟩

theorem Thread.mem_next_iff {t u : Thread} : u ∈ t.next p ↔ Follow p t u := by
  constructor
  · intro hu
    obtain ⟨todo, marks⟩ := t
    match todo with
    | [] | .set .. :: _ => cases hu
    | .look _ l :: k =>
      unfold Thread.next at hu
      dsimp only at hu
      split at hu
      · rename_i hl
        rw [List.mem_singleton.mp hu]
        exact .look rfl hl
      · cases hu
    | .mark .. :: k =>
      rw [List.mem_singleton.mp hu]
      exact .mark rfl
    | .skip :: k =>
      rw [List.mem_singleton.mp hu]
      exact .skip rfl
    | .cat a b :: k =>
      rw [List.mem_singleton.mp hu]
      exact .cat rfl
    | .alt _ a b :: k =>
      rcases List.mem_pair.mp hu with rfl | rfl
      · exact .left rfl
      · exact .right rfl
    | .loop label greedy a :: k =>
      cases greedy
      · rcases List.mem_pair.mp hu with rfl | rfl
        · exact .done rfl
        · exact .again rfl
      · rcases List.mem_pair.mp hu with rfl | rfl
        · exact .again rfl
        · exact .done rfl
  · intro hf
    unfold Thread.next
    cases hf with
    | look htodo hl =>
      rw [htodo]
      simp [hl]
    | again htodo | done htodo =>
      rw [htodo]
      dsimp only
      split <;> simp
    | mark htodo | skip htodo | cat htodo | left htodo | right htodo =>
      rw [htodo]
      simp

theorem Thread.take?_eq_some_iff {t u : Thread} {c : Char} : t.take? c = some u ↔
    ∃ label s k, t.todo = .set label s :: k ∧ s.holds c = true ∧ u = ⟨k, t.marks⟩ := by
  unfold Thread.take?
  constructor
  · intro h
    split at h
    · rename_i label s k htodo
      split at h
      · rename_i hs
        cases h
        exact ⟨label, s, k, htodo, hs, rfl⟩
      · cases h
    · cases h
  · rintro ⟨label, s, k, htodo, hs, rfl⟩
    rw [htodo]
    exact if_pos hs

end Leads

section States

variable {n : Node} {k : List Node} {p : Place} {t u : Thread}

theorem Node.length_states (n : Node) (k : List Node) : (n.states k).length = n.size := by
  induction n generalizing k with
  | cat a b iha ihb | alt _ a b iha ihb => simp [Node.states, Node.size, iha, ihb]
  | loop _ _ a ih => simp [Node.states, Node.size, ih]
  | set | look | mark | skip => rfl

theorem Node.mem_states_self (n : Node) (k : List Node) : n :: k ∈ n.states k := by
  cases n <;> simp [Node.states]

/-- A machine stays in its states until it is done. -/
theorem Successor.mem_states {x y : List Node} (hxy : Successor x y) (h : x ∈ n.states k) :
    y ∈ n.states k ∨ y = k := by
  induction n generalizing k with
  | set | look | mark | skip =>
    obtain rfl := List.mem_singleton.mp h
    cases hxy
    exact .inr rfl
  | cat a b iha ihb =>
    rcases List.mem_cons.mp h with rfl | h
    · cases hxy with
      | drop => exact .inr rfl
      | cat => exact .inl (List.mem_cons_of_mem _ (List.mem_append_left _ (a.mem_states_self _)))
    · rcases List.mem_append.mp h with h | h
      · rcases iha h with hy | rfl
        · exact .inl (List.mem_cons_of_mem _ (List.mem_append_left _ hy))
        · exact .inl (List.mem_cons_of_mem _ (List.mem_append_right _ (b.mem_states_self _)))
      · exact (ihb h).imp_left fun hy => List.mem_cons_of_mem _ (List.mem_append_right _ hy)
  | alt label a b iha ihb =>
    rcases List.mem_cons.mp h with rfl | h
    · cases hxy with
      | drop => exact .inr rfl
      | left => exact .inl (List.mem_cons_of_mem _ (List.mem_append_left _ (a.mem_states_self _)))
      | right => exact .inl (List.mem_cons_of_mem _ (List.mem_append_right _ (b.mem_states_self _)))
    · rcases List.mem_append.mp h with h | h
      · exact (iha h).imp_left fun hy => List.mem_cons_of_mem _ (List.mem_append_left _ hy)
      · exact (ihb h).imp_left fun hy => List.mem_cons_of_mem _ (List.mem_append_right _ hy)
  | loop label greedy a ih =>
    rcases List.mem_cons.mp h with rfl | h
    · cases hxy with
      | drop => exact .inr rfl
      | again => exact .inl (List.mem_cons_of_mem _ (a.mem_states_self _))
    · rcases ih h with hy | rfl
      · exact .inl (List.mem_cons_of_mem _ hy)
      · exact .inl List.mem_cons_self

theorem Follow.successor (hf : Follow p t u) : Successor t.todo u.todo := by
  cases hf with
  | look htodo | mark htodo | skip htodo | done htodo =>
    rw [htodo]
    exact .drop
  | cat htodo =>
    rw [htodo]
    exact .cat
  | left htodo =>
    rw [htodo]
    exact .left
  | right htodo =>
    rw [htodo]
    exact .right
  | again htodo =>
    rw [htodo]
    exact .again

theorem Thread.successor_of_take? {c : Char} (hu : t.take? c = some u) : Successor t.todo u.todo := by
  obtain ⟨label, s, k, htodo, -, rfl⟩ := take?_eq_some_iff.mp hu
  rw [htodo]
  exact .drop

/-- Whether a state is one of a machine or its end. -/
def Node.Has (root : Node) (k : List Node) : Prop :=
  k ∈ [] :: root.states []

theorem Node.Has.successor {root : Node} {x y : List Node} (h : root.Has x) (hxy : Successor x y) : root.Has y := by
  rcases List.mem_cons.mp h with rfl | h
  · cases hxy
  · rcases hxy.mem_states h with hy | rfl
    · exact List.mem_cons_of_mem _ hy
    · exact List.mem_cons_self

theorem Node.has_self (root : Node) : root.Has [root] :=
  List.mem_cons_of_mem _ (root.mem_states_self [])

/-- States of a machine, each at most once, are not more than it has nodes, and its end. -/
theorem Node.length_le_of_has {root : Node} {ks : List (List Node)} (hnodup : ks.Nodup) (h : ∀ k ∈ ks, root.Has k) :
    ks.length ≤ root.size + 1 := by
  have hle := (List.subperm_of_subset hnodup h).length_le
  rwa [List.length_cons, root.length_states] at hle

end States

/-- What has been done of following threads at a place: where a state that was seen goes on to has been seen too or is
still to be followed, it is among the waiting ones if it waits, and it is not the end. -/
structure Visited (p : Place) (seen : List (List Node)) (ts ready : List Thread) : Prop where
  closed : ∀ t : Thread, t.todo ∈ seen → ∀ u ∈ t.next p, u.todo ∈ seen ∨ ∃ v ∈ ts, v.todo = u.todo
  ready : ∀ t : Thread, t.todo ∈ seen → t.Waits → ∃ v ∈ ready, v.todo = t.todo
  unfinished : [] ∉ seen

section Settle

variable {root : Node} {p : Place} {fuel : Nat} {t : Thread} {ts ready : List Thread} {seen : List (List Node)}

theorem Thread.length_next_le (p : Place) (t : Thread) : (t.next p).length ≤ 2 := by
  unfold Thread.next
  split
  all_goals try split
  all_goals simp

/-- What a thread goes on as depends on its state only. -/
theorem Thread.exists_next {t' u : Thread} (htodo : t'.todo = t.todo) (hu : u ∈ t'.next p) :
    ∃ v ∈ t.next p, v.todo = u.todo := by
  have hnext : (t'.next p).map Thread.todo = (t.next p).map Thread.todo := by
    unfold Thread.next
    rw [htodo]
    split
    all_goals try split
    all_goals rfl
  obtain ⟨v, hv, hvu⟩ := List.mem_map.mp (hnext ▸ List.mem_map_of_mem hu)
  exact ⟨v, hv, hvu⟩

/-- A thread in a state that has not been seen is done, or what it goes on as comes next. -/
theorem settle_cons (p : Place) (fuel : Nat) (ts ready : List Thread) (hseen : t.todo ∉ seen) :
    (settle p (fuel + 1) (t :: ts) seen ready).2.isSome = true ∨ t.todo ≠ [] ∧ ∃ ready',
      settle p (fuel + 1) (t :: ts) seen ready = settle p fuel (t.next p ++ ts) (t.todo :: seen) ready' ∧
      (∀ v ∈ ready, v ∈ ready') ∧ (t.Waits → t ∈ ready') := by
  have hcontains : ¬seen.contains t.todo = true := by simpa using hseen
  rw [settle, if_neg hcontains]
  obtain ⟨todo, marks⟩ := t
  match todo with
  | [] => exact .inl rfl
  | .set .. :: _ =>
    refine .inr ⟨by simp, ⟨_, marks⟩ :: ready, rfl, fun v hv => ?_, fun _ => List.mem_cons_self⟩
    exact List.mem_cons_of_mem _ hv
  | .look _ l :: k =>
    refine .inr ⟨by simp, ready, ?_, fun v hv => hv, fun ⟨_, _, _, h⟩ => nomatch h⟩
    unfold Thread.next
    dsimp only
    split <;> rfl
  | .mark .. :: _ | .skip :: _ | .cat .. :: _ | .alt .. :: _ =>
    exact .inr ⟨by simp, ready, rfl, fun v hv => hv, fun ⟨_, _, _, h⟩ => nomatch h⟩
  | .loop label greedy a :: k =>
    refine .inr ⟨by simp, ready, ?_, fun v hv => hv, fun ⟨_, _, _, h⟩ => nomatch h⟩
    cases greedy <;> rfl

theorem Visited.start (p : Place) (ts : List Thread) : Visited p [] ts [] :=
  ⟨fun _ h => (nomatch h), fun _ h => (nomatch h), fun h => nomatch h⟩

theorem Visited.skip (h : Visited p seen (t :: ts) ready) (hseen : t.todo ∈ seen) : Visited p seen ts ready := by
  refine ⟨fun t' ht' u hu => ?_, h.ready, h.unfinished⟩
  rcases h.closed t' ht' u hu with hseen' | ⟨v, hv, hvu⟩
  · exact .inl hseen'
  · rcases List.mem_cons.mp hv with rfl | hv
    · exact .inl (hvu ▸ hseen)
    · exact .inr ⟨v, hv, hvu⟩

theorem Visited.visit {ready' : List Thread} (h : Visited p seen (t :: ts) ready) (hne : t.todo ≠ [])
    (hready : ∀ v ∈ ready, v ∈ ready') (hwaits : t.Waits → t ∈ ready') :
    Visited p (t.todo :: seen) (t.next p ++ ts) ready' := by
  constructor
  · intro t' ht' u hu
    rcases List.mem_cons.mp ht' with htodo | ht'
    · obtain ⟨v, hv, hvu⟩ := Thread.exists_next htodo hu
      exact .inr ⟨v, List.mem_append_left _ hv, hvu⟩
    · rcases h.closed t' ht' u hu with hseen | ⟨v, hv, hvu⟩
      · exact .inl (List.mem_cons_of_mem _ hseen)
      · rcases List.mem_cons.mp hv with rfl | hv
        · exact .inl (hvu ▸ List.mem_cons_self)
        · exact .inr ⟨v, List.mem_append_right _ hv, hvu⟩
  · intro t' ht' hw
    rcases List.mem_cons.mp ht' with htodo | ht'
    · have htw : t.Waits := by
        unfold Thread.Waits at hw ⊢
        rwa [htodo] at hw
      exact ⟨t, hwaits htw, htodo.symm⟩
    · obtain ⟨v, hv, hvt⟩ := h.ready t' ht' hw
      exact ⟨v, hready v hv, hvt⟩
  · intro hnil
    rcases List.mem_cons.mp hnil with hnil | hnil
    · exact hne hnil.symm
    · exact h.unfinished hnil

/-- Unless an end is found, all states that can be reached are seen. The fuel is enough, since a step either drops a
thread or sees one of the states that are left. -/
theorem Visited.settle (h : Visited p seen ts ready) (hnodup : seen.Nodup) (hseen : ∀ k ∈ seen, root.Has k)
    (hts : ∀ t ∈ ts, root.Has t.todo) (hfuel : ts.length + 2 * (root.size + 1 - seen.length) < fuel)
    (hnone : (Regex.settle p fuel ts seen ready).2 = none) :
    ∃ seen', (∀ k ∈ seen, k ∈ seen') ∧ (∀ t ∈ ts, t.todo ∈ seen') ∧
      Visited p seen' [] (Regex.settle p fuel ts seen ready).1 := by
  induction fuel generalizing ts seen ready with
  | zero => omega
  | succ fuel ih =>
    cases ts with
    | nil =>
      refine ⟨seen, fun _ hk => hk, fun _ ht => (nomatch ht), h.closed, fun t ht hw => ?_, h.unfinished⟩
      obtain ⟨v, hv, hvt⟩ := h.ready t ht hw
      exact ⟨v, List.mem_reverse.mpr hv, hvt⟩
    | cons t ts =>
      obtain ⟨ht, hts⟩ := List.forall_mem_cons.mp hts
      rw [List.length_cons] at hfuel
      by_cases hmem : t.todo ∈ seen
      · have hsettle : Regex.settle p (fuel + 1) (t :: ts) seen ready = Regex.settle p fuel ts seen ready := by
          rw [Regex.settle, if_pos (by simpa using hmem)]
        rw [hsettle] at hnone ⊢
        obtain ⟨seen', hsub, hall, hvisited⟩ := ih (h.skip hmem) hnodup hseen hts (by omega) hnone
        exact ⟨seen', hsub, List.forall_mem_cons.mpr ⟨hsub _ hmem, hall⟩, hvisited⟩
      · have hcases := settle_cons p fuel ts ready hmem
        rcases hcases with hsome | ⟨hne, ready', hsettle, hready, hwaits⟩
        · rw [hnone] at hsome
          cases hsome
        · rw [hsettle] at hnone ⊢
          have hnodup' : (t.todo :: seen).Nodup := List.nodup_cons.mpr ⟨hmem, hnodup⟩
          have hseen' : ∀ k ∈ t.todo :: seen, root.Has k := List.forall_mem_cons.mpr ⟨ht, hseen⟩
          have hlength := Node.length_le_of_has hnodup' hseen'
          have hnext := t.length_next_le p
          have hts' : ∀ u ∈ t.next p ++ ts, root.Has u.todo := by
            intro u hu
            rcases List.mem_append.mp hu with hu | hu
            · exact ht.successor (Thread.mem_next_iff.mp hu).successor
            · exact hts u hu
          rw [List.length_cons] at hlength
          obtain ⟨seen', hsub, hall, hvisited⟩ := ih (h.visit hne hready hwaits) hnodup' hseen' hts'
            (by rw [List.length_append, List.length_cons]; omega) hnone
          refine ⟨seen', fun k hk => hsub k (List.mem_cons_of_mem _ hk), ?_, hvisited⟩
          exact List.forall_mem_cons.mpr ⟨hsub _ List.mem_cons_self, fun u hu => hall u (List.mem_append_right _ hu)⟩

end Settle

/-- Whether states go on only to states that are among them. -/
def Closed (p : Place) (ks : List (List Node)) : Prop :=
  ∀ t : Thread, t.todo ∈ ks → ∀ u ∈ t.next p, u.todo ∈ ks

/-- Whether one of some states can take the next character, and what is left of it then matches up to a place. -/
def Takes (ks : List (List Node)) (behind : List Node) (p q : Place) : Prop :=
  ∃ label s k c cs, .set label s :: (k ++ behind) ∈ ks ∧ p.rest = c :: cs ∧ s.holds c = true ∧
    Leads k (p.step c cs) q

section Reach

variable {p q m : Place} {ks : List (List Node)} {k : List Node}

theorem Takes.trans {k' : List Node} (h : Takes ks (k ++ k') p m) (hk : Leads k m q) : Takes ks k' p q := by
  obtain ⟨label, s, k'', c, cs, hmem, hrest, hs, hleads⟩ := h
  rw [← List.append_assoc] at hmem
  exact ⟨label, s, k'' ++ k, c, cs, hmem, hrest, hs, leads_append.mpr ⟨m, hleads, hk⟩⟩

/-- Where closed states have a machine that matches, what is behind it is one of them and nothing is taken, or one of
them can take a character. -/
theorem Closed.reach (hclosed : Closed p ks) {n : Node} (hmatches : n.Matches p q) (hmem : n :: k ∈ ks) :
    q = p ∧ k ∈ ks ∨ Takes ks k p q := by
  induction n generalizing k q with
  | set label s =>
    obtain ⟨c, cs, hrest, hs, rfl⟩ := hmatches
    exact .inr ⟨label, s, [], c, cs, hmem, hrest, hs, rfl⟩
  | look label l =>
    obtain ⟨hl, rfl⟩ := hmatches
    refine .inl ⟨rfl, hclosed ⟨_, []⟩ hmem ⟨k, []⟩ ?_⟩
    simp [Thread.next, hl]
  | mark label slot =>
    exact .inl ⟨hmatches, hclosed ⟨_, []⟩ hmem ⟨k, [(slot, p.offset)]⟩ (by simp [Thread.next])⟩
  | skip => exact .inl ⟨hmatches, hclosed ⟨_, []⟩ hmem ⟨k, []⟩ (by simp [Thread.next])⟩
  | cat a b iha ihb =>
    obtain ⟨m, hm, hq⟩ := hmatches
    have hab : a :: b :: k ∈ ks := hclosed ⟨_, []⟩ hmem ⟨a :: b :: k, []⟩ (by simp [Thread.next])
    rcases iha hm hab with ⟨rfl, hb⟩ | htakes
    · exact ihb hq hb
    · exact .inr (Takes.trans (k := [b]) htakes ⟨q, hq, rfl⟩)
  | alt label a b iha ihb =>
    rcases hmatches with h | h
    · exact iha h (hclosed ⟨_, []⟩ hmem ⟨a :: k, []⟩ (by simp [Thread.next]))
    · exact ihb h (hclosed ⟨_, []⟩ hmem ⟨b :: k, []⟩ (by simp [Thread.next]))
  | loop label greedy a ih =>
    obtain ⟨i, hi⟩ := hmatches
    have hmem_next {u : Thread} (hu : u = ⟨a :: .loop label greedy a :: k, []⟩ ∨ u = ⟨k, []⟩) :
        u ∈ Thread.next p ⟨.loop label greedy a :: k, []⟩ := by
      cases greedy
      · exact List.mem_pair.mpr hu.symm
      · exact List.mem_pair.mpr hu
    have hagain : a :: .loop label greedy a :: k ∈ ks := hclosed ⟨_, []⟩ hmem _ (hmem_next (.inl rfl))
    have hdone : k ∈ ks := hclosed ⟨_, []⟩ hmem _ (hmem_next (.inr rfl))
    -- rounds that take nothing come back to the same state, so the first one that takes a character counts
    induction i with
    | zero => exact .inl ⟨hi, hdone⟩
    | succ i ihi =>
      obtain ⟨m, hm, hi⟩ := hi
      rcases ih hm hagain with ⟨rfl, -⟩ | htakes
      · exact ihi hi
      · exact .inr (Takes.trans (k := [.loop label greedy a]) htakes ⟨q, ⟨i, hi⟩, rfl⟩)

theorem Closed.reach_end (hclosed : Closed p ks) (hleads : Leads k p q) (hmem : k ∈ ks) :
    [] ∈ ks ∨ Takes ks [] p q := by
  induction k with
  | nil => exact .inl hmem
  | cons n k ih =>
    obtain ⟨m, hm, hq⟩ := hleads
    rcases hclosed.reach hm hmem with ⟨rfl, hk⟩ | htakes
    · exact ih hq hk
    · have hall : Takes ks (k ++ []) p m := by rwa [List.append_nil]
      exact .inr (hall.trans hq)

end Reach

/-- Whether a thread can end. -/
def Thread.Live (p : Place) (t : Thread) : Prop :=
  ∃ q, Leads t.todo p q

section Advance

variable {root : Node} {p q : Place} {ts : List Thread} {best : Option Thread} {cs : List Char}

/-- Unless an end is found, a thread that can end goes on as one that can end, behind the next character. -/
theorem settle_live (hts : ∀ t ∈ ts, root.Has t.todo) (hlive : ∃ t ∈ ts, t.Live p)
    (hnone : (settle p (3 * root.size + ts.length + 4) ts [] []).2 = none) :
    ∃ c cs, p.rest = c :: cs ∧
      ∃ u ∈ (settle p (3 * root.size + ts.length + 4) ts [] []).1.filterMap (Thread.take? c),
        u.Live (p.step c cs) := by
  obtain ⟨seen, -, hall, hvisited⟩ := (Visited.start p ts).settle List.nodup_nil (fun _ h => nomatch h) hts
    (by simp only [List.length_nil]; omega) hnone
  have hclosed : Closed p seen := fun t ht u hu =>
    (hvisited.closed t ht u hu).resolve_right fun ⟨_, h, _⟩ => nomatch h
  obtain ⟨t, ht, q, hq⟩ := hlive
  rcases hclosed.reach_end hq (hall t ht) with hnil | ⟨label, s, k, c, cs, hmem, hrest, hs, hleads⟩
  · exact absurd hnil hvisited.unfinished
  · rw [List.append_nil] at hmem
    obtain ⟨v, hv, htodo⟩ := hvisited.ready ⟨_, []⟩ hmem ⟨label, s, k, rfl⟩
    refine ⟨c, cs, hrest, ⟨k, v.marks⟩, List.mem_filterMap.mpr ⟨v, hv, ?_⟩, q, hleads⟩
    exact Thread.take?_eq_some_iff.mpr ⟨label, s, k, htodo, hs, rfl⟩

theorem settle_has (hts : ∀ t ∈ ts, root.Has t.todo) (fuel : Nat) :
    ∀ t ∈ (settle p fuel ts [] []).1, root.Has t.todo :=
  (settle_keeps (P := fun t => root.Has t.todo) (fun _ _ ht hf => ht.successor hf.successor) fuel ts [] [] hts
    (fun _ h => nomatch h)).1

theorem has_append_root (hts : ∀ t ∈ ts, root.Has t.todo) : ∀ t ∈ ts ++ [⟨[root], []⟩], root.Has t.todo := by
  intro t ht
  rcases List.mem_append.mp ht with ht | ht
  · exact hts t ht
  · rw [List.mem_singleton.mp ht]
    exact root.has_self

/-- With the thread that starts here, a match is one of a thread or starts behind the next character. -/
theorem live_append_root (hlive : (∃ t ∈ ts, t.Live p) ∨ ∃ p', p.Ahead p' ∧ ∃ q, root.Matches p' q) :
    (∃ t ∈ ts ++ [⟨[root], []⟩], t.Live p) ∨
      ∃ c cs, p.rest = c :: cs ∧ ∃ p', (p.step c cs).Ahead p' ∧ ∃ q, root.Matches p' q := by
  rcases hlive with ⟨t, ht, hlive⟩ | ⟨p', ⟨ds, hreads⟩, q, hq⟩
  · exact .inl ⟨t, List.mem_append_left _ ht, hlive⟩
  · cases hreads with
    | nil => exact .inl ⟨⟨[root], []⟩, by simp, q, q, hq, rfl⟩
    | cons hrest hreads => exact .inr ⟨_, _, hrest, p', ⟨_, hreads⟩, q, hq⟩

theorem exists_step_of_live (hts : ∀ t ∈ ts, root.Has t.todo)
    (hnone : (settle p (3 * root.size + ts.length + 4) ts [] []).2 = none)
    (hlive : (∃ t ∈ ts, t.Live p) ∨
      ∃ c cs, p.rest = c :: cs ∧ ∃ p', (p.step c cs).Ahead p' ∧ ∃ q, root.Matches p' q) :
    ∃ c cs, p.rest = c :: cs ∧
      ((∃ u ∈ (settle p (3 * root.size + ts.length + 4) ts [] []).1.filterMap (Thread.take? c),
        u.Live (p.step c cs)) ∨ ∃ p', (p.step c cs).Ahead p' ∧ ∃ q, root.Matches p' q) := by
  rcases hlive with hlive | ⟨c, cs, hrest, hahead⟩
  · obtain ⟨c, cs, hrest, hstep⟩ := settle_live hts hlive hnone
    exact ⟨c, cs, hrest, .inl hstep⟩
  · exact ⟨c, cs, hrest, .inr hahead⟩

/-- A match that has been found is not given up. -/
theorem advance_isSome_of_best (hbest : best.isSome = true) : (advance root cs p ts best).isSome = true := by
  induction cs generalizing p ts best with
  | nil =>
    unfold advance
    dsimp only
    rw [Option.isSome_or, hbest, Bool.or_true]
  | cons c cs ih =>
    unfold advance
    generalize (if best.isNone then ts ++ [⟨[root], []⟩] else ts) = all
    dsimp only
    have hor : ((settle p (3 * root.size + all.length + 4) all [] []).2.or best).isSome = true := by
      rw [Option.isSome_or, hbest, Bool.or_true]
    split
    · exact hor
    · exact ih hor

/-- A run ends with a match if one of its threads can end, or one that starts further on could. -/
theorem advance_isSome (hts : ∀ t ∈ ts, root.Has t.todo) (hrest : p.rest = cs)
    (hlive : (∃ t ∈ ts, t.Live p) ∨ ∃ p', p.Ahead p' ∧ ∃ q, root.Matches p' q) :
    (advance root cs p ts best).isSome = true := by
  induction cs generalizing p ts best with
  | nil =>
    cases best with
    | some b => exact advance_isSome_of_best rfl
    | none =>
      have hall := has_append_root hts
      have hnow := live_append_root hlive
      unfold advance
      rw [Option.isNone_none, if_pos rfl]
      generalize ts ++ [⟨[root], []⟩] = all at hall hnow
      simp only [Option.or_none]
      by_contra hnone
      obtain ⟨c, cs, hcons, -⟩ := exists_step_of_live hall (Option.not_isSome_iff_eq_none.mp hnone) hnow
      rw [hrest] at hcons
      cases hcons
  | cons c cs ih =>
    cases best with
    | some b => exact advance_isSome_of_best rfl
    | none =>
      have hall := has_append_root hts
      have hnow := live_append_root hlive
      unfold advance
      rw [Option.isNone_none, if_pos rfl]
      generalize ts ++ [⟨[root], []⟩] = all at hall hnow
      simp only [Option.or_none]
      split
      · rename_i hdone
        exact (Bool.and_eq_true_iff.mp hdone).2
      · cases hhit : (settle p (3 * root.size + all.length + 4) all [] []).2 with
        | some t => exact advance_isSome_of_best rfl
        | none =>
          obtain ⟨c', cs', hcons, hstep⟩ := exists_step_of_live hall hhit hnow
          rw [hrest] at hcons
          cases hcons
          refine ih (fun u hu => ?_) rfl hstep
          obtain ⟨v, hv, hu⟩ := List.mem_filterMap.mp hu
          exact (settle_has hall _ v hv).successor (Thread.successor_of_take? hu)

end Advance

end LineScript.Regex
