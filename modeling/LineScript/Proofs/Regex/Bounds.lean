import LineScript.Proofs.Text.Bytes
import LineScript.Regex.Matcher

/-! Where the matches of a machine lie: at boundaries of the text, in order, not before the offset at
which the search starts. -/
namespace LineScript.Regex

/-- A place in a text: its offset is the size of what stands before it. -/
def Place.IsIn (cs : List Char) (p : Place) : Prop :=
  ∃ head, cs = head ++ p.rest ∧ p.offset = Text.size head

theorem Place.IsIn.boundary {cs : List Char} {p : Place} (h : p.IsIn cs) :
    Text.IsBoundary cs p.offset := by
  obtain ⟨head, rfl, ho⟩ := h
  rw [ho]
  exact Text.isBoundary_size head p.rest

theorem Place.IsIn.step {cs rest : List Char} {p : Place} {c : Char} (h : p.IsIn cs)
    (hr : p.rest = c :: rest) : (p.step c rest).IsIn cs := by
  obtain ⟨head, rfl, ho⟩ := h
  refine ⟨head ++ [c], by simp [hr, Place.step], ?_⟩
  simp [Place.step, ho]

theorem Place.seek_isIn (cs : List Char) (start : Nat) : (Place.seek cs start).IsIn cs := by
  have hs := Text.take_append_drop cs start
  unfold Place.seek
  dsimp only
  split
  · cases hd : Text.drop cs start with
    | nil => exact ⟨Text.take cs start, by rw [hd] at hs; exact hs.symm, rfl⟩
    | cons c rest =>
      rw [hd] at hs
      exact ⟨Text.take cs start ++ [c], by simpa using hs.symm, by simp⟩
  · exact ⟨Text.take cs start, hs.symm, rfl⟩

theorem Place.le_seek {cs : List Char} {start : Nat} (h : start ≤ Text.size cs) :
    start ≤ (Place.seek cs start).offset := by
  have hs := congrArg Text.size (Text.take_append_drop cs start)
  rw [Text.size_append] at hs
  unfold Place.seek
  dsimp only
  split
  · next hlt =>
    cases hd : Text.drop cs start with
    | nil =>
      rw [hd, Text.size_nil] at hs
      omega
    | cons c rest => exact Nat.le_of_lt (Text.lt_of_drop hd)
  · next hlt => exact Nat.le_of_not_lt hlt

/-- How a thread goes on at a place without taking a character. -/
inductive Follow (p : Place) (t : Thread) : Thread → Prop
  | look {label : Nat} {l : Look} {k : List Node} (h : t.todo = .look label l :: k)
    (hl : l.holds p.prev p.rest.head? = true) : Follow p t ⟨k, t.marks⟩
  | mark {label slot : Nat} {k : List Node} (h : t.todo = .mark label slot :: k) :
    Follow p t ⟨k, (slot, p.offset) :: t.marks⟩
  | skip {k : List Node} (h : t.todo = .skip :: k) : Follow p t ⟨k, t.marks⟩
  | cat {a b : Node} {k : List Node} (h : t.todo = .cat a b :: k) :
    Follow p t ⟨a :: b :: k, t.marks⟩
  | left {label : Nat} {a b : Node} {k : List Node} (h : t.todo = .alt label a b :: k) :
    Follow p t ⟨a :: k, t.marks⟩
  | right {label : Nat} {a b : Node} {k : List Node} (h : t.todo = .alt label a b :: k) :
    Follow p t ⟨b :: k, t.marks⟩
  | again {label : Nat} {greedy : Bool} {a : Node} {k : List Node}
    (h : t.todo = .loop label greedy a :: k) :
    Follow p t ⟨a :: .loop label greedy a :: k, t.marks⟩
  | done {label : Nat} {greedy : Bool} {a : Node} {k : List Node}
    (h : t.todo = .loop label greedy a :: k) : Follow p t ⟨k, t.marks⟩

/-- What holds of the threads holds of those that wait for a character and of the one that has nothing
left to match, if going on keeps it. -/
theorem settle_keeps {P : Thread → Prop} {p : Place} (hP : ∀ t u, P t → Follow p t u → P u)
    (fuel : Nat) (ts : List Thread) (seen : List (List Node)) (ready : List Thread)
    (hts : ∀ t ∈ ts, P t) (hready : ∀ t ∈ ready, P t) :
    (∀ t ∈ (settle p fuel ts seen ready).1, P t) ∧
      ∀ t, (settle p fuel ts seen ready).2 = some t → P t ∧ t.todo = [] := by
  have hall {t : Thread} {ts : List Thread} (ht : P t) (hts : ∀ t ∈ ts, P t) : ∀ u ∈ t :: ts, P u :=
    List.forall_mem_cons.mpr ⟨ht, hts⟩
  fun_induction settle p fuel ts seen ready with
  | case1 | case2 =>
    exact ⟨fun t ht => hready t (List.mem_reverse.mp ht), fun t ht => nomatch ht⟩
  | case3 fuel t ts seen ready hseen ih => exact ih (List.forall_mem_cons.mp hts).2 hready
  | case4 fuel t ts seen ready hseen htodo =>
    refine ⟨fun u hu => hready u (List.mem_reverse.mp hu), fun u hu => ?_⟩
    obtain rfl := Option.some.inj hu
    exact ⟨hts _ List.mem_cons_self, htodo⟩
  | case5 fuel t ts seen ready hseen seen' label s k htodo ih =>
    obtain ⟨ht, hts⟩ := List.forall_mem_cons.mp hts
    exact ih hts (hall ht hready)
  | case6 fuel t ts seen ready hseen seen' label l k htodo hl ih =>
    obtain ⟨ht, hts⟩ := List.forall_mem_cons.mp hts
    exact ih (hall (hP t _ ht (.look htodo hl)) hts) hready
  | case7 fuel t ts seen ready hseen seen' label l k htodo hl ih =>
    exact ih (List.forall_mem_cons.mp hts).2 hready
  | case8 fuel t ts seen ready hseen seen' label slot k htodo ih =>
    obtain ⟨ht, hts⟩ := List.forall_mem_cons.mp hts
    exact ih (hall (hP t _ ht (.mark htodo)) hts) hready
  | case9 fuel t ts seen ready hseen seen' k htodo ih =>
    obtain ⟨ht, hts⟩ := List.forall_mem_cons.mp hts
    exact ih (hall (hP t _ ht (.skip htodo)) hts) hready
  | case10 fuel t ts seen ready hseen seen' a b k htodo ih =>
    obtain ⟨ht, hts⟩ := List.forall_mem_cons.mp hts
    exact ih (hall (hP t _ ht (.cat htodo)) hts) hready
  | case11 fuel t ts seen ready hseen seen' label a b k htodo ih =>
    obtain ⟨ht, hts⟩ := List.forall_mem_cons.mp hts
    exact ih (hall (hP t _ ht (.left htodo)) (hall (hP t _ ht (.right htodo)) hts)) hready
  | case12 fuel t ts seen ready hseen seen' label a k done htodo again ih =>
    obtain ⟨ht, hts⟩ := List.forall_mem_cons.mp hts
    exact ih (hall (hP t _ ht (.again htodo)) (hall (hP t _ ht (.done htodo)) hts)) hready
  | case13 fuel t ts seen ready hseen seen' label greedy a k htodo again done hg ih =>
    obtain ⟨ht, hts⟩ := List.forall_mem_cons.mp hts
    exact ih (hall (hP t _ ht (.done htodo)) (hall (hP t _ ht (.again htodo)) hts)) hready

section
variable {Q : Place → Prop} {P : Place → Thread → Prop} {root : Node}

/-- A thread that has nothing left to match, at a place where it stands. -/
def Ends (Q : Place → Prop) (P : Place → Thread → Prop) (t : Thread) : Prop :=
  ∃ q, Q q ∧ P q t ∧ t.todo = []

theorem settle_round (hfresh : ∀ p, P p ⟨[root], []⟩)
    (hfollow : ∀ p t u, Q p → P p t → Follow p t u → P p u) {p : Place} {ts all : List Thread}
    {best : Option Thread} (hp : Q p) (hts : ∀ t ∈ ts, P p t) (hbest : ∀ t, best = some t → Ends Q P t)
    (hall : all = if best.isNone then ts ++ [⟨[root], []⟩] else ts) (fuel : Nat) :
    (∀ t ∈ (settle p fuel all [] []).1, P p t) ∧
      ∀ t, (settle p fuel all [] []).2.or best = some t → Ends Q P t := by
  have hP : ∀ t ∈ all, P p t := by
    rw [hall]
    split
    · intro t ht
      rcases List.mem_append.mp ht with ht | ht
      · exact hts t ht
      · rw [List.mem_singleton.mp ht]
        exact hfresh p
    · exact hts
  obtain ⟨hready, hhit⟩ := settle_keeps (fun t u => hfollow p t u hp) fuel all [] [] hP
    (fun t ht => nomatch ht)
  refine ⟨hready, fun t ht => ?_⟩
  rcases Option.or_eq_some_iff.mp ht with ht | ⟨-, ht⟩
  · obtain ⟨hPt, htodo⟩ := hhit t ht
    exact ⟨p, hp, hPt, htodo⟩
  · exact hbest t ht

/-- What holds of a fresh thread at every place and is kept by going on and by taking a character holds
of the thread that a run ends with. -/
theorem advance_keeps (hstep : ∀ p c rest, Q p → p.rest = c :: rest → Q (p.step c rest))
    (hfresh : ∀ p, P p ⟨[root], []⟩)
    (hfollow : ∀ p t u, Q p → P p t → Follow p t u → P p u)
    (htake : ∀ p t u c rest, p.rest = c :: rest → P p t → t.take? c = some u → P (p.step c rest) u)
    (cs : List Char) (p : Place) (ts : List Thread) (best : Option Thread)
    (hp : Q p) (hcs : p.rest = cs) (hts : ∀ t ∈ ts, P p t)
    (hbest : ∀ t, best = some t → Ends Q P t) {t : Thread}
    (h : advance root cs p ts best = some t) : Ends Q P t := by
  induction cs generalizing p ts best with
  | nil =>
    unfold advance at h
    exact (settle_round hfresh hfollow hp hts hbest rfl _).2 t h
  | cons c cs ih =>
    unfold advance at h
    generalize hall : (if best.isNone then ts ++ [⟨[root], []⟩] else ts) = all at h
    obtain ⟨hready, hends⟩ := settle_round hfresh hfollow hp hts hbest hall.symm
      (3 * root.size + all.length + 4)
    dsimp only at h
    split at h
    · exact hends t h
    · refine ih _ _ _ (hstep p c cs hp hcs) rfl (fun u hu => ?_) hends h
      obtain ⟨v, hv, hu⟩ := List.mem_filterMap.mp hu
      exact htake p v u c cs hcs (hready v hv) hu

end

/-- How far a thread of a whole machine has come. It has recorded the start before it enters the body,
and it records the end last. -/
inductive Stage (body : Node) : List Node → List (Nat × Nat) → Prop
  | fresh : Stage body [.cat (.mark 0 0) (.cat body (.mark 1 1))] []
  | entered : Stage body [.mark 0 0, .cat body (.mark 1 1)] []
  | started {marks : List (Nat × Nat)} (h : (marks.lookup 0).isSome) :
    Stage body [.cat body (.mark 1 1)] marks
  | inside (k : List Node) {marks : List (Nat × Nat)} (h : (marks.lookup 0).isSome) :
    Stage body (k ++ [.mark 1 1]) marks
  | ended {marks : List (Nat × Nat)} {start stop : Nat} (hstart : marks.lookup 0 = some start)
    (hstop : marks.lookup 1 = some stop) (h : start ≤ stop) : Stage body [] marks

/-- The recorded places lie between the start of the search and the place of the thread. -/
def Within (text : List Char) (low high : Nat) (marks : List (Nat × Nat)) : Prop :=
  ∀ x ∈ marks, low ≤ x.2 ∧ x.2 ≤ high ∧ Text.IsBoundary text x.2

theorem Within.lookup {text : List Char} {low high slot n : Nat} {marks : List (Nat × Nat)}
    (hw : Within text low high marks) (h : marks.lookup slot = some n) :
    low ≤ n ∧ n ≤ high ∧ Text.IsBoundary text n := by
  obtain ⟨before, after, rfl, -⟩ := List.lookup_eq_some_iff.mp h
  exact hw (slot, n) (List.mem_append_right _ List.mem_cons_self)

theorem isSome_lookup_cons {slot n : Nat} {marks : List (Nat × Nat)}
    (h : (marks.lookup 0).isSome) : (((slot, n) :: marks).lookup 0).isSome := by
  rw [List.lookup_cons]
  split
  · rfl
  · exact h

/-- What a thread with something left to match may look at next. -/
theorem Stage.cons_cases {body x : Node} {k : List Node} {marks : List (Nat × Nat)}
    (h : Stage body (x :: k) marks) :
    (x = .cat (.mark 0 0) (.cat body (.mark 1 1)) ∧ k = [] ∧ marks = []) ∨
      (x = .mark 0 0 ∧ k = [.cat body (.mark 1 1)] ∧ marks = []) ∨
      (x = .cat body (.mark 1 1) ∧ k = [] ∧ (marks.lookup 0).isSome) ∨
      (x = .mark 1 1 ∧ k = [] ∧ (marks.lookup 0).isSome) ∨
      ∃ k', k = k' ++ [.mark 1 1] ∧ (marks.lookup 0).isSome := by
  generalize htodo : x :: k = todo at h
  cases h with
  | fresh => simp_all
  | entered => simp_all
  | started h => simp_all
  | inside k' h =>
    cases k' with
    | nil => simp_all
    | cons y k' => simp_all
  | ended => simp_all

theorem Stage.of_nil {body : Node} {todo : List Node} {marks : List (Nat × Nat)}
    (h : Stage body todo marks) (htodo : todo = []) : ∃ start stop,
      marks.lookup 0 = some start ∧ marks.lookup 1 = some stop ∧ start ≤ stop := by
  cases h with
  | ended hstart hstop h => exact ⟨_, _, hstart, hstop, h⟩
  | _ => simp at htodo

/-- What has no part in recording the ends keeps the stage. -/
theorem Stage.inside_of_cons {body x : Node} {k : List Node} {marks : List (Nat × Nat)}
    (h : Stage body (x :: k) marks) (hcat : ∀ a b, x ≠ .cat a b) (hmark : ∀ i j, x ≠ .mark i j) :
    ∃ k', k = k' ++ [.mark 1 1] ∧ (marks.lookup 0).isSome := by
  rcases h.cons_cases with ⟨rfl, -⟩ | ⟨rfl, -⟩ | ⟨rfl, -⟩ | ⟨rfl, -⟩ | h
  · exact absurd rfl (hcat _ _)
  · exact absurd rfl (hmark _ _)
  · exact absurd rfl (hcat _ _)
  · exact absurd rfl (hmark _ _)
  · exact h

theorem Stage.follow {body : Node} {p : Place} {t u : Thread} {text : List Char} {low : Nat}
    (h : Stage body t.todo t.marks) (hw : Within text low p.offset t.marks) (hf : Follow p t u) :
    Stage body u.todo u.marks := by
  cases hf with
  | look htodo | skip htodo | done htodo =>
    rw [htodo] at h
    obtain ⟨k', rfl, h0⟩ := h.inside_of_cons nofun nofun
    exact .inside k' h0
  | left htodo | right htodo =>
    rw [htodo] at h
    obtain ⟨k', rfl, h0⟩ := h.inside_of_cons nofun nofun
    exact .inside (_ :: k') h0
  | again htodo =>
    rw [htodo] at h
    obtain ⟨k', rfl, h0⟩ := h.inside_of_cons nofun nofun
    exact .inside (_ :: _ :: k') h0
  | mark htodo =>
    rw [htodo] at h
    rcases h.cons_cases with ⟨hx, -⟩ | ⟨hx, rfl, -⟩ | ⟨hx, -⟩ | ⟨hx, rfl, h0⟩ | ⟨k', rfl, h0⟩
    · exact nomatch hx
    · obtain ⟨rfl, rfl⟩ := Node.mark.inj hx
      exact .started (by simp)
    · exact nomatch hx
    · -- the end is recorded last, where all places recorded before are at or before this one
      obtain ⟨rfl, rfl⟩ := Node.mark.inj hx
      obtain ⟨start, hstart⟩ := Option.isSome_iff_exists.mp h0
      have hkept : ((1, p.offset) :: t.marks).lookup 0 = some start := by
        simpa [List.lookup_cons] using hstart
      exact .ended hkept List.lookup_cons_self (hw.lookup hstart).2.1
    · exact .inside k' (isSome_lookup_cons h0)
  | cat htodo =>
    rw [htodo] at h
    rcases h.cons_cases with ⟨hx, rfl, hm⟩ | ⟨hx, -⟩ | ⟨hx, rfl, h0⟩ | ⟨hx, -⟩ | ⟨k', rfl, h0⟩
    · obtain ⟨rfl, rfl⟩ := Node.cat.inj hx
      rw [hm]
      exact .entered
    · exact nomatch hx
    · obtain ⟨rfl, rfl⟩ := Node.cat.inj hx
      exact .inside [_] h0
    · exact nomatch hx
    · exact .inside (_ :: _ :: k') h0

theorem Stage.take {body : Node} {c : Char} {t u : Thread} (h : Stage body t.todo t.marks)
    (ht : t.take? c = some u) : Stage body u.todo u.marks ∧ u.marks = t.marks := by
  unfold Thread.take? at ht
  split at ht
  · next label s k htodo =>
    split at ht
    · obtain rfl := Option.some.inj ht
      rw [htodo] at h
      obtain ⟨k', rfl, h0⟩ := h.inside_of_cons nofun nofun
      exact ⟨.inside k' h0, rfl⟩
    · exact nomatch ht
  · exact nomatch ht

theorem Within.follow {p : Place} {t u : Thread} {text : List Char} {low : Nat}
    (hw : Within text low p.offset t.marks) (hp : p.IsIn text) (hl : low ≤ p.offset)
    (hf : Follow p t u) : Within text low p.offset u.marks := by
  cases hf with
  | mark htodo => exact List.forall_mem_cons.mpr ⟨⟨hl, Nat.le_refl _, hp.boundary⟩, hw⟩
  | _ => exact hw

theorem Within.mono {text : List Char} {low high high' : Nat} {marks : List (Nat × Nat)}
    (hw : Within text low high marks) (h : high ≤ high') : Within text low high' marks := by
  intro x hx
  obtain ⟨hlow, hhigh, hb⟩ := hw x hx
  exact ⟨hlow, Nat.le_trans hhigh h, hb⟩

/-- Whether a match lies at boundaries of a text and not before an offset. -/
structure Match.Bounded (text : List Char) (low : Nat) (w : Match) : Prop where
  low_le : low ≤ w.start
  le : w.start ≤ w.stop
  start : Text.IsBoundary text w.start
  stop : Text.IsBoundary text w.stop

/-- The thread that a run of a whole machine ends with has recorded the ends of a part of the text. -/
theorem advance_whole {body : Node} {text : List Char} {low : Nat} {p : Place} (hp : p.IsIn text)
    (hl : low ≤ p.offset) {t : Thread}
    (h : advance (.cat (.mark 0 0) (.cat body (.mark 1 1))) p.rest p [] none = some t) :
    ∃ start stop, t.mark? 0 = some start ∧ t.mark? 1 = some stop ∧
      ∀ groups, Match.Bounded text low ⟨start, stop, groups⟩ := by
  obtain ⟨q, -, ⟨hstage, hw⟩, htodo⟩ := advance_keeps
    (Q := fun p => p.IsIn text ∧ low ≤ p.offset)
    (P := fun p t => Stage body t.todo t.marks ∧ Within text low p.offset t.marks)
    (fun p c rest hQ hrest => ⟨hQ.1.step hrest, Nat.le_trans hQ.2 (Nat.le_add_right _ _)⟩)
    (fun p => ⟨.fresh, fun x hx => nomatch hx⟩)
    (fun p t u hQ hP hf => ⟨hP.1.follow hP.2 hf, hP.2.follow hQ.1 hQ.2 hf⟩)
    (fun p t u c rest _ hP ht => by
      obtain ⟨hstage, hmarks⟩ := hP.1.take ht
      exact ⟨hstage, hmarks ▸ hP.2.mono (Nat.le_add_right _ _)⟩)
    p.rest p [] none ⟨hp, hl⟩ rfl (fun t ht => nomatch ht) (fun t ht => nomatch ht) h
  obtain ⟨start, stop, hstart, hstop, hle⟩ := hstage.of_nil htodo
  exact ⟨start, stop, hstart, hstop, fun groups => ⟨(hw.lookup hstart).1, hle,
    (hw.lookup hstart).2.2, (hw.lookup hstop).2.2⟩⟩

/-- The matches of the machine of an expression lie at boundaries, not before the offset at which the
search starts. -/
theorem search?_bounded {r : Syntax} {groupCount : Nat} {text : List Char} {low : Nat} {w : Match}
    (hl : low ≤ Text.size text) (h : search? r.machine groupCount text low = some w) :
    w.Bounded text low := by
  obtain ⟨t, ht, rfl⟩ := Option.map_eq_some_iff.mp h
  obtain ⟨start, stop, hstart, hstop, hb⟩ := advance_whole (Place.seek_isIn text low)
    (Place.le_seek hl) ht
  simp only [Nat.mul_zero, Nat.zero_add, hstart, hstop, Option.getD_some]
  exact hb _

end LineScript.Regex
