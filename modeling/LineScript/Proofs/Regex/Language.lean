import LineScript.Regex.Matcher
import Mathlib.Tactic.Common

/-! What a regular expression matches, as a relation between the places where a match may start and end, and that
its machine has to match just that. -/
namespace LineScript.Regex

/-- Whether some number of steps lead from one place to another. -/
def Times (R : Place → Place → Prop) : Nat → Place → Place → Prop
  | 0, p, q => q = p
  | n + 1, p, q => ∃ m, R p m ∧ Times R n m q

section Times

variable {R S : Place → Place → Prop} {i n : Nat} {p q : Place}

theorem Times.congr (h : ∀ p q, R p q ↔ S p q) : Times R n p q ↔ Times S n p q := by
  induction n generalizing p with
  | zero => rfl
  | succ n ih => simp only [Times, h, ih]

theorem times_add : Times R (i + n) p q ↔ ∃ m, Times R i p m ∧ Times R n m q := by
  induction i generalizing p with
  | zero => simp [Times]
  | succ i ih =>
    rw [Nat.succ_add]
    simp only [Times, ih]
    constructor
    · rintro ⟨m, hm, m', hi, hn⟩
      exact ⟨m', ⟨m, hm, hi⟩, hn⟩
    · rintro ⟨m', ⟨m, hm, hi⟩, hn⟩
      exact ⟨m, hm, m', hi, hn⟩

/-- Steps that lead nowhere else are as good as one of them. -/
theorem times_of_still (h : ∀ p q, R p q → q = p) : Times R n p q ↔ q = p ∧ (n = 0 ∨ R p p) := by
  induction n generalizing p with
  | zero => simp [Times]
  | succ n ih =>
    simp only [Times, ih]
    constructor
    · rintro ⟨m, hm, rfl, -⟩
      obtain rfl := h p _ hm
      exact ⟨rfl, .inr hm⟩
    · rintro ⟨rfl, hp⟩
      rw [or_iff_right (Nat.succ_ne_zero n)] at hp
      exact ⟨q, hp, rfl, .inr hp⟩

end Times

/-- Whether some characters are read on the way from one place to another. -/
inductive Place.Reads : Place → List Char → Place → Prop
  | nil {p : Place} : Place.Reads p [] p
  | cons {p q : Place} {c : Char} {cs ds : List Char} : p.rest = c :: cs → Place.Reads (p.step c cs) ds q →
      Place.Reads p (c :: ds) q

/-- Whether a place is met when one goes on from another. -/
def Place.Ahead (p q : Place) : Prop :=
  ∃ ds, p.Reads ds q

section Reads

variable {p q m : Place} {ds es : List Char}

theorem Place.Reads.rest_eq (h : p.Reads ds q) : p.rest = ds ++ q.rest := by
  induction h with
  | nil => rfl
  | cons hrest _ ih =>
    rw [hrest, List.cons_append, ← ih]
    rfl

theorem Place.Reads.offset_eq (h : p.Reads ds q) : q.offset = p.offset + Text.size ds := by
  induction h with
  | nil => rfl
  | cons _ _ ih => rw [ih, Text.size, ← Nat.add_assoc]; rfl

theorem Place.reads_append : p.Reads (ds ++ es) q ↔ ∃ m, p.Reads ds m ∧ m.Reads es q := by
  constructor
  · intro h
    induction ds generalizing p with
    | nil => exact ⟨p, .nil, h⟩
    | cons d ds ih =>
      cases h with
      | cons hrest h =>
        obtain ⟨m, hds, hes⟩ := ih h
        exact ⟨m, .cons hrest hds, hes⟩
  · rintro ⟨m, hds, hes⟩
    induction hds with
    | nil => exact hes
    | cons hrest _ ih => exact .cons hrest (ih hes)

theorem Place.exists_reads {rest : List Char} (h : p.rest = ds ++ rest) : ∃ q, p.Reads ds q := by
  induction ds generalizing p with
  | nil => exact ⟨p, .nil⟩
  | cons d ds ih =>
    obtain ⟨q, hq⟩ := ih (p := p.step d (ds ++ rest)) rfl
    exact ⟨q, .cons h hq⟩

/-- Only where a text starts no character is before a place. -/
theorem Place.Reads.eq_of_prev (h : p.Reads ds q) (hprev : q.prev = none) : ds = [] ∧ q = p := by
  induction h with
  | nil => exact ⟨rfl, rfl⟩
  | cons _ _ ih =>
    obtain ⟨-, rfl⟩ := ih hprev
    cases hprev

theorem Place.Ahead.step {c : Char} {cs : List Char} (h : p.Ahead q) (hrest : q.rest = c :: cs) :
    p.Ahead (q.step c cs) := by
  obtain ⟨ds, hds⟩ := h
  exact ⟨ds ++ [c], Place.reads_append.mpr ⟨q, hds, .cons hrest .nil⟩⟩

end Reads

/-- Whether an expression matches what stands between two places. -/
def Syntax.Matches : Syntax → Place → Place → Prop
  | .empty, p, q => q = p
  | .set s, p, q => ∃ c cs, p.rest = c :: cs ∧ s.holds c = true ∧ q = p.step c cs
  | .look l, p, q => l.holds p.prev p.rest.head? = true ∧ q = p
  | .cat a b, p, q => ∃ m, a.Matches p m ∧ b.Matches m q
  | .alt a b, p, q => a.Matches p q ∨ b.Matches p q
  | .repeated r low high _, p, q => ∃ n, low ≤ n ∧ (∀ m ∈ high, n ≤ m) ∧ Times r.Matches n p q
  | .group _ r, p, q => r.Matches p q

/-- Whether the bounds of every repetition are in order and groups are counted from one. -/
def Syntax.WellFormed : Syntax → Prop
  | .empty | .set _ | .look _ => True
  | .cat a b | .alt a b => a.WellFormed ∧ b.WellFormed
  | .repeated r low high _ => (∀ m ∈ high, low ≤ m) ∧ r.WellFormed
  | .group i r => 0 < i ∧ r.WellFormed

/-- Whether a machine matches what stands between two places. -/
def Node.Matches : Node → Place → Place → Prop
  | .set _ s, p, q => ∃ c cs, p.rest = c :: cs ∧ s.holds c = true ∧ q = p.step c cs
  | .look _ l, p, q => l.holds p.prev p.rest.head? = true ∧ q = p
  | .mark .., p, q | .skip, p, q => q = p
  | .cat a b, p, q => ∃ m, a.Matches p m ∧ b.Matches m q
  | .alt _ a b, p, q => a.Matches p q ∨ b.Matches p q
  | .loop _ _ a, p, q => ∃ n, Times a.Matches n p q

/-- Whether a machine matches what a relation says, whatever its labels are. -/
def Denotes (make : Labeled Node) (R : Place → Place → Prop) : Prop :=
  ∀ label p q, (make.run label).1.Matches p q ↔ R p q

section Denotes

variable {make last : Labeled Node} {R S : Place → Place → Prop} {n : Nat}

theorem Denotes.congr (h : Denotes make R) (hRS : ∀ p q, R p q ↔ S p q) : Denotes make S :=
  fun label p q => (h label p q).trans (hRS p q)

theorem Denotes.copies (hmake : Denotes make R) (hlast : Denotes last S) (n : Nat) :
    Denotes (copies make n last) (fun p q => ∃ m, Times R n p m ∧ S m q) := by
  induction n with
  | zero => exact hlast.congr fun p q => by simp [Times]
  | succ n ih =>
    intro label p q
    change (∃ m, ((make.run label).1).Matches p m ∧ ((Regex.copies make n last).run _).1.Matches m q) ↔ _
    simp only [hmake _ _ _, ih _ _ _, Times]
    constructor
    · rintro ⟨m, hm, m', hn, hS⟩
      exact ⟨m', ⟨m, hm, hn⟩, hS⟩
    · rintro ⟨m', ⟨m, hm, hn⟩, hS⟩
      exact ⟨m, hm, m', hn, hS⟩

theorem Denotes.upTo (hmake : Denotes make R) (greedy : Bool) (n : Nat) :
    Denotes (upTo make greedy n) (fun p q => ∃ i ≤ n, Times R i p q) := by
  induction n with
  | zero =>
    intro label p q
    change q = p ↔ _
    simp [Times]
  | succ n ih =>
    intro label p q
    have hgo : (∃ i ≤ n + 1, Times R i p q) ↔ (∃ m, R p m ∧ ∃ i ≤ n, Times R i m q) ∨ q = p := by
      constructor
      · rintro ⟨i, hi, h⟩
        cases i with
        | zero => exact .inr h
        | succ i =>
          obtain ⟨m, hm, h⟩ := h
          exact .inl ⟨m, hm, i, by omega, h⟩
      · rintro (⟨m, hm, i, hi, h⟩ | rfl)
        · exact ⟨i + 1, by omega, m, hm, h⟩
        · exact ⟨0, by omega, rfl⟩
    refine Iff.trans ?_ hgo.symm
    cases greedy with
    | true =>
      change (∃ m, ((make.run _).1).Matches p m ∧ ((Regex.upTo make true n).run _).1.Matches m q) ∨ q = p ↔ _
      simp only [hmake _ _ _, ih _ _ _]
    | false =>
      change q = p ∨ (∃ m, ((make.run _).1).Matches p m ∧ ((Regex.upTo make false n).run _).1.Matches m q) ↔ _
      simp only [hmake _ _ _, ih _ _ _]
      exact or_comm

theorem Denotes.rounds (hmake : Denotes make R) (greedy : Bool) :
    Denotes (rounds make greedy) (fun p q => ∃ n, 1 ≤ n ∧ Times R n p q) := by
  intro label p q
  change (∃ m, ((make.run _).1).Matches p m ∧ ∃ n, Times ((make.run _).1).Matches n m q) ↔ _
  simp only [hmake _ _ _, Times.congr (fun p q => hmake _ p q)]
  constructor
  · rintro ⟨m, hm, n, hn⟩
    exact ⟨n + 1, by omega, m, hm, hn⟩
  · rintro ⟨n, hn, h⟩
    obtain ⟨n, rfl⟩ := Nat.exists_eq_add_one_of_ne_zero (Nat.ne_of_gt hn)
    obtain ⟨m, hm, h⟩ := h
    exact ⟨m, hm, n, h⟩

theorem Denotes.anyRounds (hmake : Denotes make R) (greedy consumes : Bool) :
    Denotes (anyRounds make greedy consumes) (fun p q => ∃ n, Times R n p q) := by
  intro label p q
  cases consumes with
  | true =>
    change (∃ n, Times ((make.run _).1).Matches n p q) ↔ _
    simp only [Times.congr (fun p q => hmake _ p q)]
  | false =>
    have hgo : (∃ n, Times R n p q) ↔ (∃ n, 1 ≤ n ∧ Times R n p q) ∨ q = p := by
      constructor
      · rintro ⟨n, h⟩
        cases n with
        | zero => exact .inr h
        | succ n => exact .inl ⟨n + 1, by omega, h⟩
      · rintro (⟨n, -, h⟩ | rfl)
        · exact ⟨n, h⟩
        · exact ⟨0, rfl⟩
    refine Iff.trans ?_ hgo.symm
    cases greedy with
    | true =>
      change ((Regex.rounds make true).run _).1.Matches p q ∨ q = p ↔ _
      rw [hmake.rounds true _ _ _]
    | false =>
      change q = p ∨ ((Regex.rounds make false).run _).1.Matches p q ↔ _
      rw [hmake.rounds false _ _ _]
      exact or_comm

end Denotes

theorem Syntax.Matches.of_zeroWidth {r : Syntax} (hr : r.WellFormed) (hzero : r.zeroWidth = true) :
    ∀ p q, r.Matches p q → q = p := by
  induction r with
  | empty => exact fun p q h => h
  | set => cases hzero
  | look => exact fun p q h => h.2
  | cat a b iha ihb =>
    obtain ⟨ha, hb⟩ := Bool.and_eq_true_iff.mp hzero
    rintro p q ⟨m, hm, hq⟩
    rw [ihb hr.2 hb m q hq, iha hr.1 ha p m hm]
  | alt a b iha ihb =>
    obtain ⟨ha, hb⟩ := Bool.and_eq_true_iff.mp hzero
    rintro p q (h | h)
    · exact iha hr.1 ha p q h
    · exact ihb hr.2 hb p q h
  | repeated r low high greedy ih =>
    rintro p q ⟨n, hlow, hhigh, h⟩
    rcases Bool.or_eq_true_iff.mp hzero with hnone | hr'
    · have hn : n ≤ 0 := hhigh 0 (eq_of_beq hnone)
      obtain rfl : n = 0 := by omega
      exact h
    · exact ((times_of_still (ih hr.2 hr')).mp h).1
  | group i r ih => exact ih hr.2 hzero

theorem Syntax.bounds_ordered {r : Syntax} {low : Nat} {high : Option Nat} {greedy : Bool}
    (hr : (Syntax.repeated r low high greedy).WellFormed) :
    ∀ m ∈ (r.bounds low high).2, (r.bounds low high).1 ≤ m := by
  unfold Syntax.bounds
  split
  · intro m hm
    obtain rfl := Option.some.inj hm
    cases high with
    | none => exact Nat.min_le_right low 1
    | some m => exact Nat.le_min.mpr ⟨Nat.le_trans (Nat.min_le_left _ _) (hr.1 m rfl), Nat.min_le_right _ _⟩
  · exact hr.1

/-- Cutting the bounds of a repetition down changes nothing about what it matches. -/
theorem Syntax.matches_repeated_iff {r : Syntax} {low : Nat} {high : Option Nat} {greedy : Bool}
    (hr : (Syntax.repeated r low high greedy).WellFormed) (p q : Place) :
    (Syntax.repeated r low high greedy).Matches p q ↔ ∃ n, (r.bounds low high).1 ≤ n ∧
      (∀ m ∈ (r.bounds low high).2, n ≤ m) ∧ Times r.Matches n p q := by
  unfold Syntax.bounds
  split
  · rename_i hzero
    have hstill := Syntax.Matches.of_zeroWidth hr.2 hzero
    simp only [Syntax.Matches, times_of_still hstill]
    constructor
    · rintro ⟨n, hlow, hhigh, rfl, hn⟩
      refine ⟨min n 1, Nat.le_min.mpr ⟨Nat.le_trans (Nat.min_le_left _ _) hlow, Nat.min_le_right _ _⟩, ?_, rfl, ?_⟩
      · rintro m hm
        obtain rfl := Option.some.inj hm
        cases high with
        | none => exact Nat.min_le_right n 1
        | some m => exact Nat.le_min.mpr ⟨Nat.le_trans (Nat.min_le_left _ _) (hhigh m rfl), Nat.min_le_right _ _⟩
      · exact hn.imp (by omega) id
    · rintro ⟨n, hlow, hhigh, rfl, hn⟩
      have hhigh := hhigh _ rfl
      refine ⟨max low n, Nat.le_max_left _ _, ?_, rfl, ?_⟩
      · rintro m rfl
        exact Nat.max_le.mpr ⟨hr.1 m rfl, Nat.le_trans hhigh (Nat.min_le_left _ _)⟩
      · exact hn.imp (by omega) id
  · rfl

/-- The machine of an expression matches what the expression does. -/
theorem Syntax.denotes_toNode {r : Syntax} (hr : r.WellFormed) : Denotes r.toNode r.Matches := by
  induction r with
  | empty | set | look => exact fun _ _ _ => Iff.rfl
  | cat a b iha ihb =>
    intro label p q
    change (∃ m, ((a.toNode.run _).1).Matches p m ∧ ((b.toNode.run _).1).Matches m q) ↔ _
    simp only [iha hr.1 _ _ _, ihb hr.2 _ _ _, Syntax.Matches]
  | alt a b iha ihb =>
    intro label p q
    change ((a.toNode.run _).1).Matches p q ∨ ((b.toNode.run _).1).Matches p q ↔ _
    simp only [iha hr.1 _ _ _, ihb hr.2 _ _ _, Syntax.Matches]
  | group i r ih =>
    intro label p q
    change (∃ m, m = p ∧ ∃ m', ((r.toNode.run _).1).Matches m m' ∧ q = m') ↔ _
    simp only [ih hr.2 _ _ _, Syntax.Matches]
    constructor
    · rintro ⟨_, rfl, _, h, rfl⟩
      exact h
    · exact fun h => ⟨p, rfl, q, h, rfl⟩
  | repeated r low high greedy ih =>
    have hbody := ih hr.2
    refine Denotes.congr ?_ fun p q => (matches_repeated_iff hr p q).symm
    unfold Syntax.toNode
    split
    · rename_i hbounds
      rw [hbounds]
      exact (hbody.anyRounds greedy _).congr fun p q => by simp
    · rename_i n hbounds
      rw [hbounds]
      refine (hbody.copies (hbody.rounds greedy) n).congr fun p q => ?_
      constructor
      · rintro ⟨m, hn, k, hk, h⟩
        exact ⟨n + k, by omega, fun _ h => (nomatch h), times_add.mpr ⟨m, hn, h⟩⟩
      · rintro ⟨k, hk, -, h⟩
        obtain ⟨i, rfl⟩ := Nat.exists_eq_add_of_le (Nat.le_of_succ_le hk)
        obtain ⟨m, hn, h⟩ := times_add.mp h
        exact ⟨m, hn, i, by omega, h⟩
    · rename_i n high' hbounds
      have hordered := bounds_ordered hr
      rw [hbounds] at hordered ⊢
      have hle : n ≤ high' := hordered high' rfl
      refine (hbody.copies (hbody.upTo greedy (high' - n)) n).congr fun p q => ?_
      constructor
      · rintro ⟨m, hn, i, hi, h⟩
        refine ⟨n + i, by omega, fun k hk => ?_, times_add.mpr ⟨m, hn, h⟩⟩
        obtain rfl := Option.some.inj hk
        omega
      · rintro ⟨k, hk, hhigh, h⟩
        have hhigh := hhigh _ rfl
        obtain ⟨i, rfl⟩ := Nat.exists_eq_add_of_le hk
        obtain ⟨m, hn, h⟩ := times_add.mp h
        exact ⟨m, hn, i, by omega, h⟩

section Sets

variable {s : CharSet} {n : Nat} {p q : Place}

theorem CharSet.holds_range_iff {a b c : Char} : (CharSet.range a.toNat b.toNat).holds c = true ↔ a ≤ c ∧ c ≤ b := by
  simp only [CharSet.holds, Bool.and_eq_true, decide_eq_true_eq, Char.le_def, UInt32.le_iff_toNat_le, Char.toNat]

theorem CharSet.holds_single_iff {a c : Char} : (CharSet.single a).holds c = true ↔ c = a := by
  unfold CharSet.single
  rw [holds_range_iff]
  constructor
  · exact fun ⟨hac, hca⟩ => Char.le_antisymm hca hac
  · rintro rfl
    exact ⟨Char.le_refl _, Char.le_refl _⟩

theorem Syntax.matches_set_iff : (Syntax.set s).Matches p q ↔ ∃ c, s.holds c = true ∧ p.Reads [c] q := by
  constructor
  · rintro ⟨c, cs, hrest, hs, rfl⟩
    exact ⟨c, hs, .cons hrest .nil⟩
  · rintro ⟨c, hs, hreads⟩
    cases hreads with
    | cons hrest hnil =>
      cases hnil
      exact ⟨c, _, hrest, hs, rfl⟩

theorem times_set_iff : Times (Syntax.set s).Matches n p q ↔
    ∃ ds, ds.length = n ∧ (∀ d ∈ ds, s.holds d = true) ∧ p.Reads ds q := by
  induction n generalizing p with
  | zero =>
    constructor
    · rintro rfl
      exact ⟨[], rfl, fun _ h => (nomatch h), .nil⟩
    · rintro ⟨ds, hlength, -, hreads⟩
      obtain rfl := List.eq_nil_of_length_eq_zero hlength
      cases hreads
      rfl
  | succ n ih =>
    simp only [Times, Syntax.matches_set_iff, ih]
    constructor
    · rintro ⟨m, ⟨c, hc, hm⟩, ds, rfl, hds, hreads⟩
      exact ⟨c :: ds, rfl, List.forall_mem_cons.mpr ⟨hc, hds⟩, Place.reads_append.mpr ⟨m, hm, hreads⟩⟩
    · rintro ⟨ds, hlength, hds, hreads⟩
      obtain ⟨c, ds, rfl⟩ := List.exists_cons_of_length_eq_add_one hlength
      obtain ⟨hc, hds⟩ := List.forall_mem_cons.mp hds
      obtain ⟨m, hm, hreads⟩ := Place.reads_append.mp (show p.Reads ([c] ++ ds) q from hreads)
      exact ⟨m, ⟨c, hc, hm⟩, ds, by simpa using hlength, hds, hreads⟩

theorem Syntax.matches_repeated_set_iff {low : Nat} {high : Option Nat} {greedy : Bool} :
    (Syntax.repeated (.set s) low high greedy).Matches p q ↔ ∃ ds, low ≤ ds.length ∧
      (∀ m ∈ high, ds.length ≤ m) ∧ (∀ d ∈ ds, s.holds d = true) ∧ p.Reads ds q := by
  constructor
  · rintro ⟨n, hlow, hhigh, hn⟩
    obtain ⟨ds, rfl, hds, hreads⟩ := times_set_iff.mp hn
    exact ⟨ds, hlow, hhigh, hds, hreads⟩
  · rintro ⟨ds, hlow, hhigh, hds, hreads⟩
    exact ⟨ds.length, hlow, hhigh, times_set_iff.mpr ⟨ds, rfl, hds, hreads⟩⟩

end Sets

end LineScript.Regex
