import LineScript.Proofs.Regex.Rounds

/-! Every regular expression that is read is well formed: the bounds of its repetitions are in order, and its groups are
counted from one. -/
namespace LineScript.Regex

open Reader

namespace Reader

variable {α β : Type} {x y : Reader α} {f : α → Reader β} {P : α → Prop} {Q : β → Prop}

/-- Whether a reader gives only values of a kind. -/
def Gives (x : Reader α) (P : α → Prop) : Prop :=
  ∀ s a s', x.run s = some (a, s') → P a

theorem gives_pure {a : α} (h : P a) : (pure a : Reader α).Gives P := by
  rintro _ _ _ ⟨⟩
  exact h

theorem gives_failure : (failure : Reader α).Gives P := by
  rintro _ _ _ ⟨⟩

theorem Gives.bind (hx : x.Gives P) (hf : ∀ a, P a → (f a).Gives Q) : (x >>= f).Gives Q := by
  intro s b s'' h
  rw [StateT.run_bind] at h
  obtain ⟨⟨a, s'⟩, ha, hb⟩ := Option.bind_eq_some_iff.mp h
  exact hf a (hx s a s' ha) s' b s'' hb

theorem gives_bind (hf : ∀ a, (f a).Gives Q) : (x >>= f).Gives Q := by
  have hx : x.Gives fun _ => True := fun _ _ _ _ => trivial
  exact hx.bind fun a _ => hf a

theorem gives_ite {p : Prop} [Decidable p] (hx : p → x.Gives P) (hy : y.Gives P) : (if p then x else y).Gives P := by
  split
  · rename_i hp
    exact hx hp
  · exact hy

end Reader

variable {done : List (Syntax × Nat)} {ps : List Piece} {class? : Reader (CharSet × Nat)}
  {group : Reader (Syntax × Nat)}

/-- Whether finished branches and pieces are well formed. -/
structure Formed (done : List (Syntax × Nat)) (ps : List Piece) : Prop where
  branches : ∀ b ∈ done, b.1.WellFormed
  pieces : ∀ r ∈ ps.filterMap (·.syn), r.WellFormed

/-- Whether what a round comes to is well formed. -/
def Round.Formed : Round BranchParts (Syntax × Nat) → Prop
  | ended r => r.1.WellFormed
  | on a => Regex.Formed a.1 a.2

theorem Formed.withPiece (h : Formed done ps) {r : Syntax} (hr : r.WellFormed) (depth : Nat) :
    (withPiece done ps ⟨some r, depth⟩).Formed :=
  ⟨h.branches, List.forall_mem_cons.mpr ⟨hr, h.pieces⟩⟩

theorem wellFormed_alternation {last : Syntax × Nat} (hlast : last.1.WellFormed) (hdone : ∀ b ∈ done, b.1.WellFormed) :
    (alternation last done).1.WellFormed := by
  have hfold : ∀ done : List (Syntax × Nat), (∀ b ∈ done, b.1.WellFormed) → ∀ last : Syntax × Nat, last.1.WellFormed →
      (done.foldl (fun a b => (.alt b.1 a.1, max a.2 b.2)) last).1.WellFormed := by
    intro done hdone
    induction done with
    | nil => exact fun _ h => h
    | cons b done ih =>
      intro last hlast
      obtain ⟨hb, hdone⟩ := List.forall_mem_cons.mp hdone
      exact ih hdone _ ⟨hb, hlast⟩
  cases done with
  | nil => exact hlast
  | cons b done => exact hfold (b :: done) hdone last hlast

theorem gives_repetition (h : Formed done ps) (f : Flags) {low : Nat} {high : Option Nat}
    (hbounds : ∀ m ∈ high, low ≤ m) :
    (repetition done ps f low high).Gives Round.Formed := by
  refine gives_bind fun isLazy => ?_
  split
  · rename_i ps' hrepeat
    refine gives_pure ⟨h.branches, ?_⟩
    unfold repeatLast at hrepeat
    split at hrepeat
    · cases hrepeat
      obtain ⟨hr, hps⟩ := List.forall_mem_cons.mp h.pieces
      exact List.forall_mem_cons.mpr ⟨⟨hbounds, hr⟩, hps⟩
    · cases hrepeat
  · exact gives_failure

theorem gives_countedRepetition (h : Formed done ps) (f : Flags) :
    (countedRepetition done ps f).Gives Round.Formed := by
  refine gives_bind fun bounds => gives_bind fun cs => ?_
  split
  · refine gives_bind fun _ => gives_ite (fun hbounds => gives_repetition h f ?_) gives_failure
    intro m hm
    rw [Option.mem_def] at hm
    rw [hm] at hbounds
    exact of_decide_eq_true hbounds
  · exact gives_failure

theorem gives_opening : opening.Gives fun o => ∀ i, o = .group (some i) → 0 < i := by
  have hnext : nextGroup.Gives fun i => 0 < i := by
    rintro _ _ _ ⟨⟩
    exact Nat.succ_pos _
  rw [opening_eq]
  refine gives_bind fun _ => gives_bind fun cs => ?_
  unfold openedBy
  split
  · exact gives_failure
  · refine hnext.bind fun i hi => gives_bind fun _ => gives_pure ?_
    rintro _ ⟨⟩
    exact hi
  · refine gives_bind fun f => ?_
    split
    · refine gives_ite (fun _ => gives_failure) (gives_bind fun _ => gives_pure ?_)
      rintro _ ⟨⟩
    · refine gives_bind fun _ => gives_pure ?_
      rintro _ ⟨⟩
    · exact gives_failure
  · refine hnext.bind fun i hi => gives_pure ?_
    rintro _ ⟨⟩
    exact hi

theorem gives_groupEnd (h : Formed done ps) (f : Flags) {index : Option Nat} (hindex : ∀ i, index = some i → 0 < i)
    {r : Syntax} (hr : r.WellFormed) (depth : Nat) : (groupEnd done ps f index r depth).Gives Round.Formed := by
  have hgroup : (index.elim r (.group · r)).WellFormed := by
    cases index with
    | none => exact hr
    | some i => exact ⟨hindex i rfl, hr⟩
  refine gives_bind fun cs => ?_
  split
  · exact gives_bind fun _ => gives_pure (h.withPiece hgroup _)
  · exact gives_failure

theorem gives_groupOrFlags (h : Formed done ps) (f : Flags) (hgroup : group.Gives fun r => r.1.WellFormed) :
    (groupOrFlags group done ps f).Gives Round.Formed := by
  refine gives_opening.bind fun o ho => ?_
  cases o with
  | flags => exact gives_pure ⟨h.branches, h.pieces⟩
  | group index =>
    refine hgroup.bind fun r hr => gives_groupEnd h f ?_ hr _
    rintro i rfl
    exact ho i rfl

theorem wellFormed_toSyntax {f : Flags} {atom : Atom} {r : Syntax} (h : atom.toSyntax? f = some r) : r.WellFormed := by
  cases atom with
  | char c hexByte =>
    rw [Atom.toSyntax?] at h
    split at h
    · cases h
    · cases h
      trivial
  | shorthand u a negated | property set negated =>
    obtain ⟨set, -, rfl⟩ := Option.map_eq_some_iff.mp h
    trivial
  | dot =>
    rw [Atom.toSyntax?] at h
    split at h
    · cases h
    split at h
    · cases h
      trivial
    split at h
    · cases h
      trivial
    · cases h
      trivial
  | look l =>
    cases h
    trivial

theorem gives_singleAtom (h : Formed done ps) (f : Flags) (c : Char) : (singleAtom done ps f c).Gives Round.Formed := by
  refine gives_bind fun atom => ?_
  split
  · rename_i hr
    exact gives_pure (h.withPiece (wellFormed_toSyntax hr) _)
  · exact gives_failure

theorem gives_branchRound (h : Formed done ps) (f : Flags) (c : Char) (hgroup : group.Gives fun r => r.1.WellFormed) :
    (branchRound class? group done ps f c).Gives Round.Formed := by
  have hnone (m : Nat) (hm : m ∈ (none : Option Nat)) (n : Nat) : n ≤ m := (Option.not_mem_none m hm).elim
  have hend : Formed (Piece.sequence ps :: done) [] :=
    ⟨List.forall_mem_cons.mpr ⟨wellFormed_sequence h.pieces, h.branches⟩, by simp⟩
  have hlook (l : Look) : (condition done ps l).Gives Round.Formed :=
    gives_bind fun _ => gives_pure (h.withPiece (r := .look l) trivial _)
  unfold branchRound
  refine gives_ite (fun _ => gives_bind fun _ => gives_pure hend) ?_
  refine gives_ite (fun _ => gives_groupOrFlags h f hgroup) ?_
  refine gives_ite (fun _ => gives_bind fun r => gives_pure (h.withPiece (r := .set r.1) trivial _)) ?_
  refine gives_ite (fun _ => gives_bind fun _ => gives_repetition h f (by simp)) ?_
  refine gives_ite (fun _ => gives_bind fun _ => gives_repetition h f fun m hm => hnone m hm 0) ?_
  refine gives_ite (fun _ => gives_bind fun _ => gives_repetition h f fun m hm => hnone m hm 1) ?_
  refine gives_ite (fun _ => gives_ite (fun _ => gives_failure) (gives_countedRepetition h f)) ?_
  exact gives_ite (fun _ => hlook _) (gives_ite (fun _ => hlook _) (gives_singleAtom h f c))

theorem gives_branchRounds (h : Formed done ps) (hgroup : group.Gives fun r => r.1.WellFormed) :
    (branchRounds class? group done ps).Gives Round.Formed := by
  have hover : (alternation (Piece.sequence ps) done).1.WellFormed :=
    wellFormed_alternation (wellFormed_sequence h.pieces) h.branches
  refine gives_bind fun _ => gives_bind fun f => gives_bind fun cs => ?_
  split
  · exact gives_pure hover
  · exact gives_ite (fun _ => gives_pure hover) (gives_branchRound h f _ hgroup)

theorem gives_branches (fuel : Nat) (h : Formed done ps) : (branches fuel done ps).Gives fun r => r.1.WellFormed := by
  induction fuel generalizing done ps with
  | zero => exact gives_failure
  | succ fuel ih =>
    rw [branches_succ]
    have hnothing : Formed [] [] := ⟨by simp, by simp⟩
    refine (gives_branchRounds h (ih hnothing)).bind fun v hv => ?_
    cases v with
    | ended r => exact gives_pure hv
    | on a => exact ih hv

/-- What a text reads as is well formed. -/
theorem wellFormed_of_reading {ignoreCase : Bool} {cs : List Char} {r : Syntax} {depth : Nat} {s : ReadState}
    (h : reading ignoreCase cs = some ((r, depth), s)) : r.WellFormed := by
  have hnothing : Formed [] [] := ⟨by simp, by simp⟩
  exact gives_branches _ hnothing _ _ _ h

end LineScript.Regex
