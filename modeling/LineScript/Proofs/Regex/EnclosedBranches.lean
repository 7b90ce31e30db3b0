import LineScript.Proofs.Regex.EnclosedClasses

/-! Groups and branches of a regular expression in front of a closing parenthesis. -/
namespace LineScript.Regex

open Reader

variable {α β : Type} {dollar : Bool} {s : ReadState} {c : Char} {cs : List Char}

section Groups

theorem follows_countDigits {fuel fuel' : Nat} (hfuel : fuel ≤ fuel') (seen : List Char)
    (hlength : s.rest.length + 1 ≤ fuel) :
    Follows dollar Never (countDigits fuel seen) (countDigits fuel' seen) s := by
  induction fuel generalizing fuel' seen s with
  | zero => omega
  | succ fuel ih =>
    obtain ⟨fuel', rfl⟩ : ∃ n, fuel' = n + 1 := ⟨fuel' - 1, by omega⟩
    unfold countDigits
    cases hs : s.rest with
    | nil => exact follows_rest_bind_pure hs seen.reverse rfl rfl rfl
    | cons d ds =>
      refine follows_rest_bind_cons hs (follows_ite ?_ (follows_pure _ s))
      refine (follows_bumpSkip hs).bind_never fun _ s' hs' => ?_
      have hshorter := (takes_bumpSkip_of_cons hs _ s' hs').2
      exact ih (Nat.le_of_succ_le_succ hfuel) _ (by omega)

theorem follows_trimBlank (s : ReadState) : Follows dollar Never trimBlank trimBlank s where
  compared := by
    change Compared dollar Never (some ((), s.on (Text.trimLeft s.rest)))
      (some ((), s.on (Text.trimLeft (s.rest ++ closing dollar))))
    rw [trimLeft_append]
    exact .same () (s.on (Text.trimLeft s.rest))
  ended hs := by
    refine ⟨rfl, fun _ s' h => ?_⟩
    obtain ⟨hsuffix, -⟩ := takes_trimBlank s _ s' h
    rw [hs] at hsuffix
    exact List.suffix_nil.mp hsuffix

theorem follows_countOf (ds : List Char) (s : ReadState) : Follows dollar Never (countOf ds) (countOf ds) s :=
  follows_ite (follows_pure _ s) (follows_ite (follows_pure _ s) (follows_failure s))

theorem follows_count? (s : ReadState) : Follows dollar Never count? count? s := by
  rw [count?_eq]
  refine (follows_trimBlank s).bind_never fun _ s₁ _ => follows_rest_bind ?_
  have hfuel := Nat.succ_le_succ (length_le_append dollar s₁.rest)
  refine (follows_countDigits hfuel [] (Nat.le_refl _)).bind_never fun ds s₂ _ => ?_
  refine (follows_trimBlank s₂).bind_never fun _ s₃ _ => (follows_skip s₃).bind_never fun _ s₄ _ => ?_
  exact follows_countOf ds s₄

theorem follows_upperBound (low : Option Nat) (hs : s.rest = c :: cs) :
    Follows dollar Never (upperBound low) (upperBound low) s := by
  unfold upperBound
  refine follows_rest_bind_cons hs ?_
  cases low with
  | none => exact follows_failure s
  | some n =>
    by_cases hbrace : c = '\x7d'
    · subst hbrace
      exact follows_pure _ s
    · simp only [hbrace, List.cons.injEq, false_and, imp_self, implies_true]
      refine (follows_count? s).bind_never fun high s' _ => ?_
      cases high with
      | none => exact follows_failure s'
      | some m => exact follows_pure _ s'

theorem follows_countBounds (s : ReadState) :
    Follows dollar (Border dollar) countBounds countBounds s := by
  unfold countBounds
  refine (follows_count? s).bind_never fun low s' _ => ?_
  cases hs : s'.rest with
  | nil =>
    refine follows_rest_bind_failure hs rfl rfl fun bounds s'' h => ?_
    cases low with
    | none => cases h
    | some n =>
      cases h
      exact List.suffix_rfl
  | cons c cs =>
    refine follows_rest_bind_cons hs ?_
    by_cases hcomma : c = ','
    · subst hcomma
      refine follows_bumpOn_bind hs (fun d ds _ => (follows_upperBound low rfl).of_never) fun _ bounds s'' h => ?_
      exact border_of_takes (s := s'.on (closing dollar)) (takes_upperBound low _) List.suffix_rfl h
    · simp only [hcomma, List.cons.injEq, false_and, imp_self, implies_true]
      cases low with
      | none => exact follows_failure s'
      | some n => exact follows_pure _ s'

theorem follows_counts (hs : s.rest = c :: cs) : Follows dollar (Border dollar) counts counts s := by
  rw [counts_eq]
  refine follows_bumpOn_bind hs (fun d ds _ => follows_countBounds _) fun _ bounds s' h => ?_
  exact border_of_takes (s := s.on (closing dollar)) (takes_countBounds _) List.suffix_rfl h

theorem follows_lazyMark (s : ReadState) : Follows dollar Never lazyMark lazyMark s := by
  unfold lazyMark
  cases hs : s.rest with
  | nil => exact follows_rest_bind_pure hs false rfl rfl rfl
  | cons c cs =>
    refine follows_rest_bind_cons hs ?_
    by_cases hmark : c = '?'
    · subst hmark
      exact (follows_bump hs).bind_never fun _ s' _ => follows_pure true s'
    · simp only [hmark, List.cons.injEq, false_and, imp_self, implies_true]
      exact follows_pure false s

theorem follows_nextGroup (s : ReadState) : Follows dollar Never nextGroup nextGroup s where
  compared := .same (s.groups + 1) { s with groups := s.groups + 1 }
  ended h := by
    refine ⟨rfl, ?_⟩
    rintro _ _ ⟨⟩
    exact h

theorem follows_groupName (name : List Char) (hs : s.rest = c :: cs) :
    Follows dollar Never (groupName name) (groupName (name ++ closing dollar)) s := by
  have hbracket : '>' ∉ closing dollar := by cases dollar <;> decide
  constructor
  · unfold groupName
    dsimp only
    rcases cut_append hbracket name with ⟨h, h'⟩ | ⟨hne, h, h'⟩
    · rw [h, h']
      exact .refused
    · rw [h, h']
      obtain ⟨mark, behind, hdrop⟩ := List.exists_cons_of_ne_nil hne
      rw [hdrop]
      cases name.takeWhile (· != '>') with
      | nil => exact .refused
      | cons d more =>
        generalize hok : (isNameChar true d && more.all (isNameChar false) && !s.names.contains (d :: more)) = ok
        change Compared dollar Never ((if _ = true then modify _ else failure : Reader Unit).run s)
          ((if (isNameChar true d && more.all (isNameChar false) && !s.names.contains (d :: more)) = true
            then modify _ else failure : Reader Unit).run (s.on (s.rest ++ closing dollar)))
        rw [hok]
        split
        · exact .same () { s with rest := behind, names := (d :: more) :: s.names }
        · exact .refused
  · intro hnil
    rw [hs] at hnil
    cases hnil

theorem follows_namedGroup (name : List Char) (hs : s.rest = c :: cs) :
    Follows dollar Never (namedGroup name) (namedGroup (name ++ closing dollar)) s := by
  refine (follows_nextGroup s).bind_never fun i s' hs' => ?_
  have hrest : s'.rest = c :: cs := by
    cases hs'
    exact hs
  exact (follows_groupName name hrest).bind_never fun _ s'' _ => follows_pure _ s''

theorem follows_flagGroup (items : List Char) (hs : s.rest = c :: cs) :
    Follows dollar (Over dollar) (flagGroup items) (flagGroup (items ++ closing dollar)) s := by
  refine follows_flags_bind ?_
  constructor
  · rcases flagItems_append dollar true s.flags [] items with h | ⟨h, h'⟩
    · rw [h]
      cases hitems : flagItems true s.flags [] items with
      | none => exact .refused
      | some r =>
        obtain ⟨f, seen, behind⟩ := r
        obtain ⟨d, behind, rfl⟩ := List.exists_cons_of_ne_nil (flagItems_ne_nil hitems)
        by_cases hend : d = ')'
        · subst hend
          cases seen with
          | nil => exact .refused
          | cons _ _ => exact .same Opening.flags { s with rest := behind, flags := f }
        · simp only [Option.map_some, List.cons_append]
          exact .same (Opening.group none) { s with rest := behind, flags := f }
    · rw [h]
      cases hitems : flagItems true s.flags [] (items ++ closing dollar) with
      | none => exact .refused
      | some r =>
        obtain ⟨f, seen, behind⟩ := r
        obtain rfl : behind = closing dollar := h' _ hitems
        cases seen with
        | nil => exact .refused
        | cons _ _ => exact .only Opening.flags { s with rest := (closing dollar).tail, flags := f } List.suffix_rfl
  · intro hnil
    rw [hs] at hnil
    cases hnil

theorem follows_openedBy (s : ReadState) :
    Follows dollar (Over dollar) (rest >>= openedBy) (rest >>= openedBy) s := by
  refine follows_rest_bind ?_
  have hplain : Follows dollar (Over dollar) (nextGroup >>= fun i => pure (Opening.group (some i)))
      (nextGroup >>= fun i => pure (.group (some i))) s :=
    (follows_nextGroup s).bind_never fun i s' _ => follows_pure _ s'
  cases hs : s.rest with
  | nil => exact hplain
  | cons c cs =>
    unfold openedBy
    rw [openMark_append]
    cases openMark (c :: cs) with
    | lookAround => exact follows_failure s
    | named name => exact (follows_namedGroup name hs).of_never
    | flagged items => exact follows_flagGroup items hs
    | plain => exact hplain

theorem follows_opening (hs : s.rest = c :: cs) :
    Follows dollar (Over dollar) opening opening s := by
  rw [opening_eq]
  exact (follows_bumpSkip hs).bind_never fun _ s' _ => follows_openedBy s'

/-- A round that goes on where the closing parenthesis has been taken, or at stray braces. -/
def GoesAstray (dollar : Bool) (v : Round α β) (s : ReadState) : Prop :=
  (∃ a, v = .on a) ∧ (s.rest <:+ (closing dollar).tail ∨ Stray dollar s)

theorem follows_groupEnd (done : List (Syntax × Nat)) (ps : List Piece) (f : Flags) (index : Option Nat) (r : Syntax)
    (depth : Nat) (s : ReadState) :
    Follows dollar (GoesAstray dollar) (groupEnd done ps f index r depth) (groupEnd done ps f index r depth) s := by
  unfold groupEnd
  cases hs : s.rest with
  | nil =>
    refine follows_rest_bind_failure hs rfl rfl ?_
    rintro _ _ ⟨⟩
    exact ⟨⟨_, rfl⟩, .inl List.suffix_rfl⟩
  | cons c cs =>
    refine follows_rest_bind_cons hs ?_
    by_cases hend : c = ')'
    · subst hend
      constructor
      · exact .same (withPiece done ps ⟨some (index.elim r (.group · r)), depth + 1⟩) { s with rest := cs, flags := f }
      · intro hnil
        rw [hs] at hnil
        cases hnil
    · simp only [hend, List.cons.injEq, false_and, imp_self, implies_true]
      exact follows_failure s

/-- Behind the closing parenthesis no other group ends. -/
theorem run_groupEnd_over (done : List (Syntax × Nat)) (ps : List Piece) (f : Flags) (index : Option Nat) (r : Syntax)
    (depth : Nat) (hs : s.rest <:+ (closing dollar).tail) : (groupEnd done ps f index r depth).run s = none := by
  have hend : ')' ∉ (closing dollar).tail := by cases dollar <;> decide
  unfold groupEnd
  simp only [StateT.run_bind, run_rest_eq, Option.bind_eq_bind, Option.bind_some]
  split
  · rename_i behind hrest
    rw [hrest] at hs
    exact absurd (hs.mem List.mem_cons_self) hend
  · rfl

end Groups

section Branches

variable (done : List (Syntax × Nat)) (ps : List Piece) (f : Flags)

theorem follows_repetition (low : Nat) (high : Option Nat) (s : ReadState) :
    Follows dollar Never (repetition done ps f low high) (repetition done ps f low high) s := by
  unfold repetition
  refine (follows_lazyMark s).bind_never fun isLazy s' _ => ?_
  split
  · exact follows_pure _ s'
  · exact follows_failure s'

theorem follows_countedRepetition (hs : s.rest = c :: cs) :
    Follows dollar Never (countedRepetition done ps f) (countedRepetition done ps f) s := by
  unfold countedRepetition
  refine (follows_counts hs).bind (fun bounds s' _ => ?_) ?_
  · cases hs' : s'.rest with
    | nil =>
      refine follows_rest_bind_failure hs' rfl rfl ?_
      rintro _ _ ⟨⟩
    | cons d ds =>
      refine follows_rest_bind_cons hs' ?_
      by_cases hbrace : d = '\x7d'
      · subst hbrace
        refine (follows_bumpSkip hs').bind_never fun _ s'' _ => ?_
        exact follows_ite (follows_repetition done ps f _ _ s'') (follows_failure s'')
      · simp only [hbrace, List.cons.injEq, false_and, imp_self, implies_true]
        exact follows_failure s'
  · intro bounds s' hborder v s'' h
    simp only [StateT.run_bind, run_rest_eq, Option.bind_eq_bind, Option.bind_some] at h
    split at h
    · rename_i behind hrest
      have hmem : '\x7d' ∈ closing dollar := hborder.mem (hrest ▸ List.mem_cons_self)
      rcases mem_closing hmem with heq | heq
      · cases heq
      · cases heq
    · cases h

theorem follows_groupOrFlags {group : Reader (Syntax × Nat)} (hgroup : ∀ s, Follows dollar (Over dollar) group group s)
    (htakes : ∀ s, Reader.Takes 0 group s) (hs : s.rest = c :: cs) :
    Follows dollar (GoesAstray dollar) (groupOrFlags group done ps f) (groupOrFlags group done ps f) s := by
  have hend (index : Option Nat) (r : Syntax × Nat) (s' : ReadState) (hover : Over dollar r s') :
      (groupEnd done ps f index r.1 r.2).run s' = none := run_groupEnd_over done ps f index r.1 r.2 hover
  unfold groupOrFlags
  refine (follows_opening hs).bind (fun o s' _ => ?_) ?_
  · cases o with
    | flags => exact follows_pure _ s'
    | group index =>
      refine (hgroup s').bind (fun r s'' _ => follows_groupEnd done ps f index _ _ s'') ?_
      intro r s'' hover v s₃ h
      cases (hend index r s'' hover).symm.trans h
  · intro o s' hover v s'' h
    cases o with
    | flags =>
      cases h
      exact ⟨⟨_, rfl⟩, .inl hover⟩
    | group index =>
      rw [StateT.run_bind] at h
      obtain ⟨⟨r, s₁⟩, hr, h⟩ := Option.bind_eq_some_iff.mp h
      cases (hend index r s₁ (over_of_over (htakes s') hover hr)).symm.trans h

theorem follows_singleAtom (hs : s.rest = c :: cs) :
    Follows dollar (GoesAstray dollar) (singleAtom done ps f c) (singleAtom done ps f c) s := by
  have hatom : Follows dollar (Escaped dollar) (atomAt c) (atomAt c) s :=
    follows_ite (follows_escape hs) ((follows_bump hs).bind_never fun _ s' _ => follows_pure _ s')
  unfold singleAtom
  refine hatom.bind (fun atom s' _ => ?_) ?_
  · split
    · exact follows_pure _ s'
    · exact follows_failure s'
  · intro atom s' hescaped v s'' h
    have hloose : s'.rest <:+ (closing dollar).tail ∨ Stray dollar s' := hescaped.imp_right And.right
    split at h
    · cases h
      exact ⟨⟨_, rfl⟩, hloose⟩
    · cases h

theorem follows_condition (l : Look) (hs : s.rest = c :: cs) :
    Follows dollar Never (condition done ps l) (condition done ps l) s :=
  (follows_bump hs).bind_never fun _ s' _ => follows_pure _ s'

theorem follows_branchRound {class? : Reader (CharSet × Nat)} {group : Reader (Syntax × Nat)}
    (hclass : Follows dollar (Over dollar) class? class? s) (hgroup : ∀ s, Follows dollar (Over dollar) group group s)
    (htakes : ∀ s, Reader.Takes 0 group s) (hs : s.rest = c :: cs) :
    Follows dollar (GoesAstray dollar) (branchRound class? group done ps f c)
      (branchRound class? group done ps f c) s := by
  have hbump {x : Reader (Round BranchParts (Syntax × Nat))} (hx : ∀ s, Follows dollar Never x x s) :
      Follows dollar (GoesAstray dollar) (bump >>= fun _ => x) (bump >>= fun _ => x) s :=
    (follows_bump hs).bind_never fun _ s' _ => (hx s').of_never
  have hrepeat (low : Nat) (high : Option Nat) := hbump (follows_repetition done ps f low high)
  have hcounted : Follows dollar (GoesAstray dollar) (if ps.isEmpty then failure else countedRepetition done ps f)
      (if ps.isEmpty then failure else countedRepetition done ps f) s :=
    follows_ite (follows_failure s) (follows_countedRepetition done ps f hs).of_never
  have hset : Follows dollar (GoesAstray dollar) (class? >>= fun r => pure (withPiece done ps ⟨some (.set r.1), r.2⟩))
      (class? >>= fun r => pure (withPiece done ps ⟨some (.set r.1), r.2⟩)) s := by
    refine hclass.bind (fun r s' _ => follows_pure _ s') ?_
    rintro r s' hover _ _ ⟨⟩
    exact ⟨⟨_, rfl⟩, .inl hover⟩
  have hgroups := follows_groupOrFlags done ps f hgroup htakes hs
  have hlook (l : Look) : Follows dollar (GoesAstray dollar) (condition done ps l) (condition done ps l) s :=
    (follows_condition done ps l hs).of_never
  unfold branchRound
  refine follows_ite (hbump (follows_pure _)) (follows_ite hgroups (follows_ite hset ?_))
  refine follows_ite (hrepeat 0 (some 1)) (follows_ite (hrepeat 0 none) (follows_ite (hrepeat 1 none) ?_))
  exact follows_ite hcounted (follows_ite (hlook _) (follows_ite (hlook _) (follows_singleAtom done ps f hs)))

theorem follows_branchRounds {class? : Reader (CharSet × Nat)} {group : Reader (Syntax × Nat)}
    (hclass : ∀ (s : ReadState) (c : Char) (cs : List Char), s.rest = c :: cs →
      Follows dollar (Over dollar) class? class? s)
    (hgroup : ∀ s, Follows dollar (Over dollar) group group s) (htakes : ∀ s, Reader.Takes 0 group s) (s : ReadState) :
    Follows dollar (GoesAstray dollar) (branchRounds class? group done ps) (branchRounds class? group done ps) s := by
  unfold branchRounds
  refine (follows_skip s).bind_never fun _ s' _ => follows_flags_bind ?_
  cases hs : s'.rest with
  | nil => exact follows_rest_bind_pure hs (.ended (alternation (Piece.sequence ps) done)) rfl rfl rfl
  | cons c cs =>
    refine follows_rest_bind_cons hs ?_
    exact follows_ite (follows_pure _ s') (follows_branchRound done ps s'.flags (hclass s' c cs hs) hgroup htakes hs)

/-- There is no count in front of the closing parenthesis. -/
theorem run_count?_closing (s : ReadState) :
    count?.run (s.on (closing dollar)) = some (none, s.on (closing dollar)) := by
  have htrim : trimBlank.run (s.on (closing dollar)) = some ((), s.on (closing dollar)) := by
    change some ((), s.on (Text.trimLeft ([] ++ closing dollar))) = _
    rw [trimLeft_append]
    rfl
  have hskip : skip.run (s.on (closing dollar)) = some ((), s.on (closing dollar)) := by
    rw [run_skip_eq]
    change some ((), s.on (s.flags.behindIgnored (')' :: _))) = _
    rw [Flags.behindIgnored_cons (by decide) (by decide)]
    rfl
  have hdigits (fuel : Nat) :
      (countDigits (fuel + 1) []).run (s.on (closing dollar)) = some ([], s.on (closing dollar)) :=
    rfl
  rw [count?_eq]
  simp only [StateT.run_bind, htrim, run_rest, hdigits, hskip, Option.bind_eq_bind, Option.bind_some]
  rfl

theorem run_counts_stray (hs : Stray dollar s) : counts.run s = none := by
  obtain ⟨cs, hrest, hbehind⟩ := hs
  have hbumpOn : bumpOn.run s = some ((), s.on (closing dollar)) := by
    rw [run_bumpOn_eq, hrest, List.tail_cons, hbehind]
    rfl
  rw [counts_eq]
  unfold countBounds
  simp only [StateT.run_bind, hbumpOn, run_count?_closing, run_rest, Option.bind_eq_bind, Option.bind_some]
  rfl

/-- Nothing goes on from stray braces. -/
theorem run_branches_stray (fuel : Nat) (hs : Stray dollar s) : (branches fuel done ps).run s = none := by
  cases fuel with
  | zero => rfl
  | succ fuel =>
    have hcounts := run_counts_stray hs
    obtain ⟨cs, hrest, -⟩ := hs
    have hskip : s.flags.behindIgnored s.rest = '\x7b' :: cs := by
      rw [hrest]
      exact s.flags.behindIgnored_cons (by decide) (by decide) cs
    rw [branches_succ, StateT.run_bind, run_branchRounds_cons done ps hskip (by decide), ← hrest]
    change ((if ps.isEmpty then failure else countedRepetition done ps s.flags).run s >>= _) = _
    split
    · rfl
    · unfold countedRepetition
      rw [StateT.run_bind, hcounts]
      rfl

/-- In front of a closing parenthesis the branches of a text are read as in the text alone. -/
theorem follows_branches (fuel : Nat) (s : ReadState) :
    Follows dollar (Over dollar) (branches fuel done ps) (branches fuel done ps) s := by
  induction fuel generalizing done ps s with
  | zero => exact follows_failure s
  | succ fuel ih =>
    rw [branches_succ]
    refine (follows_branchRounds done ps (follows_class fuel).1 (ih [] []) (takes_branches fuel [] []) s).bind
      (fun v s' _ => ?_) ?_
    · cases v with
      | ended r => exact follows_pure r s'
      | on a => exact ih a.1 a.2 s'
    · rintro v s' ⟨⟨a, rfl⟩, hover | hstray⟩ r s'' h
      · exact over_of_over (takes_branches fuel a.1 a.2 s') hover h
      · cases (run_branches_stray a.1 a.2 fuel hstray).symm.trans h

end Branches

end LineScript.Regex
