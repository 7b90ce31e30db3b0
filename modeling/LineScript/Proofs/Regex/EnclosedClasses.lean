import LineScript.Proofs.Regex.Enclosed

/-! Atoms and classes of a regular expression in front of a closing parenthesis. -/
namespace LineScript.Regex

open Reader

variable {α β : Type} {dollar : Bool} {s : ReadState} {c : Char} {cs : List Char}

section Atoms

theorem follows_bracedHex {fuel fuel' : Nat} (hfuel : fuel ≤ fuel') (seen : List Char) (hs : s.rest = c :: cs)
    (hlength : s.rest.length ≤ fuel) :
    Follows dollar Never (bracedHex fuel seen) (bracedHex fuel' seen) s := by
  induction fuel generalizing fuel' seen s c cs with
  | zero =>
    rw [hs] at hlength
    exact absurd hlength (Nat.not_succ_le_zero _)
  | succ fuel ih =>
    obtain ⟨fuel', rfl⟩ : ∃ n, fuel' = n + 1 := ⟨fuel' - 1, by omega⟩
    unfold bracedHex
    refine follows_bumpOn_bind hs (fun d ds hds => follows_rest_bind_cons rfl ?_) ?_
    · have hshorter := hds.length_le
      rw [hs, List.length_cons] at hlength
      have hnext : Follows dollar Never (bracedHex fuel (d :: seen)) (bracedHex fuel' (d :: seen)) (s.on (d :: ds)) :=
        ih (Nat.le_of_succ_le_succ hfuel) _ rfl (Nat.le_trans hshorter (Nat.le_of_succ_le_succ hlength))
      have hend : Follows dollar Never (bumpSkip >>= fun _ => pure seen.reverse)
          (bumpSkip >>= fun _ => pure seen.reverse)
          (s.on (d :: ds)) := (follows_bumpSkip rfl).bind_never fun _ s' _ => follows_pure _ s'
      exact follows_ite hend (follows_ite hnext (follows_failure _))
    · rintro - _ _ ⟨⟩

theorem follows_fixedHex (n : Nat) (seen : List Char) (s : ReadState) :
    Follows dollar Never (fixedHex n seen) (fixedHex n seen) s := by
  induction n generalizing seen s with
  | zero => exact follows_pure _ s
  | succ n ih =>
    unfold fixedHex
    cases hs : s.rest with
    | nil =>
      refine follows_rest_bind_failure hs rfl rfl ?_
      rintro _ _ ⟨⟩
    | cons d ds =>
      refine follows_rest_bind_cons hs (follows_ite ?_ (follows_failure _))
      exact (follows_bumpSkip hs).bind_never fun _ s' _ => ih _ s'

/-- A text with a closing parenthesis behind it is longer. -/
theorem length_le_append (dollar : Bool) (cs : List Char) : cs.length ≤ (cs ++ closing dollar).length := by
  rw [List.length_append]
  exact Nat.le_add_right _ _

theorem follows_codePoint {digits : Nat} (hdigits : 0 < digits) (hs : s.rest = c :: cs) :
    Follows dollar Never (codePoint digits) (codePoint digits) s := by
  unfold codePoint
  refine follows_bumpOn_bind hs (fun d ds hds => follows_rest_bind_cons rfl ?_) ?_
  · by_cases hbrace : d = '\x7b'
    · subst hbrace
      have hfuel := Nat.succ_le_succ (length_le_append dollar ds)
      refine (follows_bracedHex hfuel [] rfl (Nat.le_refl _)).bind_never fun digits s' _ => ?_
      split
      · exact follows_ite (follows_failure s') (follows_pure _ s')
      · exact follows_failure s'
    · simp only [hbrace, List.cons.injEq, false_and, imp_self, implies_true]
      refine (follows_fixedHex digits [] _).bind_never fun digits s' _ => ?_
      split
      · exact follows_pure _ s'
      · exact follows_failure s'
  · obtain ⟨n, rfl⟩ : ∃ n, digits = n + 1 := ⟨digits - 1, by omega⟩
    rintro - _ _ ⟨⟩

/-- A name without its brace at the end is none. -/
theorem run_propertyName_none (fuel : Nat) (seen : List Char) {s : ReadState} (h : '\x7d' ∉ s.rest) :
    (propertyName fuel seen).run s = none := by
  induction fuel generalizing seen s with
  | zero => rfl
  | succ fuel ih =>
    unfold propertyName
    rw [StateT.run_bind]
    cases hrun : bumpOn.run s with
    | none => rfl
    | some r =>
      have hsuffix := (takes_bumpOn s r.1 r.2 hrun).1
      have hbrace : '\x7d' ∉ r.2.rest := fun hmem => h (hsuffix.mem hmem)
      simp only [StateT.run_bind, run_rest_eq, Option.bind_eq_bind, Option.bind_some]
      cases hrest : r.2.rest with
      | nil => rfl
      | cons c cs =>
        rw [hrest] at hbrace
        have hc : c ≠ '\x7d' := fun heq => hbrace (heq ▸ List.mem_cons_self)
        dsimp only
        rw [if_neg hc]
        exact ih _ (by rwa [hrest])

theorem follows_propertyName {fuel fuel' : Nat} (hfuel : fuel ≤ fuel') (seen : List Char) (hs : s.rest = c :: cs)
    (hlength : s.rest.length ≤ fuel) :
    Follows dollar Never (propertyName fuel seen) (propertyName fuel' seen) s := by
  induction fuel generalizing fuel' seen s c cs with
  | zero =>
    rw [hs] at hlength
    exact absurd hlength (Nat.not_succ_le_zero _)
  | succ fuel ih =>
    obtain ⟨fuel', rfl⟩ : ∃ n, fuel' = n + 1 := ⟨fuel' - 1, by omega⟩
    unfold propertyName
    refine follows_bumpOn_bind hs (fun d ds hds => follows_rest_bind_cons rfl ?_) ?_
    · have hshorter := hds.length_le
      rw [hs, List.length_cons] at hlength
      have hnext : Follows dollar Never (propertyName fuel (d :: seen)) (propertyName fuel' (d :: seen))
          (s.on (d :: ds)) :=
        ih (Nat.le_of_succ_le_succ hfuel) _ rfl (Nat.le_trans hshorter (Nat.le_of_succ_le_succ hlength))
      have hend : Follows dollar Never (bump >>= fun _ => pure seen.reverse) (bump >>= fun _ => pure seen.reverse)
          (s.on (d :: ds)) := (follows_bump rfl).bind_never fun _ s' _ => follows_pure _ s'
      exact follows_ite hend hnext
    · intro _ b s' h
      have hclosing : '\x7d' ∉ closing dollar := fun hmem => by simpa using mem_closing hmem
      change (propertyName fuel' (')' :: seen)).run (s.on (closing dollar)) = _ at h
      rw [run_propertyName_none _ _ hclosing] at h
      cases h

theorem follows_singleProperty (negated : Bool) (hs : s.rest = c :: cs) {P : Atom → ReadState → Prop} :
    Follows dollar P (singleProperty negated c) (singleProperty negated c) s := by
  unfold singleProperty
  refine (follows_bumpSkip hs).bind_never fun _ s' _ => ?_
  split
  · exact follows_pure _ s'
  · exact follows_failure s'

theorem follows_propertyClass (negated : Bool) (hs : s.rest = c :: cs) :
    Follows dollar (Over dollar) (propertyClass negated) (propertyClass negated) s := by
  rw [propertyClass_eq]
  refine follows_bumpOn_bind hs (fun d ds hds => follows_rest_bind_cons rfl ?_) ?_
  · by_cases hbrace : d = '\x7b'
    · subst hbrace
      have hfuel := Nat.succ_le_succ (length_le_append dollar ds)
      refine (follows_propertyName hfuel [] rfl (Nat.le_refl _)).bind_never fun name s' _ => ?_
      split
      · exact follows_pure _ s'
      · exact follows_failure s'
    · by_cases hescape : d = '\\'
      · subst hescape
        exact follows_failure _
      · unfold propertyOf
        simp only []
        exact follows_singleProperty negated rfl
  · intro _ a s' h
    exact over_of_takes (takes_rest_bind (takes_propertyOf negated (s.on (closing dollar)))) List.suffix_rfl h

theorem follows_boundaryName {fuel fuel' : Nat} (hfuel : fuel ≤ fuel') (seen : List Char)
    (hlength : s.rest.length + 1 ≤ fuel) :
    Follows dollar Never (boundaryName fuel seen) (boundaryName fuel' seen) s := by
  induction fuel generalizing fuel' seen s with
  | zero => omega
  | succ fuel ih =>
    obtain ⟨fuel', rfl⟩ : ∃ n, fuel' = n + 1 := ⟨fuel' - 1, by omega⟩
    unfold boundaryName
    cases hs : s.rest with
    | nil =>
      exact follows_rest_bind_pure hs seen.reverse rfl rfl rfl
    | cons d ds =>
      refine follows_rest_bind_cons hs (follows_ite ?_ (follows_pure _ s))
      refine (follows_bumpSkip hs).bind_never fun _ s' hs' => ?_
      have hshorter := (takes_bumpSkip_of_cons hs _ s' hs').2
      exact ih (Nat.le_of_succ_le_succ hfuel) _ (by omega)

theorem follows_namedCondition (unicode : Bool) {fuel fuel' : Nat} (hfuel : fuel ≤ fuel')
    (hlength : s.rest.length + 1 ≤ fuel) :
    Follows dollar Never (namedCondition unicode fuel) (namedCondition unicode fuel') s := by
  unfold namedCondition
  refine (follows_boundaryName hfuel [] hlength).bind_never fun name s' _ => ?_
  cases hs : s'.rest with
  | nil =>
    refine follows_rest_bind_failure hs rfl rfl ?_
    rintro _ _ ⟨⟩
  | cons d ds =>
    refine follows_rest_bind_cons hs ?_
    by_cases hbrace : d = '\x7d'
    · subst hbrace
      refine (follows_bump hs).bind_never fun _ s'' _ => ?_
      split <;> first | exact follows_pure _ s'' | exact follows_failure s''
    · simp only [hbrace, List.cons.injEq, false_and, imp_self, implies_true]
      exact follows_failure s'

theorem follows_wordCondition (unicode : Bool) (s : ReadState) :
    Follows dollar (Escaped dollar) (wordCondition unicode) (wordCondition unicode) s := by
  rw [wordCondition_eq]
  cases hs : s.rest with
  | nil => exact follows_rest_bind_pure hs (.look (.wordBoundary unicode)) rfl rfl rfl
  | cons c cs =>
    refine follows_rest_bind_cons hs ?_
    by_cases hbrace : c = '\x7b'
    · subst hbrace
      refine follows_bumpOn_bind hs (fun d ds hds => follows_rest_bind_cons rfl ?_) ?_
      · have hfuel := Nat.succ_le_succ (length_le_append dollar cs)
        have hlength : (d :: ds).length + 1 ≤ cs.length + 1 := Nat.succ_le_succ hds.length_le
        refine follows_ite (follows_namedCondition unicode hfuel hlength).of_never ?_
        constructor
        · exact .same (Atom.look (.wordBoundary unicode)) (s.on ('\x7b' :: cs))
        · rintro ⟨⟩
      · intro hclosing a s' h
        cases h
        exact .inr ⟨⟨_, rfl⟩, cs ++ closing dollar, rfl, hclosing⟩
    · simp only [hbrace, List.cons.injEq, false_and, imp_self, implies_true]
      exact follows_pure _ s

theorem follows_escape (hs : s.rest = c :: cs) : Follows dollar (Escaped dollar) escape escape s := by
  unfold escape
  refine (follows_bump hs).bind_never fun _ s' _ => ?_
  cases hs' : s'.rest with
  | nil =>
    refine follows_rest_bind_failure hs' rfl rfl ?_
    intro a s'' h
    cases h
    exact .inl List.suffix_rfl
  | cons d ds =>
    refine follows_rest_bind_cons hs' (follows_flags_bind ?_)
    have hpass (a : Atom) : Follows dollar (Escaped dollar) (bump >>= fun _ => pure a) (bump >>= fun _ => pure a) s' :=
      (follows_bump hs').bind_never fun _ s'' _ => follows_pure a s''
    have hcode {digits : Nat} (hdigits : 0 < digits) :
        Follows dollar (Escaped dollar) (codePoint digits) (codePoint digits) s' :=
      (follows_codePoint hdigits hs').of_never
    have hproperty (negated : Bool) :
        Follows dollar (Escaped dollar) (propertyClass negated) (propertyClass negated) s' :=
      (follows_propertyClass negated hs').mono fun _ _ h => .inl h
    dsimp only
    split
    · exact hcode (by decide)
    · exact hcode (by decide)
    · exact hcode (by decide)
    · exact hproperty false
    · exact hproperty true
    case h_23 => exact (follows_bump hs').bind_never fun _ s'' _ => follows_wordCondition _ s''
    case h_24 => exact follows_ite (hpass _) (follows_failure s')
    all_goals exact hpass _

end Atoms

section Classes

theorem border_of_over {a : α} {b : β} (h : Over dollar a s) : Border dollar b s :=
  h.trans (List.tail_suffix _)

theorem follows_lift (o : Option α) (s : ReadState) : Follows dollar Never (liftM o : Reader α) (liftM o) s := by
  cases o with
  | none => exact follows_failure s
  | some a => exact follows_pure a s

theorem follows_classAtom (s : ReadState) : Follows dollar (Escaped dollar) classAtom classAtom s := by
  unfold classAtom
  cases hs : s.rest with
  | nil =>
    refine follows_rest_bind_failure hs rfl rfl ?_
    intro a s' h
    cases h
    exact .inl List.suffix_rfl
  | cons c cs =>
    refine follows_rest_bind_cons hs ?_
    by_cases hescape : c = '\\'
    · subst hescape
      exact follows_escape hs
    · simp only []
      exact (follows_bump hs).bind_never fun _ s' _ => follows_pure _ s'

theorem follows_rangeLast (f : Flags) (first : Atom) (s : ReadState) :
    Follows dollar (Border dollar) (rangeLast f first) (rangeLast f first) s := by
  unfold rangeLast
  refine (follows_classAtom s).bind (fun last s' _ => ?_) ?_
  · split
    · exact follows_ite (follows_failure s') (follows_pure _ s')
    · exact follows_failure s'
  · intro last s' hlast b s'' h
    rcases hlast with hover | ⟨⟨l, rfl⟩, -⟩
    · split at h
      · split at h
        · cases h
        · cases h
          exact border_of_over hover
      · cases h
    · cases first <;> cases h

theorem standsAlone_of_ne {c : Char} (hc : c ≠ '-') (f : Flags) (cs : List Char) : standsAlone f c cs = true := by
  simp [standsAlone, hc]

theorem follows_memberOrRange (f : Flags) (first : Atom) (s : ReadState) :
    Follows dollar (Border dollar) (rest >>= memberOrRange f first) (rest >>= memberOrRange f first) s := by
  cases hs : s.rest with
  | nil =>
    refine follows_rest_bind_failure hs rfl rfl fun set s' h => ?_
    exact border_of_takes (takes_memberOrRange f first (s.on (closing dollar))) List.suffix_rfl h
  | cons c cs =>
    refine follows_rest_bind_cons hs ?_
    unfold memberOrRange
    dsimp only
    rw [standsAlone_append]
    refine follows_ite (follows_lift _ s).of_never ?_
    exact follows_bumpOn_bind hs (fun d ds _ => follows_rangeLast f first _) fun _ set s' h =>
      border_of_takes (s := s.on (closing dollar)) (takes_rangeLast f first _).zero List.suffix_rfl h

/-- Nothing goes on from a condition on a place as a member of a class. -/
theorem run_afterMember_stray (l : Look) (hs : Stray dollar s) : (afterMember (.look l)).run s = none := by
  obtain ⟨cs, hrest, -⟩ := hs
  have hskip := s.flags.behindIgnored_cons (c := '\x7b') (by decide) (by decide) cs
  unfold afterMember
  simp only [StateT.run_bind, run_skip_eq, hrest, hskip, run_flags, run_rest, Option.bind_eq_bind, Option.bind_some]
  unfold memberOrRange
  dsimp only
  rw [standsAlone_of_ne (by decide), if_pos rfl]
  rfl

theorem follows_classRange (s : ReadState) : Follows dollar (Border dollar) classRange classRange s := by
  rw [classRange_eq]
  refine (follows_classAtom s).bind (fun first s₁ _ => (follows_skip s₁).bind_never fun _ s₂ _ => ?_) ?_
  · exact follows_flags_bind (follows_memberOrRange _ first s₂)
  · intro first s₁ hfirst set s₂ h
    rcases hfirst with hover | ⟨⟨l, rfl⟩, hstray⟩
    · exact border_of_takes (takes_afterMember first s₁) (border_of_over (b := first) hover) h
    · rw [run_afterMember_stray l hstray] at h
      cases h

theorem follows_leadingDashes {fuel fuel' : Nat} (hfuel : fuel ≤ fuel') (p : ClassPart)
    (hlength : s.rest.length + 1 ≤ fuel) :
    Follows dollar (Border dollar) (leadingDashes fuel p) (leadingDashes fuel' p) s := by
  induction fuel generalizing fuel' p s with
  | zero => omega
  | succ fuel ih =>
    obtain ⟨fuel', rfl⟩ : ∃ n, fuel' = n + 1 := ⟨fuel' - 1, by omega⟩
    unfold leadingDashes
    cases hs : s.rest with
    | nil => exact follows_rest_bind_pure hs p rfl rfl rfl
    | cons c cs =>
      refine follows_rest_bind_cons hs ?_
      by_cases hdash : c = '-'
      · subst hdash
        refine follows_bumpOn_bind hs (fun d ds hds => ?_) fun _ q s' h => ?_
        · have hshorter := hds.length_le
          rw [hs, List.length_cons] at hlength
          exact ih (s := s.on (d :: ds)) (Nat.le_of_succ_le_succ hfuel) _
            (Nat.le_trans (Nat.succ_le_succ hshorter) (Nat.le_of_succ_le_succ hlength))
        · exact border_of_takes (s := s.on (closing dollar)) (takes_leadingDashes fuel' _ _) List.suffix_rfl h
      · simp only [hdash, List.cons.injEq, false_and, imp_self, implies_true]
        exact follows_pure p s

theorem follows_classNegation (s : ReadState) :
    Follows dollar (Border dollar) classNegation classNegation s := by
  unfold classNegation
  cases hs : s.rest with
  | nil => exact follows_rest_bind_pure hs false rfl rfl rfl
  | cons c cs =>
    refine follows_rest_bind_cons hs ?_
    by_cases hcaret : c = '^'
    · subst hcaret
      refine follows_bumpOn_bind hs (fun d ds _ => follows_pure true _) ?_
      rintro - _ _ ⟨⟩
      exact List.suffix_rfl
    · simp only [hcaret, List.cons.injEq, false_and, imp_self, implies_true]
      exact follows_pure false s

theorem follows_firstBracket (p : ClassPart) (s : ReadState) :
    Follows dollar (Border dollar) (firstBracket p) (firstBracket p) s := by
  unfold firstBracket
  cases hs : s.rest with
  | nil => exact follows_rest_bind_pure hs p rfl rfl rfl
  | cons c cs =>
    refine follows_rest_bind_cons hs ?_
    by_cases hbracket : c = ']'
    · subst hbracket
      refine follows_ite (follows_bumpOn_bind hs (fun d ds _ => follows_pure _ _) ?_) (follows_pure p s)
      rintro - _ _ ⟨⟩
      exact List.suffix_rfl
    · simp only [hbracket, List.cons.injEq, false_and, imp_self, implies_true]
      exact follows_pure p s

theorem follows_classEnd (negated : Bool) (set : CharSet) (depth : Nat) (s : ReadState) :
    Follows dollar Never (classEnd negated set depth) (classEnd negated set depth) s :=
  follows_flags_bind (follows_ite (follows_failure s) (follows_pure _ s))

/-- A text that was passed is passed with the closing parenthesis behind it. -/
theorem follows_setRest_bind {P : β → ReadState → Prop} {f : Unit → Reader β} (hs : s.rest = c :: cs)
    {behind : List Char}
    (h : Follows dollar P (f ()) (f ()) (s.on behind)) :
    Follows dollar P (setRest behind >>= f) (setRest (behind ++ closing dollar) >>= f) s where
  compared := h.compared
  ended hnil := by
    rw [hs] at hnil
    cases hnil

/-- A round that goes on with what is left of a class. -/
def GoesOn (dollar : Bool) (r : Round α β) (s : ReadState) : Prop :=
  (∃ a, r = .on a) ∧ s.rest <:+ closing dollar

theorem follows_innerClass {nested : Reader (CharSet × Nat)} (hs : s.rest = c :: cs)
    (hnested : Follows dollar (Over dollar) nested nested s) (left : Option (ClassOp × CharSet × Nat)) (p : ClassPart) :
    Follows dollar (GoesOn dollar) (innerClass nested left p s.rest)
      (innerClass nested left p (s.rest ++ closing dollar)) s := by
  unfold innerClass
  rw [namedClass?_append]
  cases namedClass? s.rest with
  | some r => exact follows_setRest_bind hs (follows_pure _ _)
  | none =>
    refine hnested.bind (fun r s' _ => follows_pure _ s') ?_
    rintro r s' hover _ _ ⟨⟩
    exact ⟨⟨_, rfl⟩, border_of_over (b := r) hover⟩

theorem follows_classRounds {nested : Reader (CharSet × Nat)}
    (hnested : ∀ (s : ReadState) (c : Char) (cs : List Char), s.rest = c :: cs →
      Follows dollar (Over dollar) nested nested s)
    (left : Option (ClassOp × CharSet × Nat)) (p : ClassPart) (s : ReadState) :
    Follows dollar (GoesOn dollar) (classRounds nested left p) (classRounds nested left p) s := by
  unfold classRounds
  refine (follows_skip s).bind_never fun _ s' _ => follows_flags_bind ?_
  cases hs : s'.rest with
  | nil =>
    refine follows_rest_bind_failure hs rfl rfl fun r s₂ h => ?_
    change (classRange >>= fun set => pure (.on (left, p.add set 0))).run (s'.on (closing dollar)) = some (r, s₂) at h
    rw [StateT.run_bind] at h
    obtain ⟨⟨set, s₁⟩, hset, h⟩ := Option.bind_eq_some_iff.mp h
    cases h
    have hborder := border_of_takes (s := s'.on (closing dollar)) (takes_classRange _).zero List.suffix_rfl hset
    exact ⟨⟨_, rfl⟩, hborder⟩
  | cons c cs =>
    refine follows_rest_bind_cons hs ?_
    rw [← List.cons_append]
    unfold classRound
    rw [classMark_append (List.cons_ne_nil c cs)]
    cases classMark (c :: cs) with
    | nothing => exact follows_failure s'
    | close behind => exact follows_setRest_bind hs (follows_pure _ _)
    | operation op behind => exact follows_setRest_bind hs (follows_pure _ _)
    | inner =>
      have hinner := follows_innerClass hs (hnested s' c cs hs) left p
      rwa [hs] at hinner
    | member =>
      refine (follows_classRange s').bind (fun set s₁ _ => follows_pure _ s₁) ?_
      rintro set s₁ hborder _ _ ⟨⟩
      exact ⟨⟨_, rfl⟩, hborder⟩

theorem follows_classMembers {fuel : Nat}
    (hitems : ∀ left p (s : ReadState),
      Follows dollar (Over dollar) (classItems fuel left p) (classItems fuel left p) s)
    (negated : Bool) (p : ClassPart) (s : ReadState) :
    Follows dollar (Over dollar) (classMembers fuel negated p) (classMembers fuel negated p) s := by
  have hend (r : CharSet × Nat) (s : ReadState) : Reader.Takes 0 (classEnd negated r.1 r.2) s :=
    takes_classEnd negated _ _ s
  refine (follows_firstBracket p s).bind (fun p s₁ _ => (hitems none p s₁).bind (fun r s₂ _ => ?_) ?_) ?_
  · exact (follows_classEnd negated _ _ s₂).of_never
  · intro r s₂ hover r' s₃ h
    exact over_of_over (hend r s₂) hover h
  · intro p s₁ hborder r s₂ h
    exact over_of_takes (((takes_class fuel).2 none p s₁).bind fun r s _ => hend r s) hborder h

theorem follows_classFromDashes {fuel : Nat}
    (hitems : ∀ left p (s : ReadState),
      Follows dollar (Over dollar) (classItems fuel left p) (classItems fuel left p) s)
    (negated : Bool) (s : ReadState) :
    Follows dollar (Over dollar) (classFromDashes fuel negated) (classFromDashes fuel negated) s := by
  refine follows_rest_bind ?_
  have hfuel := Nat.succ_le_succ (length_le_append dollar s.rest)
  refine (follows_leadingDashes hfuel {} (Nat.le_refl _)).bind
    (fun p s' _ => follows_classMembers hitems negated p s') ?_
  intro p s' hborder r s'' h
  exact over_of_takes (takes_classMembers (takes_class fuel).2 negated p s') hborder h

/-- A class that is closed in the text is closed there. -/
theorem follows_class (fuel : Nat) :
    (∀ (s : ReadState) (c : Char) (cs : List Char), s.rest = c :: cs →
      Follows dollar (Over dollar) (bracketed fuel) (bracketed fuel) s) ∧
      ∀ left p (s : ReadState), Follows dollar (Over dollar) (classItems fuel left p) (classItems fuel left p) s := by
  induction fuel with
  | zero => exact ⟨fun s _ _ _ => follows_failure s, fun left p s => follows_failure s⟩
  | succ fuel ih =>
    obtain ⟨hbracketed, hitems⟩ := ih
    have hdashes (negated : Bool) (s : ReadState) : Reader.Takes 1 (classFromDashes fuel negated) s :=
      takes_classFromDashes (takes_class fuel).2 negated s
    constructor
    · intro s c cs hs
      rw [bracketed_succ]
      refine follows_bumpOn_bind hs (fun d ds _ => (follows_classNegation _).bind (fun negated s' _ => ?_) ?_) ?_
      · exact follows_classFromDashes hitems negated s'
      · intro negated s' hborder r s'' h
        exact over_of_takes (hdashes negated s') hborder h
      · intro _ r s' h
        exact over_of_takes (s := s.on (closing dollar))
          ((takes_classNegation _).bind_later fun negated s' _ => hdashes negated s')
          List.suffix_rfl h
    · intro left p s
      rw [classItems_succ]
      refine (follows_classRounds hbracketed left p s).bind (fun v s' _ => ?_) ?_
      · cases v with
        | ended r => exact follows_pure r s'
        | on a => exact hitems a.1 a.2 s'
      · rintro v s' ⟨⟨a, rfl⟩, hborder⟩ r s'' h
        exact over_of_takes ((takes_class fuel).2 a.1 a.2 s') hborder h

end Classes

end LineScript.Regex
