import LineScript.Proofs.Regex.Rounds

/-! What the reader of regular expressions takes: every step leaves an end of the text, and fuel for twice the text is
enough for all of it. -/
namespace LineScript.Regex

theorem dropIgnored_suffix (inComment : Bool) (cs : List Char) : dropIgnored inComment cs <:+ cs := by
  fun_induction dropIgnored inComment cs with
  | case1 => exact List.suffix_rfl
  | case2 c cs ih => exact ih.trans (List.suffix_cons c cs)
  | case3 c cs hblank ih => exact ih.trans (List.suffix_cons c cs)
  | case4 cs hblank ih => exact ih.trans (List.suffix_cons '#' cs)
  | case5 => exact List.suffix_rfl

theorem negation_suffix (cs : List Char) : (negation cs).2 <:+ cs := by
  unfold negation
  split
  · exact List.suffix_cons _ _
  · exact List.suffix_rfl

theorem className?_suffix {negated : Bool} {cs behind : List Char} {set : CharSet}
    (h : className? negated cs = some (set, behind)) : ':' :: ']' :: behind <:+ cs := by
  unfold className? at h
  split at h
  · rename_i behind' hdrop
    obtain ⟨_, -, hset⟩ := Option.map_eq_some_iff.mp h
    rw [← (Prod.mk.inj hset).2, ← hdrop]
    exact List.dropWhile_suffix _
  · cases h

theorem namedClass?_suffix {cs behind : List Char} {set : CharSet} (h : namedClass? cs = some (set, behind)) :
    behind <:+ cs ∧ behind.length + 1 ≤ cs.length := by
  obtain ⟨cs', rfl, hname⟩ := namedClass?_eq_some h
  have hsuffix : ':' :: ']' :: behind <:+ cs' := (className?_suffix hname).trans (negation_suffix cs')
  have hlength := hsuffix.length_le
  simp only [List.length_cons] at hlength ⊢
  have hbehind : behind <:+ ':' :: ']' :: behind := (List.suffix_cons _ _).trans (List.suffix_cons _ _)
  exact ⟨((hbehind.trans hsuffix).trans (List.suffix_cons _ _)).trans (List.suffix_cons _ _), by omega⟩

/-- A text without what is ignored in front of it. -/
def Flags.behindIgnored (f : Flags) (cs : List Char) : List Char :=
  if f.ignoreBlank then dropIgnored false cs else cs

theorem Flags.behindIgnored_suffix (f : Flags) (cs : List Char) : f.behindIgnored cs <:+ cs := by
  unfold Flags.behindIgnored
  split
  · exact dropIgnored_suffix false cs
  · exact List.suffix_rfl

theorem Flags.behindIgnored_cons {c : Char} (hblank : Text.isBlank c = false) (hmark : c ≠ '#') (f : Flags)
    (cs : List Char) :
    f.behindIgnored (c :: cs) = c :: cs := by
  simp [behindIgnored, dropIgnored, hblank, hmark]

namespace Reader

variable {α β : Type} {x : Reader α} {f : α → Reader β} {n : Nat} {s : ReadState} {c : Char} {cs : List Char}

/-- Whether what a reader leaves of a text is the end of it, and shorter by `n` characters or more. -/
def Takes (n : Nat) (x : Reader α) (s : ReadState) : Prop :=
  ∀ a s', x.run s = some (a, s') → s'.rest <:+ s.rest ∧ s'.rest.length + n ≤ s.rest.length

section Rules

theorem takes_pure (a : α) (s : ReadState) : Takes 0 (pure a) s := by
  intro a' s' h
  cases h
  exact ⟨List.suffix_rfl, Nat.le_refl _⟩

theorem takes_failure (n : Nat) (s : ReadState) : Takes n (failure : Reader α) s := by
  intro a s' h
  cases h

theorem Takes.zero (h : Takes n x s) : Takes 0 x s := by
  intro a s' ha
  obtain ⟨hsuffix, hlength⟩ := h a s' ha
  exact ⟨hsuffix, by omega⟩

/-- What is taken first counts. -/
theorem Takes.bind (hx : Takes n x s) (hf : ∀ a s', x.run s = some (a, s') → Takes 0 (f a) s') :
    Takes n (x >>= f) s := by
  intro b s'' h
  rw [StateT.run_bind] at h
  obtain ⟨⟨a, s'⟩, ha, hb⟩ := Option.bind_eq_some_iff.mp h
  obtain ⟨hsuffix, hlength⟩ := hx a s' ha
  obtain ⟨hsuffix', hlength'⟩ := hf a s' ha b s'' hb
  exact ⟨hsuffix'.trans hsuffix, by omega⟩

/-- What is taken later counts. -/
theorem Takes.bind_later (hx : Takes 0 x s) (hf : ∀ a s', x.run s = some (a, s') → Takes n (f a) s') :
    Takes n (x >>= f) s := by
  intro b s'' h
  rw [StateT.run_bind] at h
  obtain ⟨⟨a, s'⟩, ha, hb⟩ := Option.bind_eq_some_iff.mp h
  obtain ⟨hsuffix, hlength⟩ := hx a s' ha
  obtain ⟨hsuffix', hlength'⟩ := hf a s' ha b s'' hb
  exact ⟨hsuffix'.trans hsuffix, by omega⟩

theorem takes_ite {p : Prop} [Decidable p] {y : Reader α} (hx : Takes n x s) (hy : Takes n y s) :
    Takes n (if p then x else y) s := by
  split
  · exact hx
  · exact hy

theorem takes_rest_bind {f : List Char → Reader β} (h : Takes n (f s.rest) s) : Takes n (rest >>= f) s :=
  h

theorem takes_flags_bind {f : Flags → Reader β} (h : Takes n (f s.flags) s) : Takes n (flags >>= f) s :=
  h

theorem takes_setRest_bind {f : Unit → Reader β} (hcs : cs <:+ s.rest) (hlength : cs.length + n ≤ s.rest.length)
    (h : Takes 0 (f ()) (s.on cs)) : Takes n (setRest cs >>= f) s := by
  intro b s' hb
  obtain ⟨hsuffix, hlength'⟩ := h b s' hb
  have hle : s'.rest.length ≤ cs.length := hlength'
  exact ⟨hsuffix.trans hcs, by omega⟩

end Rules

section Steps

theorem run_rest_eq (s : ReadState) : rest.run s = some (s.rest, s) :=
  rfl

theorem run_skip_eq (s : ReadState) : skip.run s = some ((), s.on (s.flags.behindIgnored s.rest)) := by
  change some ((), if s.flags.ignoreBlank then s.on (dropIgnored false s.rest) else s) = _
  unfold Flags.behindIgnored
  split
  · rfl
  · rfl

theorem run_bump_eq (s : ReadState) : bump.run s = some ((), s.on s.rest.tail) :=
  rfl

theorem run_bumpSkip_eq (s : ReadState) : bumpSkip.run s = some ((), s.on (s.flags.behindIgnored s.rest.tail)) :=
  run_skip_eq (s.on s.rest.tail)

theorem run_bumpOn_eq (s : ReadState) : bumpOn.run s =
    if s.flags.behindIgnored s.rest.tail = [] then none else some ((), s.on (s.flags.behindIgnored s.rest.tail)) := by
  have hskip : skip.run (s.on s.rest.tail) = some ((), s.on (s.flags.behindIgnored s.rest.tail)) :=
    run_skip_eq (s.on s.rest.tail)
  unfold bumpOn
  simp only [StateT.run_bind, run_bump_eq, hskip, Option.bind_eq_bind, Option.bind_some]
  change ((if (s.flags.behindIgnored s.rest.tail).isEmpty then failure else pure ()) : Reader Unit).run _ = _
  simp only [List.isEmpty_iff]
  split
  · rfl
  · rfl

theorem takes_skip (s : ReadState) : Takes 0 skip s := by
  intro a s' h
  rw [run_skip_eq] at h
  cases h
  have hsuffix := s.flags.behindIgnored_suffix s.rest
  exact ⟨hsuffix, hsuffix.length_le⟩

theorem takes_bump (s : ReadState) : Takes 0 bump s := by
  intro a s' h
  cases h
  exact ⟨List.tail_suffix s.rest, (List.tail_suffix s.rest).length_le⟩

theorem takes_bump_of_cons (h : s.rest = c :: cs) : Takes 1 bump s := by
  intro a s' ha
  cases ha
  have hlength : s.rest.tail.length + 1 ≤ s.rest.length := by rw [h]; exact Nat.le_refl _
  exact ⟨List.tail_suffix s.rest, hlength⟩

theorem takes_bumpSkip (s : ReadState) : Takes 0 bumpSkip s :=
  (takes_bump s).bind fun _ s' _ => takes_skip s'

theorem takes_bumpSkip_of_cons (h : s.rest = c :: cs) : Takes 1 bumpSkip s :=
  (takes_bump_of_cons h).bind fun _ s' _ => takes_skip s'

/-- Something must follow the character that is passed. -/
theorem takes_bumpOn (s : ReadState) : Takes 1 bumpOn s := by
  intro a s' h
  rw [run_bumpOn_eq] at h
  split at h
  · cases h
  · rename_i hsome
    cases h
    have hsuffix := s.flags.behindIgnored_suffix s.rest.tail
    refine ⟨hsuffix.trans (List.tail_suffix s.rest), ?_⟩
    have hle := hsuffix.length_le
    change (s.flags.behindIgnored s.rest.tail).length + 1 ≤ _
    cases hrest : s.rest with
    | nil =>
      rw [hrest] at hsuffix hsome
      exact absurd (List.suffix_nil.mp hsuffix) hsome
    | cons c cs =>
      rw [hrest] at hle
      exact Nat.succ_le_succ hle

end Steps

section Atoms

theorem takes_bracedHex (fuel : Nat) (seen : List Char) (s : ReadState) : Takes 0 (bracedHex fuel seen) s := by
  induction fuel generalizing seen s with
  | zero => exact takes_failure 0 s
  | succ fuel ih =>
    unfold bracedHex
    refine (takes_bumpOn s).zero.bind fun _ s' _ => takes_rest_bind ?_
    split
    · exact takes_failure 0 s'
    · split
      · exact (takes_bumpSkip s').bind fun _ s'' _ => takes_pure _ s''
      · split
        · exact ih _ s'
        · exact takes_failure 0 s'

theorem takes_fixedHex (n : Nat) (seen : List Char) (s : ReadState) : Takes 0 (fixedHex n seen) s := by
  induction n generalizing seen s with
  | zero => exact takes_pure _ s
  | succ n ih =>
    unfold fixedHex
    apply takes_rest_bind
    split
    · exact takes_failure 0 s
    · split
      · exact (takes_bumpSkip s).bind fun _ s' _ => ih _ s'
      · exact takes_failure 0 s

theorem takes_codePoint (digits : Nat) (s : ReadState) : Takes 1 (codePoint digits) s := by
  unfold codePoint
  refine (takes_bumpOn s).bind fun _ s' _ => takes_rest_bind ?_
  split
  · refine (takes_bracedHex _ [] s').bind fun ds s'' _ => ?_
    split
    · split
      · exact takes_failure 0 s''
      · exact takes_pure _ s''
    · exact takes_failure 0 s''
  · refine (takes_fixedHex digits [] s').bind fun ds s'' _ => ?_
    split
    · exact takes_pure _ s''
    · exact takes_failure 0 s''

theorem takes_propertyName (fuel : Nat) (seen : List Char) (s : ReadState) : Takes 1 (propertyName fuel seen) s := by
  induction fuel generalizing seen s with
  | zero => exact takes_failure 1 s
  | succ fuel ih =>
    unfold propertyName
    refine (takes_bumpOn s).bind fun _ s' _ => takes_rest_bind ?_
    split
    · exact takes_failure 0 s'
    · split
      · exact (takes_bump s').bind fun _ s'' _ => takes_pure _ s''
      · exact (ih _ s').zero

theorem takes_singleProperty (negated : Bool) (h : s.rest = c :: cs) : Takes 1 (singleProperty negated c) s := by
  unfold singleProperty
  refine (takes_bumpSkip_of_cons h).bind fun _ s' _ => ?_
  split
  · exact takes_pure _ s'
  · exact takes_failure 0 s'

theorem takes_propertyOf (negated : Bool) (s : ReadState) : Takes 1 (propertyOf negated s.rest) s := by
  unfold propertyOf
  split
  · refine (takes_propertyName _ [] s).bind fun name s' _ => ?_
    split
    · exact takes_pure _ s'
    · exact takes_failure 0 s'
  · exact takes_failure 1 s
  · rename_i hrest
    exact takes_singleProperty negated hrest
  · exact takes_failure 1 s

theorem takes_propertyClass (negated : Bool) (s : ReadState) : Takes 1 (propertyClass negated) s := by
  rw [propertyClass_eq]
  exact (takes_bumpOn s).bind fun _ s' _ => takes_rest_bind (takes_propertyOf negated s').zero

theorem takes_boundaryName (fuel : Nat) (seen : List Char) (s : ReadState) : Takes 0 (boundaryName fuel seen) s := by
  induction fuel generalizing seen s with
  | zero => exact takes_failure 0 s
  | succ fuel ih =>
    unfold boundaryName
    apply takes_rest_bind
    split
    · exact takes_pure _ s
    · split
      · exact (takes_bumpSkip s).bind fun _ s' _ => ih _ s'
      · exact takes_pure _ s

theorem takes_namedCondition (unicode : Bool) (fuel : Nat) (s : ReadState) :
    Takes 0 (namedCondition unicode fuel) s := by
  unfold namedCondition
  refine (takes_boundaryName fuel [] s).bind fun name s' _ => takes_rest_bind ?_
  split
  · refine (takes_bump s').bind fun _ s'' _ => ?_
    split <;> first | exact takes_pure _ s'' | exact takes_failure 0 s''
  · exact takes_failure 0 s'

theorem takes_wordCondition (unicode : Bool) (s : ReadState) : Takes 0 (wordCondition unicode) s := by
  rw [wordCondition_eq]
  apply takes_rest_bind
  split
  · rename_i cs hrest
    intro a s₂ ha
    rw [StateT.run_bind] at ha
    obtain ⟨⟨_, s₁⟩, hbumpOn, ha⟩ := Option.bind_eq_some_iff.mp ha
    obtain ⟨hsuffix, hlength⟩ := takes_bumpOn s _ s₁ hbumpOn
    change (if startsName s₁.rest = true then _ else _ : Reader Atom).run s₁ = _ at ha
    split at ha
    · obtain ⟨hsuffix', hlength'⟩ := takes_namedCondition unicode _ s₁ a s₂ ha
      exact ⟨hsuffix'.trans hsuffix, by omega⟩
    · -- the brace is given back
      cases ha
      rw [hrest]
      exact ⟨List.suffix_rfl, Nat.le_refl _⟩
  · exact takes_pure _ s

theorem takes_escape (s : ReadState) : Takes 1 escape s := by
  unfold escape
  cases h : s.rest with
  | nil =>
    apply (takes_bump s).bind_later
    intro _ s' hs'
    cases hs'
    apply takes_rest_bind
    split
    · exact takes_failure 1 _
    · rename_i hrest
      change s.rest.tail = _ at hrest
      rw [h] at hrest
      cases hrest
  | cons c cs =>
    refine (takes_bump_of_cons h).bind fun _ s' _ => takes_rest_bind ?_
    split
    · exact takes_failure 0 s'
    · apply takes_flags_bind
      have hpass (a : Atom) : Takes 0 (bump >>= fun _ => pure a) s' :=
        (takes_bump s').bind fun _ s'' _ => takes_pure a s''
      dsimp only
      split
      · exact (takes_codePoint 2 s').zero
      · exact (takes_codePoint 4 s').zero
      · exact (takes_codePoint 8 s').zero
      · exact (takes_propertyClass false s').zero
      · exact (takes_propertyClass true s').zero
      case h_23 => exact (takes_bump s').bind fun _ s'' _ => takes_wordCondition _ s''
      case h_24 =>
        split
        · exact hpass _
        · exact takes_failure 0 s'
      all_goals exact hpass _

end Atoms

section Classes

theorem takes_lift (o : Option α) (s : ReadState) : Takes 0 (liftM o : Reader α) s := by
  intro a s' h
  cases o with
  | none => cases h
  | some a' =>
    cases h
    exact ⟨List.suffix_rfl, Nat.le_refl _⟩

theorem takes_classAtom (s : ReadState) : Takes 1 classAtom s := by
  unfold classAtom
  apply takes_rest_bind
  split
  · exact takes_failure 1 s
  · exact takes_escape s
  · rename_i hrest
    exact (takes_bump_of_cons hrest).bind fun _ s' _ => takes_pure _ s'

theorem takes_rangeLast (f : Flags) (first : Atom) (s : ReadState) : Takes 1 (rangeLast f first) s := by
  unfold rangeLast
  refine (takes_classAtom s).bind fun last s' _ => ?_
  split
  · split
    · exact takes_failure 0 s'
    · exact takes_pure _ s'
  · exact takes_failure 0 s'

theorem takes_memberOrRange (f : Flags) (first : Atom) (s : ReadState) : Takes 0 (memberOrRange f first s.rest) s := by
  unfold memberOrRange
  split
  · exact takes_failure 0 s
  · exact takes_ite (takes_lift _ s) ((takes_bumpOn s).zero.bind fun _ s' _ => (takes_rangeLast f first s').zero)

theorem takes_afterMember (first : Atom) (s : ReadState) : Takes 0 (afterMember first) s :=
  (takes_skip s).bind fun _ s' _ => takes_flags_bind (takes_rest_bind (takes_memberOrRange _ first s'))

theorem takes_classRange (s : ReadState) : Takes 1 classRange s := by
  rw [classRange_eq]
  exact (takes_classAtom s).bind fun first s' _ => takes_afterMember first s'

theorem takes_leadingDashes (fuel : Nat) (p : ClassPart) (s : ReadState) : Takes 0 (leadingDashes fuel p) s := by
  induction fuel generalizing p s with
  | zero => exact takes_failure 0 s
  | succ fuel ih =>
    unfold leadingDashes
    apply takes_rest_bind
    split
    · exact (takes_bumpOn s).zero.bind fun _ s' _ => ih _ s'
    · exact takes_pure _ s

theorem takes_classNegation (s : ReadState) : Takes 0 classNegation s := by
  unfold classNegation
  apply takes_rest_bind
  split
  · exact (takes_bumpOn s).zero.bind fun _ s' _ => takes_pure _ s'
  · exact takes_pure _ s

theorem takes_firstBracket (p : ClassPart) (s : ReadState) : Takes 0 (firstBracket p) s := by
  unfold firstBracket
  apply takes_rest_bind
  split
  · split
    · exact (takes_bumpOn s).zero.bind fun _ s' _ => takes_pure _ s'
    · exact takes_pure _ s
  · exact takes_pure _ s

theorem takes_classEnd (negated : Bool) (set : CharSet) (depth : Nat) (s : ReadState) :
    Takes 0 (classEnd negated set depth) s := by
  unfold classEnd
  apply takes_flags_bind
  split
  · exact takes_failure 0 s
  · exact takes_pure _ s

theorem takes_innerClass {nested : Reader (CharSet × Nat)} (hnested : Takes 1 nested s)
    (left : Option (ClassOp × CharSet × Nat)) (p : ClassPart) : Takes 1 (innerClass nested left p s.rest) s := by
  unfold innerClass
  split
  · rename_i set behind hnamed
    obtain ⟨hsuffix, hlength⟩ := namedClass?_suffix hnamed
    exact takes_setRest_bind hsuffix hlength (takes_pure _ _)
  · exact hnested.bind fun r s' _ => takes_pure _ s'

theorem classMark_suffix (cs : List Char) :
    (∀ behind, classMark cs = .close behind → behind <:+ cs ∧ behind.length + 1 ≤ cs.length) ∧
      ∀ op behind, classMark cs = .operation op behind → behind <:+ cs ∧ behind.length + 1 ≤ cs.length := by
  have htwo (c d : Char) (behind : List Char) :
      behind <:+ c :: d :: behind ∧ behind.length + 1 ≤ (c :: d :: behind).length :=
    ⟨(List.suffix_cons d behind).trans (List.suffix_cons c _), Nat.le_succ _⟩
  fun_cases classMark cs <;> constructor <;> intros <;> rename_i h <;> cases h
  · exact ⟨List.suffix_cons _ _, Nat.le_refl _⟩
  · exact htwo _ _ _
  · exact htwo _ _ _
  · exact htwo _ _ _

theorem takes_classRounds {nested : Reader (CharSet × Nat)} (hnested : ∀ s, Takes 1 nested s)
    (left : Option (ClassOp × CharSet × Nat)) (p : ClassPart) (s : ReadState) :
    Takes 1 (classRounds nested left p) s := by
  unfold classRounds
  refine (takes_skip s).bind_later fun _ s' _ => takes_flags_bind (takes_rest_bind ?_)
  unfold classRound
  split
  · exact takes_failure 1 s'
  · rename_i behind hmark
    obtain ⟨hsuffix, hlength⟩ := (classMark_suffix s'.rest).1 behind hmark
    exact takes_setRest_bind hsuffix hlength (takes_pure _ _)
  · rename_i op behind hmark
    obtain ⟨hsuffix, hlength⟩ := (classMark_suffix s'.rest).2 op behind hmark
    exact takes_setRest_bind hsuffix hlength (takes_pure _ _)
  · exact takes_innerClass (hnested s') left p
  · exact (takes_classRange s').bind fun set s'' _ => takes_pure _ s''

theorem takes_classMembers {fuel : Nat} (hitems : ∀ left p s, Takes 1 (classItems fuel left p) s) (negated : Bool)
    (p : ClassPart) (s : ReadState) : Takes 1 (classMembers fuel negated p) s := by
  refine (takes_firstBracket p s).bind_later fun p s₁ _ => ?_
  exact (hitems none p s₁).bind fun r s₂ _ => takes_classEnd negated _ _ s₂

theorem takes_classFromDashes {fuel : Nat} (hitems : ∀ left p s, Takes 1 (classItems fuel left p) s) (negated : Bool)
    (s : ReadState) : Takes 1 (classFromDashes fuel negated) s :=
  takes_rest_bind ((takes_leadingDashes _ _ s).bind_later fun p s' _ => takes_classMembers hitems negated p s')

/-- A class takes the bracket it starts with, and its members take the bracket at its end. -/
theorem takes_class (fuel : Nat) :
    (∀ s, Takes 1 (bracketed fuel) s) ∧ ∀ left p s, Takes 1 (classItems fuel left p) s := by
  induction fuel with
  | zero => exact ⟨fun s => takes_failure 1 s, fun left p s => takes_failure 1 s⟩
  | succ fuel ih =>
    obtain ⟨hbracketed, hitems⟩ := ih
    constructor
    · intro s
      rw [bracketed_succ]
      refine (takes_bumpOn s).bind fun _ s₁ _ => (takes_classNegation s₁).bind fun negated s₂ _ => ?_
      exact (takes_classFromDashes hitems negated s₂).zero
    · intro left p s
      rw [classItems_succ]
      refine (takes_classRounds hbracketed left p s).bind fun round s' _ => ?_
      cases round with
      | ended r => exact takes_pure r s'
      | on a => exact (hitems a.1 a.2 s').zero

end Classes

section Groups

theorem takes_countDigits (fuel : Nat) (seen : List Char) (s : ReadState) : Takes 0 (countDigits fuel seen) s := by
  induction fuel generalizing seen s with
  | zero => exact takes_failure 0 s
  | succ fuel ih =>
    unfold countDigits
    apply takes_rest_bind
    split
    · split
      · exact (takes_bumpSkip s).bind fun _ s' _ => ih _ s'
      · exact takes_pure _ s
    · exact takes_pure _ s

theorem takes_trimBlank (s : ReadState) : Takes 0 trimBlank s := by
  intro _ s' h
  change some ((), s.on (Text.trimLeft s.rest)) = _ at h
  cases h
  have hsuffix : Text.trimLeft s.rest <:+ s.rest := List.dropWhile_suffix _
  exact ⟨hsuffix, hsuffix.length_le⟩

theorem takes_countOf (ds : List Char) (s : ReadState) : Takes 0 (countOf ds) s := by
  unfold countOf
  split
  · exact takes_pure _ s
  · dsimp only
    split
    · exact takes_pure _ s
    · exact takes_failure 0 s

theorem takes_count? (s : ReadState) : Takes 0 count? s := by
  rw [count?_eq]
  refine (takes_trimBlank s).bind fun _ s₁ _ => takes_rest_bind ?_
  refine (takes_countDigits _ [] s₁).bind fun ds s₂ _ => (takes_trimBlank s₂).bind fun _ s₃ _ => ?_
  exact (takes_skip s₃).bind fun _ s₄ _ => takes_countOf ds s₄

theorem takes_upperBound (low : Option Nat) (s : ReadState) : Takes 0 (upperBound low) s := by
  unfold upperBound
  apply takes_rest_bind
  split
  · exact takes_pure _ s
  · refine (takes_count? s).bind fun high s' _ => ?_
    split
    · exact takes_pure _ s'
    · exact takes_failure 0 s'
  · exact takes_failure 0 s

theorem takes_countBounds (s : ReadState) : Takes 0 countBounds s := by
  unfold countBounds
  refine (takes_count? s).bind fun low s' _ => takes_rest_bind ?_
  split
  · exact takes_failure 0 s'
  · exact (takes_bumpOn s').zero.bind fun _ s'' _ => takes_upperBound low s''
  · split
    · exact takes_pure _ s'
    · exact takes_failure 0 s'

theorem takes_counts (s : ReadState) : Takes 1 counts s := by
  rw [counts_eq]
  exact (takes_bumpOn s).bind fun _ s' _ => takes_countBounds s'

theorem takes_lazyMark (s : ReadState) : Takes 0 lazyMark s := by
  unfold lazyMark
  apply takes_rest_bind
  split
  · exact (takes_bump s).bind fun _ s' _ => takes_pure _ s'
  · exact takes_pure _ s

theorem takes_nextGroup (s : ReadState) : Takes 0 nextGroup s := by
  intro i s' h
  cases h
  exact ⟨List.suffix_rfl, Nat.le_refl _⟩

theorem takes_groupName (hcs : cs <:+ s.rest) : Takes 0 (groupName cs) s := by
  intro _ s' h
  unfold groupName at h
  dsimp only at h
  split at h
  · rename_i behind _ _ hdrop _
    have hbehind : behind <:+ cs := (List.suffix_cons _ _).trans (hdrop ▸ List.dropWhile_suffix _)
    change (if _ then modify _ else failure : Reader Unit).run s = _ at h
    split at h
    · cases h
      exact ⟨hbehind.trans hcs, (hbehind.trans hcs).length_le⟩
    · cases h
  · cases h

theorem flagItems_suffix {on : Bool} {f f' : Flags} {seen seen' behind : List Char}
    (h : flagItems on f seen cs = some (f', seen', behind)) : behind <:+ cs := by
  induction cs generalizing on f seen with
  | nil => cases h
  | cons c cs ih =>
    unfold flagItems at h
    split at h
    · split at h
      · cases h
      · cases h
        exact List.suffix_rfl
    · split at h
      · cases h
      · split at h
        case h_9 => cases h
        all_goals exact (ih h).trans (List.suffix_cons _ _)

theorem flagItems_ne_nil {on : Bool} {f f' : Flags} {seen seen' behind : List Char}
    (h : flagItems on f seen cs = some (f', seen', behind)) : behind ≠ [] := by
  induction cs generalizing on f seen with
  | nil => cases h
  | cons c cs ih =>
    unfold flagItems at h
    split at h
    · split at h
      · cases h
      · cases h
        exact List.cons_ne_nil c cs
    · split at h
      · cases h
      · split at h
        case h_9 => cases h
        all_goals exact ih h

theorem takes_namedGroup (hcs : cs <:+ s.rest) : Takes 0 (namedGroup cs) s := by
  unfold namedGroup
  refine (takes_nextGroup s).bind fun i s' hs' => ?_
  cases hs'
  exact (takes_groupName (s := { s with groups := s.groups + 1 }) hcs).bind fun _ s'' _ => takes_pure _ s''

theorem takes_flagGroup (hcs : cs <:+ s.rest) : Takes 0 (flagGroup cs) s := by
  unfold flagGroup
  apply takes_flags_bind
  split
  · rename_i f seen behind hitems
    split
    · exact takes_failure 0 s
    · intro o s' h
      cases h
      have hsuffix := ((List.suffix_cons ')' behind).trans (flagItems_suffix hitems)).trans hcs
      exact ⟨hsuffix, hsuffix.length_le⟩
  · rename_i hitems
    intro o s' h
    cases h
    have hsuffix := ((List.suffix_cons _ _).trans (flagItems_suffix hitems)).trans hcs
    exact ⟨hsuffix, hsuffix.length_le⟩
  · exact takes_failure 0 s

theorem openMark_suffix (cs : List Char) : (∀ behind, openMark cs = .named behind → behind <:+ cs) ∧
    ∀ behind, openMark cs = .flagged behind → behind <:+ cs := by
  fun_cases openMark cs <;> constructor <;> intros <;> rename_i h <;> cases h
  · exact ((List.suffix_cons _ _).trans (List.suffix_cons _ _)).trans (List.suffix_cons _ _)
  · exact (List.suffix_cons _ _).trans (List.suffix_cons _ _)
  · exact List.suffix_cons _ _

theorem takes_openedBy (s : ReadState) : Takes 0 (openedBy s.rest) s := by
  unfold openedBy
  split
  · exact takes_failure 0 s
  · rename_i behind hmark
    exact takes_namedGroup ((openMark_suffix s.rest).1 behind hmark)
  · rename_i behind hmark
    exact takes_flagGroup ((openMark_suffix s.rest).2 behind hmark)
  · exact (takes_nextGroup s).bind fun i s' _ => takes_pure _ s'

theorem takes_opening (h : s.rest = c :: cs) : Takes 1 opening s := by
  rw [opening_eq]
  exact (takes_bumpSkip_of_cons h).bind fun _ s' _ => takes_rest_bind (takes_openedBy s')

end Groups

section Branches

variable {class? : Reader (CharSet × Nat)} {group : Reader (Syntax × Nat)} (done : List (Syntax × Nat))
  (ps : List Piece)
  (f : Flags)

/-- At a closing parenthesis or at the end the branches are over. -/
theorem run_branchRounds_over (h : ∀ c cs, s.flags.behindIgnored s.rest = c :: cs → c = ')') :
    (branchRounds class? group done ps).run s =
      some (.ended (alternation (Piece.sequence ps) done), s.on (s.flags.behindIgnored s.rest)) := by
  unfold branchRounds
  simp only [StateT.run_bind, run_skip_eq, run_flags, run_rest, Option.bind_eq_bind, Option.bind_some]
  cases hrest : s.flags.behindIgnored s.rest with
  | nil => rfl
  | cons c cs =>
    rw [h c cs hrest]
    rfl

theorem run_branchRounds_cons (h : s.flags.behindIgnored s.rest = c :: cs) (hc : c ≠ ')') :
    (branchRounds class? group done ps).run s = (branchRound class? group done ps s.flags c).run (s.on (c :: cs)) := by
  unfold branchRounds
  simp only [StateT.run_bind, run_skip_eq, run_flags, run_rest, Option.bind_eq_bind, Option.bind_some]
  rw [h, List.head?_cons]
  dsimp only
  rw [if_neg hc]

theorem takes_repetition (low : Nat) (high : Option Nat) (s : ReadState) :
    Takes 0 (repetition done ps f low high) s := by
  unfold repetition
  refine (takes_lazyMark s).bind fun isLazy s' _ => ?_
  split
  · exact takes_pure _ s'
  · exact takes_failure 0 s'

theorem takes_countedRepetition (s : ReadState) : Takes 1 (countedRepetition done ps f) s := by
  unfold countedRepetition
  refine (takes_counts s).bind fun bounds s' _ => takes_rest_bind ?_
  split
  · refine (takes_bumpSkip s').bind fun _ s'' _ => ?_
    split
    · exact takes_repetition done ps f _ _ s''
    · exact takes_failure 0 s''
  · exact takes_failure 0 s'

theorem takes_groupEnd (index : Option Nat) (r : Syntax) (depth : Nat) (s : ReadState) :
    Takes 0 (groupEnd done ps f index r depth) s := by
  unfold groupEnd
  apply takes_rest_bind
  split
  · rename_i behind hrest
    intro v s' h
    cases h
    have hsuffix : behind <:+ s.rest := by
      rw [hrest]
      exact List.suffix_cons ')' behind
    exact ⟨hsuffix, hsuffix.length_le⟩
  · exact takes_failure 0 s

theorem takes_groupOrFlags (hgroup : ∀ s, Takes 0 group s) (h : s.rest = c :: cs) :
    Takes 1 (groupOrFlags group done ps f) s := by
  unfold groupOrFlags
  refine (takes_opening h).bind fun o s' _ => ?_
  cases o with
  | flags => exact takes_pure _ s'
  | group index => exact (hgroup s').bind fun r s'' _ => takes_groupEnd done ps f index _ _ s''

theorem takes_atomAt (h : s.rest = c :: cs) : Takes 1 (atomAt c) s := by
  unfold atomAt
  split
  · exact takes_escape s
  · exact (takes_bump_of_cons h).bind fun _ s' _ => takes_pure _ s'

theorem takes_singleAtom (h : s.rest = c :: cs) : Takes 1 (singleAtom done ps f c) s := by
  unfold singleAtom
  refine (takes_atomAt h).bind fun atom s' _ => ?_
  split
  · exact takes_pure _ s'
  · exact takes_failure 0 s'

theorem takes_condition (l : Look) (h : s.rest = c :: cs) : Takes 1 (condition done ps l) s :=
  (takes_bump_of_cons h).bind fun _ s' _ => takes_pure _ s'

/-- What is read for the next character takes it. -/
theorem takes_branchRound (hclass : ∀ s, Takes 1 class? s) (hgroup : ∀ s, Takes 0 group s) (h : s.rest = c :: cs) :
    Takes 1 (branchRound class? group done ps f c) s := by
  have hbump {α : Type} {x : Reader α} (hx : ∀ s, Takes 0 x s) : Takes 1 (bump >>= fun _ => x) s :=
    (takes_bump_of_cons h).bind fun _ s' _ => hx s'
  have hrepeat (low : Nat) (high : Option Nat) : Takes 1 (bump >>= fun _ => repetition done ps f low high) s :=
    hbump (takes_repetition done ps f low high)
  have hcounted : Takes 1 (if ps.isEmpty then failure else countedRepetition done ps f) s :=
    takes_ite (takes_failure 1 s) (takes_countedRepetition done ps f s)
  have hset : Takes 1 (class? >>= fun r => pure (withPiece done ps ⟨some (.set r.1), r.2⟩)) s :=
    (hclass s).bind fun r s' _ => takes_pure _ s'
  unfold branchRound
  refine takes_ite (hbump (takes_pure _)) (takes_ite (takes_groupOrFlags done ps f hgroup h) (takes_ite hset ?_))
  refine takes_ite (hrepeat 0 (some 1)) (takes_ite (hrepeat 0 none)
    (takes_ite (hrepeat 1 none) (takes_ite hcounted ?_)))
  exact takes_ite (takes_condition done ps _ h) (takes_ite (takes_condition done ps _ h) (takes_singleAtom done ps f h))

/-- A round that is not the last one takes something. -/
theorem takes_branchRounds (hclass : ∀ s, Takes 1 class? s) (hgroup : ∀ s, Takes 0 group s) (s : ReadState) :
    Takes 0 (branchRounds class? group done ps) s ∧
      ∀ a s', (branchRounds class? group done ps).run s = some (.on a, s') →
      s'.rest <:+ s.rest ∧ s'.rest.length + 1 ≤ s.rest.length := by
  have hskip := s.flags.behindIgnored_suffix s.rest
  by_cases hover : ∀ c cs, s.flags.behindIgnored s.rest = c :: cs → c = ')'
  · have hrun : (branchRounds class? group done ps).run s = _ := run_branchRounds_over done ps hover
    constructor
    · intro v s' h
      cases hrun.symm.trans h
      exact ⟨hskip, hskip.length_le⟩
    · intro a s' h
      cases hrun.symm.trans h
  · simp only [not_forall] at hover
    obtain ⟨c, cs, hrest, hc⟩ := hover
    have hrun : (branchRounds class? group done ps).run s = _ := run_branchRounds_cons done ps hrest hc
    have htakes : Takes 1 (branchRound class? group done ps s.flags c) (s.on (c :: cs)) :=
      takes_branchRound done ps s.flags hclass hgroup rfl
    rw [hrest] at hskip
    have hlength := hskip.length_le
    have hround (v : Round BranchParts (Syntax × Nat)) (s' : ReadState)
        (h : (branchRounds class? group done ps).run s = some (v, s')) :
        s'.rest <:+ s.rest ∧ s'.rest.length + 1 ≤ s.rest.length := by
      obtain ⟨hsuffix, hshorter⟩ := htakes v s' (hrun ▸ h)
      exact ⟨hsuffix.trans hskip, Nat.le_trans hshorter hlength⟩
    constructor
    · intro v s' h
      obtain ⟨hsuffix, hshorter⟩ := hround v s' h
      exact ⟨hsuffix, by omega⟩
    · intro a s' h
      exact hround (.on a) s' h

theorem takes_branches (fuel : Nat) (done : List (Syntax × Nat)) (ps : List Piece) (s : ReadState) :
    Takes 0 (branches fuel done ps) s := by
  induction fuel generalizing done ps s with
  | zero => exact takes_failure 0 s
  | succ fuel ih =>
    rw [branches_succ]
    have hround := takes_branchRounds done ps (takes_class fuel).1 (ih [] []) s
    refine hround.1.bind fun v s' _ => ?_
    cases v with
    | ended r => exact takes_pure r s'
    | on a => exact ih a.1 a.2 s'

end Branches

end Reader

open Reader

section Rounds

variable {α β : Type} {x y : Reader α} {f g : α → Reader β} {s : ReadState}

theorem run_bind_congr (hx : x.run s = y.run s)
    (hf : ∀ a s', x.run s = some (a, s') → (f a).run s' = (g a).run s') : (x >>= f).run s = (y >>= g).run s := by
  rw [StateT.run_bind, StateT.run_bind, ← hx]
  cases h : x.run s with
  | none => rfl
  | some r => exact hf r.1 r.2 h

theorem run_ite_congr {p : Prop} [Decidable p] {x' y' : Reader α} (hx : x.run s = x'.run s) (hy : y.run s = y'.run s) :
    (if p then x else y).run s = (if p then x' else y').run s := by
  split
  · exact hx
  · exact hy

variable {class? class?' : Reader (CharSet × Nat)} {group group' : Reader (Syntax × Nat)}

/-- A round reads inner classes from no more than what is left of the text. -/
theorem run_classRounds_congr (h : ∀ s', s'.rest.length ≤ s.rest.length → class?.run s' = class?'.run s')
    (left : Option (ClassOp × CharSet × Nat)) (p : ClassPart) :
    (classRounds class? left p).run s = (classRounds class?' left p).run s := by
  unfold classRounds
  refine run_bind_congr rfl fun _ s₁ hs₁ => run_bind_congr rfl fun f s₂ hs₂ => run_bind_congr rfl fun cs s₃ hs₃ => ?_
  cases hs₂
  cases hs₃
  have hinner : (innerClass class? left p s₁.rest).run s₁ = (innerClass class?' left p s₁.rest).run s₁ := by
    unfold innerClass
    split
    · rfl
    · exact run_bind_congr (h s₁ (takes_skip s _ s₁ hs₁).1.length_le) fun r s' _ => rfl
  unfold classRound
  split
  case h_4 => exact hinner
  all_goals rfl

theorem run_branchRound_congr {c : Char} {cs : List Char} (hs : s.rest = c :: cs)
    (hclass : class?.run s = class?'.run s)
    (hgroup : ∀ s', s'.rest.length + 1 ≤ s.rest.length → group.run s' = group'.run s')
    (done : List (Syntax × Nat)) (ps : List Piece) (f : Flags) :
    (branchRound class? group done ps f c).run s = (branchRound class?' group' done ps f c).run s := by
  have hgroups : (groupOrFlags group done ps f).run s = (groupOrFlags group' done ps f).run s := by
    unfold groupOrFlags
    refine run_bind_congr rfl fun o s' hs' => ?_
    cases o with
    | flags => rfl
    | group index => exact run_bind_congr (hgroup s' (takes_opening hs _ s' hs').2) fun r s'' _ => rfl
  unfold branchRound
  refine run_ite_congr rfl (run_ite_congr hgroups (run_ite_congr ?_ rfl))
  exact run_bind_congr hclass fun r s' _ => rfl

/-- A round reads groups from less than what is left of the text. -/
theorem run_branchRounds_congr (hclass : ∀ s', s'.rest.length ≤ s.rest.length → class?.run s' = class?'.run s')
    (hgroup : ∀ s', s'.rest.length + 1 ≤ s.rest.length → group.run s' = group'.run s')
    (done : List (Syntax × Nat)) (ps : List Piece) :
    (branchRounds class? group done ps).run s = (branchRounds class?' group' done ps).run s := by
  have hskip := (s.flags.behindIgnored_suffix s.rest).length_le
  by_cases hover : ∀ c cs, s.flags.behindIgnored s.rest = c :: cs → c = ')'
  · rw [run_branchRounds_over done ps hover, run_branchRounds_over done ps hover]
  · simp only [not_forall] at hover
    obtain ⟨c, cs, hrest, hc⟩ := hover
    rw [hrest] at hskip
    rw [run_branchRounds_cons done ps hrest hc, run_branchRounds_cons done ps hrest hc]
    refine run_branchRound_congr rfl (hclass _ hskip) ?_ done ps s.flags
    intro s' hs'
    exact hgroup s' (Nat.le_trans hs' hskip)

end Rounds

theorem run_bracketed_nil {fuel : Nat} {s : ReadState} (h : s.rest = []) : (bracketed fuel).run s = none := by
  cases hrun : (bracketed fuel).run s with
  | none => rfl
  | some r =>
    obtain ⟨-, hlength⟩ := (takes_class fuel).1 s r.1 r.2 hrun
    rw [h] at hlength
    exact absurd hlength (Nat.not_succ_le_zero _)

theorem class_fuel (fuel : Nat) : ∀ fuel', fuel ≤ fuel' →
    (∀ s : ReadState, 2 * s.rest.length ≤ fuel → (bracketed fuel).run s = (bracketed fuel').run s) ∧
    ∀ left p (s : ReadState), 2 * s.rest.length + 1 ≤ fuel →
      (classItems fuel left p).run s = (classItems fuel' left p).run s := by
  induction fuel with
  | zero =>
    intro fuel' _
    constructor
    · intro s hs
      have hnil : s.rest = [] := List.length_eq_zero_iff.mp (by omega)
      rw [run_bracketed_nil hnil, run_bracketed_nil hnil]
    · intro left p s hs
      omega
  | succ fuel ih =>
    intro fuel' hfuel
    obtain ⟨fuel', rfl⟩ : ∃ n, fuel' = n + 1 := ⟨fuel' - 1, by omega⟩
    obtain ⟨hbracketed, hitems⟩ := ih fuel' (by omega)
    constructor
    · intro s hs
      rw [bracketed_succ, bracketed_succ]
      refine run_bind_congr rfl fun _ s₁ hs₁ => run_bind_congr rfl fun negated s₂ hs₂ => ?_
      refine run_bind_congr rfl fun cs s₂' hs₂' => run_bind_congr rfl fun p s₃ hs₃ => ?_
      refine run_bind_congr rfl fun p s₄ hs₄ => run_bind_congr (hitems none p s₄ ?_) fun r s₅ _ => rfl
      cases hs₂'
      have hbracket := (takes_bumpOn s _ s₁ hs₁).2
      have hcaret := (takes_classNegation s₁ _ s₂ hs₂).2
      have hdashes := (takes_leadingDashes _ _ s₂ _ s₃ hs₃).2
      have hfirst := (takes_firstBracket _ s₃ _ s₄ hs₄).2
      omega
    · intro left p s hs
      rw [classItems_succ, classItems_succ]
      refine run_bind_congr (run_classRounds_congr (fun s' hs' => hbracketed s' (by omega)) left p) fun v s' hs' => ?_
      have hround := (takes_classRounds (takes_class fuel).1 left p s v s' hs').2
      cases v with
      | ended r => rfl
      | on a => exact hitems a.1 a.2 s' (by omega)

/-- More fuel than for twice the text changes nothing. -/
theorem branches_fuel {fuel fuel' : Nat} (hfuel : fuel ≤ fuel') {s : ReadState} (hs : 2 * s.rest.length + 1 ≤ fuel)
    (done : List (Syntax × Nat)) (ps : List Piece) :
    (branches fuel done ps).run s = (branches fuel' done ps).run s := by
  induction fuel generalizing fuel' s done ps with
  | zero => omega
  | succ fuel ih =>
    obtain ⟨fuel', rfl⟩ : ∃ n, fuel' = n + 1 := ⟨fuel' - 1, by omega⟩
    have hle : fuel ≤ fuel' := Nat.le_of_succ_le_succ hfuel
    rw [branches_succ, branches_succ]
    refine run_bind_congr (run_branchRounds_congr ?_ ?_ done ps) fun v s' hs' => ?_
    · intro s' hs'
      exact (class_fuel fuel fuel' hle).1 s' (by omega)
    · intro s' hs'
      exact ih hle (by omega) [] []
    · cases v with
      | ended r => rfl
      | on a =>
        have hround := takes_branchRounds done ps (takes_class fuel).1 (takes_branches fuel [] []) s
        have hshorter := (hround.2 a s' hs').2
        exact ih hle (by omega) a.1 a.2

end LineScript.Regex
