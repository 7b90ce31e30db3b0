import LineScript.Proofs.Regex.Taking
import LineScript.Proofs.Text.Trimming

/-! The reader of regular expressions on a text in front of a closing parenthesis, compared with what it does on the
text alone. Both do the same, except that a comment at the end of the text swallows the parenthesis, and that what has
no end in the text may take the parenthesis for its own. -/
namespace LineScript.Regex

section Closing

/-- What stands behind the text of a group: its closing parenthesis, and perhaps a dollar sign. -/
def closing (dollar : Bool) : List Char :=
  ')' :: if dollar then ['$'] else []

variable {dollar : Bool} {c : Char} {cs : List Char}

theorem mem_closing {c : Char} (h : c ∈ closing dollar) : c = ')' ∨ c = '$' := by
  cases dollar <;> simp_all [closing]

/-- Characters in front of a closing parenthesis, other than it, are in the text. -/
theorem one_of_append {c : Char} {cs behind : List Char} (h : cs ++ closing dollar = c :: behind) (hc : c ≠ ')') :
    ∃ cs', cs = c :: cs' ∧ behind = cs' ++ closing dollar := by
  cases cs with
  | nil =>
    cases h
    exact absurd rfl hc
  | cons d cs' =>
    cases h
    exact ⟨cs', rfl, rfl⟩

theorem two_of_append {c d : Char} {cs behind : List Char} (h : cs ++ closing dollar = c :: d :: behind) (hc : c ≠ ')')
    (hd : d ≠ ')') : ∃ cs', cs = c :: d :: cs' ∧ behind = cs' ++ closing dollar := by
  obtain ⟨cs₁, rfl, h₁⟩ := one_of_append h hc
  obtain ⟨cs₂, rfl, h₂⟩ := one_of_append h₁.symm hd
  exact ⟨cs₂, rfl, h₂⟩

/-- A comment at the end of a text goes on with what stands behind it. -/
theorem dropIgnored_append (inComment : Bool) (cs : List Char) :
    dropIgnored inComment (cs ++ closing dollar) = dropIgnored inComment cs ++ closing dollar ∨
      (dropIgnored inComment cs = [] ∧ dropIgnored inComment (cs ++ closing dollar) = []) := by
  fun_induction dropIgnored inComment cs with
  | case1 inComment =>
    cases inComment with
    | false => exact .inl rfl
    | true =>
      refine .inr ⟨rfl, ?_⟩
      cases dollar <;> rfl
  | case2 c cs ih => exact ih
  | case3 c cs hblank ih =>
    rw [List.cons_append, dropIgnored, if_pos hblank]
    exact ih
  | case4 cs hblank ih =>
    rw [List.cons_append, dropIgnored, if_neg hblank, if_pos rfl]
    exact ih
  | case5 c cs hblank hmark =>
    rw [List.cons_append, dropIgnored, if_neg hblank, if_neg hmark]
    exact .inl rfl

theorem Flags.behindIgnored_append (dollar : Bool) (f : Flags) (cs : List Char) :
    f.behindIgnored (cs ++ closing dollar) = f.behindIgnored cs ++ closing dollar ∨
      (f.behindIgnored cs = [] ∧ f.behindIgnored (cs ++ closing dollar) = []) := by
  unfold Flags.behindIgnored
  split
  · exact dropIgnored_append false cs
  · exact .inl rfl

theorem trimLeft_append (cs : List Char) :
    Text.trimLeft (cs ++ closing dollar) = Text.trimLeft cs ++ closing dollar := by
  have hblank : Text.isBlank ')' = false := by decide
  exact Text.trimLeft_append_cons hblank cs _

/-- Behind white space and signs of comments alone stands the closing parenthesis. -/
theorem headIgnoring_append (dollar : Bool) (first first' : Option Char) (inComment : Bool) (cs : List Char) :
    headIgnoring first' inComment (cs ++ closing dollar) = headIgnoring first inComment cs ∨
      ((∀ d ∈ cs, Text.isBlank d = true ∨ d = '#') ∧ headIgnoring first inComment cs = first ∧
        headIgnoring first' inComment (cs ++ closing dollar) = some ')') := by
  fun_induction headIgnoring first inComment cs with
  | case1 inComment =>
    refine .inr ⟨by simp, rfl, ?_⟩
    cases inComment <;> rfl
  | case2 inComment c cs hblank ih =>
    rw [List.cons_append, headIgnoring, if_pos hblank, List.forall_mem_cons]
    exact ih.imp_right fun h => ⟨⟨.inl hblank, h.1⟩, h.2⟩
  | case3 inComment c cs hblank hmark ih =>
    rw [List.cons_append, headIgnoring, if_neg hblank, if_pos hmark, List.forall_mem_cons]
    have hc : c = '#' := by simp_all
    exact ih.imp_right fun h => ⟨⟨.inr hc, h.1⟩, h.2⟩
  | case4 inComment c cs hblank hmark =>
    rw [List.cons_append, headIgnoring, if_neg hblank, if_neg hmark]
    exact .inl rfl

theorem standsAlone_append (f : Flags) (c : Char) (cs : List Char) :
    standsAlone f c (cs ++ closing dollar) = standsAlone f c cs := by
  have hparenthesis : (some ')' == some ']') = false ∧ (some ')' == some '-') = false := by decide
  have hhead : (cs ++ closing dollar).head? = cs.head? ∨ (cs = [] ∧ (cs ++ closing dollar).head? = some ')') := by
    cases cs with
    | nil => exact .inr ⟨rfl, rfl⟩
    | cons d cs => exact .inl rfl
  unfold standsAlone
  dsimp only
  split
  · rcases headIgnoring_append dollar cs.head? (cs ++ closing dollar).head? false cs with h | ⟨hall, h, h'⟩
    · rw [h]
    · rw [h, h', hparenthesis.1, hparenthesis.2]
      cases cs with
      | nil => rfl
      | cons d cs =>
        have hd := hall d List.mem_cons_self
        have hbracket : (some d == some ']') = false := by
          rw [beq_eq_false_iff_ne]
          rintro ⟨⟩
          exact absurd hd (by decide)
        have hdash : (some d == some '-') = false := by
          rw [beq_eq_false_iff_ne]
          rintro ⟨⟩
          exact absurd hd (by decide)
        rw [List.head?_cons, hbracket, hdash]
  · rcases hhead with h | ⟨rfl, h⟩
    · rw [h]
    · rw [h, hparenthesis.1, hparenthesis.2]
      rfl

/-- A text is cut at a character that does not stand in what is behind it. -/
theorem cut_append {c : Char} {behind : List Char} (hc : c ∉ behind) (cs : List Char) :
    (cs.dropWhile (· != c) = [] ∧ (cs ++ behind).dropWhile (· != c) = []) ∨
      (cs.dropWhile (· != c) ≠ [] ∧ (cs ++ behind).dropWhile (· != c) = cs.dropWhile (· != c) ++ behind ∧
        (cs ++ behind).takeWhile (· != c) = cs.takeWhile (· != c)) := by
  have hall : ∀ d ∈ behind, (d != c) = true := by
    intro d hd
    rw [bne_iff_ne]
    rintro rfl
    exact hc hd
  rw [List.dropWhile_append, List.takeWhile_append]
  by_cases hdrop : cs.dropWhile (· != c) = []
  · rw [hdrop]
    have hbehind : (behind ++ []).dropWhile (· != c) = [].dropWhile (· != c) := List.dropWhile_append_of_pos hall
    rw [List.append_nil] at hbehind
    exact .inl ⟨rfl, hbehind⟩
  · have hlength : (cs.takeWhile (· != c)).length ≠ cs.length := by
      have hsum := congrArg List.length (List.takeWhile_append_dropWhile (p := (· != c)) (l := cs))
      have hpos := List.length_pos_of_ne_nil hdrop
      rw [List.length_append] at hsum
      omega
    rw [if_neg (by rwa [List.isEmpty_iff]), if_neg hlength]
    exact .inr ⟨hdrop, rfl, rfl⟩

/-- What stands behind the end of a name, if a text starts with it. -/
def behindName? : List Char → Option (List Char)
  | ':' :: ']' :: behind => some behind
  | _ => none

theorem className?_eq (negated : Bool) (cs : List Char) :
    className? negated cs = (behindName? (cs.dropWhile (· != ':'))).bind fun behind =>
      (CharSet.namedClass? (String.ofList (cs.takeWhile (· != ':')))).map fun s =>
        (if negated then .compl s else s, behind) := by
  unfold className?
  split
  · rename_i behind hdrop
    rw [hdrop]
    rfl
  · rename_i hnone
    rw [behindName?.eq_2 _ hnone]
    rfl

theorem behindName?_append (cs : List Char) :
    behindName? (cs ++ closing dollar) = (behindName? cs).map (· ++ closing dollar) := by
  fun_cases behindName? cs with
  | case1 behind => rfl
  | case2 cs h =>
    apply behindName?.eq_2
    intro behind heq
    obtain ⟨cs', rfl, -⟩ := two_of_append heq (by decide) (by decide)
    exact h cs' rfl

theorem className?_append (negated : Bool) (cs : List Char) :
    className? negated (cs ++ closing dollar) =
      (className? negated cs).map fun r => (r.1, r.2 ++ closing dollar) := by
  have hcolon : ':' ∉ closing dollar := by cases dollar <;> decide
  rw [className?_eq, className?_eq]
  rcases cut_append hcolon cs with ⟨h, h'⟩ | ⟨-, h, h'⟩
  · rw [h, h']
    rfl
  · rw [h, h', behindName?_append]
    cases behindName? (cs.dropWhile (· != ':')) with
    | none => rfl
    | some behind => simp [Function.comp_def]

theorem negation_append (dollar : Bool) (cs : List Char) :
    (negation (cs ++ closing dollar)).1 = (negation cs).1 ∧
      (negation (cs ++ closing dollar)).2 = (negation cs).2 ++ closing dollar := by
  fun_cases negation cs with
  | case1 cs => exact ⟨rfl, rfl⟩
  | case2 cs h =>
    have happend : negation (cs ++ closing dollar) = (false, cs ++ closing dollar) := by
      apply negation.eq_2
      intro behind heq
      obtain ⟨cs', rfl, -⟩ := one_of_append heq (by decide)
      exact h cs' rfl
    rw [happend]
    exact ⟨rfl, rfl⟩

theorem namedClass?_append (cs : List Char) :
    namedClass? (cs ++ closing dollar) = (namedClass? cs).map fun r => (r.1, r.2 ++ closing dollar) := by
  have hcons (cs : List Char) : namedClass? ('[' :: ':' :: cs ++ closing dollar) =
      (namedClass? ('[' :: ':' :: cs)).map fun r => (r.1, r.2 ++ closing dollar) := by
    obtain ⟨hnegated, hname⟩ := negation_append dollar cs
    rw [namedClass?_cons, List.cons_append, List.cons_append, namedClass?_cons, hnegated, hname, className?_append]
  cases h : namedClass? (cs ++ closing dollar) with
  | some r =>
    obtain ⟨behind, htext, -⟩ := namedClass?_eq_some h
    obtain ⟨cs, rfl, -⟩ := two_of_append htext (by decide) (by decide)
    exact h.symm.trans (hcons cs)
  | none =>
    cases h' : namedClass? cs with
    | none => rfl
    | some r =>
      obtain ⟨cs, rfl, -⟩ := namedClass?_eq_some h'
      rw [hcons, h'] at h
      cases h

/-- What stands next in a class with more behind it. -/
def ClassMark.before (cs : List Char) : ClassMark → ClassMark
  | close behind => close (behind ++ cs)
  | operation op behind => operation op (behind ++ cs)
  | nothing => nothing
  | inner => inner
  | member => member

theorem classMark_append (hcs : cs ≠ []) :
    classMark (cs ++ closing dollar) = (classMark cs).before (closing dollar) := by
  fun_cases classMark cs with
  | case1 => exact absurd rfl hcs
  | case2 | case3 | case4 | case5 | case6 => rfl
  | case7 cs hnil hclose hand hdash htilde hopen =>
    have htwo {c : Char} (hc : c ≠ ')') (h : ∀ behind, cs = c :: c :: behind → False) (behind : List Char)
        (heq : cs ++ closing dollar = c :: c :: behind) : False := by
      obtain ⟨cs', hcs', -⟩ := two_of_append heq hc hc
      exact h cs' hcs'
    have hone {c : Char} (hc : c ≠ ')') (h : ∀ behind, cs = c :: behind → False) (behind : List Char)
        (heq : cs ++ closing dollar = c :: behind) : False := by
      obtain ⟨cs', hcs', -⟩ := one_of_append heq hc
      exact h cs' hcs'
    refine classMark.eq_7 _ ?_ (hone (by decide) hclose) (htwo (by decide) hand) (htwo (by decide) hdash)
      (htwo (by decide) htilde) (hone (by decide) hopen)
    exact fun heq => hcs (List.append_eq_nil_iff.mp heq).1

/-- What stands behind the parenthesis of a group, with more behind it. -/
def OpenMark.before (cs : List Char) : OpenMark → OpenMark
  | named behind => named (behind ++ cs)
  | flagged behind => flagged (behind ++ cs)
  | lookAround => lookAround
  | plain => plain

theorem openMark_append (cs : List Char) : openMark (cs ++ closing dollar) = (openMark cs).before (closing dollar) := by
  have hone {c : Char} {cs : List Char} (hc : c ≠ ')') (h : ∀ behind, cs = c :: behind → False) (behind : List Char)
      (heq : cs ++ closing dollar = c :: behind) : False := by
    obtain ⟨cs', hcs', -⟩ := one_of_append heq hc
    exact h cs' hcs'
  have htwo {c d : Char} {cs : List Char} (hc : c ≠ ')') (hd : d ≠ ')') (h : ∀ behind, cs = c :: d :: behind → False)
      (behind : List Char) (heq : cs ++ closing dollar = c :: d :: behind) : False := by
    obtain ⟨cs', hcs', -⟩ := two_of_append heq hc hd
    exact h cs' hcs'
  have hmark : '?' ≠ ')' ∧ '=' ≠ ')' ∧ '!' ≠ ')' ∧ '<' ≠ ')' ∧ 'P' ≠ ')' := by decide
  obtain ⟨hquestion, hequal, hnot, hname, hletter⟩ := hmark
  fun_cases openMark cs with
  | case1 | case2 | case3 | case4 | case5 => rfl
  | case6 cs h₁ h₂ => exact openMark.eq_6 _ (hone hequal h₁) (hone hnot h₂)
  | case7 cs h₁ h₂ h₃ h₄ h₅ h₆ =>
    exact openMark.eq_7 _ (hone hequal h₁) (hone hnot h₂) (htwo hname hequal h₃) (htwo hname hnot h₄)
      (htwo hletter hname h₅) (hone hname h₆)
  | case8 cs h₁ h₂ h₃ h₄ h₅ h₆ h₇ =>
    have hstart := hone hquestion h₇
    exact openMark.eq_8 _ (fun _ => hstart _) (fun _ => hstart _) (fun _ => hstart _) (fun _ => hstart _)
      (fun _ => hstart _) (fun _ => hstart _) hstart

/-- Flags that have no end alone may end at the closing parenthesis. -/
theorem flagItems_append (dollar : Bool) (on : Bool) (f : Flags) (seen cs : List Char) :
    flagItems on f seen (cs ++ closing dollar) =
        (flagItems on f seen cs).map (fun r => (r.1, r.2.1, r.2.2 ++ closing dollar)) ∨
      (flagItems on f seen cs = none ∧
        ∀ r, flagItems on f seen (cs ++ closing dollar) = some r → r.2.2 = closing dollar) := by
  induction cs generalizing on f seen with
  | nil =>
    refine .inr ⟨rfl, fun r h => ?_⟩
    change flagItems on f seen (')' :: _) = some r at h
    unfold flagItems at h
    rw [if_pos (.inr rfl)] at h
    split at h
    · cases h
    · cases h
      rfl
  | cons c cs ih =>
    rw [List.cons_append]
    unfold flagItems
    split
    · split
      · exact .inl rfl
      · exact .inl rfl
    · split
      · exact .inl rfl
      · split
        case h_9 => exact .inl rfl
        all_goals exact ih _ _ _

end Closing

open Reader

variable {α β : Type} {dollar : Bool} {s : ReadState} {c : Char} {cs : List Char}

/-- How what a reader comes to in a text compares with what it comes to with a closing parenthesis behind the text.
What succeeds only there has to do so in a way that is given. -/
inductive Compared (dollar : Bool) (P : α → ReadState → Prop) :
    Option (α × ReadState) → Option (α × ReadState) → Prop
  | refused : Compared dollar P none none
  | same (a : α) (s : ReadState) : Compared dollar P (some (a, s)) (some (a, s.on (s.rest ++ closing dollar)))
  | swallowed (a : α) (s : ReadState) (h : s.rest = []) : Compared dollar P (some (a, s)) (some (a, s))
  | only (a : α) (s : ReadState) (h : P a s) : Compared dollar P none (some (a, s))

/-- Whether a reader, with a closing parenthesis behind the text, follows another one that has the text alone; and does
the same at the end of the text. -/
structure Follows (dollar : Bool) (P : α → ReadState → Prop) (x y : Reader α) (s : ReadState) : Prop where
  compared : Compared dollar P (x.run s) (y.run (s.on (s.rest ++ closing dollar)))
  ended (h : s.rest = []) : y.run s = x.run s ∧ ∀ a s', x.run s = some (a, s') → s'.rest = []

/-- No success. -/
def Never (_ : α) (_ : ReadState) : Prop :=
  False

/-- At most the closing parenthesis and what is behind it is left. -/
def Border (dollar : Bool) (_ : α) (s : ReadState) : Prop :=
  s.rest <:+ closing dollar

/-- The closing parenthesis has been taken. -/
def Over (dollar : Bool) (_ : α) (s : ReadState) : Prop :=
  s.rest <:+ (closing dollar).tail

/-- Braces that were given back, since what is behind them is the closing parenthesis. -/
def Stray (dollar : Bool) (s : ReadState) : Prop :=
  ∃ cs, s.rest = '\x7b' :: cs ∧ s.flags.behindIgnored cs = closing dollar

/-- What an escape that has no end in the text may come to: it has taken the closing parenthesis, or it is a condition
in front of stray braces. -/
def Escaped (dollar : Bool) (a : Atom) (s : ReadState) : Prop :=
  Over dollar a s ∨ (∃ l, a = .look l) ∧ Stray dollar s

theorem over_of_takes {x : Reader α} (hx : x.Takes 1 s) (hs : s.rest <:+ closing dollar) {a : α} {s' : ReadState}
    (h : x.run s = some (a, s')) : Over dollar a s' := by
  obtain ⟨hsuffix, hlength⟩ := hx a s' h
  have hle := hs.length_le
  rcases List.suffix_cons_iff.mp (hsuffix.trans hs) with heq | hover
  · rw [heq] at hlength
    exact absurd (Nat.le_trans hlength hle) (Nat.not_succ_le_self _)
  · exact hover

theorem border_of_takes {x : Reader α} (hx : x.Takes 0 s) (hs : s.rest <:+ closing dollar) {a : α} {s' : ReadState}
    (h : x.run s = some (a, s')) : Border dollar a s' :=
  (hx a s' h).1.trans hs

theorem over_of_over {x : Reader α} (hx : x.Takes 0 s) (hs : s.rest <:+ (closing dollar).tail) {a : α} {s' : ReadState}
    (h : x.run s = some (a, s')) : Over dollar a s' :=
  (hx a s' h).1.trans hs

section Rules

variable {P : α → ReadState → Prop} {Q : β → ReadState → Prop} {x y x' y' : Reader α} {f g : α → Reader β}

theorem follows_pure (a : α) (s : ReadState) : Follows dollar P (pure a) (pure a) s where
  compared := .same a s
  ended h := by
    refine ⟨rfl, ?_⟩
    rintro _ _ ⟨⟩
    exact h

theorem follows_failure (s : ReadState) : Follows dollar P failure failure s where
  compared := .refused
  ended h := by
    refine ⟨rfl, ?_⟩
    rintro _ _ ⟨⟩

theorem Follows.mono {P' : α → ReadState → Prop} (h : Follows dollar P x y s) (hP : ∀ a s', P a s' → P' a s') :
    Follows dollar P' x y s where
  compared := by
    have hcompared := h.compared
    generalize x.run s = r at hcompared ⊢
    generalize y.run (s.on (s.rest ++ closing dollar)) = r' at hcompared ⊢
    cases hcompared with
    | refused => exact .refused
    | same a s' => exact .same a s'
    | swallowed a s' hs' => exact .swallowed a s' hs'
    | only a s' ha => exact .only a s' (hP a s' ha)
  ended := h.ended

theorem Follows.of_never (h : Follows dollar Never x y s) :
    Follows dollar P x y s :=
  h.mono fun _ _ h => h.elim

theorem follows_ite {p : Prop} [Decidable p] (hx : Follows dollar P x y s) (hx' : Follows dollar P x' y' s) :
    Follows dollar P (if p then x else x') (if p then y else y') s := by
  split
  · exact hx
  · exact hx'

theorem Follows.bind (hx : Follows dollar P x y s)
    (hf : ∀ a s', x.run s = some (a, s') → Follows dollar Q (f a) (g a) s')
    (hP : ∀ a s', P a s' → ∀ b s'', (g a).run s' = some (b, s'') → Q b s'') :
    Follows dollar Q (x >>= f) (y >>= g) s where
  compared := by
    have hcompared := hx.compared
    rw [StateT.run_bind, StateT.run_bind]
    generalize y.run (s.on (s.rest ++ closing dollar)) = r' at hcompared ⊢
    cases hr : x.run s with
    | none =>
      rw [hr] at hcompared
      cases hcompared with
      | refused => exact .refused
      | only a s' ha =>
        change Compared dollar Q none ((g a).run s')
        cases hg : (g a).run s' with
        | none => exact .refused
        | some r => exact .only r.1 r.2 (hP a s' ha r.1 r.2 hg)
    | some r =>
      obtain ⟨a, s'⟩ := r
      rw [hr] at hcompared
      have hfollows := hf a s' hr
      cases hcompared with
      | same => exact hfollows.compared
      | swallowed _ _ hs' =>
        obtain ⟨heq, hended⟩ := hfollows.ended hs'
        change Compared dollar Q ((f a).run s') ((g a).run s')
        rw [heq]
        cases hfa : (f a).run s' with
        | none => exact .refused
        | some r => exact .swallowed r.1 r.2 (hended r.1 r.2 hfa)
  ended hs := by
    obtain ⟨heq, hended⟩ := hx.ended hs
    rw [StateT.run_bind, StateT.run_bind, heq]
    cases hr : x.run s with
    | none =>
      refine ⟨rfl, ?_⟩
      rintro _ _ ⟨⟩
    | some r =>
      obtain ⟨a, s'⟩ := r
      exact (hf a s' hr).ended (hended a s' hr)

/-- Where a part cannot succeed in another way than alone. -/
theorem Follows.bind_never (hx : Follows dollar Never x y s)
    (hf : ∀ a s', x.run s = some (a, s') → Follows dollar Q (f a) (g a) s') : Follows dollar Q (x >>= f) (y >>= g) s :=
  hx.bind hf fun _ _ h => h.elim

theorem follows_flags_bind {f g : Flags → Reader β} (h : Follows dollar Q (f s.flags) (g s.flags) s) :
    Follows dollar Q (flags >>= f) (flags >>= g) s :=
  ⟨h.compared, h.ended⟩

theorem follows_rest_bind {f : List Char → Reader β}
    (h : Follows dollar Q (f s.rest) (f (s.rest ++ closing dollar)) s) :
    Follows dollar Q (rest >>= f) (rest >>= f) s where
  compared := h.compared
  ended hs := ⟨rfl, (h.ended hs).2⟩

/-- A look at what is left, where something is. -/
theorem follows_rest_bind_cons {f g : List Char → Reader β} (hs : s.rest = c :: cs)
    (h : Follows dollar Q (f (c :: cs)) (g (c :: (cs ++ closing dollar))) s) :
    Follows dollar Q (rest >>= f) (rest >>= g) s where
  compared := by
    have hcompared := h.compared
    change Compared dollar Q ((f s.rest).run s) ((g (s.rest ++ closing dollar)).run (s.on (s.rest ++ closing dollar)))
    rw [hs] at hcompared ⊢
    exact hcompared
  ended h := by
    rw [hs] at h
    cases h

/-- A look at what is left, at the end, that comes to the same with the closing parenthesis there. -/
theorem follows_rest_bind_pure {f g : List Char → Reader β} (hs : s.rest = []) (b : β) (hf : f [] = pure b)
    (hg : g [] = pure b) (hclosing : g (closing dollar) = pure b) : Follows dollar Q (rest >>= f) (rest >>= g) s where
  compared := by
    change Compared dollar Q ((f s.rest).run s) ((g (s.rest ++ closing dollar)).run (s.on (s.rest ++ closing dollar)))
    rw [hs, List.nil_append, hf, hclosing]
    have hsame : Compared dollar Q _ (some (b, s.on (s.rest ++ closing dollar))) := .same b s
    rwa [hs] at hsame
  ended h := by
    change (g s.rest).run s = (f s.rest).run s ∧ ∀ b s', (f s.rest).run s = some (b, s') → s'.rest = []
    rw [hs, hf, hg]
    refine ⟨rfl, ?_⟩
    rintro _ _ ⟨⟩
    exact h

/-- A look at what is left where there has to be something. -/
theorem follows_rest_bind_failure {f g : List Char → Reader β} (hs : s.rest = []) (hf : f [] = failure)
    (hg : g [] = failure)
    (hQ : ∀ b s', (g (closing dollar)).run (s.on (closing dollar)) = some (b, s') → Q b s') :
    Follows dollar Q (rest >>= f) (rest >>= g) s where
  compared := by
    change Compared dollar Q ((f s.rest).run s) ((g (s.rest ++ closing dollar)).run (s.on (s.rest ++ closing dollar)))
    rw [hs, List.nil_append, hf]
    change Compared dollar Q none _
    cases hclosing : (g (closing dollar)).run (s.on (closing dollar)) with
    | none => exact .refused
    | some r => exact .only r.1 r.2 (hQ r.1 r.2 hclosing)
  ended _ := by
    change (g s.rest).run s = (f s.rest).run s ∧ ∀ b s', (f s.rest).run s = some (b, s') → s'.rest = []
    rw [hs, hf, hg]
    refine ⟨rfl, ?_⟩
    rintro _ _ ⟨⟩

end Rules

section Steps

variable {f g : Unit → Reader β} {Q : β → ReadState → Prop}

theorem follows_skip (s : ReadState) : Follows dollar Never skip skip s where
  compared := by
    rw [run_skip_eq, run_skip_eq]
    change Compared dollar Never _ (some ((), s.on (s.flags.behindIgnored (s.rest ++ closing dollar))))
    rcases Flags.behindIgnored_append dollar s.flags s.rest with h | ⟨h, h'⟩
    · rw [h]
      exact .same () (s.on (s.flags.behindIgnored s.rest))
    · rw [h, h']
      exact .swallowed () (s.on []) rfl
  ended hs := by
    refine ⟨rfl, fun _ s' h => ?_⟩
    obtain ⟨hsuffix, -⟩ := takes_skip s _ s' h
    rw [hs] at hsuffix
    exact List.suffix_nil.mp hsuffix

theorem follows_bump (hs : s.rest = c :: cs) : Follows dollar Never bump bump s where
  compared := by
    rw [run_bump_eq, run_bump_eq]
    change Compared dollar Never _ (some ((), s.on (s.rest ++ closing dollar).tail))
    rw [hs]
    exact .same () (s.on cs)
  ended h := by
    rw [hs] at h
    cases h

theorem follows_bumpSkip (hs : s.rest = c :: cs) : Follows dollar Never bumpSkip bumpSkip s :=
  (follows_bump hs).bind_never fun _ s' _ => follows_skip s'

/-- Where a character and what is ignored behind it is passed, and something has to follow, that may be the closing
parenthesis. -/
theorem follows_bumpOn_bind (hs : s.rest = c :: cs)
    (hf : ∀ d ds, d :: ds <:+ cs → Follows dollar Q (f ()) (g ()) (s.on (d :: ds)))
    (hQ : s.flags.behindIgnored (cs ++ closing dollar) = closing dollar →
      ∀ b s', (g ()).run (s.on (closing dollar)) = some (b, s') → Q b s') :
    Follows dollar Q (bumpOn >>= f) (bumpOn >>= g) s where
  compared := by
    rw [StateT.run_bind, StateT.run_bind, run_bumpOn_eq, run_bumpOn_eq]
    change Compared dollar Q _ ((if s.flags.behindIgnored (s.rest ++ closing dollar).tail = [] then none
      else some ((), s.on (s.flags.behindIgnored (s.rest ++ closing dollar).tail))) >>= fun r => (g r.1).run r.2)
    have hsuffix := s.flags.behindIgnored_suffix cs
    rw [hs, List.cons_append, List.tail_cons, List.tail_cons]
    rcases Flags.behindIgnored_append dollar s.flags cs with h | ⟨h, h'⟩
    · have hsome : s.flags.behindIgnored (cs ++ closing dollar) ≠ [] := by
        rw [h]
        simp [closing]
      rw [if_neg hsome]
      cases hrest : s.flags.behindIgnored cs with
      | nil =>
        rw [hrest, List.nil_append] at h
        rw [h]
        change Compared dollar Q none ((g ()).run (s.on (closing dollar)))
        cases hg : (g ()).run (s.on (closing dollar)) with
        | none => exact .refused
        | some r => exact .only r.1 r.2 (hQ h r.1 r.2 hg)
      | cons d ds =>
        rw [hrest] at h hsuffix
        rw [h]
        exact (hf d ds hsuffix).compared
    · rw [h, h']
      exact .refused
  ended h := by
    rw [hs] at h
    cases h

end Steps

end LineScript.Regex
