import LineScript.Proofs.Glob.Language

/-! Brackets of a glob that form no class, and what the regular expression makes of them. -/
namespace LineScript.Glob

open Regex (Means)

variable {cs ms p r : List Char} {L : Language Char}

section Fronts

/-- The number of backslashes at the end of a text. -/
def trailingBackslashes (cs : List Char) : Nat :=
  (cs.reverse.takeWhile (· == '\\')).length

theorem trailingBackslashes_cons (c : Char) (cs : List Char) : trailingBackslashes (c :: cs) =
    if trailingBackslashes cs = cs.length then cs.length + (if c = '\\' then 1 else 0) else trailingBackslashes cs := by
  unfold trailingBackslashes
  rw [List.reverse_cons, List.takeWhile_append, List.length_reverse]
  split
  · rw [List.length_append, List.length_reverse]
    by_cases hc : c = '\\' <;> simp [hc]
  · rfl

/-- An escape in front of a text does not change whether a backslash at its end has a character. -/
theorem even_trailingBackslashes {d : Char} (h : trailingBackslashes ('\\' :: d :: cs) % 2 = 0) :
    trailingBackslashes cs % 2 = 0 := by
  have hle : trailingBackslashes cs ≤ cs.length := by
    have hlength := (List.takeWhile_prefix (p := (· == '\\')) (l := cs.reverse)).length_le
    rwa [List.length_reverse] at hlength
  have hsecond := trailingBackslashes_cons d cs
  rw [trailingBackslashes_cons, List.length_cons, if_pos rfl] at h
  split at h <;> split at hsecond <;> try split at hsecond
  all_goals omega

/-- A glob without brackets whose last character is not escaped goes on as a glob, and it matches something. -/
theorem front_of_glob (hp : '[' ∉ p) (hescape : trailingBackslashes p % 2 = 0) :
    (∀ rest, toRegex (p ++ rest) = toRegex p ++ toRegex rest) ∧ ∃ w, w ∈ language false p := by
  induction hn : p.length using Nat.strongRecOn generalizing p with
  | ind n ih =>
    -- a piece in front, and a glob of the same kind behind it
    have hcons {front behind : List Char} {L : Language Char} (hlt : behind.length < n) (hbehind : '[' ∉ behind)
        (heven : trailingBackslashes behind % 2 = 0)
        (htext : ∀ rest, toRegex (p ++ rest) = front ++ toRegex (behind ++ rest))
        (hL : Means false front L) (hword : ∃ w, w ∈ L) :
        (∀ rest, toRegex (p ++ rest) = toRegex p ++ toRegex rest) ∧ ∃ w, w ∈ language false p := by
      obtain ⟨happend, w, hw⟩ := ih behind.length hlt hbehind heven rfl
      have hself := htext []
      rw [List.append_nil, List.append_nil] at hself
      constructor
      · intro rest
        rw [htext, happend, hself, List.append_assoc]
      · obtain ⟨v, hv⟩ := hword
        rw [language_eq_mul hself hL]
        exact ⟨v ++ w, Language.append_mem_mul hv hw⟩
    have hchar (d : Char) : ∃ w, w ∈ ({[d]} : Language Char) := ⟨[d], rfl⟩
    cases p with
    | nil =>
      refine ⟨fun rest => rfl, [], ?_⟩
      rw [language, toRegex, regexFrom, Regex.means_nil.language_eq]
      exact Language.nil_mem_one
    | cons c cs =>
      rw [List.length_cons] at hn
      obtain ⟨hc, hcs⟩ := not_or.mp (mt List.mem_cons.mpr hp)
      by_cases hbackslash : c = '\\'
      · rw [hbackslash] at hescape
        cases cs with
        | nil => exact absurd hescape (by decide)
        | cons d ds =>
          have hds : '[' ∉ ds := fun hmem => hcs (List.mem_cons_of_mem d hmem)
          rw [List.length_cons] at hn
          refine hcons (by omega) hds (even_trailingBackslashes hescape) (fun rest => ?_) (means_char d) (hchar d)
          rw [hbackslash]
          rfl
      · have heven : trailingBackslashes cs % 2 = 0 := by
          rw [trailingBackslashes_cons, if_neg hbackslash] at hescape
          split at hescape <;> omega
        by_cases hstar : c = '*'
        · refine hcons (by omega) hcs heven (fun rest => ?_) means_star
            ⟨[], fun d hd => absurd hd List.not_mem_nil⟩
          rw [hstar]
          rfl
        · by_cases hmark : c = '?'
          · refine hcons (by omega) hcs heven (fun rest => ?_) means_dot ⟨['a'], 'a', by decide, rfl⟩
            rw [hmark]
            rfl
          · have hplain : c ∉ ['*', '?', '\\', '['] := by simp [hstar, hmark, hbackslash, Ne.symm hc]
            exact hcons (by omega) hcs heven (fun rest => toRegex_plain hplain _) (means_char c) (hchar c)

end Fronts

section Brackets

theorem flatMap_member_eq_self_iff : ms.flatMap member = ms ↔ ∀ c ∈ ms, c ∉ ['[', '\\', '&', '~'] := by
  have hspecial (c : Char) : c ∈ ['[', '\\', '&', '~'] ↔ c = '[' ∨ c = '\\' ∨ c = '&' ∨ c = '~' := by simp
  induction ms with
  | nil => simp
  | cons c ms ih =>
    have hle := length_le_flatMap_member ms
    rw [List.flatMap_cons, List.forall_mem_cons, hspecial]
    by_cases hc : c = '[' ∨ c = '\\' ∨ c = '&' ∨ c = '~'
    · refine iff_of_false ?_ (fun h => h.1 hc)
      intro h
      have hlength := congrArg List.length h
      rw [member, if_pos hc, List.length_append, List.length_cons, List.length_cons, List.length_nil,
        List.length_cons] at hlength
      omega
    · rw [member, if_neg hc, List.singleton_append, List.cons.injEq]
      constructor
      · intro h
        exact ⟨hc, ih.mp h.2⟩
      · intro h
        exact ⟨rfl, ih.mpr h.2⟩

/-- A class is written as it stands, unless it is negated or has characters with a meaning in classes. -/
theorem classText_eq_self_iff : classText r = r ↔ r.head? ≠ some '!' ∧ ∀ c ∈ r, c ∉ ['[', '\\', '&', '~'] := by
  unfold classText
  split
  · simp
  · rename_i hmark
    rw [flatMap_member_eq_self_iff, and_iff_right]
    intro hhead
    obtain ⟨cs, rfl⟩ := List.head?_eq_some_iff.mp hhead
    exact hmark cs rfl

/-- What stands behind the texts of a language is found again from the shortest of them. -/
theorem singleton_mul_injective {u v : List Char} (hL : ∃ w, w ∈ L) (h : L * {u} = L * {v}) : u = v := by
  have hlength (u v : List Char) (h : L * {u} = L * {v}) : v.length ≤ u.length := by
    have hshort : ∃ n w, w ∈ L ∧ w.length = n := by
      obtain ⟨w, hw⟩ := hL
      exact ⟨_, w, hw, rfl⟩
    classical
    obtain ⟨w, hw, hn⟩ := Nat.find_spec hshort
    have hmem : w ++ u ∈ L * {v} := h ▸ Language.append_mem_mul hw rfl
    obtain ⟨w', hw', v', hv', htext⟩ := Language.mem_mul.mp hmem
    obtain rfl : v' = v := hv'
    have hmin := Nat.find_min' hshort ⟨w', hw', rfl⟩
    have hsum := congrArg List.length htext
    rw [List.length_append, List.length_append] at hsum
    omega
  obtain ⟨w, hw⟩ := hL
  have hmem : w ++ u ∈ L * {v} := h ▸ Language.append_mem_mul hw rfl
  obtain ⟨w', -, v', hv', htext⟩ := Language.mem_mul.mp hmem
  obtain rfl : v' = v := hv'
  have heq : v'.length = u.length := Nat.le_antisymm (hlength u v' h) (hlength v' u h.symm)
  exact (List.append_inj_right' htext heq).symm

/-- Brackets that form no class, behind a glob without brackets: one that is never closed stands for itself, but so does
what becomes of the characters behind it as those of a class, which is the text as written if and only if it is not
negated and has no characters with a meaning in classes; and brackets with nothing between them stand for themselves,
but an exclamation mark between them becomes a caret. -/
theorem brackets_without_class (hp : '[' ∉ p) (hescape : trailingBackslashes p % 2 = 0) :
    (∀ r, ']' ∉ r → language false (p ++ '[' :: r) = language false p * {'[' :: classText r} ∧
      (language false (p ++ '[' :: r) = language false p * {'[' :: r} ↔
        r.head? ≠ some '!' ∧ ∀ c ∈ r, c ∉ ['[', '\\', '&', '~'])) ∧
    (∀ rest, language false (p ++ '[' :: ']' :: rest) = language false p * {['[', ']']} * language false rest ∧
      language false (p ++ '[' :: '!' :: ']' :: rest) = language false p * {['[', '^', ']']} * language false rest) ∧
    ∀ glob pattern machine groupCount, Search.compile pattern false (toRegex glob) = .ok (machine, groupCount) →
      ∀ text, (Regex.search? machine groupCount text 0).isSome = true ↔
        ∃ part, part <:+: text ∧ part ∈ language false glob := by
  obtain ⟨happend, hword⟩ := front_of_glob hp hescape
  have hfront := means_toRegex false p
  -- escaped text behind the glob in front, and another glob behind that
  have hliteral (literal rest bracket : List Char) (htext : toRegex bracket = Regex.escaped literal ++ toRegex rest) :
      language false (p ++ bracket) = language false p * {literal} * language false rest := by
    have hsplit : toRegex (p ++ bracket) = (toRegex p ++ Regex.escaped literal) ++ toRegex rest := by
      rw [happend, htext, List.append_assoc]
    exact language_eq_mul hsplit (hfront.append (means_escaped literal) (head?_escaped_ne literal))
  have hnil : language false [] = 1 := Regex.means_nil.language_eq
  refine ⟨?_, ?_, ?_⟩
  · intro r hr
    have hopen : toRegex ('[' :: r) = Regex.escaped ('[' :: classText r) ++ toRegex [] := by
      rw [toRegex_open hr]
      exact (List.append_nil _).symm
    have hlanguage := hliteral _ [] _ hopen
    rw [hnil, mul_one] at hlanguage
    refine ⟨hlanguage, ?_⟩
    rw [hlanguage, ← classText_eq_self_iff]
    constructor
    · intro h
      exact (List.cons.inj (singleton_mul_injective hword h)).2
    · intro h
      rw [h]
  · intro rest
    have hempty : toRegex ('[' :: ([] ++ ']' :: rest)) = Regex.escaped ['[', ']'] ++ toRegex rest :=
      (toRegex_closed List.not_mem_nil rest).trans (congrArg (· ++ _) (closedClass_empty (.inl rfl)))
    have hmark : toRegex ('[' :: (['!'] ++ ']' :: rest)) = Regex.escaped ['[', '^', ']'] ++ toRegex rest :=
      (toRegex_closed (by decide) rest).trans (congrArg (· ++ _) (closedClass_empty (.inr rfl)))
    exact ⟨hliteral _ rest _ hempty, hliteral _ rest _ hmark⟩
  · intro glob pattern machine groupCount hcompile text
    exact search_iff_language hcompile text

/-- Behind a star and an escaped backslash. -/
theorem brackets_without_class_star :
    let p := "*\\\\".toList
    '[' ∉ p ∧ trailingBackslashes p % 2 = 0 ∧ ']' ∉ "b.c".toList ∧
      language false (p ++ '[' :: "b.c".toList) = language false p * {'[' :: "b.c".toList} := by
  intro p
  have hp : '[' ∉ p := by decide
  have hescape : trailingBackslashes p % 2 = 0 := by decide
  have hr : ']' ∉ "b.c".toList := by decide
  obtain ⟨-, hself⟩ := (brackets_without_class hp hescape).1 _ hr
  exact ⟨hp, hescape, hr, hself.mpr (by simp)⟩

/-- What becomes of an exclamation mark behind a bracket that is never closed. -/
theorem open_bracket_rewritten : ']' ∉ "!a".toList ∧
    ∃ x, Search.Expression.new "[!a" .glob "" = .ok x ∧ x.matcher.matches "[!a" = false ∧
      x.matcher.matches "[^a" = true := by
  have hfound : (Search.Expression.new "[!a" .glob "").map
      (fun x => (x.matcher.matches "[!a", x.matcher.matches "[^a")) = .ok (false, true) := by decide +kernel
  cases hnew : Search.Expression.new "[!a" .glob "" with
  | error e =>
    rw [hnew] at hfound
    cases hfound
  | ok x =>
    rw [hnew] at hfound
    have hpair := Except.ok.inj hfound
    exact ⟨by decide, x, rfl, congrArg Prod.fst hpair, congrArg Prod.snd hpair⟩

end Brackets

end LineScript.Glob
