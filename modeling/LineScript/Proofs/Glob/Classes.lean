import LineScript.Proofs.Glob.Items

/-! Classes of globs, whatever their members are: the reader takes them up to the first closing bracket, or refuses
them whatever stands behind it. -/
namespace LineScript.Glob

open Regex (CharSet ClassOp ClassPart ReadState)

variable {ignoreCase : Bool} {s : ReadState} {c d : Char} {cs ms : List Char} {fuel : Nat}
  {left : Option (ClassOp × CharSet × Nat)} {p : ClassPart}

theorem flatMap_member_cons (c : Char) (ms cs : List Char) :
    (c :: ms).flatMap member ++ cs = member c ++ (ms.flatMap member ++ cs) := by
  rw [List.flatMap_cons, List.append_assoc]

/-- A character of a class that is no bracket is read as itself. -/
theorem run_atom (c : Char) (cs : List Char) :
    Regex.classAtom.run (s.on (member c ++ cs)) = some (.char c false, s.on cs) := by
  unfold member
  split
  · rename_i hspecial
    have hmeta : Regex.isMeta c = true := by
      rcases hspecial with rfl | rfl | rfl | rfl <;> rfl
    exact Regex.run_classAtom_escaped hmeta cs
  · rename_i hplain
    have hbackslash : c ≠ '\\' := by
      intro h
      exact hplain (.inr (.inl h))
    exact Regex.run_classAtom hbackslash cs

/-- How the text of a character starts: with itself if it is a dash, and never like an operation or a bracket. -/
theorem exists_member_cons (hc : c ≠ ']') : ∃ d ds, member c = d :: ds ∧ d ≠ ']' ∧ d ≠ '&' ∧ d ≠ '~' ∧ d ≠ '[' ∧
    (d = '-' ↔ c = '-') ∧ (d = '-' → ds = []) := by
  unfold member
  split
  · rename_i hspecial
    refine ⟨_, _, rfl, by decide, by decide, by decide, by decide, ?_, by simp⟩
    rcases hspecial with rfl | rfl | rfl | rfl <;> decide
  · rename_i hplain
    simp only [not_or] at hplain
    exact ⟨c, [], rfl, hc, hplain.2.2.1, hplain.2.2.2, hplain.1, Iff.rfl, fun _ => rfl⟩

theorem exists_text_cons (hms : ']' ∉ ms) (cs : List Char) : ∃ d ds, ms.flatMap member ++ ']' :: cs = d :: ds ∧
    (d = '-' ↔ ms.head? = some '-') := by
  cases ms with
  | nil => exact ⟨_, _, rfl, by decide⟩
  | cons c ms =>
    have hc : c ≠ ']' := by
      intro h
      exact hms (h ▸ List.mem_cons_self)
    obtain ⟨d, ds, hd, -, -, -, -, hdash, -⟩ := exists_member_cons hc
    refine ⟨d, ds ++ (ms.flatMap member ++ ']' :: cs), ?_, ?_⟩
    · rw [flatMap_member_cons, hd, List.cons_append]
    · rw [hdash, List.head?_cons, Option.some_inj]

/-- What is neither an operation nor a bracket starts a member or a range. -/
theorem classItems_other (h : s.flags.ignoreBlank = false) (hc : c ≠ ']' ∧ c ≠ '&' ∧ c ≠ '~' ∧ c ≠ '[')
    (hdash : c = '-' → cs.head? ≠ some '-') : (Regex.classItems (fuel + 1) left p).run (s.on (c :: cs)) =
      (Regex.classRange >>= fun r => Regex.classItems fuel left (p.add r 0)).run (s.on (c :: cs)) := by
  conv_lhs => unfold Regex.classItems
  simp only [StateT.run_bind, Regex.Reader.run_skip h, Regex.Reader.run_flags, Regex.Reader.run_rest,
    Option.bind_eq_bind, Option.bind_some]
  split
  case h_7 => simp only [StateT.run_bind, Option.bind_eq_bind]
  all_goals
    rename_i heq
    cases heq
    try simp at hc hdash

theorem classItems_diff (h : s.flags.ignoreBlank = false) (cs : List Char) :
    (Regex.classItems (fuel + 1) left p).run (s.on ('-' :: '-' :: cs)) =
      (Regex.classItems fuel (some (.diff, p.close s.flags left)) {}).run (s.on cs) := by
  conv_lhs => unfold Regex.classItems
  simp only [StateT.run_bind, Regex.Reader.run_skip h, Regex.Reader.run_flags, Regex.Reader.run_rest,
    Option.bind_eq_bind, Option.bind_some]
  rfl

/-- A character with another one behind a dash: a range, if it is not backwards. -/
theorem run_range (h : s.flags = { ignoreCase }) (hd : d ≠ ']' ∧ d ≠ '-') (cs : List Char) :
    Regex.classRange.run (s.on (member c ++ '-' :: (member d ++ cs))) =
      if d < c then none else some (.range c.toNat d.toNat, s.on cs) := by
  have hblank : s.flags.ignoreBlank = false := by rw [h]
  obtain ⟨e, es, hmember, hbracket, -, -, -, hdash, -⟩ := exists_member_cons hd.1
  have hafter : e ≠ '-' := by
    rw [Ne, hdash]
    exact hd.2
  have hne : member d ++ cs ≠ [] := by simp [hmember]
  unfold Regex.classRange
  simp only [StateT.run_bind, run_atom, Regex.Reader.run_skip hblank, Regex.Reader.run_flags, Regex.Reader.run_rest,
    Option.bind_eq_bind, Option.bind_some, hblank, Bool.false_eq_true, if_false]
  have hhead : (member d ++ cs).head? = some e := by simp [hmember]
  rw [hhead, if_neg (by simp [hbracket, hafter])]
  simp only [StateT.run_bind, Regex.Reader.run_bumpOn hblank _ hne, run_atom, Option.bind_eq_bind, Option.bind_some, h]
  by_cases hlt : d < c
  · rw [if_pos (by simp [hlt]), if_pos hlt, Regex.Reader.run_failure]
  · simp [hlt]

/-- A character that opens no range is a member. -/
theorem run_single (h : s.flags = { ignoreCase }) (hms : ']' ∉ ms) (hrange : ∀ d ds, ms = '-' :: d :: ds → d = '-')
    (cs : List Char) : Regex.classRange.run (s.on (member c ++ (ms.flatMap member ++ ']' :: cs))) =
      some (.single c, s.on (ms.flatMap member ++ ']' :: cs)) := by
  have hblank : s.flags.ignoreBlank = false := by rw [h]
  have hunicode : s.flags.unicode = true := by rw [h]
  obtain ⟨d, ds, htext, hdash⟩ := exists_text_cons hms cs
  by_cases hd : d = '-'
  · -- a dash in front of the end or of another dash
    obtain ⟨ms', rfl⟩ : ∃ ms', ms = '-' :: ms' := by
      cases ms with
      | nil => simp [hd] at hdash
      | cons m ms' =>
        have hm : m = '-' := by simpa [hd] using hdash
        exact ⟨ms', by rw [hm]⟩
    have hmember : member '-' = ['-'] := by decide
    have hafter : (ms'.flatMap member ++ ']' :: cs).head? = some ']' ∨
        (ms'.flatMap member ++ ']' :: cs).head? = some '-' := by
      cases ms' with
      | nil => exact .inl rfl
      | cons e es =>
        right
        rw [hrange e es rfl, flatMap_member_cons, hmember]
        rfl
    rw [flatMap_member_cons, hmember, List.singleton_append]
    unfold Regex.classRange
    simp only [StateT.run_bind, run_atom, Regex.Reader.run_skip hblank, Regex.Reader.run_flags, Regex.Reader.run_rest,
      Option.bind_eq_bind, Option.bind_some, hblank, Bool.false_eq_true, if_false]
    rw [if_pos (by rcases hafter with hafter | hafter <;> simp [hafter]), Regex.toSet?_char hunicode]
    rfl
  · rw [htext]
    exact Regex.run_classRange hblank hunicode (run_atom c _) hd

theorem member_dash : member '-' = ['-'] := by
  decide

/-- A member or a range, and the members behind it. -/
theorem exists_classRange (ignoreCase : Bool) (c : Char) (hms : ']' ∉ ms) :
    ∃ (set : Option CharSet) (behind : List Char),
    behind.length ≤ ms.length ∧ behind ⊆ ms ∧ ∀ (s : ReadState) (cs : List Char), s.flags = { ignoreCase } →
      Regex.classRange.run (s.on ((c :: ms).flatMap member ++ ']' :: cs)) =
        set.map fun set => (set, s.on (behind.flatMap member ++ ']' :: cs)) := by
  by_cases hrange : ∃ d ds, ms = '-' :: d :: ds ∧ d ≠ '-'
  · obtain ⟨d, ds, rfl, hd⟩ := hrange
    have hd' : d ≠ ']' := by
      intro heq
      exact hms (by simp [heq])
    refine ⟨if d < c then none else some (.range c.toNat d.toNat), ds, by simp; omega, ?_, ?_⟩
    · intro e he
      exact List.mem_cons_of_mem _ (List.mem_cons_of_mem _ he)
    · intro s cs h
      rw [flatMap_member_cons, flatMap_member_cons, flatMap_member_cons, member_dash, List.singleton_append,
        run_range h ⟨hd', hd⟩]
      split <;> rfl
  · refine ⟨some (.single c), ms, Nat.le_refl _, List.Subset.refl _, ?_⟩
    intro s cs h
    rw [flatMap_member_cons]
    refine run_single h hms ?_ cs
    intro d ds heq
    by_contra hd
    exact hrange ⟨d, ds, heq, hd⟩

/-- What does not start with two dashes starts with a member or a range. -/
theorem classItems_cons (h : s.flags = { ignoreCase }) (hms : ']' ∉ c :: ms) (hdiff : ¬(c = '-' ∧ ms.head? = some '-'))
    (cs : List Char) : (Regex.classItems (fuel + 1) left p).run (s.on ((c :: ms).flatMap member ++ ']' :: cs)) =
      (Regex.classRange >>= fun r => Regex.classItems fuel left (p.add r 0)).run
        (s.on ((c :: ms).flatMap member ++ ']' :: cs)) := by
  obtain ⟨hc, hrest⟩ := not_or.mp (mt List.mem_cons.mpr hms)
  obtain ⟨d, ds, hd, hbracket, hand, htilde, hopen, hdash, hsingle⟩ := exists_member_cons (Ne.symm hc)
  obtain ⟨e, es, htext, he⟩ := exists_text_cons hrest cs
  rw [flatMap_member_cons, hd, htext, List.cons_append]
  refine classItems_other (by rw [h]) ⟨hbracket, hand, htilde, hopen⟩ ?_
  intro hd' hhead
  rw [hsingle hd', List.nil_append, List.head?_cons, Option.some_inj] at hhead
  exact hdiff ⟨hdash.mp hd', he.mp hhead⟩

/-- The rest of a class comes to the same whatever stands behind it. -/
theorem exists_classItems (ignoreCase : Bool) (hms : ']' ∉ ms) (left : Option (ClassOp × CharSet × Nat))
    (p : ClassPart) : ∃ o : Option (CharSet × Nat), ∀ (s : ReadState) (fuel : Nat) (cs : List Char),
      s.flags = { ignoreCase } → ms.length < fuel →
        (Regex.classItems fuel left p).run (s.on (ms.flatMap member ++ ']' :: cs)) = o.map fun v => (v, s.on cs) := by
  induction hn : ms.length using Nat.strongRecOn generalizing ms left p with
  | ind n ih =>
    have hfuel {fuel : Nat} (h : n < fuel) : ∃ f, fuel = f + 1 ∧ n ≤ f := ⟨fuel - 1, by omega, by omega⟩
    have hblank {s : ReadState} (h : s.flags = { ignoreCase }) : s.flags.ignoreBlank = false := by rw [h]
    cases ms with
    | nil =>
      refine ⟨some (p.close { ignoreCase } left), ?_⟩
      intro s fuel cs h hlt
      obtain ⟨f, rfl, -⟩ := hfuel hlt
      rw [← h]
      exact Regex.classItems_end (hblank h)
    | cons c ms =>
      have hrest : ']' ∉ ms := fun hmem => hms (List.mem_cons_of_mem c hmem)
      rw [List.length_cons] at hn
      by_cases hdiff : c = '-' ∧ ms.head? = some '-'
      · obtain ⟨rfl, hhead⟩ := hdiff
        obtain ⟨ms, rfl⟩ : ∃ ms', ms = '-' :: ms' := List.head?_eq_some_iff.mp hhead
        have hbehind : ']' ∉ ms := fun hmem => hrest (List.mem_cons_of_mem _ hmem)
        rw [List.length_cons] at hn
        obtain ⟨o, ho⟩ := ih ms.length (by omega) hbehind (some (.diff, p.close { ignoreCase } left)) {} rfl
        refine ⟨o, ?_⟩
        intro s fuel cs h hlt
        obtain ⟨f, rfl, hle⟩ := hfuel hlt
        have hitems := ho s f cs h (by omega)
        rw [← h] at hitems
        rw [flatMap_member_cons, flatMap_member_cons, member_dash]
        exact (classItems_diff (hblank h) _).trans hitems
      · obtain ⟨set, behind, hlength, hsubset, hrange⟩ := exists_classRange ignoreCase c hrest
        have hbehind : ']' ∉ behind := fun hmem => hrest (hsubset hmem)
        cases set with
        | none =>
          refine ⟨none, ?_⟩
          intro s fuel cs h hlt
          obtain ⟨f, rfl, -⟩ := hfuel hlt
          rw [classItems_cons h hms hdiff, StateT.run_bind, hrange s cs h]
          rfl
        | some set =>
          obtain ⟨o, ho⟩ := ih behind.length (by omega) hbehind left (p.add set 0) rfl
          refine ⟨o, ?_⟩
          intro s fuel cs h hlt
          obtain ⟨f, rfl, hle⟩ := hfuel hlt
          rw [classItems_cons h hms hdiff, StateT.run_bind, hrange s cs h]
          exact ho s f cs h (by omega)

/-- The inside of a class without the mark that negates it. -/
theorem exists_classText (ms : List Char) : ∃ (negated : Bool) (body : List Char),
    classText ms = (if negated then ['^'] else []) ++ body.flatMap member ∧ body ⊆ ms ∧ body.length ≤ ms.length ∧
      (negated = false → body.head? ≠ some '^') := by
  cases ms with
  | nil => exact ⟨false, [], rfl, List.Subset.refl _, Nat.le_refl _, by simp⟩
  | cons c ms =>
    by_cases hmark : c = '!'
    · rw [hmark]
      exact ⟨true, ms, rfl, List.subset_cons_self _ _, Nat.le_succ _, by simp⟩
    · have htext : classText (c :: ms) = (c :: ms).flatMap member := by
        unfold classText
        split
        · rename_i heq
          cases heq
          exact absurd rfl hmark
        · rfl
      by_cases hcaret : c = '^'
      · have hmember : member '^' = ['^'] := by decide
        refine ⟨true, ms, ?_, List.subset_cons_self _ _, Nat.le_succ _, by simp⟩
        rw [htext, hcaret, List.flatMap_cons, hmember]
        rfl
      · exact ⟨false, c :: ms, htext, List.Subset.refl _, Nat.le_refl _, by simpa using hcaret⟩

theorem leadingDashes_dash (h : s.flags.ignoreBlank = false) (hcs : cs ≠ []) :
    (Regex.leadingDashes (fuel + 1) p).run (s.on ('-' :: cs)) =
      (Regex.leadingDashes fuel (p.add (.single '-') 0)).run (s.on cs) := by
  conv_lhs => unfold Regex.leadingDashes
  simp only [StateT.run_bind, Regex.Reader.run_rest, Option.bind_eq_bind, Option.bind_some,
    Regex.Reader.run_bumpOn h _ hcs]

/-- The dashes in front are members by themselves. -/
theorem exists_leadingDashes (ignoreCase : Bool) (hms : ']' ∉ ms) (p : ClassPart) :
    ∃ behind p', behind ⊆ ms ∧ behind.length ≤ ms.length ∧
    p.members ≤ p'.members ∧ (behind = [] → ms ≠ [] → p'.members ≠ 0) ∧
    ∀ (s : ReadState) (fuel : Nat) (cs : List Char), s.flags = { ignoreCase } → ms.length < fuel →
      (Regex.leadingDashes fuel p).run (s.on (ms.flatMap member ++ ']' :: cs)) =
        some (p', s.on (behind.flatMap member ++ ']' :: cs)) := by
  have hfuel {n fuel : Nat} (h : n < fuel) : ∃ f, fuel = f + 1 ∧ n ≤ f := ⟨fuel - 1, by omega, by omega⟩
  induction ms generalizing p with
  | nil =>
    refine ⟨[], p, List.Subset.refl _, Nat.le_refl _, Nat.le_refl _, fun _ h => absurd rfl h, ?_⟩
    intro s fuel cs h hlt
    obtain ⟨f, rfl, -⟩ := hfuel hlt
    exact Regex.run_leadingDashes (by decide) cs
  | cons c ms ih =>
    have hrest : ']' ∉ ms := fun hmem => hms (List.mem_cons_of_mem c hmem)
    by_cases hc : c = '-'
    · have hadd : (p.add (.single '-') 0).members = p.members + 1 := rfl
      obtain ⟨behind, p', hsubset, hlength, hmembers, -, hrun⟩ := ih hrest (p.add (.single '-') 0)
      refine ⟨behind, p', fun e he => List.mem_cons_of_mem c (hsubset he), ?_, by omega, fun _ _ => by omega, ?_⟩
      · rw [List.length_cons]
        omega
      · intro s fuel cs h hlt
        rw [List.length_cons] at hlt
        obtain ⟨f, rfl, hle⟩ := hfuel hlt
        rw [hc, flatMap_member_cons, member_dash, List.singleton_append]
        exact (leadingDashes_dash (by rw [h]) (by simp)).trans (hrun s f cs h hle)
    · refine ⟨c :: ms, p, List.Subset.refl _, Nat.le_refl _, Nat.le_refl _, by simp, ?_⟩
      intro s fuel cs h hlt
      obtain ⟨f, rfl, -⟩ := hfuel hlt
      obtain ⟨d, ds, htext, hd⟩ := exists_text_cons hms cs
      rw [htext]
      refine Regex.run_leadingDashes ?_ ds
      rw [Ne, hd, List.head?_cons, Option.some_inj]
      exact hc

/-- The set of a class, by that of its members. -/
def classSet (ignoreCase negated : Bool) (set : CharSet) : CharSet :=
  let set := if ignoreCase then .folded true set else set
  if negated then .compl set else set

/-- A class, by the dashes in front of its members and what the members behind them come to. -/
theorem run_bracketed_of (h : s.flags = { ignoreCase }) {negated : Bool} {cs' behind : List Char} (hcs : cs ≠ [])
    (hcaret : negated = false → cs.head? ≠ some '^')
    (hdashes : (Regex.leadingDashes (cs.length + 1) {}).run (s.on cs) = some (p, s.on cs'))
    (hbracket : cs'.head? = some ']' → p.members ≠ 0) {o : Option (CharSet × Nat)}
    (hitems : (Regex.classItems fuel none p).run (s.on cs') = o.map fun v => (v, s.on behind)) :
    (Regex.bracketed (fuel + 1)).run (s.on ('[' :: ((if negated then ['^'] else []) ++ cs))) =
      o.map fun v => ((classSet ignoreCase negated v.1, v.2 + 1), s.on behind) := by
  have hblank : s.flags.ignoreBlank = false := by rw [h]
  conv_lhs => unfold Regex.bracketed
  cases negated
  case' false =>
    have hhead := hcaret rfl
    simp only [StateT.run_bind, Bool.false_eq_true, if_false, List.nil_append,
      Regex.Reader.run_bumpOn hblank _ hcs, Regex.Reader.run_rest, Option.bind_eq_bind, Option.bind_some]
    split
    · exact absurd rfl hhead
  case' true =>
    simp only [StateT.run_bind, if_true, List.singleton_append,
      Regex.Reader.run_bumpOn hblank _ (List.cons_ne_nil '^' _), Regex.Reader.run_bumpOn hblank _ hcs,
      Regex.Reader.run_rest, Option.bind_eq_bind, Option.bind_some]
  all_goals
    simp only [StateT.run_bind, StateT.run_pure, Option.pure_def, Regex.Reader.run_rest, hdashes,
      Option.bind_eq_bind, Option.bind_some]
    split
    case' h_1 => rw [if_neg (hbracket rfl)]
    all_goals
      simp only [StateT.run_bind, StateT.run_pure, Option.pure_def, hitems, Option.bind_eq_bind, Option.bind_some]
      cases o with
      | none => rfl
      | some v =>
        simp only [Option.map_some, Option.bind_some, Regex.Reader.run_flags, h]
        rfl

/-- A class with members comes to the same whatever stands behind it. -/
theorem exists_bracketed (ignoreCase : Bool) (hms : ']' ∉ ms) (hinside : classText ms ≠ [] ∧ classText ms ≠ ['^']) :
    ∃ o : Option (CharSet × Nat), ∀ (s : ReadState) (fuel : Nat) (cs : List Char), s.flags = { ignoreCase } →
      ms.length + 1 < fuel → (Regex.bracketed fuel).run (s.on ('[' :: (classText ms ++ ']' :: cs))) =
        o.map fun v => (v, s.on cs) := by
  obtain ⟨negated, body, htext, hsubset, hlength, hcaret⟩ := exists_classText ms
  have hbody : ']' ∉ body := fun hmem => hms (hsubset hmem)
  have hne : body ≠ [] := by
    intro hnil
    rw [htext, hnil] at hinside
    cases negated <;> simp at hinside
  obtain ⟨behind, p, hbehind, hle, -, hmembers, hdashes⟩ := exists_leadingDashes ignoreCase hbody {}
  obtain ⟨o, ho⟩ := exists_classItems ignoreCase (fun hmem => hbody (hbehind hmem)) none p
  refine ⟨o.map fun v => (classSet ignoreCase negated v.1, v.2 + 1), ?_⟩
  intro s fuel cs h hlt
  obtain ⟨f, rfl, hf⟩ : ∃ f, fuel = f + 1 ∧ ms.length < f := ⟨fuel - 1, by omega, by omega⟩
  have hblank : s.flags.ignoreBlank = false := by rw [h]
  have hitems := ho s f cs h (by omega)
  have hlong : body.length < (body.flatMap member ++ ']' :: cs).length + 1 := by
    have hmember := length_le_flatMap_member body
    rw [List.length_append]
    omega
  have hleading := hdashes s _ cs h hlong
  rw [htext, List.append_assoc]
  refine (run_bracketed_of h (by simp) ?_ hleading ?_ hitems).trans ?_
  · intro hneg hhead
    obtain ⟨c, body', rfl⟩ := List.exists_cons_of_ne_nil hne
    have hcaret' := hcaret hneg
    rw [flatMap_member_cons] at hhead
    unfold member at hhead
    split at hhead
    · simp at hhead
    · rw [List.singleton_append, List.head?_cons] at hhead
      exact hcaret' hhead
  · intro hhead
    refine hmembers ?_ hne
    cases behind with
    | nil => rfl
    | cons c behind =>
      have hc : c ≠ ']' := by
        intro heq
        exact hbody (hbehind (heq ▸ List.mem_cons_self))
      obtain ⟨d, ds, hd, hbracket, -⟩ := exists_member_cons hc
      rw [flatMap_member_cons, hd, List.cons_append, List.head?_cons, Option.some_inj] at hhead
      exact absurd hhead hbracket
  · cases o <;> rfl

end LineScript.Glob
