import LineScript.Proofs.Glob.Language
import LineScript.Proofs.Regex.Forms
import LineScript.Proofs.Regex.Tying
import LineScript.Proofs.Search.Expression

/-! Search expressions whose flags tie them to the ends of the text. -/
namespace LineScript.Search

open Regex (Place Syntax Means Ties Unopened Swallows reading whole wrapped tied tie closing maxDepth sizeLimit)

/-- A flag text without the flags that tie a match to the ends of the text. -/
def withoutAnchors (flags : String) : String :=
  String.ofList (flags.toList.filter fun c => c != '^' && c != '$')

/-- The same flags, not tied to the ends of the text. -/
def Flags.loose (f : Flags) : Flags :=
  { f with lineStart := false, lineEnd := false }

/-- Whether a pattern is read as a regular expression. -/
def IsRegex (kind : Kind) (flags : List Char) : Prop :=
  kind = .regex ∨ 'M' ∈ flags

/-- Whether an expression may be used. -/
def Fits (v : Syntax × Nat) : Prop :=
  v.2 ≤ maxDepth ∧ v.1.isTooLarge = false

/-- Whether an expression stays usable with a group around it that is tied to the ends of the text. -/
def HasRoom (v : Syntax × Nat) : Prop :=
  v.2 + 2 ≤ maxDepth ∧ 32 * (v.1.stateCount + 6) ≤ sizeLimit

/-- Whether a pattern is a regular expression that closes a parenthesis it has not opened. -/
def ClosesEarly (kind : Kind) (isRegex : Bool) (f : Flags) (pattern : List Char) : Prop :=
  (kind = .regex ∨ isRegex = true) ∧ Unopened f.ignoreCase pattern

/-- Whether a pattern is a regular expression that is tied to an end of the text and swallows the end of its group. -/
def LosesEnd (kind : Kind) (isRegex : Bool) (f : Flags) (pattern : List Char) : Prop :=
  (kind = .regex ∨ isRegex = true) ∧ (f.lineStart || f.lineEnd) = true ∧ Swallows f.ignoreCase f.lineEnd pattern

variable {kind : Kind} {isRegex : Bool} {f : Flags} {pattern flags : String} {v w : Syntax × Nat} {start stop : Bool}

section Flags

theorem Flags.read_filter (f : Flags) (isRegex : Bool) (cs : List Char) (lineStart lineEnd : Bool) :
    Flags.read { f with lineStart, lineEnd } isRegex (cs.filter fun c => c != '^' && c != '$') =
      ({ (Flags.read f isRegex cs).1 with lineStart, lineEnd }, (Flags.read f isRegex cs).2) := by
  fun_induction Flags.read f isRegex cs with
  | case1 f isRegex => rfl
  | case2 f isRegex cs ih | case3 f isRegex cs ih | case4 f isRegex cs ih | case5 f isRegex cs ih
  | case6 f isRegex cs ih | case7 f isRegex cs ih | case8 f isRegex cs ih | case9 f isRegex cs ih => exact ih
  | case10 f isRegex cs c hcase hbackwards hline hregex hcaret hdollar hfirst hlast =>
    have hkeep : (c != '^' && c != '$') = true := by simp_all
    rw [List.filter_cons, if_pos hkeep, Flags.read.eq_10] <;> first | rfl | assumption

theorem Flags.read_withoutAnchors {read : Except Refusal Bool} (h : Flags.read {} false flags.toList = (f, read)) :
    Flags.read {} false (withoutAnchors flags).toList = (f.loose, read) := by
  have hread := Flags.read_filter {} false flags.toList false false
  rw [h] at hread
  rw [withoutAnchors, String.toList_ofList]
  exact hread

theorem Flags.isRegex_of_read {read : Flags} {isRegex' : Bool} {cs : List Char}
    (h : Flags.read f isRegex cs = (read, .ok isRegex')) : isRegex' = true ↔ isRegex = true ∨ 'M' ∈ cs := by
  fun_induction Flags.read f isRegex cs with
  | case1 f isRegex =>
    cases h
    simp
  | case2 f isRegex cs ih | case3 f isRegex cs ih | case4 f isRegex cs ih | case5 f isRegex cs ih
  | case6 f isRegex cs ih | case7 f isRegex cs ih | case8 f isRegex cs ih | case9 f isRegex cs ih => simp [ih h]
  | case10 => cases h

end Flags

section Sources

theorem source_eq_wrapped (start stop : Bool) (body : List Char) :
    (if start || stop then
      (if start then ['^'] else []) ++ "(?:".toList ++ body ++ [')'] ++ (if stop then ['$'] else [])
    else body) = wrapped start stop body := by
  rw [wrapped, tied, closing, List.append_assoc _ [')']]
  rfl

/-- A regular expression stands in a group as it is, if the flags tie it. -/
theorem source_regex (h : kind = .regex ∨ isRegex = true) (f : Flags) (pattern : List Char) :
    source kind isRegex f pattern = wrapped f.lineStart f.lineEnd pattern := by
  have hplain : (kind == .regex || isRegex) = true := by simpa using h
  rw [← source_eq_wrapped]
  simp only [source, hplain, if_true, Bool.or_false]

/-- The regular expression for another pattern stands in a group if the flags or the pattern tie it, and is read piece
by piece. -/
theorem exists_source (h : ¬(kind = .regex ∨ isRegex = true)) (ignoreCase : Bool) (pattern : List Char) :
    ∃ caret dollar body, (∃ L, Means ignoreCase body L) ∧
      ∀ f : Flags, source kind isRegex f pattern = wrapped (f.lineStart || caret) (f.lineEnd || dollar) body := by
  have hplain : (kind == .regex || isRegex) = false := by simpa using h
  generalize hcaret : stripCaret pattern = a
  generalize hdollar : stripDollar a.2 = b
  cases kind with
  | glob =>
    refine ⟨a.1, b.1, Glob.toRegex b.2, ⟨_, Glob.means_toRegex ignoreCase b.2⟩, fun f => ?_⟩
    rw [← source_eq_wrapped]
    simp only [source, hplain, Bool.false_eq_true, if_false, hcaret, hdollar]
  | literal | regex =>
    refine ⟨a.1, b.1, Regex.escaped b.2, Glob.exists_means_escaped ignoreCase b.2, fun f => ?_⟩
    rw [← source_eq_wrapped]
    simp only [source, hplain, Bool.false_eq_true, if_false, hcaret, hdollar]

variable {cs : List Char}

theorem ClosesEarly.whole_eq_none (h : ClosesEarly kind isRegex f cs) :
    whole f.ignoreCase (source kind isRegex f.loose cs) = none := by
  obtain ⟨hregex, hunopened⟩ := h
  rw [source_regex hregex]
  exact hunopened.whole_eq_none

theorem LosesEnd.whole_eq_none (h : LosesEnd kind isRegex f cs) :
    whole f.ignoreCase (source kind isRegex f cs) = none := by
  obtain ⟨hregex, hties, hswallows⟩ := h
  rw [source_regex hregex]
  exact hswallows.whole_eq_none hties

/-- What a pattern reads as is tied by the flags, unless its group ends elsewhere. -/
theorem rel_source (kind : Kind) (isRegex : Bool) (f : Flags) (cs : List Char) :
    Option.Rel (Ties f.lineStart f.lineEnd) (whole f.ignoreCase (source kind isRegex f.loose cs))
        (whole f.ignoreCase (source kind isRegex f cs)) ∨
      ClosesEarly kind isRegex f cs ∨ LosesEnd kind isRegex f cs := by
  have hrel (caret dollar : Bool) (o : Option (Syntax × Nat)) : Option.Rel (Ties f.lineStart f.lineEnd)
      (o.map (tie caret dollar)) (o.map (tie (f.lineStart || caret) (f.lineEnd || dollar))) := by
    cases o with
    | none => exact .none
    | some v => exact .some (Regex.ties_tie _ _ caret dollar v)
  by_cases h : kind = .regex ∨ isRegex = true
  · rcases Regex.whole_wrapped f.ignoreCase f.lineStart f.lineEnd cs with heq | hunopened | hswallows
    · left
      have hsame := hrel false false (whole f.ignoreCase cs)
      have halone : (whole f.ignoreCase cs).map (tie false false) = whole f.ignoreCase (wrapped false false cs) :=
        congrFun Option.map_id _
      rw [source_regex h, source_regex h]
      rwa [Bool.or_false, Bool.or_false, ← heq, halone] at hsame
    · exact .inr (.inl ⟨h, hunopened⟩)
    · exact .inr (.inr ⟨h, hswallows⟩)
  · left
    obtain ⟨caret, dollar, body, ⟨L, hL⟩, hsource⟩ := exists_source h f.ignoreCase cs
    rw [hsource, hsource, hL.whole_wrapped, hL.whole_wrapped (f.lineStart || caret)]
    exact hrel caret dollar _

/-- What is read with the flags that tie it is read without them. -/
theorem exists_loose (hw : whole f.ignoreCase (source kind isRegex f cs) = some w)
    (h : ¬ClosesEarly kind isRegex f cs) :
    ∃ v, whole f.ignoreCase (source kind isRegex f.loose cs) = some v ∧ Ties f.lineStart f.lineEnd v w := by
  rcases rel_source kind isRegex f cs with hrel | hcloses | hloses
  · rw [hw] at hrel
    generalize whole f.ignoreCase (source kind isRegex f.loose cs) = o at hrel
    cases hrel with
    | some hties => exact ⟨_, rfl, hties⟩
  · exact absurd hcloses h
  · cases hloses.whole_eq_none.symm.trans hw

/-- What is read without the flags that tie it is read with them. -/
theorem exists_tied (hv : whole f.ignoreCase (source kind isRegex f.loose cs) = some v)
    (h : ¬LosesEnd kind isRegex f cs) :
    ∃ w, whole f.ignoreCase (source kind isRegex f cs) = some w ∧ Ties f.lineStart f.lineEnd v w := by
  rcases rel_source kind isRegex f cs with hrel | hcloses | hloses
  · rw [hv] at hrel
    generalize whole f.ignoreCase (source kind isRegex f cs) = o at hrel
    cases hrel with
    | some hties => exact ⟨_, rfl, hties⟩
  · cases hcloses.whole_eq_none.symm.trans hv
  · exact absurd hloses h

theorem ties_of_whole (hv : whole f.ignoreCase (source kind isRegex f.loose cs) = some v)
    (hw : whole f.ignoreCase (source kind isRegex f cs) = some w) : Ties f.lineStart f.lineEnd v w := by
  have hkept : ¬LosesEnd kind isRegex f cs := by
    intro hloses
    cases hloses.whole_eq_none.symm.trans hw
  obtain ⟨w', hw', hties⟩ := exists_tied hv hkept
  cases hw.symm.trans hw'
  exact hties

end Sources

section Use

theorem Expression.new_eq_ok_iff {x : Expression} (h : Flags.read {} false flags.toList = (f, .ok isRegex)) :
    Expression.new pattern kind flags = .ok x ↔
      ∃ r, Regex.read? f.ignoreCase (source kind isRegex f pattern.toList) = some r ∧ r.isTooLarge = false ∧
        { pattern, kind, flags := f, machine := r.machine, groupCount := r.groupCount } = x := by
  unfold Expression.new Expression.set compile
  rw [h]
  dsimp only
  cases hread : Regex.read? f.ignoreCase (source kind isRegex f pattern.toList) with
  | none => simp
  | some r => cases hlarge : r.isTooLarge <;> simp [hlarge]

theorem Expression.new_of_read_error {e : Refusal} (h : Flags.read {} false flags.toList = (f, .error e)) :
    Expression.new pattern kind flags = .error e := by
  unfold Expression.new Expression.set
  rw [h]

/-- Whether there is an expression of a pattern, in terms of what the pattern reads as. -/
theorem Expression.exists_new_iff (h : Flags.read {} false flags.toList = (f, .ok isRegex)) :
    (∃ x, Expression.new pattern kind flags = .ok x) ↔
      ∃ v, whole f.ignoreCase (source kind isRegex f pattern.toList) = some v ∧ Fits v := by
  constructor
  · rintro ⟨x, hx⟩
    obtain ⟨r, hr, hsize, -⟩ := (Expression.new_eq_ok_iff h).mp hx
    obtain ⟨depth, hwhole, hdepth⟩ := Regex.read?_eq_some_iff_whole.mp hr
    exact ⟨(r, depth), hwhole, hdepth, hsize⟩
  · rintro ⟨⟨r, depth⟩, hwhole, hdepth, hsize⟩
    have hr := Regex.read?_eq_some_iff_whole.mpr ⟨depth, hwhole, hdepth⟩
    exact ⟨_, (Expression.new_eq_ok_iff h).mpr ⟨r, hr, hsize, rfl⟩⟩

theorem Fits.of_ties (h : Ties start stop v w) (hw : Fits w) : Fits v := by
  obtain ⟨hdepth, hsize⟩ := hw
  have hle := h.le_depth
  have hcount := h.le_stateCount
  simp only [Fits, Regex.Syntax.isTooLarge, decide_eq_false_iff_not] at hsize ⊢
  omega

theorem HasRoom.fits (hv : HasRoom v) (h : Ties start stop v w) : Fits w := by
  obtain ⟨hdepth, hsize⟩ := hv
  have hle := h.depth_le
  have hcount := h.stateCount_le
  simp only [Fits, Regex.Syntax.isTooLarge, decide_eq_false_iff_not]
  omega

/-- Without the flags that tie it a pattern is accepted as well, unless it closes a parenthesis it has not opened. -/
theorem exists_loose_iff {cs : List Char} (hw : whole f.ignoreCase (source kind isRegex f cs) = some w)
    (hfits : Fits w) :
    (∃ v, whole f.ignoreCase (source kind isRegex f.loose cs) = some v ∧ Fits v) ↔ ¬ClosesEarly kind isRegex f cs := by
  constructor
  · rintro ⟨v, hv, -⟩ hcloses
    cases hcloses.whole_eq_none.symm.trans hv
  · intro h
    obtain ⟨v, hv, hties⟩ := exists_loose hw h
    exact ⟨v, hv, .of_ties hties hfits⟩

/-- With the flags that tie it a pattern is accepted as well, unless it swallows the end of its group. -/
theorem exists_tied_iff {cs : List Char} (hv : whole f.ignoreCase (source kind isRegex f.loose cs) = some v)
    (hroom : HasRoom v) :
    (∃ w, whole f.ignoreCase (source kind isRegex f cs) = some w ∧ Fits w) ↔ ¬LosesEnd kind isRegex f cs := by
  constructor
  · rintro ⟨w, hw, -⟩ hloses
    cases hloses.whole_eq_none.symm.trans hw
  · intro h
    obtain ⟨w, hw, hties⟩ := exists_tied hv h
    exact ⟨w, hw, hroom.fits hties⟩

/-- An expression finds something in a text if there is a match somewhere in it. -/
theorem Expression.matches_iff {x : Expression} {r : Syntax} (hr : r.WellFormed) (hx : x.machine = r.machine)
    (text : String) :
    x.matcher.matches text = true ↔ ∃ p q, (⟨none, text.toList, 0⟩ : Place).Ahead p ∧ r.Matches p q := by
  have hsearch := (Regex.search?_matches hr x.groupCount text.toList 0).1
  rw [Regex.Place.seek_zero] at hsearch
  have hfind : x.matcher.find? text 0 = Regex.search? r.machine x.groupCount text.toList 0 := by
    unfold Expression.matcher
    dsimp only
    rw [if_neg (Nat.not_lt_zero _), hx]
  rw [Matcher.matches, hfind, hsearch]
  constructor
  · rintro ⟨p, hp, q, hq⟩
    exact ⟨p, q, hp, hq⟩
  · rintro ⟨p, q, hp, hq⟩
    exact ⟨p, hp, q, hq⟩

theorem matches_machine_iff {r : Syntax} (hr : r.WellFormed) {p q : Place} :
    r.machine.Matches p q ↔ r.Matches p q := by
  rw [← Regex.Syntax.denotes_toNode hr 1 p q]
  simp [Regex.Syntax.machine, Regex.Node.Matches]

/-- A place in a text is at its start where no character is before it. -/
theorem prev_eq_none_iff {cs : List Char} {p : Place} (hp : (⟨none, cs, 0⟩ : Place).Ahead p) :
    p.prev = none ↔ p.offset = 0 := by
  obtain ⟨ds, hds⟩ := hp
  constructor
  · intro hprev
    obtain ⟨-, rfl⟩ := hds.eq_of_prev hprev
    rfl
  · intro hoffset
    cases hds with
    | nil => rfl
    | @cons _ _ d _ ds hrest hds =>
      have hsize := hds.offset_eq
      have hpos := d.utf8Size_pos
      change p.offset = (0 + d.utf8Size) + _ at hsize
      omega

/-- A tied expression finds the matches of the expression without ties that are at the ends of the text. -/
theorem Expression.matches_tied_iff {x y : Expression} (h : Flags.read {} false flags.toList = (f, .ok isRegex))
    (hx : Expression.new pattern kind (withoutAnchors flags) = .ok x) (hy : Expression.new pattern kind flags = .ok y)
    (text : String) : y.matcher.matches text = true ↔ ∃ p q, (⟨none, text.toList, 0⟩ : Place).Ahead p ∧
      x.machine.Matches p q ∧ (f.lineStart = true → p.offset = 0) ∧ (f.lineEnd = true → q.rest = []) := by
  obtain ⟨r, hr, -, rfl⟩ := (Expression.new_eq_ok_iff (Flags.read_withoutAnchors h)).mp hx
  obtain ⟨r', hr', -, rfl⟩ := (Expression.new_eq_ok_iff h).mp hy
  obtain ⟨depth, hwhole, -⟩ := Regex.read?_eq_some_iff_whole.mp hr
  obtain ⟨depth', hw, -⟩ := Regex.read?_eq_some_iff_whole.mp hr'
  have hv : whole f.ignoreCase (source kind isRegex f.loose pattern.toList) = some (r, depth) := hwhole
  have hmatches := (ties_of_whole hv hw).matches_iff
  rw [Expression.matches_iff (Regex.wellFormed_of_whole hw) rfl]
  constructor
  · rintro ⟨p, q, hp, hpq⟩
    obtain ⟨hprev, hpq, hq⟩ := (hmatches p q).mp hpq
    have hmachine := (matches_machine_iff (Regex.wellFormed_of_whole hv)).mpr hpq
    exact ⟨p, q, hp, hmachine, fun hstart => (prev_eq_none_iff hp).mp (hprev hstart), hq⟩
  · rintro ⟨p, q, hp, hmachine, hoffset, hq⟩
    have hpq := (matches_machine_iff (Regex.wellFormed_of_whole hv)).mp hmachine
    exact ⟨p, q, hp, (hmatches p q).mpr ⟨fun hstart => (prev_eq_none_iff hp).mpr (hoffset hstart), hpq, hq⟩⟩

end Use

/-- An expression that the flags tie to the ends of the text finds those matches of the expression without these flags
that are at these ends. There is one just if there is one without these flags; but a regular expression that closes a
parenthesis it has not opened may be accepted with them alone, one that swallows the closing parenthesis is refused with
them, and so may be one that is too large or too deep with a group around it. -/
theorem anchors_restrict (pattern : String) (kind : Kind) (flags : String) :
    ((∃ y, Expression.new pattern kind flags = .ok y) →
      ((∃ x, Expression.new pattern kind (withoutAnchors flags) = .ok x) ↔
        ¬(IsRegex kind flags.toList ∧ Unopened (flags.toList.contains 'i') pattern.toList))) ∧
    ((∃ x, Expression.new pattern kind (withoutAnchors flags) = .ok x) →
      (∀ v, whole (flags.toList.contains 'i')
          (source kind (flags.toList.contains 'M') {} pattern.toList) = some v → HasRoom v) →
      ((∃ y, Expression.new pattern kind flags = .ok y) ↔
        ¬(IsRegex kind flags.toList ∧ ('^' ∈ flags.toList ∨ '$' ∈ flags.toList) ∧
          Swallows (flags.toList.contains 'i') (flags.toList.contains '$') pattern.toList))) ∧
    ∀ x y, Expression.new pattern kind (withoutAnchors flags) = .ok x → Expression.new pattern kind flags = .ok y →
      ∀ text, y.matcher.matches text = true ↔ ∃ p q, (⟨none, text.toList, 0⟩ : Place).Ahead p ∧ x.machine.Matches p q ∧
        ('^' ∈ flags.toList → p.offset = 0) ∧ ('$' ∈ flags.toList → q.rest = []) := by
  generalize hread : Flags.read {} false flags.toList = read
  obtain ⟨f, isRegex | isRegex⟩ := read
  · have hnone (x : Expression) : Expression.new pattern kind flags ≠ .ok x := by
      rw [Expression.new_of_read_error hread]
      exact nofun
    have hnone' (x : Expression) : Expression.new pattern kind (withoutAnchors flags) ≠ .ok x := by
      rw [Expression.new_of_read_error (Flags.read_withoutAnchors hread)]
      exact nofun
    refine ⟨?_, ?_, ?_⟩
    · rintro ⟨y, hy⟩
      exact absurd hy (hnone y)
    · rintro ⟨x, hx⟩
      exact absurd hx (hnone' x)
    · intro x y hx
      exact absurd hx (hnone' x)
  · have hreads := Flags.reads_of_read hread
    have hloose := Flags.read_withoutAnchors hread
    have hcase : flags.toList.contains 'i' = f.ignoreCase := by
      rw [Bool.eq_iff_iff, List.contains_iff_mem, hreads.ignoreCase]
      simp
    have hisRegex : flags.toList.contains 'M' = isRegex := by
      rw [Bool.eq_iff_iff, List.contains_iff_mem, Flags.isRegex_of_read hread]
      simp
    have hstart : f.lineStart = true ↔ '^' ∈ flags.toList := by simpa using hreads.lineStart
    have hstop : f.lineEnd = true ↔ '$' ∈ flags.toList := by simpa using hreads.lineEnd
    have hend : flags.toList.contains '$' = f.lineEnd := by rw [Bool.eq_iff_iff, List.contains_iff_mem, hstop]
    have hregex : IsRegex kind flags.toList ↔ kind = .regex ∨ isRegex = true := by
      rw [IsRegex, ← List.contains_iff_mem, hisRegex]
    have hties : ('^' ∈ flags.toList ∨ '$' ∈ flags.toList) ↔ (f.lineStart || f.lineEnd) = true := by
      rw [Bool.or_eq_true, hstart, hstop]
    rw [hcase, hisRegex, hend, hregex, hties]
    refine ⟨?_, ?_, ?_⟩
    · intro hy
      obtain ⟨w, hw, hfits⟩ := (Expression.exists_new_iff hread).mp hy
      have hiff := exists_loose_iff hw hfits
      rw [Expression.exists_new_iff hloose]
      exact hiff
    · intro hx hroom
      obtain ⟨v, hv, -⟩ := (Expression.exists_new_iff hloose).mp hx
      rw [Expression.exists_new_iff hread]
      exact exists_tied_iff hv (hroom v hv)
    · intro x y hx hy text
      have hiff := Expression.matches_tied_iff hread hx hy text
      rwa [hstart, hstop] at hiff

/-- An alternation in a group that is tied to both ends. -/
theorem anchors_restrict_alternation : ∃ x y, Expression.new "a|b" .regex (withoutAnchors "^$") = .ok x ∧
    Expression.new "a|b" .regex "^$" = .ok y ∧ y.matcher.matches "b" = true ∧ y.matcher.matches "ba" = false ∧
    ∀ text, y.matcher.matches text = true ↔ ∃ p q, (⟨none, text.toList, 0⟩ : Place).Ahead p ∧ x.machine.Matches p q ∧
      ('^' ∈ "^$".toList → p.offset = 0) ∧ ('$' ∈ "^$".toList → q.rest = []) := by
  obtain ⟨hwithout, -, hfound⟩ := anchors_restrict "a|b" .regex "^$"
  have hnew : (Expression.new "a|b" .regex "^$").map (fun y => (y.matcher.matches "b", y.matcher.matches "ba")) =
      .ok (true, false) := by decide +kernel
  cases hy : Expression.new "a|b" .regex "^$" with
  | error e =>
    rw [hy] at hnew
    cases hnew
  | ok y =>
    rw [hy] at hnew
    have hpair := Except.ok.inj hnew
    have hwhole : (whole ("^$".toList.contains 'i') "a|b".toList).isSome = true := by decide +kernel
    have hopened : ¬Unopened ("^$".toList.contains 'i') "a|b".toList := by
      intro hunopened
      rw [hunopened.whole_eq_none] at hwhole
      cases hwhole
    obtain ⟨x, hx⟩ := (hwithout ⟨y, hy⟩).mpr fun h => hopened h.2
    exact ⟨x, y, hx, rfl, congrArg Prod.fst hpair, congrArg Prod.snd hpair, hfound x y hx hy⟩

/-- A group around it makes an expression of what is none, and none of what is one. -/
theorem anchors_change_acceptance :
    ((∃ y, Expression.new "a)(b" .regex "^" = .ok y) ∧
      ¬∃ x, Expression.new "a)(b" .regex (withoutAnchors "^") = .ok x) ∧
    (∃ x, Expression.new "(?x)a # c" .regex (withoutAnchors "^") = .ok x) ∧
      ¬∃ y, Expression.new "(?x)a # c" .regex "^" = .ok y := by
  have hresult (e : Except Refusal Expression) : (∃ x, e = .ok x) ↔ e.toBool = true := by
    cases e <;> simp [Except.toBool]
  simp only [hresult]
  decide +kernel

end LineScript.Search
