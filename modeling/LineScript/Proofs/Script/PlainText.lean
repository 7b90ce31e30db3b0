import LineScript.Proofs.Script.Coverage
import LineScript.Proofs.Script.Words
import LineScript.Proofs.Text.Trimming

/-! Texts of plain tokens: what the tokens look like, and that they are read as a value up to the comment behind
them. -/
namespace LineScript

namespace Token

theorem mem_numberText {cs : List Char} {d : Char} (h : d ∈ numberText cs) : d.isDigit = true ∨ d = '.' := by
  have hdigit {cs : List Char} (h : d ∈ cs.takeWhile Char.isDigit) : d.isDigit = true :=
    List.all_eq_true.mp List.all_takeWhile d h
  unfold numberText at h
  dsimp only at h
  split at h
  · split at h
    · exact .inl (hdigit h)
    · rcases List.mem_append.mp h with h | h
      · exact .inl (hdigit h)
      · rcases List.mem_cons.mp h with h | h
        · exact .inr h
        · exact .inl (hdigit h)
  · exact .inl (hdigit h)

end Token

namespace Script

open Reading
open Template (Occurs)

section Tokens

variable {c : Char} {cs text : List Char} {kind : TokenKind} {s : TokenStream} {t : Token}

/-- What a plain token is made of: neither white space nor a number sign, and a dollar sign stands by itself. -/
structure PlainChars (text : List Char) : Prop where
  blank : ∀ c ∈ text, Text.isBlank c = false
  hash : '#' ∉ text
  dollar : '$' ∈ text → text = ['$']

theorem plainChars_of_wordParts (h : ∀ c ∈ text, Token.isWordPart c = true ∨ c = '.') : PlainChars text := by
  refine ⟨fun c hc => ?_, fun hhash => ?_, fun hdollar => ?_⟩
  · rcases h c hc with hpart | rfl
    · by_contra hblank
      rw [Token.isWordPart_of_blank (by simpa using hblank)] at hpart
      cases hpart
    · rfl
  · exact absurd (h _ hhash) (by decide)
  · exact absurd (h _ hdollar) (by decide)

theorem plainChars_of_mem_operators (h : text ∈ Token.operators) : PlainChars text := by
  have hall : ∀ op ∈ Token.operators, op.any Text.isBlank = false ∧ '#' ∉ op ∧ ('$' ∈ op → op = ['$']) := by
    decide
  obtain ⟨hblank, hhash, hdollar⟩ := hall text h
  exact ⟨fun c hc => Bool.eq_false_iff.mpr (List.any_eq_false.mp hblank c hc), hhash, hdollar⟩

theorem plainChars_of_plainToken (h : lexicon.plainToken c cs = .ok (kind, text)) (hc : Text.isBlank c = false)
    (hstring : ∀ v, kind ≠ .string v) (hcomment : kind ≠ .comment) : PlainChars text := by
  unfold Lexicon.plainToken at h
  split_ifs at h with hhash hquote hdigit hword
  · cases h
    exact absurd rfl hcomment
  · split at h
    · cases h
    · cases h
      exact absurd rfl (hstring _)
  · cases h
    refine plainChars_of_wordParts fun d hd => (Token.mem_numberText hd).imp_left fun hd => ?_
    exact Token.isWordPart_iff.mpr (.inr hd)
  · have hparts : ∀ d ∈ c :: cs.takeWhile Token.isWordPart, Token.isWordPart d = true ∨ d = '.' := by
      refine fun d hd => .inl ?_
      rcases List.mem_cons.mp hd with rfl | hd
      · exact Token.isWordPart_iff.mpr (.inl hword)
      · exact List.all_eq_true.mp List.all_takeWhile d hd
    dsimp only at h
    split at h <;> cases h <;> exact plainChars_of_wordParts hparts
  · split at h
    · rename_i hop
      cases h
      exact plainChars_of_mem_operators (List.mem_of_find?_eq_some hop)
    · cases h
      exact ⟨by simpa using hc, by simpa using Ne.symm hhash, by simp [eq_comm]⟩

theorem hash_of_plainToken {x : Lexicon} (h : x.plainToken c cs = .ok (.comment, text)) : c = '#' ∧ text = c :: cs := by
  unfold Lexicon.plainToken at h
  split_ifs at h with hhash
  · cases h
    exact ⟨hhash, rfl⟩
  · split at h <;> cases h
  · cases h
  · dsimp only at h
    split at h <;> cases h
  · split at h <;> cases h

/-- A token that belongs to no class is cut off by its first character, where no class has a member. -/
theorem cut_of_scan (hlexicon : s.lexicon = lexicon) (hscan : s.scan true = .ok t) (hkind : t.kind ≠ .endOfInput)
    (hspecial : ∀ i, t.kind ≠ .special i) : ∃ gap c cs, Text.Blank gap ∧ Text.isBlank c = false ∧
      s.rest = gap ++ c :: cs ∧ t.column = s.offset + Text.size gap ∧
      Lexicon.classToken? (c :: cs) 0 lexicon.classes = none ∧
      lexicon.plainToken c cs = .ok (t.kind, t.text.toList) := by
  have hsplit := List.takeWhile_append_dropWhile (p := Text.isBlank) (l := s.rest)
  unfold TokenStream.scan at hscan
  rw [hlexicon] at hscan
  cases hdrop : s.rest.dropWhile Text.isBlank with
  | nil =>
    unfold Lexicon.scan at hscan
    rw [hdrop] at hscan
    cases hscan
    exact absurd rfl hkind
  | cons c cs =>
    have hc : Text.isBlank c = false := by
      simpa [hdrop] using List.head_dropWhile_not Text.isBlank (l := s.rest) (by simp [hdrop])
    have hgap := Text.blank_takeWhile s.rest
    rw [hdrop] at hsplit
    refine ⟨_, c, cs, hgap, hc, hsplit.symm, ?_⟩
    rw [← hsplit, Lexicon.scan_gap lexicon true s.offset hgap hc, if_pos rfl] at hscan
    cases hclass : Lexicon.classToken? (c :: cs) 0 lexicon.classes with
    | some found =>
      rw [hclass] at hscan
      cases hscan
      exact absurd rfl (hspecial _)
    | none =>
      rw [hclass] at hscan
      cases hplain : lexicon.plainToken c cs with
      | error e =>
        rw [hplain] at hscan
        cases hscan
      | ok found =>
        rw [hplain] at hscan
        cases hscan
        simp

theorem accept?_of_classToken?_eq_none {classes : List TokenClass} {index : Nat}
    (h : Lexicon.classToken? cs index classes = none) {k : TokenClass} (hk : k ∈ classes) (c : Char)
    (text : List Char) : k.accept? cs ≠ some (c :: text) := by
  induction classes generalizing index with
  | nil => cases hk
  | cons k' ks ih =>
    intro haccept
    unfold Lexicon.classToken? at h
    split at h
    · cases h
    · rename_i hother
      rcases List.mem_cons.mp hk with rfl | hk
      · exact hother _ _ haccept
      · exact ih h hk haccept

/-- Where no class has a member there is no reference. -/
theorem reference?_of_classToken?_eq_none (h : Lexicon.classToken? cs 0 lexicon.classes = none) :
    Template.reference? cs = none := by
  by_contra hsome
  obtain ⟨⟨name, rest⟩, hfound⟩ := Option.ne_none_iff_exists'.mp hsome
  have hvariable : (⟨variableToken?⟩ : TokenClass) ∈ lexicon.classes :=
    List.mem_map.mpr ⟨.variable, by decide, rfl⟩
  refine accept?_of_classToken?_eq_none h hvariable '$' ('(' :: name ++ [')']) ?_
  simp only [variableToken?, hfound, Option.map_some]
  rfl

/-- Where a plain token is found: behind white space, and what is there begins no reference. -/
structure FindsPlain (s : TokenStream) (t : Token) (gap : List Char) : Prop where
  blank : Text.Blank gap
  rest : s.rest = gap ++ (t.text.toList ++ (s.past t).rest)
  column : t.column = s.offset + Text.size gap
  nonempty : t.text.toList ≠ []
  chars : PlainChars t.text.toList
  noReference : Template.reference? (t.text.toList ++ (s.past t).rest) = none

theorem findsPlain (hs : s.Regular) (hscan : s.scan true = .ok t) (hplain : t.isPlain = true) :
    ∃ gap, FindsPlain s t gap := by
  have hkinds : t.kind ≠ .endOfInput ∧ (∀ i, t.kind ≠ .special i) ∧ (∀ v, t.kind ≠ .string v) ∧ t.kind ≠ .comment := by
    unfold Token.isPlain at hplain
    split at hplain <;> simp_all
  obtain ⟨hend, hspecial, hstring, hcomment⟩ := hkinds
  obtain ⟨gap, c, cs, hgap, hc, hrest, hcolumn, hclass, htoken⟩ := cut_of_scan hs.lexicon hscan hend hspecial
  obtain ⟨⟨behind, hbehind⟩, -⟩ := Lexicon.plainToken_isPrefix htoken
  have hsplit : s.rest = gap ++ t.text.toList ++ behind := by rw [hrest, ← hbehind, List.append_assoc]
  have hpast := (TokenStream.past_token hs.boundary hsplit hcolumn).2
  refine ⟨gap, hgap, ?_, hcolumn, (Lexicon.plainToken_eq_ok htoken).1, ?_, ?_⟩
  · rw [hpast, hsplit, List.append_assoc]
  · exact plainChars_of_plainToken htoken hc hstring hcomment
  · rw [hpast, hbehind]
    exact reference?_of_classToken?_eq_none hclass

end Tokens

section Values

variable {s s' : TokenStream} {t : Token} {ts us : List Token}

/-- What comes where a statement ends: nothing, or a number sign. -/
theorem rest_of_isEnd (hs : s.Regular) (hscan : s.scan true = .ok t) (hend : t.isEnd = true) :
    ∃ gap behind, Text.Blank gap ∧ s.rest = gap ++ behind ∧ ∀ c ∈ behind.head?, c = '#' := by
  by_cases hkind : t.kind = .endOfInput
  · obtain ⟨hblank, -⟩ := TokenStream.of_scan_ended hs.lexicon hscan hkind
    exact ⟨s.rest, [], hblank, (List.append_nil _).symm, fun _ h => by cases h⟩
  · have hcomment : t.kind = .comment := by
      unfold Token.isEnd at hend
      split at hend <;> simp_all
    obtain ⟨gap, c, cs, hgap, -, hrest, -, -, htoken⟩ := cut_of_scan hs.lexicon hscan hkind (by simp [hcomment])
    refine ⟨gap, c :: cs, hgap, hrest, fun d hd => ?_⟩
    cases hd
    rw [hcomment] at htoken
    exact (hash_of_plainToken htoken).1

/-- The part of a text that plain tokens take up: white space, and from the first token to the end of the last what
has no number sign in it. -/
theorem spelled_of_plain (hs : s.Regular) (h : s.Takes us s') (hplain : ∀ u ∈ us, u.isPlain = true) :
    ∃ gap core, s.rest = gap ++ (core ++ s'.rest) ∧ Text.Blank gap ∧ Text.Tight core ∧ '#' ∉ core ∧
      (core = [] → gap = []) ∧ us.head?.elim s'.offset Token.column = s.offset + Text.size gap := by
  induction h with
  | nothing =>
    exact ⟨[], [], rfl, List.forall_mem_nil _, ⟨fun _ h => (by cases h), fun _ h => (by cases h)⟩, List.not_mem_nil,
      fun _ => rfl, rfl⟩
  | @token s s' t ts hscan hkind htail ih =>
    obtain ⟨ht, hts⟩ := List.forall_mem_cons.mp hplain
    obtain ⟨gap, hfinds⟩ := findsPlain hs hscan ht
    obtain ⟨gap', core, hrest, hgap', htight, hhash, hempty, -⟩ := ih (hs.past hscan hkind) hts
    have hempty' : gap' ++ core = [] ∨ core ≠ [] := by
      by_cases hcore : core = []
      · exact .inl (by rw [hempty hcore, hcore, List.append_nil])
      · exact .inr hcore
    refine ⟨gap, t.text.toList ++ (gap' ++ core), ?_, hfinds.blank, ⟨?_, ?_⟩, ?_, ?_, hfinds.column⟩
    · rw [hfinds.rest, hrest]
      simp
    · intro c hc
      rw [List.head?_append_of_ne_nil _ hfinds.nonempty] at hc
      exact hfinds.chars.blank c (List.mem_of_mem_head? hc)
    · intro c hc
      rcases hempty' with hnil | hcore
      · rw [hnil, List.append_nil] at hc
        exact hfinds.chars.blank c (List.mem_of_mem_getLast? hc)
      · rw [← List.append_assoc, List.getLast?_append_of_ne_nil _ hcore] at hc
        exact htight.last c hc
    · simp only [List.mem_append, not_or]
      exact ⟨hfinds.chars.hash, fun h => absurd (hgap' _ h) (by decide), hhash⟩
    · intro h
      exact absurd (List.append_eq_nil_iff.mp h).1 hfinds.nonempty

/-- What tokens take up of what was left behind a gap. -/
theorem slice_of_takes {gap core : List Char} (hs : s.Regular) (h : s.Takes us s')
    (hrest : s.rest = gap ++ (core ++ s'.rest)) :
    Text.slice s.text.toList (s.offset + Text.size gap) s'.offset = core := by
  have hs' := h.regular hs
  have htext : s.text.toList = Text.take s.text.toList s.offset ++ gap ++ core ++ s'.rest := by
    rw [List.append_assoc, List.append_assoc, ← hrest]
    exact (Text.take_append_drop _ _).symm
  have htext' : s.text.toList = Text.take s'.text.toList s'.offset ++ s'.rest := by
    rw [← h.text]
    exact (Text.take_append_drop _ _).symm
  have hfront := List.append_cancel_right (htext'.symm.trans htext)
  have hstop : s'.offset = Text.size (Text.take s.text.toList s.offset ++ gap ++ core) := by
    rw [← hfront, hs'.boundary.size_take]
  have hstart : s.offset + Text.size gap = Text.size (Text.take s.text.toList s.offset ++ gap) := by
    rw [Text.size_append, hs.boundary.size_take]
  rw [hstart, hstop]
  generalize Text.take s.text.toList s.offset ++ gap = front at htext
  rw [htext]
  exact Text.slice_size _ _ _

/-- The piece of a plain token. -/
def plainPiece (t : Token) : Piece :=
  ⟨t, [], .text (.literal t.text)⟩

theorem flatMap_plainPiece (us : List Token) : (us.map plainPiece).flatMap Piece.tokens = us := by
  induction us with
  | nil => rfl
  | cons u us ih =>
    rw [List.map_cons, List.flatMap_cons, ih]
    rfl

theorem spells_plain (hplain : t.isPlain = true) (text : String) :
    SpellsFragment text [t] (.text (.literal t.text)) := by
  unfold Token.isPlain at hplain
  refine .plain ?_ fun v hkind => ?_
  · unfold classOf?
    split at hplain <;> simp_all
  · rw [hkind] at hplain
    cases hplain

theorem outcome_fragment_plain (hplain : t.isPlain = true) (fuel : Nat) (s : TokenStream) :
    outcome (fragment (fuel + 1) t) s = (.ok (.text (.literal t.text)), s) := by
  have hclass : classOf? t = none := by
    unfold Token.isPlain at hplain
    unfold classOf?
    split at hplain <;> simp_all
  unfold fragment
  rw [hclass]
  dsimp only
  split
  · rename_i hkind
    rw [Token.isPlain, hkind] at hplain
    cases hplain
  · rfl

/-- A value ends where the statement does. -/
theorem fragments_of_isEnd {fuel : Nat} (hs : s.Regular) (hscan : s.scan true = .ok t) (hend : t.isEnd = true)
    (last : Option Nat) : outcome (fragments [] (fuel + 1) last) s = (.ok [], { s with pending := some t }) := by
  have hstop : stopsValue [] t = true := by
    unfold Token.isEnd at hend
    unfold stopsValue
    split at hend <;> simp_all
  rw [fragments, outcome_bind, hs.outcome_peek hscan]
  dsimp only
  rw [if_pos hstop]
  rfl

/-- A plain token is read as its text, with the gap in front of it. -/
theorem fragments_of_isPlain {fuel : Nat} (hs : s.Regular) (hscan : s.scan true = .ok t) (hplain : t.isPlain = true)
    (last : Option Nat) {v : Value} (hrest : outcome (fragments [] (fuel + 1) (some t.stop)) (s.past t) = (.ok v, s')) :
    outcome (fragments [] (fuel + 2) last) s = (.ok (gap s.text last t ++ .text (.literal t.text) :: v), s') := by
  have hstop : ¬stopsValue [] t = true := by
    unfold Token.isPlain at hplain
    unfold stopsValue
    split at hplain <;> simp_all
  rw [fragments, outcome_bind, hs.outcome_peek hscan]
  dsimp only
  rw [if_neg hstop, outcome_bind, outcome_get]
  dsimp only
  rw [outcome_bind, TokenStream.outcome_discard_next hscan]
  dsimp only
  rw [outcome_bind, outcome_fragment_plain hplain]
  dsimp only
  rw [outcome_bind, outcome_get]
  dsimp only
  have hoffset : (s.past t).offset = t.stop := rfl
  rw [hoffset, outcome_bind, hrest]
  rfl

/-- Plain tokens are read as fragments up to the end of the statement. -/
theorem fragments_of_plain {ending : Except Error Token} {e : Token} {fuel : Nat} (h : s.Yields ts ending)
    (hending : ending = .ok e) (hs : s.Regular) (hplain : ∀ t ∈ ts, t.isPlain = true ∨ t.kind = .comment)
    (hfuel : ts.length < fuel) (last : Option Nat) :
    ∃ us s' t, outcome (fragments [] (fuel + 1) last) s = (.ok (woven s.text last (us.map plainPiece)), s') ∧
      s.Takes us s' ∧ (∀ u ∈ us, u.isPlain = true) ∧ s'.scan true = .ok t ∧ t.isEnd = true := by
  have hended {s : TokenStream} {t : Token} {fuel : Nat} {last : Option Nat} (hs : s.Regular)
      (hscan : s.scan true = .ok t) (hend : t.isEnd = true) : ∃ us s' t,
        outcome (fragments [] (fuel + 1) last) s = (.ok (woven s.text last (us.map plainPiece)), s') ∧
          s.Takes us s' ∧ (∀ u ∈ us, u.isPlain = true) ∧ s'.scan true = .ok t ∧ t.isEnd = true := by
    refine ⟨[], _, t, fragments_of_isEnd hs hscan hend last, .nothing ?_, List.forall_mem_nil _, hscan, hend⟩
    rintro u ⟨⟩
    exact hscan
  induction h generalizing fuel last with
  | @ended s t hscan hkind => exact hended hs hscan (by rw [Token.isEnd, hkind])
  | refused => cases hending
  | @token s t ts ending hscan hkind _ ih =>
    obtain ⟨ht, hts⟩ := List.forall_mem_cons.mp hplain
    rcases ht with ht | hcomment
    · obtain ⟨fuel, rfl⟩ := Nat.exists_eq_add_one_of_ne_zero (Nat.ne_of_gt (Nat.zero_lt_of_lt hfuel))
      have hfuel : ts.length < fuel := Nat.lt_of_succ_lt_succ hfuel
      obtain ⟨us, s', u, hread, htakes, hus, hscan', hend⟩ :=
        ih hending (hs.past hscan hkind) hts hfuel (some t.stop)
      refine ⟨t :: us, s', u, ?_, .token hscan hkind htakes, List.forall_mem_cons.mpr ⟨ht, hus⟩, hscan', hend⟩
      rw [List.map_cons, woven_cons]
      exact fragments_of_isPlain hs hscan ht last hread
    · exact hended hs hscan (by rw [Token.isEnd, hcomment])

/-- A value of plain tokens comes to the text up to the comment, without the white space at its ends. -/
theorem value_of_plain {e : Token} (h : s.Yields ts (.ok e)) (hs : s.Regular)
    (hplain : ∀ t ∈ ts, t.isPlain = true ∨ t.kind = .comment) :
    ∃ v s' t, outcome (value []) s = (.ok v, s') ∧ s'.Regular ∧ s'.scan true = .ok t ∧ t.isEnd = true ∧
      ∀ r, outcome (Run.valueText v) r =
        (.ok (String.ofList (Text.trim (s.rest.takeWhile (· != '#')))), r) := by
  have hlength : ts.length ≤ Text.size s.rest := by
    obtain ⟨⟨rest, hspells, -⟩, hne⟩ := h.spells hs.lexicon hs.boundary
    exact hspells.length_le fun t ht => (hne t ht).2
  obtain ⟨fuel, hfuel, hbound⟩ : ∃ fuel, lineFuel s = fuel + 1 ∧ ts.length < fuel := by
    have hsize := congrArg Text.size (Text.take_append_drop s.text.toList s.offset)
    rw [Text.size_append, ← TokenStream.rest] at hsize
    refine ⟨4 * Text.length s.text + 7, rfl, ?_⟩
    rw [Text.length_eq_size]
    omega
  obtain ⟨us, s', t, hread, htakes, hus, hscan, hend⟩ := fragments_of_plain h rfl hs hplain hbound none
  have hvalue : outcome (value []) s = (.ok (woven s.text none (us.map plainPiece)), s') := by
    unfold value
    rw [outcome_bind, outcome_get]
    dsimp only
    rw [hfuel, hread]
  have hs' := htakes.regular hs
  refine ⟨_, s', t, hvalue, hs', hscan, hend, fun r => ?_⟩
  obtain ⟨gap, core, hrest, hgap, htight, hhash, -, hcolumn⟩ := spelled_of_plain hs htakes hus
  obtain ⟨gap', behind, hgap', hrest', hbehind⟩ := rest_of_isEnd hs' hscan hend
  have hcut : s.rest.takeWhile (· != '#') = gap ++ core ++ gap' := by
    have hblank {gap : List Char} (h : Text.Blank gap) : ∀ c ∈ gap, (c != '#') = true := by
      intro c hc
      rw [bne_iff_ne]
      rintro rfl
      exact absurd (h _ hc) (by decide)
    have hcore : ∀ c ∈ core, (c != '#') = true := fun c hc => bne_iff_ne.mpr fun h => hhash (h ▸ hc)
    have hnone : behind.takeWhile (· != '#') = [] := by
      cases behind with
      | nil => rfl
      | cons c cs =>
        rw [hbehind c rfl]
        rfl
    rw [hrest, hrest', List.takeWhile_append_of_pos (hblank hgap), List.takeWhile_append_of_pos hcore,
      List.takeWhile_append_of_pos (hblank hgap'), hnone, List.append_nil, List.append_assoc]
  have hslice := slice_of_takes hs htakes hrest
  have hpieces : s.Takes ((us.map plainPiece).flatMap Piece.tokens) s' := (flatMap_plainPiece us).symm ▸ htakes
  have hstart : (us.map plainPiece).head?.elim s'.offset (·.first.column) = s.offset + Text.size gap := by
    rw [← hcolumn]
    cases us <;> rfl
  have hspelled : ∀ p ∈ us.map plainPiece, SpellsFragment s.text p.tokens p.fragment := by
    intro p hp
    obtain ⟨u, hu, rfl⟩ := List.mem_map.mp hp
    exact spells_plain (hus u hu) s.text
  rw [hcut, htight.trim hgap hgap', ← hslice, ← hstart]
  exact outcome_woven_of_plain hs hpieces hspelled ((flatMap_plainPiece us).symm ▸ hus) r

/-- A reference in a text of plain tokens stands in the comment behind them. -/
theorem hash_before_reference {ending : Except Error Token} {e : Token} (h : s.Yields ts ending)
    (hending : ending = .ok e) (hs : s.Regular) (hplain : ∀ t ∈ ts, t.isPlain = true ∨ t.kind = .comment)
    {i : Nat} {name : List Char} (hi : Occurs s.rest i name) : '#' ∈ s.rest.take i := by
  have hdollar {gap : List Char} (hgap : Text.Blank gap) : '$' ∉ gap := fun h => absurd (hgap _ h) (by decide)
  induction h generalizing i with
  | @ended s t hscan hkind =>
    obtain ⟨hblank, -⟩ := TokenStream.of_scan_ended hs.lexicon hscan hkind
    rw [← List.append_nil s.rest, Template.occurs_append (hdollar hblank)] at hi
    obtain ⟨j, -, hj⟩ := hi
    exact absurd hj Template.not_occurs_nil
  | refused => cases hending
  | @token s t ts ending hscan hkind _ ih =>
    obtain ⟨ht, hts⟩ := List.forall_mem_cons.mp hplain
    rcases ht with ht | hcomment
    · obtain ⟨gap, hfinds⟩ := findsPlain hs hscan ht
      have hbehind {j : Nat} (hj : Occurs (s.past t).rest j name) : '#' ∈ (s.past t).rest.take j :=
        ih hending (hs.past hscan hkind) hts hj
      rw [hfinds.rest] at hi ⊢
      obtain ⟨j, rfl, hj⟩ := (Template.occurs_append (hdollar hfinds.blank)).mp hi
      rw [List.take_length_add_append]
      refine List.mem_append_right _ ?_
      by_cases hmem : '$' ∈ t.text.toList
      · rw [hfinds.chars.dollar hmem] at hj ⊢
        cases j with
        | zero =>
          obtain ⟨rest, hrest⟩ := Template.occurs_iff.mp hj
          have hnone := hfinds.noReference
          rw [hfinds.chars.dollar hmem] at hnone
          rw [List.drop_zero, hnone] at hrest
          cases hrest
        | succ j =>
          exact List.mem_cons_of_mem _ (hbehind (Template.occurs_succ.mp hj))
      · obtain ⟨k, rfl, hk⟩ := (Template.occurs_append hmem).mp hj
        rw [List.take_length_add_append]
        exact List.mem_append_right _ (hbehind hk)
    · obtain ⟨gap, c, cs, hgap, -, hrest, -, -, htoken⟩ := cut_of_scan hs.lexicon hscan hkind (by simp [hcomment])
      rw [hcomment] at htoken
      obtain ⟨rfl, -⟩ := hash_of_plainToken htoken
      rw [hrest] at hi ⊢
      obtain ⟨j, rfl, hj⟩ := (Template.occurs_append (hdollar hgap)).mp hi
      obtain ⟨k, rfl, -⟩ := (Template.occurs_cons (Template.reference?_of_ne (by decide))).mp hj
      rw [List.take_length_add_append, List.take_succ_cons]
      exact List.mem_append_right _ List.mem_cons_self

end Values

end Script

end LineScript
