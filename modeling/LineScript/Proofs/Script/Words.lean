import LineScript.Proofs.Script.Literals
import LineScript.Proofs.Script.Taken

/-! Words at the start of what is left of a line, and the tokens of a text that stands behind other text. -/
namespace LineScript

namespace Token

/-- A token some bytes further on. -/
def moved (d : Nat) (t : Token) : Token :=
  { t with column := t.column + d }

theorem isWordStart_iff {c : Char} :
    isWordStart c = true ↔ (('A' ≤ c ∧ c ≤ 'Z') ∨ 'a' ≤ c ∧ c ≤ 'z') ∨ c = '_' := by
  have hstart : isWordStart c = (c.isUpper || c.isLower || c == '_') := rfl
  rw [hstart, Bool.or_eq_true, Bool.or_eq_true, isUpper_iff, isLower_iff, beq_iff_eq]

/-- A word goes on with what starts a word, and with digits. -/
theorem isWordPart_iff {c : Char} : isWordPart c = true ↔ isWordStart c = true ∨ c.isDigit = true := by
  have hpart : isWordPart c = (c.isAlpha || c.isDigit || c == '_') := rfl
  have hstart : isWordStart c = (c.isAlpha || c == '_') := rfl
  rw [hpart, hstart, Bool.or_right_comm, Bool.or_eq_true]

theorem isDigit_of_isWordStart {c : Char} (h : isWordStart c = true) : c.isDigit = false := by
  rw [isWordStart_iff] at h
  rw [Bool.eq_false_iff, Ne, isDigit_iff]
  simp only [Char.le_def, UInt32.le_iff_toNat_le, Char.reduceVal, UInt32.reduceToNat] at h ⊢
  rcases h with h | rfl
  · omega
  · decide

/-- White space goes on with no word. -/
theorem isWordPart_of_blank {c : Char} (hc : Text.isBlank c = true) : isWordPart c = false := by
  have hn : c.val.toNat = c.toNat := rfl
  have hunderscore : c ≠ '_' := by
    rintro rfl
    cases hc
  simp only [Text.isBlank, Bool.or_eq_true, Bool.and_eq_true, decide_eq_true_eq, beq_iff_eq] at hc
  rw [Bool.eq_false_iff, Ne, isWordPart_iff, isWordStart_iff, isDigit_iff, or_iff_left hunderscore]
  simp only [Char.le_def, UInt32.le_iff_toNat_le, hn, Char.reduceVal, UInt32.reduceToNat]
  omega

end Token

section Moved

variable {x : Lexicon} {special : Bool} {offset offset' d : Nat} {gap rest : List Char} {t e : Token}

/-- White space in front of a text moves its first token. -/
theorem Lexicon.scan_moved (hgap : Text.Blank gap) (hoffset : offset' + Text.size gap = offset + d)
    (h : x.scan special offset rest = .ok t) : x.scan special offset' (gap ++ rest) = .ok (t.moved d) := by
  have hcolumn : offset' + Text.size ((gap ++ rest).takeWhile Text.isBlank) =
      offset + Text.size (rest.takeWhile Text.isBlank) + d := by
    rw [List.takeWhile_append_of_pos hgap, Text.size_append]
    omega
  unfold Lexicon.scan at h ⊢
  dsimp only at h ⊢
  rw [hcolumn, List.dropWhile_append_of_pos hgap]
  split at h
  · cases h
    rfl
  · split at h
    · cases h
      rfl
    · split at h
      · cases h
        rfl
      · cases h

variable {s s' : TokenStream} {ts : List Token} {ending : Except Error Token}

/-- The tokens of a text stay the same where other text stands in front of it. -/
theorem TokenStream.Yields.moved (h : s.Yields ts ending) (hending : ending = .ok e) (hs : s.Regular)
    (hs' : s'.Regular) (hgap : Text.Blank gap) (hrest : s'.rest = gap ++ s.rest)
    (hoffset : s'.offset + Text.size gap = s.offset + d) : s'.Yields (ts.map (Token.moved d)) (.ok (e.moved d)) := by
  have hmoved {s s' : TokenStream} {t : Token} {gap : List Char} (hs : s.Regular) (hs' : s'.Regular)
      (hgap : Text.Blank gap) (hrest : s'.rest = gap ++ s.rest)
      (hoffset : s'.offset + Text.size gap = s.offset + d) (hscan : s.scan true = .ok t) :
      s'.scan true = .ok (t.moved d) := by
    unfold TokenStream.scan at hscan ⊢
    rw [hs.lexicon] at hscan
    rw [hs'.lexicon, hrest]
    split at hscan
    · rename_i hfound
      cases hscan
      rw [Lexicon.scan_moved hgap hoffset hfound]
    · cases hscan
  induction h generalizing s' gap with
  | ended hscan hkind =>
    cases hending
    exact .ended (hmoved hs hs' hgap hrest hoffset hscan) hkind
  | refused => cases hending
  | @token s t ts ending hscan hkind _ ih =>
    have hscan' := hmoved hs hs' hgap hrest hoffset hscan
    obtain ⟨gap₀, behind, -, hsplit, hcolumn, -⟩ := TokenStream.of_scan_token hs.lexicon hscan hkind
    have hsplit' : s'.rest = (gap ++ gap₀) ++ (t.moved d).text.toList ++ behind := by
      rw [hrest, hsplit]
      simp [Token.moved]
    have hcolumn' : (t.moved d).column = s'.offset + Text.size (gap ++ gap₀) := by
      rw [Text.size_append, ← Nat.add_assoc, hoffset]
      change t.column + d = _
      omega
    have hbehind : (s'.past (t.moved d)).rest = [] ++ (s.past t).rest := by
      rw [(TokenStream.past_token hs.boundary hsplit hcolumn).2,
        (TokenStream.past_token hs'.boundary hsplit' hcolumn').2]
      rfl
    have hstop : (s'.past (t.moved d)).offset + Text.size [] = (s.past t).offset + d := by
      change t.column + d + Text.length t.text + 0 = t.column + Text.length t.text + d
      omega
    exact .token hscan' hkind
      (ih hending (hs.past hscan hkind) (hs'.past hscan' hkind) (List.forall_mem_nil _) hbehind hstop)

end Moved

namespace Script

section Lines

variable {s s' : TokenStream} {word : List Char} {c stop : Char} {cs : List Char}

/-- Whether some characters are a word: a letter or an underscore, and then letters, digits and underscores. -/
def IsWord (word : List Char) : Prop :=
  ∃ c tail, word = c :: tail ∧ Token.isWordStart c = true ∧ ∀ d ∈ tail, Token.isWordPart d = true

theorem IsWord.parts (h : IsWord word) : ∀ d ∈ word, Token.isWordPart d = true := by
  obtain ⟨c, tail, rfl, hc, htail⟩ := h
  exact List.forall_mem_cons.mpr ⟨Token.isWordPart_iff.mpr (.inl hc), htail⟩

/-- Whether a character behind a word ends it, and the word belongs to no class. -/
structure EndsWord (stop : Char) : Prop where
  part : Token.isWordPart stop = false
  delimiter : stop ≠ '/' ∧ stop ≠ '|' ∧ stop ≠ '%'
  point : stop ≠ '.'

/-- No class has a member that starts with a word that ends. -/
theorem IsWord.classToken?_eq_none (h : IsWord word) (hstop : EndsWord stop) (cs : List Char) :
    Lexicon.classToken? (word ++ stop :: cs) 0 lexicon.classes = none := by
  have hword : ∀ d ∈ word, d ≠ '$' ∧ d ≠ '~' ∧ (d ≠ '/' ∧ d ≠ '|' ∧ d ≠ '%') ∧ d ≠ '.' := by
    intro d hd
    refine ⟨?_, ?_, ⟨?_, ?_, ?_⟩, ?_⟩ <;> rintro rfl <;> exact absurd (h.parts _ hd) (by decide)
  obtain ⟨c, tail, rfl, hc, htail⟩ := h
  obtain ⟨⟨hdollar, htilde, -⟩, htail'⟩ := List.forall_mem_cons.mp hword
  refine Lexicon.classToken?_eq_none fun k hk d text haccept => ?_
  obtain ⟨k, -, rfl⟩ := List.mem_map.mp hk
  match k with
  | .pattern =>
    change patternToken? (c :: (tail ++ stop :: cs)) = _ at haccept
    unfold patternToken? at haccept
    split at haccept
    · rename_i k d' ds heq
      have hsecond : d' ≠ '/' ∧ d' ≠ '|' ∧ d' ≠ '%' := by
        cases tail with
        | nil =>
          cases heq
          exact hstop.delimiter
        | cons e tail =>
          cases heq
          exact (htail' _ List.mem_cons_self).2.2.1
      rw [if_neg (by simp [hsecond])] at haccept
      cases haccept
    · cases haccept
  | .variable =>
    change (Template.reference? (c :: (tail ++ stop :: cs))).map _ = _ at haccept
    rw [Template.reference?_of_ne hdollar] at haccept
    cases haccept
  | .buffer =>
    change bufferToken? (c :: (tail ++ stop :: cs)) = _ at haccept
    unfold bufferToken? at haccept
    split at haccept
    · rename_i heq
      exact htilde (List.cons.inj heq).1
    · cases haccept
  | .function =>
    -- the name of every function has a point in it, and nothing else that ends a word
    have hname : ∀ f ∈ Builtin.all, '.' ∈ f.name.toList ∧
        f.name.toList.all fun d => Token.isWordPart d || d == '.' := by
      decide +kernel
    obtain ⟨f, hf, hfound⟩ := List.exists_of_findSome?_eq_some haccept
    obtain ⟨hpoint, hparts⟩ := hname f hf
    have hstop' : stop ∉ f.name.toList := fun hmem => by
      have hpart := List.all_eq_true.mp hparts stop hmem
      rw [hstop.part, Bool.false_or, beq_iff_eq] at hpart
      exact hstop.point hpart
    dsimp only at hfound
    split at hfound
    · rename_i rest hrest
      rcases List.append_eq_append_iff.mp (Text.append_of_dropStart? hrest) with ⟨a, ha, -⟩ | ⟨a, ha, hrest⟩
      · have hmem : '.' ∈ c :: tail := ha ▸ List.mem_append_left _ hpoint
        exact absurd rfl (hword _ hmem).2.2.2
      · cases a with
        | nil =>
          rw [ha, List.append_nil] at hpoint
          exact absurd rfl (hword _ hpoint).2.2.2
        | cons b a =>
          obtain ⟨rfl, -⟩ := List.cons.inj hrest
          exact absurd (ha ▸ List.mem_append_right _ List.mem_cons_self) hstop'
    · cases hfound

theorem keywordIndex?_eq_none_iff {word : String} : lexicon.keywordIndex? word = none ↔ word ∉ keywords := by
  have hmem : word ∈ lexicon.keywords ↔ word ∈ keywords :=
    List.mem_eraseDups.trans List.mem_mergeSort
  rw [Lexicon.keywordIndex?, List.idxOf?_eq_none_iff, hmem]

/-- A word that ends is a token of its own. -/
theorem IsWord.scan (h : IsWord word) (hstop : EndsWord stop) (hs : s.lexicon = lexicon)
    (hrest : s.rest = word ++ stop :: cs) :
    s.scan true = .ok ⟨String.ofList word,
      (lexicon.keywordIndex? (String.ofList word)).elim .identifier .keyword, s.offset⟩ := by
  have hclass := h.classToken?_eq_none hstop cs
  have hparts := h.parts
  obtain ⟨c, tail, rfl, hc, htail⟩ := h
  have htake : (tail ++ stop :: cs).takeWhile Token.isWordPart = tail := by
    rw [List.takeWhile_append_of_pos htail, List.takeWhile_cons, hstop.part]
    exact List.append_nil tail
  have hchars : Text.isBlank c = false ∧ c ≠ '#' ∧ c ≠ '"' ∧ c ≠ '\'' ∧ c.isDigit = false := by
    have hpart := hparts c List.mem_cons_self
    refine ⟨?_, ?_, ?_, ?_, Token.isDigit_of_isWordStart hc⟩
    · by_contra hblank
      rw [Token.isWordPart_of_blank (by simpa using hblank)] at hpart
      cases hpart
    all_goals rintro rfl; exact absurd hpart (by decide)
  obtain ⟨hblank, hhash, hdouble, hsingle, hdigit⟩ := hchars
  have htoken : lexicon.plainToken c (tail ++ stop :: cs) =
      .ok ((lexicon.keywordIndex? (String.ofList (c :: tail))).elim .identifier .keyword, c :: tail) := by
    unfold Lexicon.plainToken
    rw [if_neg hhash, if_neg (by simp [hdouble, hsingle]), if_neg (by simp [hdigit]), if_pos hc, htake]
    dsimp only
    cases lexicon.keywordIndex? (String.ofList (c :: tail)) <;> rfl
  have hscan := Lexicon.scan_gap lexicon true s.offset (List.forall_mem_nil _) hblank (tail ++ stop :: cs)
  unfold TokenStream.scan
  rw [hs, hrest]
  rw [List.nil_append, if_pos rfl] at hscan
  rw [List.cons_append] at hclass ⊢
  rw [hscan, hclass, htoken]
  rfl

theorem endsWord_blank : EndsWord ' ' :=
  ⟨rfl, by decide, by decide⟩

/-- The equals sign of an assignment. -/
theorem scan_equals (hs : s.lexicon = lexicon) (hrest : s.rest = ' ' :: '=' :: ' ' :: cs) :
    s.scan true = .ok ⟨"=", .operator, s.offset + 1⟩ := by
  have hblank : Text.Blank [' '] := List.forall_mem_singleton.mpr rfl
  have hscan := Lexicon.scan_gap lexicon true s.offset hblank (c := '=') rfl (' ' :: cs)
  have hclass := (by decide : StartsNoClass '=').classToken?_eq_none (' ' :: cs)
  have htoken : lexicon.plainToken '=' (' ' :: cs) = .ok (.operator, ['=']) := rfl
  rw [List.singleton_append, if_pos rfl, hclass, htoken] at hscan
  unfold TokenStream.scan
  rw [hs, hrest, hscan]
  rfl

end Lines

end Script

end LineScript
