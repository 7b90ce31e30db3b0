import LineScript.Proofs.Script.Tokens
import LineScript.Proofs.Text.Pieces

/-! Tokens are cut from a text: what every recognizer takes is the start of what it is given, and in front of a
token there is white space only. -/
namespace LineScript

namespace Text

theorem append_of_dropStart? {p s r : List Char} (h : dropStart? p s = some r) : p ++ r = s :=
  (dropStart?_eq_some_iff.mp h).symm

theorem isPrefix_of_dropStart? {p s : List Char} (h : (dropStart? p s).isSome = true) : p <+: s := by
  obtain ⟨r, hr⟩ := Option.isSome_iff_exists.mp h
  exact ⟨r, append_of_dropStart? hr⟩

/-- Whether a text is white space. -/
def Blank (cs : List Char) : Prop :=
  ∀ c ∈ cs, isBlank c = true

theorem blank_takeWhile (cs : List Char) : Blank (cs.takeWhile isBlank) :=
  fun _ hc => List.all_eq_true.mp List.all_takeWhile _ hc

theorem Blank.trim_append {gap : List Char} (h : Blank gap) (cs : List Char) :
    trim (gap ++ cs) = trim cs := by
  unfold trim trimLeft
  rw [List.dropWhile_append_of_pos h]

theorem Blank.trim_eq_nil {gap : List Char} (h : Blank gap) : trim gap = [] := by
  have hgap := h.trim_append []
  rwa [List.append_nil] at hgap

end Text

namespace Token

theorem numberText_isPrefix (cs : List Char) : numberText cs <+: cs := by
  have hwhole : cs.takeWhile Char.isDigit <+: cs := List.takeWhile_prefix _
  unfold numberText
  dsimp only
  split
  · rename_i rest hpoint
    split
    · exact hwhole
    · have hfraction : '.' :: rest.takeWhile Char.isDigit <+: '.' :: rest :=
        List.cons_prefix_cons.mpr ⟨rfl, List.takeWhile_prefix _⟩
      have hall := (List.prefix_append_right_inj (cs.takeWhile Char.isDigit)).mpr hfraction
      rwa [← hpoint, List.takeWhile_append_dropWhile] at hall
  · exact hwhole

end Token

namespace Script

theorem patternBody?_isPrefix {delimiter : Char} {cs body : List Char}
    (h : patternBody? delimiter cs = some body) : body <+: cs := by
  fun_induction patternBody? delimiter cs generalizing body with
  | case1 => cases h
  | case2 cs =>
    cases h
    exact List.cons_prefix_cons.mpr ⟨rfl, List.nil_prefix⟩
  | case3 => cases h
  | case4 _ d cs _ ih =>
    obtain ⟨body, hbody, rfl⟩ := Option.map_eq_some_iff.mp h
    exact List.cons_prefix_cons.mpr ⟨rfl, List.cons_prefix_cons.mpr ⟨rfl, ih hbody⟩⟩
  | case5 => cases h
  | case6 c cs _ _ ih =>
    obtain ⟨body, hbody, rfl⟩ := Option.map_eq_some_iff.mp h
    exact List.cons_prefix_cons.mpr ⟨rfl, ih hbody⟩

/-- A text that starts with `head`, and goes on behind it with `tail`, starts with both. -/
theorem isPrefix_append_of_drop {head tail cs : List Char} (hhead : head <+: cs)
    (htail : tail <+: cs.drop head.length) : head ++ tail <+: cs := by
  obtain ⟨rest, rfl⟩ := hhead
  rw [List.drop_left] at htail
  exact (List.prefix_append_right_inj head).mpr htail

theorem patternToken?_isPrefix {cs text : List Char} (h : patternToken? cs = some text) :
    text <+: cs := by
  unfold patternToken? at h
  split at h
  · rename_i k d cs
    split at h
    · obtain ⟨body, hbody, rfl⟩ := Option.map_eq_some_iff.mp h
      have hflags := isPrefix_append_of_drop (patternBody?_isPrefix hbody)
        (List.takeWhile_prefix isPatternFlag)
      exact List.cons_prefix_cons.mpr ⟨rfl, List.cons_prefix_cons.mpr ⟨rfl, hflags⟩⟩
    · cases h
  · cases h

theorem append_of_name? {cs name rest : List Char} (h : Template.name? cs = some (name, rest)) :
    name ++ rest = cs := by
  unfold Template.name? at h
  dsimp only at h
  have hmarks : (cs.take 2).takeWhile (· == '_') <+: cs :=
    (List.takeWhile_prefix _).trans (List.take_prefix 2 cs)
  obtain ⟨behind, hbehind⟩ := hmarks
  generalize (cs.take 2).takeWhile (· == '_') = marks at *
  subst hbehind
  rw [List.drop_left] at h
  split at h
  · split at h
    · cases h
      rw [List.append_assoc, List.cons_append, List.takeWhile_append_dropWhile]
    · cases h
  · cases h

theorem variableToken?_isPrefix {cs text : List Char} (h : variableToken? cs = some text) :
    text <+: cs := by
  obtain ⟨⟨name, rest⟩, href, rfl⟩ := Option.map_eq_some_iff.mp h
  unfold Template.reference? at href
  split at href
  · rename_i cs
    split at href
    · rename_i name' rest' hname
      cases href
      have hcs := append_of_name? hname
      exact ⟨rest, by simp [← hcs]⟩
    · cases href
  · cases href

theorem selectorText_isPrefix (cs : List Char) : selectorText cs <+: cs := by
  unfold selectorText
  dsimp only
  generalize hfound : List.find? _ _ = found
  cases found with
  | none => exact List.nil_prefix
  | some word =>
    have hfits := List.find?_some hfound
    split at hfits
    · rename_i rest hrest
      exact ⟨rest, Text.append_of_dropStart? hrest⟩
    · cases hfits

theorem bufferToken?_isPrefix {cs text : List Char} (h : bufferToken? cs = some text) : text <+: cs := by
  unfold bufferToken? at h
  split at h
  · rename_i cs
    have hmarks : (cs.take 1).takeWhile (· == '_') <+: cs :=
      (List.takeWhile_prefix _).trans (List.take_prefix 1 cs)
    dsimp only at h
    generalize (cs.take 1).takeWhile (· == '_') = marks at *
    split at h
    · rename_i c rest hname
      split at h
      · cases h
        have htail : rest.takeWhile Token.isWordPart ++
            selectorText (rest.drop (rest.takeWhile Token.isWordPart).length) <+: rest :=
          isPrefix_append_of_drop (List.takeWhile_prefix _) (selectorText_isPrefix _)
        have hword : c :: (rest.takeWhile Token.isWordPart ++
            selectorText (rest.drop (rest.takeWhile Token.isWordPart).length)) <+:
            cs.drop marks.length := by
          rw [hname]
          exact List.cons_prefix_cons.mpr ⟨rfl, htail⟩
        have hall := isPrefix_append_of_drop hmarks hword
        simpa using hall
      · cases h
    · cases h
  · cases h

theorem functionToken?_isPrefix {cs text : List Char} (h : functionToken? cs = some text) :
    text <+: cs := by
  obtain ⟨f, -, hname⟩ := List.exists_of_findSome?_eq_some h
  dsimp only at hname
  split at hname
  · rename_i rest hrest
    split at hname
    · cases hname
      exact ⟨rest, Text.append_of_dropStart? hrest⟩
    · cases hname
  · cases hname

theorem SpecialClass.accept?_isPrefix {k : SpecialClass} {cs text : List Char}
    (h : k.accept? cs = some text) : text <+: cs := by
  cases k
  · exact patternToken?_isPrefix h
  · exact variableToken?_isPrefix h
  · exact bufferToken?_isPrefix h
  · exact functionToken?_isPrefix h

end Script

namespace Lexicon

/-- A token that is cut by its first character is the start of the text. -/
theorem plainToken_isPrefix {x : Lexicon} {c : Char} {cs text : List Char} {kind : TokenKind}
    (h : x.plainToken c cs = .ok (kind, text)) : text <+: c :: cs ∧ kind ≠ .endOfInput := by
  unfold plainToken at h
  split_ifs at h with hcomment hquote hdigit hword
  · cases h
    exact ⟨List.prefix_refl _, by simp⟩
  · split at h
    · cases h
    · cases h
      exact ⟨List.cons_prefix_cons.mpr ⟨rfl, List.take_prefix _ _⟩, by simp⟩
  · cases h
    exact ⟨Token.numberText_isPrefix _, by simp⟩
  · have htext : c :: cs.takeWhile Token.isWordPart <+: c :: cs :=
      List.cons_prefix_cons.mpr ⟨rfl, List.takeWhile_prefix _⟩
    dsimp only at h
    split at h
    · cases h
      exact ⟨htext, by simp⟩
    · cases h
      exact ⟨htext, by simp⟩
  · split at h
    · rename_i op hop
      cases h
      have hstarts : (Text.dropStart? text (c :: cs)).isSome = true := by
        simpa using List.find?_some hop
      exact ⟨Text.isPrefix_of_dropStart? hstarts, by simp⟩
    · cases h
      exact ⟨List.cons_prefix_cons.mpr ⟨rfl, List.nil_prefix⟩, by simp⟩

/-- Only a quoted string can be refused. -/
theorem plainToken_eq_error {x : Lexicon} {c : Char} {cs : List Char} {e : EscapeError}
    (h : x.plainToken c cs = .error e) :
    (c = '"' ∨ c = '\'') ∧ Token.quoted c (cs.length + 1) cs = .error e := by
  unfold plainToken at h
  split_ifs at h with hcomment hquote hdigit hword
  · split at h
    · rename_i hrefused
      cases h
      exact ⟨hquote, hrefused⟩
    · cases h
  · dsimp only at h
    split at h <;> cases h
  · split at h <;> cases h

/-- Behind white space the classes are tried, and then the first character decides. -/
theorem scan_gap (x : Lexicon) (special : Bool) (offset : Nat) {gap : List Char} (hgap : Text.Blank gap) {c : Char}
    (hc : Text.isBlank c = false) (cs : List Char) :
    x.scan special offset (gap ++ c :: cs) =
      match if special then classToken? (c :: cs) 0 x.classes else none with
      | some (index, text) => .ok ⟨String.ofList text, .special index, offset + Text.size gap⟩
      | none =>
        match x.plainToken c cs with
        | .ok (kind, text) => .ok ⟨String.ofList text, kind, offset + Text.size gap⟩
        | .error e => .error (offset + Text.size gap, e) := by
  have htake : (gap ++ c :: cs).takeWhile Text.isBlank = gap := by
    rw [List.takeWhile_append_of_pos hgap, List.takeWhile_cons, hc]
    exact List.append_nil gap
  have hdrop : (gap ++ c :: cs).dropWhile Text.isBlank = c :: cs := by
    rw [List.dropWhile_append_of_pos hgap, List.dropWhile_cons, hc]
    rfl
  unfold scan
  rw [htake]
  split
  · rename_i hnil
    rw [hdrop] at hnil
    cases hnil
  · rename_i hcons
    rw [hdrop] at hcons
    cases hcons
    rfl

/-- What can be found behind a byte offset, given the text from there on: white space and then the end, a token
that is not empty, or a quoted string that cannot be read. -/
inductive Cut (offset : Nat) : List Char → Except (Nat × EscapeError) Token → Prop
  | ended {gap : List Char} : Text.Blank gap → Cut offset gap (.ok (.endAt (offset + Text.size gap)))
  | token {gap text behind : List Char} {kind : TokenKind} : Text.Blank gap → text ≠ [] →
      kind ≠ .endOfInput →
      Cut offset (gap ++ text ++ behind) (.ok ⟨String.ofList text, kind, offset + Text.size gap⟩)
  | refused {gap behind : List Char} {quote : Char} {e : EscapeError} : Text.Blank gap →
      (quote = '"' ∨ quote = '\'') → Token.quoted quote (behind.length + 1) behind = .error e →
      Cut offset (gap ++ quote :: behind) (.error (offset + Text.size gap, e))

end Lexicon

theorem Script.cut_scan (special : Bool) (offset : Nat) (rest : List Char) :
    Lexicon.Cut offset rest (lexicon.scan special offset rest) := by
  have hsplit := List.takeWhile_append_dropWhile (p := Text.isBlank) (l := rest)
  have hblank := Text.blank_takeWhile rest
  unfold Lexicon.scan
  dsimp only
  generalize rest.takeWhile Text.isBlank = gap at *
  split
  · rename_i hend
    rw [hend, List.append_nil] at hsplit
    subst hsplit
    exact .ended hblank
  · rename_i c cs hdrop
    rw [hdrop] at hsplit
    subst hsplit
    have htoken : ∀ {text : List Char} {kind : TokenKind}, text <+: c :: cs → text ≠ [] →
        kind ≠ .endOfInput → Lexicon.Cut offset (gap ++ c :: cs)
          (.ok ⟨String.ofList text, kind, offset + Text.size gap⟩) := by
      rintro text kind ⟨behind, hbehind⟩ hne hkind
      rw [← hbehind, ← List.append_assoc]
      exact .token hblank hne hkind
    split
    · rename_i i text hspecial
      split at hspecial
      · obtain ⟨hne, -, k, hk, haccept⟩ := Lexicon.classToken?_eq_some hspecial
        have hclasses : lexicon.classes = specialClasses.map fun k => ⟨k.accept?⟩ := rfl
        rw [hclasses, List.getElem?_map, Option.map_eq_some_iff] at hk
        obtain ⟨k, -, rfl⟩ := hk
        exact htoken (SpecialClass.accept?_isPrefix haccept) hne (by simp)
      · cases hspecial
    · split
      · rename_i kind text hplain
        obtain ⟨hstarts, hkind⟩ := Lexicon.plainToken_isPrefix hplain
        exact htoken hstarts (Lexicon.plainToken_eq_ok hplain).1 hkind
      · rename_i e hplain
        obtain ⟨hquote, hrefused⟩ := Lexicon.plainToken_eq_error hplain
        exact .refused hblank hquote hrefused

end LineScript
