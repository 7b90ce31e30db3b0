import LineScript.Proofs.Text.Bytes
import LineScript.Script.Value
import Mathlib.Data.List.Basic

/-! What the tokens of the script language look like: they take at least a byte, keywords are among those
of the language, and members of its classes have the form of their class. -/
namespace LineScript

namespace Token

theorem isUpper_iff {c : Char} : c.isUpper = true ↔ 'A' ≤ c ∧ c ≤ 'Z' :=
  decide_eq_true_iff

theorem isLower_iff {c : Char} : c.isLower = true ↔ 'a' ≤ c ∧ c ≤ 'z' := by
  have h : c.isLower = (decide ('a' ≤ c) && decide (c ≤ 'z')) := rfl
  rw [h, Bool.and_eq_true, decide_eq_true_iff, decide_eq_true_iff]

theorem isDigit_iff {c : Char} : c.isDigit = true ↔ '0' ≤ c ∧ c ≤ '9' := by
  have h : c.isDigit = (decide ('0' ≤ c) && decide (c ≤ '9')) := rfl
  rw [h, Bool.and_eq_true, decide_eq_true_iff, decide_eq_true_iff]

theorem numberText_ne_nil {c : Char} (cs : List Char) (h : c.isDigit = true) :
    numberText (c :: cs) ≠ [] := by
  have hwhole : (c :: cs).takeWhile Char.isDigit = c :: cs.takeWhile Char.isDigit :=
    List.takeWhile_cons_of_pos h
  unfold numberText
  rw [hwhole]
  dsimp only
  split
  · split <;> simp
  · simp

theorem ne_nil_of_mem_operators {op : List Char} (h : op ∈ operators) : op ≠ [] := by
  rintro rfl
  exact absurd h (by decide)

end Token

namespace Lexicon

theorem mem_of_keywordIndex? {x : Lexicon} {word : String} {i : Nat}
    (h : x.keywordIndex? word = some i) : word ∈ x.keywords := by
  obtain ⟨hi, hword, -⟩ := List.findIdx?_eq_some_iff_getElem.mp h
  rw [← beq_iff_eq.mp hword]
  exact List.getElem_mem hi

theorem classToken?_eq_some {cs text : List Char} {index i : Nat} {classes : List TokenClass}
    (h : classToken? cs index classes = some (i, text)) :
    text ≠ [] ∧ index ≤ i ∧ ∃ k, classes[i - index]? = some k ∧ k.accept? cs = some text := by
  induction classes generalizing index with
  | nil => cases h
  | cons k ks ih =>
    unfold classToken? at h
    split at h
    · rename_i c tail haccept
      cases h
      exact ⟨List.cons_ne_nil _ _, Nat.le_refl _, k, by rw [Nat.sub_self]; rfl, haccept⟩
    · obtain ⟨hne, hle, k', hk', haccept⟩ := ih h
      have hsub : i - index = i - (index + 1) + 1 := by omega
      refine ⟨hne, by omega, k', ?_, haccept⟩
      rw [hsub, List.getElem?_cons_succ]
      exact hk'

/-- A token that is cut by its first character takes this character at least, belongs to no class, and is a
keyword only if the lexicon has it. -/
theorem plainToken_eq_ok {x : Lexicon} {c : Char} {cs text : List Char} {kind : TokenKind}
    (h : x.plainToken c cs = .ok (kind, text)) :
    text ≠ [] ∧ (∀ i, kind ≠ .special i) ∧
      ∀ i, kind = .keyword i → String.ofList text ∈ x.keywords := by
  unfold plainToken at h
  split_ifs at h with hcomment hquote hdigit hword
  · cases h
    simp
  · split at h
    · cases h
    · cases h
      simp
  · cases h
    exact ⟨Token.numberText_ne_nil cs hdigit, by simp, by simp⟩
  · dsimp only at h
    split at h
    · rename_i hkeyword
      cases h
      exact ⟨List.cons_ne_nil _ _, by simp, fun _ _ => mem_of_keywordIndex? hkeyword⟩
    · cases h
      simp
  · split at h
    · rename_i op hop
      cases h
      exact ⟨Token.ne_nil_of_mem_operators (List.mem_of_find?_eq_some hop), by simp, by simp⟩
    · cases h
      simp

end Lexicon

namespace Script

theorem mem_keywords_of_lexicon {word : String} (h : word ∈ lexicon.keywords) : word ∈ keywords := by
  have hsorted : word ∈ keywords.mergeSort (fun a b => !decide (b < a)) := List.mem_eraseDups.mp h
  exact List.mem_mergeSort.mp hsorted

theorem exists_ofName?_of_functionToken? {cs text : List Char} (h : functionToken? cs = some text) :
    ∃ f, Builtin.ofName? (String.ofList text) = some f := by
  obtain ⟨f, hf, hname⟩ := List.exists_of_findSome?_eq_some h
  dsimp only at hname
  split at hname
  · split at hname
    · cases hname
      have hfound : (Builtin.all.find? (·.name == String.ofList f.name.toList)).isSome = true := by
        rw [List.find?_isSome]
        exact ⟨f, hf, by simp⟩
      exact Option.isSome_iff_exists.mp hfound
    · cases hname
  · cases hname

theorem eq_cons_of_patternToken? {cs text : List Char} (h : patternToken? cs = some text) :
    ∃ k d body, text = k :: d :: body ∧ (kindOf? k).isSome = true := by
  unfold patternToken? at h
  split at h
  · rename_i k d cs
    split at h
    · rename_i hform
      obtain ⟨body, -, rfl⟩ := Option.map_eq_some_iff.mp h
      refine ⟨k, d, _, rfl, ?_⟩
      rcases hform.1 with rfl | rfl | rfl <;> rfl
    · cases h
  · cases h

/-- What is known of a token that has been cut from a line of a script. -/
structure Wellformed (t : Token) : Prop where
  keyword : ∀ i, t.kind = .keyword i → t.text ∈ keywords
  function : classOf? t = some .function → ∃ f, Builtin.ofName? t.text = some f
  pattern : classOf? t = some .pattern →
    ∃ k d body, t.text.toList = k :: d :: body ∧ (kindOf? k).isSome = true

theorem wellformed_of_accept? {k : SpecialClass} {cs text : List Char} {i column : Nat}
    (hk : specialClasses[i]? = some k) (haccept : k.accept? cs = some text) :
    Wellformed ⟨String.ofList text, .special i, column⟩ := by
  have hclass : classOf? ⟨String.ofList text, .special i, column⟩ = some k := hk
  refine ⟨fun _ h => (by cases h), fun h => ?_, fun h => ?_⟩
  · rw [hclass] at h
    cases h
    exact exists_ofName?_of_functionToken? haccept
  · rw [hclass] at h
    cases h
    rw [String.toList_ofList]
    exact eq_cons_of_patternToken? haccept

/-- Every token of a script starts at or behind the place from which it is looked for, and unless it is the
end of the line, it takes at least a byte of what is left. -/
theorem scan_eq_ok {special : Bool} {offset : Nat} {rest : List Char} {t : Token}
    (h : lexicon.scan special offset rest = .ok t) :
    Wellformed t ∧ offset ≤ t.column ∧
      (t.kind = .endOfInput ∨ (t.text ≠ "" ∧ 0 < Text.size rest)) := by
  have hrest : ∀ c cs, rest.dropWhile Text.isBlank = c :: cs → 0 < Text.size rest := by
    intro c cs hdrop
    rw [← List.takeWhile_append_dropWhile (p := Text.isBlank) (l := rest), hdrop, Text.size_append,
      Text.size_cons]
    have := c.utf8Size_pos
    omega
  have htext : ∀ text : List Char, text ≠ [] → String.ofList text ≠ "" := by
    intro text hne heq
    exact hne (String.ofList_eq_empty_iff.mp heq)
  unfold Lexicon.scan at h
  dsimp only at h
  split at h
  · cases h
    exact ⟨⟨fun _ h => (by cases h), fun h => (by cases h), fun h => (by cases h)⟩,
      Nat.le_add_right _ _, .inl rfl⟩
  · rename_i c cs hdrop
    split at h
    · rename_i i text hspecial
      cases h
      split at hspecial
      · obtain ⟨hne, -, k, hk, haccept⟩ := Lexicon.classToken?_eq_some hspecial
        have hclasses : lexicon.classes = specialClasses.map fun k => ⟨k.accept?⟩ := rfl
        rw [hclasses, List.getElem?_map, Option.map_eq_some_iff] at hk
        obtain ⟨k, hk, rfl⟩ := hk
        exact ⟨wellformed_of_accept? hk haccept, Nat.le_add_right _ _,
          .inr ⟨htext _ hne, hrest c cs hdrop⟩⟩
      · cases hspecial
    · split at h
      · rename_i kind text hplain
        cases h
        obtain ⟨hne, hspecial, hkeyword⟩ := Lexicon.plainToken_eq_ok hplain
        have hclass : classOf? ⟨String.ofList text, kind,
            offset + Text.size (rest.takeWhile Text.isBlank)⟩ = none := by
          unfold classOf?
          split
          · rename_i i hi
            exact absurd hi (hspecial i)
          · rfl
        refine ⟨⟨fun i hi => mem_keywords_of_lexicon (hkeyword i hi), fun h => ?_, fun h => ?_⟩,
          Nat.le_add_right _ _, .inr ⟨htext _ hne, hrest c cs hdrop⟩⟩
        · rw [hclass] at h
          cases h
        · rw [hclass] at h
          cases h
      · cases h

end Script

end LineScript
