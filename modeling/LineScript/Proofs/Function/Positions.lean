import LineScript.Proofs.Function.Returning
import LineScript.Proofs.Text.Bytes
import LineScript.Proofs.Text.Positions

/-! The functions on texts agree on what a position is: what one finds at a position another one returns from
there. -/
namespace LineScript

open Number (Spells twoTo)
open Text (FirstFrom StandsAt nearestPosition)

variable {s needle t u v : String} {start n k : Int}

/-- How the positions that functions take and return hang together, for a text and another one that is looked for in
it. Counts are returned as the doubles nearest to them; a part of a text is exact if its length is a number that
doubles hold exactly, or no text is longer. -/
structure PositionsAgree (s needle : String) : Prop where
  /-- The first position from the given one on, and what stands there. -/
  index : ∀ t start, Spells t start → ∃ r, (Call.ofTexts .stringIndex [s, needle, t]).Returns (.count r) ∧
    FirstFrom needle.toList s.toList (nearestPosition s.toList start) r ∧
    (r ≠ 0 → (Call.ofTexts .stringLength [needle]).Returns (.count needle.length) ∧
      ∀ a b, Spells a r → Spells b needle.length → needle.length + 1 < twoTo 53 →
        (Call.ofTexts .stringSubstring [s, a, b]).Returns (.text needle))
  /-- So many characters from a position on. -/
  substring : ∀ t u n k, Spells t n → Spells u k → k + 1 < twoTo 53 ∨ s.length < twoTo 53 →
    (Call.ofTexts .stringSubstring [s, t, u]).Returns
      (.text (String.ofList ((s.toList.drop (max n 1 - 1).toNat).take (max k 0).toNat)))
  /-- A text is what stands in front of a position and what stands from there on. -/
  halves : ∀ t u v k, 0 ≤ k → Spells t 1 → Spells u k → Spells v (k + 1) → k + 1 < twoTo 53 ∨ s.length < twoTo 53 →
    ∃ front behind, (Call.ofTexts .stringSubstring [s, t, u]).Returns (.text front) ∧
      (Call.ofTexts .stringSubstring [s, v]).Returns (.text behind) ∧ front ++ behind = s
  /-- The position of the first match. -/
  search : ∀ a x, Supplied.Supplies a x → ∃ r, (⟨.stringSearch, [.text (pure s), a]⟩ : Call Run).Returns (.count r) ∧
    match x.matcher.find? s 0 with
    | none => r = 0
    | some w => ∃ front behind, s = front ++ behind ∧ w.start = Text.length front ∧ r = front.length + 1

namespace Call

theorem stringIndex_returns (needle : String) (ht : Spells t start) (hs : s.length < twoTo 63) :
    ∃ r, (ofTexts .stringIndex [s, needle, t]).Returns (.count r) ∧
      FirstFrom needle.toList s.toList (nearestPosition s.toList start) r := by
  obtain ⟨x, hnumber, hx⟩ := number?_of_spells (c := ofTexts .stringIndex [s, needle, t]) (i := 2) rfl ht
  refine ⟨Text.indexOf needle.toList s.toList x, ?_, Text.firstFrom_indexOf hx hs⟩
  apply Returns.of_dispatch
  change Call.stringIndex _ = _
  unfold Call.stringIndex
  rw [text_of_text (s := s) rfl, text_of_text (s := needle) rfl, hnumber]
  rfl

theorem stringLength_returns (s : String) : (ofTexts .stringLength [s]).Returns (.count s.length) := by
  apply Returns.of_dispatch
  change Call.stringLength _ = _
  unfold Call.stringLength
  rw [text_of_text (s := s) rfl]
  rfl

theorem stringSubstring_returns (ht : Spells t n) (hu : Spells u k) (hs : s.length < twoTo 63)
    (hk : k + 1 < twoTo 53 ∨ s.length < twoTo 53) : (ofTexts .stringSubstring [s, t, u]).Returns
      (.text (String.ofList ((s.toList.drop (n - 1).toNat).take k.toNat))) := by
  obtain ⟨x, hstart, hx⟩ := number_of_spells (c := ofTexts .stringSubstring [s, t, u]) (i := 1) rfl ht
  obtain ⟨y, hlength, hy⟩ := number?_of_spells (c := ofTexts .stringSubstring [s, t, u]) (i := 2) rfl hu
  apply Returns.of_dispatch
  change Call.stringSubstring _ = _
  unfold Call.stringSubstring
  rw [text_of_text (s := s) rfl, hstart, hlength, ← Text.substring_some hx hy hs hk]
  rfl

theorem stringSubstring_returns_rest (ht : Spells t n) (hs : s.length < twoTo 63) :
    (ofTexts .stringSubstring [s, t]).Returns (.text (String.ofList (s.toList.drop (n - 1).toNat))) := by
  obtain ⟨x, hstart, hx⟩ := number_of_spells (c := ofTexts .stringSubstring [s, t]) (i := 1) rfl ht
  apply Returns.of_dispatch
  change Call.stringSubstring _ = _
  unfold Call.stringSubstring
  rw [text_of_text (s := s) rfl, hstart, number?_of_none rfl, ← Text.substring_none hx hs]
  rfl

theorem dispatch_stringSearch (s : String) {a : Supplied Run} {x : Search.Expression} (hx : a.Supplies x) :
    (⟨.stringSearch, [.text (pure s), a]⟩ : Call Run).dispatch =
      match x.matcher.find? s 0 with
      | some w => pure (.count ((Text.take s.toList w.start).length + 1))
      | none => pure (.count 0) := by
  change Call.stringSearch _ = _
  unfold Call.stringSearch
  rw [text_of_text (s := s) rfl, pattern_of_supplies rfl hx]
  rfl

theorem stringSearch_returns (s : String) {a : Supplied Run} {x : Search.Expression} (hx : a.Supplies x) :
    ∃ r, (⟨.stringSearch, [.text (pure s), a]⟩ : Call Run).Returns (.count r) ∧
      match x.matcher.find? s 0 with
      | none => r = 0
      | some w => ∃ front behind, s = front ++ behind ∧ w.start = Text.length front ∧ r = front.length + 1 := by
  have hdispatch := dispatch_stringSearch s hx
  cases hfind : x.matcher.find? s 0 with
  | none =>
    rw [hfind] at hdispatch
    exact ⟨0, .of_dispatch hdispatch, rfl⟩
  | some w =>
    rw [hfind] at hdispatch
    obtain ⟨front, behind, htext, hstart⟩ := Text.exists_parts (hx.made.sound s 0 w hfind).start
    refine ⟨front.length + 1, .of_dispatch ?_, front, behind, htext, hstart, rfl⟩
    have hfront : Text.take s.toList w.start = front.toList := by
      rw [hstart, Text.length_eq_size, htext, String.toList_append, Text.take_size]
    rw [hdispatch]
    dsimp only
    rw [hfront, String.length_toList]

end Call

/-- The functions on texts agree on positions. -/
theorem positions_agree (s needle : String) (hs : s.length < twoTo 63) : PositionsAgree s needle where
  index t start ht := by
    obtain ⟨r, hindex, hfirst⟩ := Call.stringIndex_returns needle ht hs
    refine ⟨r, hindex, hfirst, ?_⟩
    intro hr
    refine ⟨Call.stringLength_returns needle, ?_⟩
    intro a b ha hb hlength
    have hpart := Call.stringSubstring_returns ha hb hs (.inl (by exact_mod_cast hlength))
    obtain ⟨-, hstands, -⟩ := hfirst.least hr
    have htext : String.ofList ((s.toList.drop ((r : Int) - 1).toNat).take (needle.length : Int).toNat) = needle := by
      have hskip : ((r : Int) - 1).toNat = r - 1 := by omega
      have hall : (needle.length : Int).toNat = needle.toList.length := Int.toNat_natCast _
      rw [hskip, hall, hstands.take_drop, String.ofList_toList]
    rwa [htext] at hpart
  substring t u n k ht hu hk := by
    have hpart := Call.stringSubstring_returns ht hu hs hk
    have hskip : (max n 1 - 1).toNat = (n - 1).toNat := by omega
    have hall : (max k 0).toNat = k.toNat := by omega
    rwa [hskip, hall]
  halves t u v k hpos ht hu hv hk := by
    have hfront := Call.stringSubstring_returns ht hu hs hk
    have hbehind := Call.stringSubstring_returns_rest hv hs
    refine ⟨_, _, hfront, hbehind, ?_⟩
    apply String.toList_injective
    have hskip : (k + 1 - 1).toNat = k.toNat := by omega
    rw [hskip]
    simp
  search a x hx := Call.stringSearch_returns s hx

/-- In a text whose characters take two bytes each, the second of two occurrences. -/
theorem positions_agree_second : "äöäö".length < twoTo 63 ∧
    (Call.ofTexts .stringIndex ["äöäö", "äö", "2"]).Returns (.count 3) ∧
    (Call.ofTexts .stringSubstring ["äöäö", "3", "2"]).Returns (.text "äö") := by
  have hs : "äöäö".length < twoTo 63 := by decide
  have hspells (n : Int) (hn : n.natAbs < twoTo 53) : Spells (toString n) n := Number.spells_toString hn
  obtain ⟨r, hindex, hfirst, hpart⟩ := (positions_agree "äöäö" "äö" hs).index "2" 2 (hspells 2 (by decide))
  have hthird : FirstFrom "äö".toList "äöäö".toList (nearestPosition "äöäö".toList 2) 3 := by
    have hstands : StandsAt "äö".toList "äöäö".toList 3 := by decide
    have hnot : ¬StandsAt "äö".toList "äöäö".toList 2 := by decide
    have hlow : nearestPosition "äöäö".toList 2 = 2 := by decide
    rw [hlow]
    constructor
    · exact iff_of_false (by decide) fun h => h 3 (by decide) hstands
    · intro _
      refine ⟨by decide, hstands, ?_⟩
      intro i hi hstandsAt
      by_contra hlt
      have hi2 : i = 2 := by omega
      exact hnot (hi2 ▸ hstandsAt)
  have hr : r = 3 := hfirst.unique hthird
  subst hr
  obtain ⟨-, hsubstring⟩ := hpart (by decide)
  exact ⟨hs, hindex, hsubstring "3" "2" (hspells 3 (by decide)) (hspells 2 (by decide)) (by decide)⟩

end LineScript
