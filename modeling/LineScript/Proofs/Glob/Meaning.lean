import LineScript.Proofs.Glob.Items
import LineScript.Proofs.Regex.Spans
import LineScript.Search.Expression

/-! What globs match, and that the regular expressions that they are turned into match the same. -/
namespace LineScript.Glob

open Regex (CharSet Piece Place Syntax MatchesAll)

/-- Whether an item matches some characters. -/
def Item.Fits : Item → List Char → Prop
  | run, _ => True
  | one, ds => ∃ d, ds = [d]
  | char c, ds => ds = [c]
  | members negated ms, ds => ∃ d, ds = [d] ∧ (d ∈ ms ↔ negated = false)

/-- Whether items match some characters, one behind the other. -/
def Fits : List Item → List Char → Prop
  | [], ds => ds = []
  | i :: items, ds => ∃ front behind, ds = front ++ behind ∧ i.Fits front ∧ Fits items behind

section Meaning

variable {negated : Bool} {ms : List Char} {items : List Item} {p q : Place} {c : Char}

theorem holds_memberPart (part : Regex.ClassPart) (ms : List Char) (c : Char) :
    (memberPart part ms).set.holds c = true ↔ part.set.holds c = true ∨ c ∈ ms := by
  induction ms generalizing part with
  | nil => simp [memberPart]
  | cons d ms ih =>
    have hadd : (part.add (.single d) 0).set.holds c = (part.set.holds c || (CharSet.single d).holds c) := rfl
    change (memberPart (part.add (.single d) 0) ms).set.holds c = true ↔ _
    rw [ih, hadd, Bool.or_eq_true, CharSet.holds_single_iff, List.mem_cons, or_assoc]

theorem holds_memberSet (negated : Bool) (ms : List Char) (c : Char) :
    (memberSet negated ms).holds c = true ↔ (c ∈ ms ↔ negated = false) := by
  have hpart := holds_memberPart {} ms c
  have hnever : (({} : Regex.ClassPart).set.holds c = true) ↔ False := by
    change (CharSet.never.holds c = true) ↔ False
    simp [CharSet.holds]
  rw [hnever, false_or] at hpart
  cases negated with
  | false => simpa [memberSet] using hpart
  | true =>
    change (!(memberPart {} ms).set.holds c) = true ↔ _
    rw [← hpart]
    simp

theorem holds_anyChar : anyChar.holds c = true ↔ c ≠ '\n' := by
  change (!(CharSet.single '\n').holds c) = true ↔ _
  rw [Bool.not_eq_true', ← Bool.not_eq_true, CharSet.holds_single_iff]

/-- Where no line ends, the regular expression of an item matches what the item does. -/
theorem Item.matches_iff (hline : '\n' ∉ p.rest) (i : Item) :
    i.toSyntax.Matches p q ↔ ∃ ds, i.Fits ds ∧ p.Reads ds q := by
  have hread {ds : List Char} (h : p.Reads ds q) : ∀ d ∈ ds, d ≠ '\n' := by
    rintro d hd rfl
    rw [h.rest_eq] at hline
    exact hline (List.mem_append_left _ hd)
  cases i with
  | run =>
    refine Regex.Syntax.matches_repeated_set_iff.trans ⟨?_, ?_⟩
    · rintro ⟨ds, -, -, -, h⟩
      exact ⟨ds, trivial, h⟩
    · rintro ⟨ds, -, h⟩
      exact ⟨ds, Nat.zero_le _, fun _ h => (Option.not_mem_none _ h).elim,
        fun d hd => holds_anyChar.mpr (hread h d hd), h⟩
  | one =>
    refine Regex.Syntax.matches_set_iff.trans ⟨?_, ?_⟩
    · rintro ⟨d, -, h⟩
      exact ⟨[d], ⟨d, rfl⟩, h⟩
    · rintro ⟨_, ⟨d, rfl⟩, h⟩
      exact ⟨d, holds_anyChar.mpr (hread h d List.mem_cons_self), h⟩
  | char c =>
    refine Regex.Syntax.matches_set_iff.trans ⟨?_, ?_⟩
    · rintro ⟨d, hd, h⟩
      exact ⟨[d], congrArg (fun c => [c]) (CharSet.holds_single_iff.mp hd), h⟩
    · rintro ⟨_, rfl, h⟩
      exact ⟨c, CharSet.holds_single_iff.mpr rfl, h⟩
  | members negated ms =>
    refine Regex.Syntax.matches_set_iff.trans ⟨?_, ?_⟩
    · rintro ⟨d, hd, h⟩
      exact ⟨[d], ⟨d, rfl, (holds_memberSet negated ms d).mp hd⟩, h⟩
    · rintro ⟨_, ⟨d, rfl, hd⟩, h⟩
      exact ⟨d, (holds_memberSet negated ms d).mpr hd, h⟩

/-- Where no line ends, the regular expressions of items match what the items do. -/
theorem matchesAll_iff (hline : '\n' ∉ p.rest) :
    MatchesAll (items.map Item.toSyntax) p q ↔ ∃ ds, Fits items ds ∧ p.Reads ds q := by
  induction items generalizing p with
  | nil =>
    constructor
    · rintro rfl
      exact ⟨[], rfl, .nil⟩
    · rintro ⟨_, rfl, h⟩
      cases h
      rfl
  | cons i items ih =>
    simp only [List.map_cons, MatchesAll, Item.matches_iff hline, Fits]
    constructor
    · rintro ⟨m, ⟨front, hfront, hm⟩, htail⟩
      rw [hm.rest_eq] at hline
      obtain ⟨behind, hbehind, hq⟩ := (ih (not_or.mp (mt List.mem_append.mpr hline)).2).mp htail
      exact ⟨front ++ behind, ⟨front, behind, rfl, hfront, hbehind⟩, Place.reads_append.mpr ⟨m, hm, hq⟩⟩
    · rintro ⟨_, ⟨front, behind, rfl, hfront, hbehind⟩, h⟩
      obtain ⟨m, hm, hq⟩ := Place.reads_append.mp h
      rw [hm.rest_eq] at hline
      exact ⟨m, ⟨front, hfront, hm⟩, (ih (not_or.mp (mt List.mem_append.mpr hline)).2).mpr ⟨behind, hbehind, hq⟩⟩

end Meaning

section Size

variable {negated : Bool} {ms glob : List Char} {items : List Item}

theorem stateCount_single (c : Char) : (CharSet.single c).stateCount ≤ 4 := by
  unfold CharSet.single CharSet.stateCount
  rw [if_pos rfl]
  exact Char.utf8Size_le_four _

theorem stateCount_memberPart (part : Regex.ClassPart) (ms : List Char) :
    (memberPart part ms).set.stateCount ≤ part.set.stateCount + 4 * ms.length := by
  induction ms generalizing part with
  | nil => exact Nat.le_refl _
  | cons c ms ih =>
    have hsingle := stateCount_single c
    have hadd : (part.add (.single c) 0).set.stateCount = part.set.stateCount + (CharSet.single c).stateCount := rfl
    have hrest := ih (part.add (.single c) 0)
    change (memberPart (part.add (.single c) 0) ms).set.stateCount ≤ _
    rw [List.length_cons]
    omega

theorem stateCount_memberSet (negated : Bool) (ms : List Char) :
    (memberSet negated ms).stateCount ≤ 4 * ms.length + 13 := by
  have hpart := stateCount_memberPart {} ms
  change _ ≤ 1 + _ at hpart
  cases negated with
  | false =>
    change (memberPart {} ms).set.stateCount ≤ _
    omega
  | true =>
    change (memberPart {} ms).set.stateCount + 12 ≤ _
    omega

/-- No character of a glob takes more than fifteen states. -/
theorem Spells.stateCount_le (h : Spells glob items) :
    ((items.map Item.toSyntax).map Syntax.stateCount).sum ≤ 15 * glob.length := by
  have hchar (c : Char) : (Item.toSyntax (.char c)).stateCount ≤ 4 := stateCount_single c
  induction h with
  | nil => exact Nat.le_refl 0
  | run _ ih =>
    have hrun : Item.run.toSyntax.stateCount = 15 := rfl
    simp only [List.map_cons, List.sum_cons, List.length_cons]
    omega
  | one _ ih =>
    have hone : Item.one.toSyntax.stateCount = 13 := rfl
    simp only [List.map_cons, List.sum_cons, List.length_cons]
    omega
  | @plain c _ _ _ _ ih | @escaped c _ _ _ ih =>
    have hc := hchar c
    simp only [List.map_cons, List.sum_cons, List.length_cons]
    omega
  | backslash => decide
  | @members negated ms cs items _ _ ih =>
    have hset : (Item.toSyntax (.members negated ms)).stateCount ≤ 4 * ms.length + 13 := stateCount_memberSet negated ms
    simp only [List.map_cons, List.sum_cons, List.length_cons, List.length_append]
    omega

end Size

section Globs

variable {glob : List Char} {items : List Item}

end Globs

end LineScript.Glob
