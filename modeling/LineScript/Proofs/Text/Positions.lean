import LineScript.Function.Texts
import LineScript.Proofs.Number.Whole
import LineScript.Proofs.Text.Pieces

/-! Positions in a text, which count its characters from one: where another text stands, and what stands at a
position. A text takes less than `2 ^ 63` bytes, and so many positions are counted exactly as sizes. -/
namespace LineScript.Text

open Number (Double twoTo)
open Number.Double (Equals)

/-- Whether `needle` stands at a position, which may be the one behind the last character. -/
def StandsAt (needle cs : List Char) (position : Nat) : Prop :=
  1 ≤ position ∧ position ≤ cs.length + 1 ∧ needle <+: cs.drop (position - 1)

instance (needle cs : List Char) (position : Nat) : Decidable (StandsAt needle cs position) :=
  inferInstanceAs (Decidable (_ ∧ _ ∧ _))

/-- The position of a text that is nearest to a number. -/
def nearestPosition (cs : List Char) (n : Int) : Nat :=
  (max 1 (min n (cs.length + 1))).toNat

/-- Whether `r` is the least position from `low` on at which `needle` stands, or zero if there is none. -/
structure FirstFrom (needle cs : List Char) (low r : Nat) : Prop where
  eq_zero_iff : r = 0 ↔ ∀ i, low ≤ i → ¬StandsAt needle cs i
  least : r ≠ 0 → low ≤ r ∧ StandsAt needle cs r ∧ ∀ i, low ≤ i → StandsAt needle cs i → r ≤ i

variable {needle cs : List Char} {x y : Double} {n k : Int} {low r r' : Nat}

theorem FirstFrom.unique (h : FirstFrom needle cs low r) (h' : FirstFrom needle cs low r') : r = r' := by
  by_cases hzero : r = 0
  · rw [hzero, eq_comm, h'.eq_zero_iff]
    exact h.eq_zero_iff.mp hzero
  · obtain ⟨hlow, hstands, hleast⟩ := h.least hzero
    have hzero' : r' ≠ 0 := by
      intro hr'
      exact h'.eq_zero_iff.mp hr' r hlow hstands
    obtain ⟨hlow', hstands', hleast'⟩ := h'.least hzero'
    exact Nat.le_antisymm (hleast r' hlow' hstands') (hleast' r hlow hstands)

theorem min_skipped (hx : x.Equals n) (hlen : cs.length < twoTo 63) :
    min (skipped x) cs.length = min (n - 1).toNat cs.length := by
  have hsize := hx.toSize
  have hlarge : twoTo 63 ≤ twoTo 64 - 2 := by decide
  unfold skipped
  omega

/-- What stands from a position on. Positions below one count as one. -/
theorem drop_skipped (hx : x.Equals n) (hlen : cs.length < twoTo 63) :
    cs.drop (skipped x) = cs.drop (n - 1).toNat := by
  rw [List.drop_eq_drop_min, List.drop_eq_drop_min (i := (n - 1).toNat), min_skipped hx hlen]

/-- Looking for a text finds its first position from a given one on. -/
theorem firstFrom_indexOf (hx : x.Equals n) (hlen : cs.length < twoTo 63) :
    FirstFrom needle cs (nearestPosition cs n) (indexOf needle cs x) := by
  obtain ⟨start, hstart⟩ : ∃ start, start = min (n - 1).toNat cs.length := ⟨_, rfl⟩
  have hlow : nearestPosition cs n = start + 1 := by
    unfold nearestPosition
    omega
  have hdrop {i : Nat} (hi : start + 1 ≤ i) : cs.drop (i - 1) = (cs.drop start).drop (i - 1 - start) := by
    rw [List.drop_drop]
    congr 1
    omega
  unfold indexOf before?
  rw [min_skipped hx hlen, ← hstart, hlow]
  dsimp only
  cases hcut : cut? needle (cs.drop start) with
  | none =>
    have hnowhere : ∀ i, start + 1 ≤ i → ¬StandsAt needle cs i := by
      intro i hi hstands
      have hfits := hstands.2.2
      rw [hdrop hi] at hfits
      exact cut?_eq_none_iff.mp hcut (hfits.isInfix.trans (List.drop_suffix _ _).isInfix)
    exact ⟨iff_of_true rfl hnowhere, fun h => absurd rfl h⟩
  | some parts =>
    obtain ⟨front, behind⟩ := parts
    obtain ⟨htext, hfirst⟩ := cut?_eq_some hcut
    have hlength := congrArg List.length htext
    simp only [List.length_drop, List.length_append] at hlength
    rw [Option.map_some]
    dsimp only
    have hstands : StandsAt needle cs (start + front.length + 1) := by
      refine ⟨by omega, by omega, ?_⟩
      rw [hdrop (by omega), htext]
      have hfront : start + front.length + 1 - 1 - start = front.length := by omega
      rw [hfront, List.drop_left]
      exact List.prefix_append needle behind
    constructor
    · have hpos : ¬start + front.length + 1 = 0 := by omega
      exact iff_of_false hpos fun h => h _ (by omega) hstands
    · intro _
      refine ⟨by omega, hstands, ?_⟩
      intro i hi hstandsAt
      by_contra hlt
      have hfits := hstandsAt.2.2
      rw [hdrop hi] at hfits
      exact hfirst (i - 1 - start) (by omega) hfits

theorem substring_none (hx : x.Equals n) (hlen : cs.length < twoTo 63) :
    substring cs x none = cs.drop (n - 1).toNat :=
  drop_skipped hx hlen

/-- So many characters from a position on, fewer if the text ends. Only numbers of characters that doubles hold
exactly are counted exactly. -/
theorem substring_some (hx : x.Equals n) (hy : y.Equals k) (hlen : cs.length < twoTo 63)
    (hk : k + 1 < twoTo 53 ∨ cs.length < twoTo 53) :
    substring cs x (some y) = (cs.drop (n - 1).toNat).take k.toNat := by
  obtain ⟨m, e, hclamp, hequals⟩ := hy.clampBelow
  obtain ⟨i, hi⟩ : ∃ i : Nat, i = k.toNat := ⟨_, rfl⟩
  have hmax : max k 0 = (i : Int) := by omega
  rw [hmax] at hequals
  obtain ⟨j, hadd⟩ := Double.add_one_eq_round hequals
  unfold substring
  dsimp only
  rw [drop_skipped hx hlen, hclamp, hadd, ← hi]
  unfold skipped
  by_cases hexact : i + 1 < twoTo 53
  · have hsize := (Double.round_equals hexact j).toSize
    have hbound : twoTo 53 ≤ twoTo 64 - 1 := by decide
    congr 1
    omega
  · have hlarge := Double.le_toSize_round (Nat.le_of_not_lt hexact) j
    have htwo : 2 ≤ twoTo 53 := by decide
    have hshort : (cs.drop (n - 1).toNat).length < twoTo 53 := by
      rw [List.length_drop]
      omega
    rw [List.take_of_length_le (by omega), List.take_of_length_le (by omega)]

/-- What stands at the position of a text is that text. -/
theorem StandsAt.take_drop (h : StandsAt needle cs r) : (cs.drop (r - 1)).take needle.length = needle :=
  List.prefix_iff_eq_take.mp h.2.2 |>.symm

end LineScript.Text
