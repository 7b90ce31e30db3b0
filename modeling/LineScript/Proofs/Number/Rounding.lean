import Mathlib.Algebra.Order.Field.Power
import Mathlib.Tactic.FieldSimp
import Mathlib.Tactic.Linarith
import Mathlib.Tactic.NormNum
import Mathlib.Tactic.Positivity
import LineScript.Proofs.Number.Order

/-! Rounding respects doubles: what lies on one side of a double is not rounded to its other side. -/
namespace LineScript.Number.Double

variable {x : Double} {v q : ℚ}

/-- Whether a number is the value of a double, of any significand that has room at a scale within the range. -/
def IsValue (q : ℚ) : Prop :=
  ∃ s m e, m < twoTo 53 ∧ minExponent ≤ e ∧ e ≤ maxExponent ∧ rational s m e = q

/-- Whether a double is on the same side as a number of all doubles. -/
structure Rounds (x : Double) (v : ℚ) : Prop where
  le : ∀ q, IsValue q → v ≤ q → x.value ≤ exact q
  ge : ∀ q, IsValue q → q ≤ v → exact q ≤ x.value

theorem rational_false (m : Nat) (e : Int) : rational false m e = m * 2 ^ e :=
  rfl

theorem rational_true (m : Nat) (e : Int) : rational true m e = -(m * 2 ^ e) := by
  simp [rational]

theorem IsValue.neg (h : IsValue q) : IsValue (-q) := by
  obtain ⟨s, m, e, hbits, hlow, hhigh, rfl⟩ := h
  refine ⟨!s, m, e, hbits, hlow, hhigh, ?_⟩
  cases s <;> simp [rational]

/-- Whole numbers are values as long as a significand has room for them. -/
theorem isValue_intCast {n : Int} (hn : n.natAbs < twoTo 53) : IsValue n := by
  have hnat (k : Nat) (hk : k < twoTo 53) : IsValue k :=
    ⟨false, k, 0, hk, by decide, by decide, by rw [rational_false, zpow_zero, mul_one]⟩
  obtain ⟨k, rfl | rfl⟩ := n.eq_nat_or_neg
  · exact hnat k hn
  · rw [Int.natAbs_neg] at hn
    rw [Int.cast_neg]
    exact (hnat k hn).neg

theorem value_zero (neg : Bool) : (zero neg).value = exact 0 := by
  cases neg <;> simp [zero, value, rational]

theorem value_neg_le (hx : x ≠ nan) (q : ℚ) : x.neg.value ≤ exact q ↔ exact (-q) ≤ x.value := by
  cases x with
  | nan => exact absurd rfl hx
  | inf s => cases s <;> simp [Double.neg, value]
  | finite s m e =>
    have hneg : rational (!s) m e = -rational s m e := by cases s <;> simp [rational]
    simp only [Double.neg, value, exact_le_exact, hneg]
    exact neg_le

theorem neg_neg_eq (x : Double) : x.neg.neg = x := by
  cases x <;> simp [Double.neg]

theorem neg_ne_nan (hx : x ≠ nan) : x.neg ≠ nan := by
  cases x with
  | nan => exact absurd rfl hx
  | inf | finite => exact Double.noConfusion

theorem le_value_neg (hx : x ≠ nan) (q : ℚ) : exact q ≤ x.neg.value ↔ x.value ≤ exact (-q) := by
  have h := value_neg_le (neg_ne_nan hx) (-q)
  rw [neg_neg_eq, neg_neg] at h
  exact h.symm

theorem Rounds.neg (h : x.Rounds v) (hx : x ≠ nan) : x.neg.Rounds (-v) := by
  constructor
  · intro q hq hle
    exact (value_neg_le hx q).mpr (h.ge _ hq.neg (neg_le.mp hle))
  · intro q hq hle
    exact (le_value_neg hx q).mpr (h.le _ hq.neg (le_neg.mp hle))

theorem nearestEven_le {n d k : Nat} (hd : 0 < d) (h : n ≤ k * d) : nearestEven n d ≤ k := by
  rcases Nat.lt_or_ge (n / d) k with hlt | hge
  · unfold nearestEven
    dsimp only
    split_ifs <;> omega
  · have hexact : n = k * d := Nat.le_antisymm h ((Nat.le_div_iff_mul_le hd).mp hge)
    rw [hexact, nearestEven_mul k hd]

theorem le_nearestEven_of_mul_le {n d k : Nat} (hd : 0 < d) (h : k * d ≤ n) : k ≤ nearestEven n d :=
  Nat.le_trans ((Nat.le_div_iff_mul_le hd).mpr h) (le_nearestEven n d)

theorem twoTo_cast (k : Nat) : (twoTo k : ℚ) = 2 ^ k := by
  rw [twoTo_eq, Nat.cast_pow, Nat.cast_ofNat]

/-- The fraction at a scale. -/
theorem scaleDown_spec (num : Nat) {den : Nat} (hden : 0 < den) (e : Int) : 0 < (scaleDown num den e).2 ∧
    ((scaleDown num den e).1 : ℚ) / (scaleDown num den e).2 = num / (2 ^ e * den) := by
  have hcast : (den : ℚ) ≠ 0 := by exact_mod_cast hden.ne'
  cases e with
  | ofNat k =>
    refine ⟨Nat.mul_pos hden (twoTo_pos k), ?_⟩
    simp only [scaleDown, Int.ofNat_eq_natCast, zpow_natCast, Nat.cast_mul, twoTo_cast]
    rw [mul_comm]
  | negSucc k =>
    refine ⟨hden, ?_⟩
    have hpow : (2 : ℚ) ^ (k + 1) ≠ 0 := pow_ne_zero _ two_ne_zero
    simp only [scaleDown, zpow_negSucc, Nat.cast_mul, twoTo_cast]
    field_simp

/-- The first estimate of the exponent is at most one too large. -/
theorem estimate_le {num : Nat} (hnum : num ≠ 0) (den : Nat) :
    (2 : ℚ) ^ 52 * 2 ^ ((Nat.log2 num : Int) - Nat.log2 den - 52 - 1) * den ≤ num := by
  have hlow : (2 : ℚ) ^ Nat.log2 num ≤ num := by exact_mod_cast Nat.log2_self_le hnum
  have hhigh : (den : ℚ) ≤ 2 ^ (Nat.log2 den + 1) := by exact_mod_cast Nat.lt_log2_self.le
  have hsplit : (2 : ℚ) ^ 52 * 2 ^ ((Nat.log2 num : Int) - Nat.log2 den - 52 - 1) * 2 ^ (Nat.log2 den + 1) =
      2 ^ Nat.log2 num := by
    rw [← zpow_natCast, ← zpow_natCast, ← zpow_natCast, ← zpow_add₀ two_ne_zero, ← zpow_add₀ two_ne_zero]
    congr 1
    push_cast
    ring
  calc (2 : ℚ) ^ 52 * 2 ^ ((Nat.log2 num : Int) - Nat.log2 den - 52 - 1) * den
      ≤ 2 ^ 52 * 2 ^ ((Nat.log2 num : Int) - Nat.log2 den - 52 - 1) * 2 ^ (Nat.log2 den + 1) := by
        gcongr
    _ = 2 ^ Nat.log2 num := hsplit
    _ ≤ num := hlow

theorem unit_pos {den : Nat} (hden : 0 < den) (e : Int) : (0 : ℚ) < 2 ^ e * den :=
  mul_pos (zpow_pos two_pos e) (by exact_mod_cast hden)

/-- Above the least exponent the significand has all of its bits. -/
theorem exponentOf_spec {num den : Nat} (hnum : num ≠ 0) (hden : 0 < den) : minExponent ≤ exponentOf num den ∧
    (exponentOf num den = minExponent ∨ (2 : ℚ) ^ 52 * 2 ^ exponentOf num den * den ≤ num) := by
  have hestimate := estimate_le hnum den
  unfold exponentOf
  dsimp only
  generalize (Nat.log2 num : Int) - Nat.log2 den - 52 = e at hestimate ⊢
  obtain ⟨hpos, hscale⟩ := scaleDown_spec num hden e
  generalize scaleDown num den e = r at hpos hscale ⊢
  obtain ⟨n, d⟩ := r
  dsimp only at hpos hscale ⊢
  refine ⟨le_max_left _ _, ?_⟩
  rcases le_total (if n < twoTo 52 * d then e - 1 else e) minExponent with hle | hle
  · exact .inl (max_eq_left hle)
  · rw [max_eq_right hle]
    right
    split_ifs with hshort
    · exact hestimate
    · have hfull : (2 : ℚ) ^ 52 * d ≤ n := by
        have hnat : twoTo 52 * d ≤ n := Nat.le_of_not_lt hshort
        exact_mod_cast hnat
      have hcast : (0 : ℚ) < d := by exact_mod_cast hpos
      rwa [← le_div_iff₀ hcast, hscale, le_div_iff₀ (unit_pos hden e), ← mul_assoc] at hfull

/-- The significand before it is carried over into the next power of two. -/
def significand (num den : Nat) : Nat :=
  nearestEven (scaleDown num den (exponentOf num den)).1 (scaleDown num den (exponentOf num den)).2

section Significand

variable {num den k : Nat}

theorem significand_le (hden : 0 < den) (h : (num : ℚ) ≤ k * 2 ^ exponentOf num den * den) :
    significand num den ≤ k := by
  obtain ⟨hpos, hscale⟩ := scaleDown_spec num hden (exponentOf num den)
  have hcast : (0 : ℚ) < (scaleDown num den (exponentOf num den)).2 := by exact_mod_cast hpos
  rw [mul_assoc, ← div_le_iff₀ (unit_pos hden _), ← hscale, div_le_iff₀ hcast] at h
  exact nearestEven_le hpos (by exact_mod_cast h)

theorem le_significand (hden : 0 < den) (h : (k : ℚ) * 2 ^ exponentOf num den * den ≤ num) :
    k ≤ significand num den := by
  obtain ⟨hpos, hscale⟩ := scaleDown_spec num hden (exponentOf num den)
  have hcast : (0 : ℚ) < (scaleDown num den (exponentOf num den)).2 := by exact_mod_cast hpos
  rw [mul_assoc, ← le_div_iff₀ (unit_pos hden _), ← hscale, le_div_iff₀ hcast] at h
  exact le_nearestEven_of_mul_le hpos (by exact_mod_cast h)

/-- The result of rounding: the significand at its scale, or an infinity if that is too large for a double. -/
theorem round_spec (hnum : num ≠ 0) (den : Nat) : ∃ m e,
    round false num den = (if maxExponent < e then inf false else finite false m e) ∧
      rational false m e = significand num den * 2 ^ exponentOf num den ∧
      (e = exponentOf num den ∨ e = exponentOf num den + 1 ∧ twoTo 53 ≤ significand num den) := by
  have hround : round false num den =
      (let r := if significand num den = twoTo 53 then (twoTo 52, exponentOf num den + 1)
        else (significand num den, exponentOf num den)
      if maxExponent < r.2 then inf false else finite false r.1 r.2) := by
    unfold round significand
    rw [if_neg hnum]
  rw [hround]
  by_cases hcarry : significand num den = twoTo 53
  · refine ⟨twoTo 52, exponentOf num den + 1, by rw [if_pos hcarry], ?_, .inr ⟨rfl, hcarry.ge⟩⟩
    rw [rational_false, hcarry, twoTo_cast, twoTo_cast, zpow_add₀ two_ne_zero]
    ring
  · exact ⟨significand num den, exponentOf num den, by rw [if_neg hcarry], rational_false _ _, .inl rfl⟩

/-- A double with a smaller exponent is smaller than what is rounded at the larger one. -/
theorem rational_lt_of_exponent {m : Nat} {f e : Int} (hm : m < twoTo 53) (hf : f < e) :
    rational false m f < 2 ^ 52 * 2 ^ e := by
  have hcast : (m : ℚ) < 2 ^ 53 := by
    rw [← twoTo_cast]
    exact_mod_cast hm
  have hstep : (2 : ℚ) ^ (f + 1) ≤ 2 ^ e := zpow_le_zpow_right₀ one_le_two (by omega)
  calc rational false m f < 2 ^ 53 * 2 ^ f := mul_lt_mul_of_pos_right hcast (zpow_pos two_pos f)
    _ = 2 ^ 52 * 2 ^ (f + 1) := by
        rw [zpow_add₀ two_ne_zero]
        ring
    _ ≤ 2 ^ 52 * 2 ^ e := mul_le_mul_of_nonneg_left hstep (by positivity)

/-- A double with at least as large an exponent is a multiple of the unit that is rounded to. -/
theorem exists_multiple {m : Nat} {f e : Int} (hf : e ≤ f) : ∃ k : Nat, rational false m f = k * 2 ^ e ∧
    (f = e → k = m) := by
  obtain ⟨j, rfl⟩ := Int.exists_add_of_le hf
  refine ⟨m * 2 ^ j, ?_, fun h => ?_⟩
  · rw [rational_false, zpow_add₀ two_ne_zero, zpow_natCast]
    push_cast
    ring
  · obtain rfl : j = 0 := by omega
    simp

/-- Where a double with a smaller exponent would do, the significand has all of its bits. -/
theorem full_of_lt {f : Int} (hnum : num ≠ 0) (hden : 0 < den) (hlow : minExponent ≤ f) (hf : f < exponentOf num den) :
    (2 : ℚ) ^ 52 * 2 ^ exponentOf num den * den ≤ num := by
  obtain ⟨-, hleast | hfull⟩ := exponentOf_spec hnum hden
  · omega
  · exact hfull

theorem rational_true_nonpos (m : Nat) (e : Int) : rational true m e ≤ 0 := by
  rw [rational_true]
  exact neg_nonpos.mpr (by positivity)

/-- No double at or above a number is below what it is rounded to. -/
theorem round_le (hnum : num ≠ 0) (hden : 0 < den) (hq : IsValue q) (h : (num : ℚ) / den ≤ q) :
    (round false num den).value ≤ exact q := by
  obtain ⟨s, n, f, hbits, hlow, hhigh, rfl⟩ := hq
  have hcast : (0 : ℚ) < den := by exact_mod_cast hden
  have hpos : (0 : ℚ) < num / den := div_pos (by exact_mod_cast Nat.pos_of_ne_zero hnum) hcast
  cases s with
  | true => exact absurd (lt_of_lt_of_le hpos h) (not_lt.mpr (rational_true_nonpos n f))
  | false =>
    have hf : exponentOf num den ≤ f := by
      by_contra hlt
      have hfull := full_of_lt hnum hden hlow (not_le.mp hlt)
      have hsmall := rational_lt_of_exponent hbits (not_le.mp hlt)
      rw [← le_div_iff₀ hcast] at hfull
      exact absurd (hfull.trans h) (not_le.mpr hsmall)
    obtain ⟨k, hk, hsame⟩ := exists_multiple hf
    rw [hk, div_le_iff₀ hcast] at h
    have hle : significand num den ≤ k := significand_le hden h
    obtain ⟨m, e, hround, hvalue, he⟩ := round_spec hnum den
    -- a carry beyond the largest exponent would be above the largest double
    have hrange : ¬maxExponent < e := by
      rcases he with rfl | ⟨rfl, hcarry⟩
      · omega
      · intro hover
        have hexact : k = n := hsame (by omega)
        omega
    rw [hround, if_neg hrange, value, exact_le_exact, hvalue, hk]
    exact mul_le_mul_of_nonneg_right (by exact_mod_cast hle) (by positivity)

/-- No double at or below a number is above what it is rounded to. -/
theorem le_round (hnum : num ≠ 0) (hden : 0 < den) (hq : IsValue q) (h : q ≤ (num : ℚ) / den) :
    exact q ≤ (round false num den).value := by
  obtain ⟨s, n, f, hbits, hlow, -, rfl⟩ := hq
  have hcast : (0 : ℚ) < den := by exact_mod_cast hden
  obtain ⟨m, e, hround, hvalue, -⟩ := round_spec hnum den
  rw [hround]
  split_ifs
  · exact le_top
  · rw [value, exact_le_exact, hvalue]
    have hunit : (0 : ℚ) ≤ 2 ^ exponentOf num den := by positivity
    cases s with
    | true => exact (rational_true_nonpos n f).trans (mul_nonneg (by positivity) hunit)
    | false =>
      rcases le_or_gt (exponentOf num den) f with hf | hf
      · obtain ⟨k, hk, -⟩ := exists_multiple hf
        rw [hk, le_div_iff₀ hcast] at h
        have hle : k ≤ significand num den := le_significand hden h
        rw [hk]
        exact mul_le_mul_of_nonneg_right (by exact_mod_cast hle) hunit
      · have hfull : twoTo 52 ≤ significand num den :=
          le_significand hden (by rw [twoTo_cast]; exact full_of_lt hnum hden hlow hf)
        have hle : (2 : ℚ) ^ 52 ≤ significand num den := by
          rw [← twoTo_cast]
          exact_mod_cast hfull
        exact (rational_lt_of_exponent hbits hf).le.trans (mul_le_mul_of_nonneg_right hle hunit)

end Significand

theorem rounds_zero (neg : Bool) : (zero neg).Rounds 0 := by
  constructor
  · intro q _ hle
    rw [value_zero, exact_le_exact]
    exact hle
  · intro q _ hle
    rw [value_zero, exact_le_exact]
    exact hle

/-- A fraction with a sign. -/
def signed (neg : Bool) (v : ℚ) : ℚ :=
  if neg then -v else v

theorem Rounds.signed (h : x.Rounds v) (hx : x ≠ nan) (neg : Bool) :
    (if neg then x.neg else x).Rounds (signed neg v) := by
  cases neg with
  | false => exact h
  | true => exact h.neg hx

/-- A fraction is rounded to a double that is on the same side of all others. -/
theorem rounds_round (neg : Bool) (num : Nat) {den : Nat} (hden : 0 < den) :
    (round neg num den).Rounds (signed neg (num / den)) := by
  have hpositive : (round false num den).Rounds (num / den) := by
    by_cases hnum : num = 0
    · rw [hnum, Nat.cast_zero, zero_div]
      exact rounds_zero false
    · exact ⟨fun q => round_le hnum hden, fun q => le_round hnum hden⟩
  have hsigned := hpositive.signed (round_ne_nan false num den) neg
  cases neg with
  | false => exact hsigned
  | true =>
    rw [round_true]
    exact hsigned

theorem tenTo_pos (k : Nat) : (0 : ℚ) < tenTo k := by
  exact_mod_cast Nat.pow_pos (by decide)

theorem tenTo_add (j k : Nat) : tenTo (j + k) = tenTo j * tenTo k :=
  Nat.pow_add 10 j k

theorem IsValue.lt (h : IsValue q) : q < tenTo 310 := by
  obtain ⟨s, m, e, hbits, -, hhigh, rfl⟩ := h
  have hlarge : twoTo 53 * twoTo 971 ≤ tenTo 310 := by decide +kernel
  have hm : (m : ℚ) < twoTo 53 := by exact_mod_cast hbits
  have he : (2 : ℚ) ^ e ≤ twoTo 971 := by
    rw [twoTo_cast, ← zpow_natCast]
    exact zpow_le_zpow_right₀ one_le_two hhigh
  have hpos : (0 : ℚ) < twoTo 971 := by exact_mod_cast twoTo_pos 971
  cases s with
  | true => exact lt_of_le_of_lt (rational_true_nonpos m e) (tenTo_pos 310)
  | false =>
    calc rational false m e ≤ m * twoTo 971 := mul_le_mul_of_nonneg_left he (Nat.cast_nonneg m)
      _ < twoTo 53 * twoTo 971 := mul_lt_mul_of_pos_right hm hpos
      _ ≤ tenTo 310 := by exact_mod_cast hlarge

theorem IsValue.le_of_pos (h : IsValue q) (hq : 0 < q) : 1 / (tenTo 331 : ℚ) ≤ q := by
  obtain ⟨s, m, e, -, hlow, -, rfl⟩ := h
  cases s with
  | true => exact absurd hq (not_lt.mpr (rational_true_nonpos m e))
  | false =>
    have hunit : (0 : ℚ) < 2 ^ e := zpow_pos two_pos e
    have hm : (1 : ℚ) ≤ m := by
      rw [Nat.one_le_cast, Nat.one_le_iff_ne_zero]
      intro hzero
      rw [rational_false, hzero, Nat.cast_zero, zero_mul] at hq
      exact lt_irrefl 0 hq
    have hsmall : twoTo 1074 ≤ tenTo 331 := by decide +kernel
    have hcast : (twoTo 1074 : ℚ) ≤ tenTo 331 := by exact_mod_cast hsmall
    have hpos : (0 : ℚ) < twoTo 1074 := by exact_mod_cast twoTo_pos 1074
    have hleast : 1 / (twoTo 1074 : ℚ) ≤ 2 ^ e := by
      rw [twoTo_cast, one_div, ← zpow_natCast, ← zpow_neg]
      exact zpow_le_zpow_right₀ one_le_two hlow
    calc 1 / (tenTo 331 : ℚ) ≤ 1 / twoTo 1074 := one_div_le_one_div_of_le hpos hcast
      _ ≤ 2 ^ e := hleast
      _ = 1 * 2 ^ e := (one_mul _).symm
      _ ≤ m * 2 ^ e := mul_le_mul_of_nonneg_right hm hunit.le

/-- What is above all doubles is rounded to an infinity. -/
theorem rounds_inf (neg : Bool) (h : (tenTo 310 : ℚ) ≤ v) : (inf neg).Rounds (signed neg v) := by
  have hpositive : (inf false).Rounds v := by
    constructor
    · intro q hq hle
      exact absurd hq.lt (not_lt.mpr (h.trans hle))
    · intro q _ _
      exact le_top
  have hsigned := hpositive.signed Double.noConfusion neg
  cases neg <;> exact hsigned

/-- What is between zero and all other doubles is rounded to zero. -/
theorem rounds_tiny (neg : Bool) (hpos : 0 ≤ v) (h : v < 1 / tenTo 331) : (zero neg).Rounds (signed neg v) := by
  have hpositive : (zero false).Rounds v := by
    constructor
    · intro q _ hle
      rw [value_zero, exact_le_exact]
      exact hpos.trans hle
    · intro q hq hle
      rw [value_zero, exact_le_exact]
      by_contra hlt
      exact absurd (hq.le_of_pos (not_le.mp hlt)) (not_le.mpr (lt_of_le_of_lt hle h))
  have hsigned := hpositive.signed Double.noConfusion neg
  cases neg <;> exact hsigned

/-- The digits of a decimal, some of them behind the point, are rounded to a double on the same side of all others. -/
theorem rounds_ofScaledDecimal (neg : Bool) (d n : Nat) :
    (ofScaledDecimal neg d (0 - (n : Int))).Rounds (signed neg (d / tenTo n)) := by
  have hpow := tenTo_pos n
  unfold ofScaledDecimal
  dsimp only
  split_ifs with hzero hlarge hsmall
  · rw [hzero, Nat.cast_zero, zero_div]
    have hrounds := (rounds_zero false).signed Double.noConfusion neg
    cases neg <;> exact hrounds
  · apply rounds_inf
    have hbound : tenTo (310 + n) ≤ d := by
      by_contra hlt
      have := (Nat.length_toDigits_le_iff (by decide) (by omega)).mpr (not_le.mp hlt)
      omega
    rw [le_div_iff₀ hpow]
    rw [tenTo_add] at hbound
    exact_mod_cast hbound
  · apply rounds_tiny
    · positivity
    · obtain ⟨j, rfl⟩ : ∃ j, n = j + 331 := ⟨n - 331, by omega⟩
      have hdigits := List.length_pos_of_ne_nil (Nat.toDigits_ne_nil (b := 10) (n := d))
      have hbound : d < tenTo j := (Nat.length_toDigits_le_iff (by decide) (by omega)).mp (by omega)
      have hcast : (d : ℚ) < tenTo j := by exact_mod_cast hbound
      rw [div_lt_div_iff₀ hpow (tenTo_pos 331), one_mul, tenTo_add, Nat.cast_mul]
      exact mul_lt_mul_of_pos_right hcast (tenTo_pos 331)
  · cases n with
    | zero => simpa [tenTo] using rounds_round neg (d * tenTo 0) Nat.one_pos
    | succ n => exact rounds_round neg d (Nat.pow_pos (by decide))

/-- Whether doubles tell a number from a greater one: there are two between them. -/
def Apart (v w : ℚ) : Prop :=
  ∃ p q, IsValue p ∧ IsValue q ∧ v ≤ p ∧ p < q ∧ q ≤ w

theorem IsValue.apart {w : ℚ} (hv : IsValue v) (hw : IsValue w) (hlt : v < w) : Apart v w :=
  ⟨v, w, hv, hw, le_rfl, hlt, le_rfl⟩

theorem Rounds.lt {y : Double} {w : ℚ} (hx : x.Rounds v) (hy : y.Rounds w) (h : Apart v w) : x.value < y.value := by
  obtain ⟨p, q, hp, hq, hvp, hpq, hqw⟩ := h
  calc x.value ≤ exact p := hx.le p hp hvp
    _ < exact q := exact_strictMono hpq
    _ ≤ y.value := hy.ge q hq hqw

end LineScript.Number.Double
