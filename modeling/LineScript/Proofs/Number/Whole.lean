import Mathlib.Algebra.Order.Ring.Nat
import Mathlib.Data.List.TakeWhile
import Mathlib.Tactic.Common
import Mathlib.Tactic.Ring
import LineScript.Number.Decimal
import LineScript.Proofs.Script.Tokens
import LineScript.Proofs.Text.Trimming

/-! Whole numbers as doubles. Those below `2 ^ 53` are doubles, larger ones are rounded to numbers that are at least
as large as that, and decimal digits spell them. -/
namespace LineScript.Number

theorem twoTo_eq (k : Nat) : twoTo k = 2 ^ k :=
  rfl

theorem twoTo_add (i k : Nat) : twoTo (i + k) = twoTo i * twoTo k :=
  pow_add 2 i k

theorem twoTo_pos (k : Nat) : 0 < twoTo k :=
  Nat.two_pow_pos k

theorem log2_mul_twoTo {n : Nat} (hn : n ≠ 0) (j : Nat) : Nat.log2 (n * twoTo j) = Nat.log2 n + j := by
  rw [Nat.log2_eq_iff (Nat.mul_ne_zero hn (Nat.ne_of_gt (twoTo_pos j)))]
  have hlow := Nat.log2_self_le hn
  have hhigh : n < 2 ^ (n.log2 + 1) := Nat.lt_log2_self
  constructor
  · rw [pow_add]
    exact Nat.mul_le_mul_right _ hlow
  · have hsplit : 2 ^ (n.log2 + j + 1) = 2 ^ (n.log2 + 1) * 2 ^ j := by ring
    rw [hsplit]
    exact Nat.mul_lt_mul_of_pos_right hhigh (twoTo_pos j)

namespace Double

/-- Whether a double is a whole number. -/
def Equals : Double → Int → Prop
  | finite s m e, n =>
    (finite s m e).isInteger = true ∧ (if s then -(truncated m e : Int) else truncated m e) = n
  | _, _ => False

variable {x : Double} {n : Int}

theorem Equals.isFinite (h : x.Equals n) : x.isFinite = true := by
  cases x with
  | finite s m e => rfl
  | nan | inf => cases h

/-- As a size, a negative number counts as zero, and no number is larger than the largest size. -/
theorem Equals.toSize (h : x.Equals n) : x.toSize = min n.toNat (twoTo 64 - 1) := by
  cases x with
  | nan | inf => cases h
  | finite s m e =>
    have hn := h.2
    unfold Double.toSize toIntWithin
    dsimp only
    rw [hn]
    have hbound : (1 : Int) ≤ twoTo 64 := by decide
    omega

theorem equals_zero (s : Bool) (e : Int) : (finite s 0 e).Equals 0 := by
  cases e <;> simp [Equals, isInteger, truncated]

theorem Equals.clampBelow (h : x.Equals n) : ∃ m e, x.clampBelow = finite false m e ∧
    (finite false m e).Equals (max n 0) := by
  cases x with
  | nan | inf => cases h
  | finite s m e =>
    obtain ⟨hinteger, hn⟩ := h
    cases s with
    | false =>
      refine ⟨m, e, rfl, hinteger, ?_⟩
      simp only [Bool.false_eq_true, if_false] at hn ⊢
      omega
    | true =>
      simp only [if_true] at hn
      have hmax : max n 0 = 0 := by omega
      refine ⟨0, minExponent, rfl, ?_⟩
      rw [hmax]
      exact equals_zero false minExponent

section Rounding

variable {i j k m : Nat}

theorem nearestEven_mul (m : Nat) {d : Nat} (hd : 0 < d) : nearestEven (m * d) d = m := by
  unfold nearestEven
  simp [Nat.mul_div_cancel m hd, hd]

theorem le_nearestEven (num den : Nat) : num / den ≤ nearestEven num den := by
  unfold nearestEven
  dsimp only
  split_ifs <;> omega

theorem scaleDown_neg (num den k : Nat) : scaleDown num den (-(k : Int)) = (num * twoTo k, den) := by
  cases k with
  | zero => simp [scaleDown, twoTo_eq]
  | succ k => rfl

theorem exponentOf_whole (hi : i ≠ 0) (j : Nat) : exponentOf (i * twoTo j) (twoTo j) = (Nat.log2 i : Int) - 52 := by
  have hlow := Nat.log2_self_le hi
  have hden : Nat.log2 (twoTo j) = j := Nat.log2_two_pow
  have hscale : ((Nat.log2 (i * twoTo j) : Nat) : Int) - (Nat.log2 (twoTo j) : Nat) - 52 = (Nat.log2 i : Int) - 52 := by
    rw [log2_mul_twoTo hi, hden]
    omega
  unfold exponentOf
  dsimp only
  rw [hscale]
  rcases Nat.le_total (Nat.log2 i) 52 with hle | hle
  · obtain ⟨k, hk⟩ := Nat.exists_eq_add_of_le hle
    have hexp : (Nat.log2 i : Int) - 52 = -(k : Int) := by omega
    have hfull : ¬i * twoTo j * twoTo k < twoTo 52 * twoTo j := by
      have hprod : twoTo 52 ≤ i * twoTo k := by
        rw [hk, twoTo_add]
        exact Nat.mul_le_mul_right _ hlow
      have := Nat.mul_le_mul_right (twoTo j) hprod
      rw [Nat.mul_right_comm]
      omega
    rw [hexp, scaleDown_neg, if_neg hfull]
    unfold minExponent
    omega
  · obtain ⟨k, hk⟩ := Nat.exists_eq_add_of_le hle
    have hexp : (Nat.log2 i : Int) - 52 = (k : Int) := by omega
    have hfull : ¬i * twoTo j < twoTo 52 * (twoTo j * twoTo k) := by
      have hprod : twoTo 52 * twoTo k ≤ i := by
        rw [← twoTo_add, ← hk]
        exact hlow
      have := Nat.mul_le_mul_right (twoTo j) hprod
      rw [Nat.mul_comm (twoTo j), ← Nat.mul_assoc]
      omega
    rw [hexp]
    change max minExponent (if i * twoTo j < twoTo 52 * (twoTo j * twoTo k) then (k : Int) - 1 else k) = k
    rw [if_neg hfull]
    unfold minExponent
    omega

/-- Whole numbers below `2 ^ 53` are not rounded. -/
theorem round_equals (hi : i < twoTo 53) (j : Nat) : (round false (i * twoTo j) (twoTo j)).Equals i := by
  rcases Nat.eq_zero_or_pos i with rfl | hpos
  · have hzero : round false (0 * twoTo j) (twoTo j) = zero false := by simp [round]
    rw [hzero]
    exact equals_zero false minExponent
  · have hne : i ≠ 0 := Nat.ne_of_gt hpos
    have hlog : Nat.log2 i < 53 := (Nat.log2_lt hne).mpr hi
    obtain ⟨k, hk⟩ := Nat.exists_eq_add_of_le (Nat.le_of_lt_succ hlog)
    have hexp : (Nat.log2 i : Int) - 52 = -(k : Int) := by omega
    have hlt : i * twoTo k < twoTo 53 := by
      have hupper : i < 2 ^ (Nat.log2 i + 1) := Nat.lt_log2_self
      have hsplit : twoTo 53 = 2 ^ (Nat.log2 i + 1) * twoTo k := by
        rw [twoTo_eq, twoTo_eq, ← pow_add]
        congr 1
        omega
      rw [hsplit]
      exact Nat.mul_lt_mul_of_pos_right hupper (twoTo_pos k)
    have hround : round false (i * twoTo j) (twoTo j) = finite false (i * twoTo k) (-(k : Int)) := by
      have hnum : i * twoTo j ≠ 0 := Nat.mul_ne_zero hne (Nat.ne_of_gt (twoTo_pos j))
      have hrange : ¬maxExponent < -(k : Int) := by unfold maxExponent; omega
      unfold round
      rw [if_neg hnum, exponentOf_whole hne, hexp]
      dsimp only
      rw [scaleDown_neg]
      dsimp only
      rw [Nat.mul_right_comm, nearestEven_mul _ (twoTo_pos j), if_neg (Nat.ne_of_lt hlt)]
      dsimp only
      rw [if_neg hrange]
    rw [hround]
    cases k with
    | zero => simp [Equals, isInteger, truncated, twoTo_eq]
    | succ k =>
      have hdvd : i * twoTo (k + 1) % twoTo (k + 1) = 0 := Nat.mul_mod_left _ _
      have hdiv : i * twoTo (k + 1) / twoTo (k + 1) = i := Nat.mul_div_cancel i (twoTo_pos _)
      have hneg : -((k + 1 : Nat) : Int) = Int.negSucc k := rfl
      rw [hneg]
      simp [Equals, isInteger, truncated, hdvd, hdiv]

/-- A full significand with a positive exponent, unless that is too large for a double. -/
theorem le_toSize_of_scaled (hm : twoTo 52 ≤ m) : twoTo 53 ≤
    (if maxExponent < ((k + 1 : Nat) : Int) then inf false else finite false m ((k + 1 : Nat) : Int)).toSize := by
  have hvalue : truncated m ((k + 1 : Nat) : Int) = m * twoTo (k + 1) := rfl
  have hlarge : twoTo 53 ≤ m * twoTo (k + 1) := by
    have htwo : twoTo 1 ≤ twoTo (k + 1) := Nat.pow_le_pow_right Nat.two_pos (by omega)
    calc twoTo 53 = twoTo 52 * twoTo 1 := twoTo_add 52 1
      _ ≤ m * twoTo (k + 1) := Nat.mul_le_mul hm htwo
  have h53 : twoTo 53 ≤ twoTo 64 - 1 := by decide
  have h64 : (1 : Int) ≤ twoTo 64 := by decide
  split_ifs
  · decide
  · unfold toSize toIntWithin
    simp only [hvalue, Bool.false_eq_true, if_false]
    omega

/-- Larger whole numbers stay at least as large as that. -/
theorem le_toSize_round (hi : twoTo 53 ≤ i) (j : Nat) :
    twoTo 53 ≤ (round false (i * twoTo j) (twoTo j)).toSize := by
  have hne : i ≠ 0 := Nat.ne_of_gt (Nat.lt_of_lt_of_le (twoTo_pos 53) hi)
  have hlow := Nat.log2_self_le hne
  have hlog : 53 ≤ Nat.log2 i := (Nat.le_log2 hne).mpr hi
  obtain ⟨k, hk⟩ := Nat.exists_eq_add_of_le hlog
  have hexp : (Nat.log2 i : Int) - 52 = ((k + 1 : Nat) : Int) := by omega
  have hq : twoTo 52 ≤ nearestEven (i * twoTo j) (twoTo j * twoTo (k + 1)) := by
    refine Nat.le_trans ?_ (le_nearestEven _ _)
    rw [Nat.mul_comm (twoTo j), Nat.mul_div_mul_right _ _ (twoTo_pos j), Nat.le_div_iff_mul_le (twoTo_pos _)]
    calc twoTo 52 * twoTo (k + 1) = 2 ^ Nat.log2 i := by
          rw [← twoTo_add, twoTo_eq]
          congr 1
          omega
      _ ≤ i := hlow
  have hnum : i * twoTo j ≠ 0 := Nat.mul_ne_zero hne (Nat.ne_of_gt (twoTo_pos j))
  have hscale : scaleDown (i * twoTo j) (twoTo j) ((k + 1 : Nat) : Int) = (i * twoTo j, twoTo j * twoTo (k + 1)) := rfl
  unfold round
  rw [if_neg hnum, exponentOf_whole hne, hexp]
  dsimp only
  rw [hscale]
  dsimp only
  by_cases hcarry : nearestEven (i * twoTo j) (twoTo j * twoTo (k + 1)) = twoTo 53
  · rw [if_pos hcarry]
    exact le_toSize_of_scaled (k := k + 1) (Nat.le_refl _)
  · rw [if_neg hcarry]
    exact le_toSize_of_scaled hq

theorem ofNat_equals (hi : i < twoTo 53) : (ofNat i).Equals i := by
  have hunit : ofNat i = round false (i * twoTo 0) (twoTo 0) := by simp [ofNat, twoTo_eq]
  rw [hunit]
  exact round_equals hi 0

end Rounding

/-- One more than a whole number that is not negative, before it is rounded. -/
theorem add_one_eq_round {m : Nat} {e : Int} {i : Nat} (h : (finite false m e).Equals i) :
    ∃ j, (finite false m e).add (ofNat 1) = round false ((i + 1) * twoTo j) (twoTo j) := by
  have hone : ofNat 1 = finite false (twoTo 52) (-52) := by decide +kernel
  obtain ⟨hinteger, hi⟩ := h
  simp only [Bool.false_eq_true, if_false, Int.natCast_inj] at hi
  -- both parts at the smaller of the two scales, where the first is a multiple of a power of two
  obtain ⟨j, hlow, hj⟩ : ∃ j : Nat, min e (-52) = Int.negSucc j ∧
      m * twoTo (e - Int.negSucc j).toNat = i * twoTo (j + 1) := by
    cases e with
    | ofNat a =>
      have hlow : min (Int.ofNat a) (-52) = Int.negSucc 51 := by
        rw [Int.ofNat_eq_natCast, Int.negSucc_eq]
        omega
      refine ⟨51, hlow, ?_⟩
      have hshift : (Int.ofNat a - Int.negSucc 51).toNat = a + 52 := by
        rw [Int.ofNat_eq_natCast, Int.negSucc_eq]
        omega
      rw [hshift, twoTo_add, ← Nat.mul_assoc]
      exact congrArg (· * twoTo 52) hi
    | negSucc a =>
      have hdvd : m % twoTo (a + 1) = 0 := by simpa [isInteger] using hinteger
      have hm : m = i * twoTo (a + 1) := by
        have hdiv := Nat.div_add_mod m (twoTo (a + 1))
        have hquot : m / twoTo (a + 1) = i := hi
        rw [hdvd, hquot, Nat.add_zero, Nat.mul_comm] at hdiv
        exact hdiv.symm
      refine ⟨max a 51, ?_, ?_⟩
      · simp only [Int.negSucc_eq]
        omega
      · have hshift : (Int.negSucc a - Int.negSucc (max a 51)).toNat = max a 51 - a := by
          simp only [Int.negSucc_eq]
          omega
        rw [hshift, hm, Nat.mul_assoc, ← twoTo_add]
        congr 2
        omega
  have hunit : twoTo 52 * twoTo (-52 - Int.negSucc j).toNat = twoTo (j + 1) := by
    have hle : Int.negSucc j ≤ -52 := hlow ▸ min_le_right e (-52)
    have hshift : 52 + (-52 - Int.negSucc j).toNat = j + 1 := by
      rw [Int.negSucc_eq] at hle ⊢
      omega
    rw [← twoTo_add, hshift]
  refine ⟨j + 1, ?_⟩
  have hsum : signedAt false m e (Int.negSucc j) + signedAt false (twoTo 52) (-52) (Int.negSucc j) =
      ((i + 1) * twoTo (j + 1) : Nat) := by
    unfold signedAt
    simp only [Bool.false_eq_true, if_false]
    rw [← Int.natCast_mul, ← Int.natCast_mul, hj, hunit, Nat.add_mul, Nat.one_mul, Int.natCast_add]
  have hpos : 0 < (i + 1) * twoTo (j + 1) := Nat.mul_pos (Nat.succ_pos i) (twoTo_pos _)
  have hzero : ¬(((i + 1) * twoTo (j + 1) : Nat) : Int) = 0 := by omega
  have hsign : decide ((((i + 1) * twoTo (j + 1) : Nat) : Int) < 0) = false := decide_eq_false (by omega)
  rw [hone]
  unfold add
  dsimp only
  rw [hlow, hsum, if_neg hzero, hsign, Int.natAbs_natCast]
  rfl

end Double

/-- Whether a text spells a whole number. -/
def Spells (text : String) (n : Int) : Prop :=
  ∃ x, ofTrimmed? text = some x ∧ x.Equals n

theorem Double.Equals.neg {x : Double} {n : Int} (h : x.Equals n) : x.neg.Equals (-n) := by
  cases x with
  | nan | inf => cases h
  | finite s m e =>
    obtain ⟨hinteger, hn⟩ := h
    constructor
    · cases e with
      | ofNat k => rfl
      | negSucc k => exact hinteger
    · cases s <;> simp only [Bool.not_true, Bool.not_false, Bool.false_eq_true, if_true, if_false] at hn ⊢ <;> omega

theorem Double.round_true (num den : Nat) : Double.round true num den = (Double.round false num den).neg := by
  unfold Double.round
  dsimp only
  split_ifs <;> rfl

/-- The digits of a number, with or without a minus sign in front. -/
theorem unsigned?_digits {k : Nat} (hk : k < twoTo 53) (neg : Bool) :
    ∃ x, unsigned? neg (Nat.toDigits 10 k) = some x ∧ x.Equals (if neg then -(k : Int) else k) := by
  have hdigits : ∀ c ∈ Nat.toDigits 10 k, c.isDigit = true :=
    fun c hc => Nat.isDigit_of_mem_toDigits (by decide) (by decide) hc
  have hwhole : (Nat.toDigits 10 k).takeWhile Char.isDigit = Nat.toDigits 10 k := by
    rw [List.takeWhile_eq_self_iff]
    exact hdigits
  have hrest : (Nat.toDigits 10 k).dropWhile Char.isDigit = [] := by
    rw [List.dropWhile_eq_nil_iff]
    exact hdigits
  have hsome : (Nat.toDigits 10 k).isEmpty = false := List.isEmpty_eq_false_iff.mpr Nat.toDigits_ne_nil
  have hvalue : digitsValue 0 (Nat.toDigits 10 k) = k := by
    rw [digitsValue, ← Nat.ofDigitChars_eq_foldl, Nat.ofDigitChars_toDigits (by decide) (by decide)]
  have hread : unsigned? neg (Nat.toDigits 10 k) = some (Double.ofScaledDecimal neg k 0) := by
    unfold unsigned?
    have hnone : digitsValue k [] = k := rfl
    simp only [hwhole, hrest, hsome, hvalue, hnone, Bool.false_and, Bool.false_eq_true, if_false, exponent?,
      Option.map_some, List.length_nil, Nat.cast_zero, sub_zero]
  refine ⟨_, hread, ?_⟩
  have hround : (Double.round false k 1).Equals k := Double.ofNat_equals hk
  unfold Double.ofScaledDecimal
  by_cases hzero : k = 0
  · rw [if_pos hzero, hzero]
    have h := Double.equals_zero neg Double.minExponent
    simpa [Double.zero] using h
  · have hlength : (Nat.toDigits 10 k).length ≤ 16 :=
      (Nat.length_toDigits_le_iff (by decide) (by decide)).mpr (Nat.lt_of_lt_of_le hk (by decide))
    have hsmall : ¬310 < ((Nat.toDigits 10 k).length : Int) + 0 := by omega
    have hlarge : ¬((Nat.toDigits 10 k).length : Int) + 0 < -330 := by omega
    have hscale : k * tenTo 0 = k := Nat.mul_one k
    rw [if_neg hzero]
    dsimp only
    rw [if_neg hsmall, if_neg hlarge]
    change (Double.round neg (k * tenTo 0) 1).Equals _
    rw [hscale]
    cases neg with
    | false => exact hround
    | true =>
      rw [Double.round_true]
      exact hround.neg

theorem toLower_of_isDigit {c : Char} (hc : c.isDigit = true) : c.toLower = c := by
  obtain ⟨-, hle⟩ := Token.isDigit_iff.mp hc
  have hupper : ¬(c.val ≥ 'A'.val ∧ c.val ≤ 'Z'.val) := by
    intro h
    exact absurd (UInt32.le_trans h.1 hle) (by decide)
  unfold Char.toLower
  rw [dif_neg hupper]

theorem isBlank_of_isDigit {c : Char} (hc : c.isDigit = true) : Text.isBlank c = false := by
  have h := Token.isDigit_iff.mp hc
  have hlow : 48 ≤ c.toNat := h.1
  have hhigh : c.toNat ≤ 57 := h.2
  simp [Text.isBlank]
  omega

/-- What starts with a digit is no word. -/
theorem ofText?_of_digit {c : Char} {cs : List Char} (neg : Bool) (hc : c.isDigit = true) :
    ofText? ((if neg then ['-'] else []) ++ c :: cs) = unsigned? neg (c :: cs) := by
  have hne (d : Char) (hd : d.isDigit = false) : c ≠ d := by
    intro heq
    rw [heq, hd] at hc
    cases hc
  have hsign : takeSign ((if neg then ['-'] else []) ++ c :: cs) = (neg, c :: cs) := by
    cases neg with
    | true => rfl
    | false => simp [takeSign, hne '-' (by decide), hne '+' (by decide)]
  unfold ofText?
  rw [hsign]
  dsimp only
  rw [List.map_cons, toLower_of_isDigit hc]
  simp [hne 'i' (by decide), hne 'n' (by decide)]

/-- The usual form of a whole number spells it, if a double holds it exactly. -/
theorem spells_toString {n : Int} (hn : n.natAbs < twoTo 53) : Spells (toString n) n := by
  obtain ⟨neg, k, hvalue, htext⟩ : ∃ (neg : Bool) (k : Nat), n = (if neg then -(k : Int) else k) ∧
      (toString n).toList = (if neg then ['-'] else []) ++ Nat.toDigits 10 k := by
    cases n with
    | ofNat k => exact ⟨false, k, rfl, Nat.toList_repr⟩
    | negSucc k => exact ⟨true, k + 1, rfl, by
        have h : toString (Int.negSucc k) = "-" ++ (k + 1).repr := rfl
        rw [h, String.toList_append, Nat.toList_repr]
        rfl⟩
  have hk : k < twoTo 53 := by
    cases neg <;> simp only [Bool.false_eq_true, if_true, if_false] at hvalue <;> omega
  obtain ⟨x, hread, hx⟩ := unsigned?_digits hk neg
  have htight : Text.Tight ((if neg then ['-'] else []) ++ Nat.toDigits 10 k) := by
    apply Text.Tight.of_forall
    intro c hc
    rcases List.mem_append.mp hc with hc | hc
    · cases neg with
      | false => cases hc
      | true =>
        rw [List.mem_singleton.mp hc]
        decide
    · exact isBlank_of_isDigit (Nat.isDigit_of_mem_toDigits (by decide) (by decide) hc)
  refine ⟨x, ?_, hvalue ▸ hx⟩
  have hblank : Text.Blank [] := fun c hc => absurd hc List.not_mem_nil
  have htrim := htight.trim hblank hblank
  rw [List.nil_append, List.append_nil] at htrim
  rw [ofTrimmed?, htext, htrim]
  cases hdigits : Nat.toDigits 10 k with
  | nil => exact absurd hdigits Nat.toDigits_ne_nil
  | cons c cs =>
    have hc : c.isDigit = true := Nat.isDigit_of_mem_toDigits (b := 10) (n := k) (by decide) (by decide)
      (hdigits ▸ List.mem_cons_self)
    rw [ofText?_of_digit neg hc, ← hdigits, hread]

end LineScript.Number
