import Mathlib.Algebra.Order.Field.Rat
import Mathlib.Data.Rat.Cast.Order
import Mathlib.Order.Compare
import Mathlib.Order.WithBot
import LineScript.Proofs.Number.Whole

/-! Doubles in order: comparing two of them is comparing their values. -/
namespace LineScript.Number.Double

variable {x y : Double}

/-- The value of a finite double. -/
def rational (s : Bool) (m : Nat) (e : Int) : ℚ :=
  (if s then -(m : ℚ) else m) * 2 ^ e

/-- A rational number among the values of doubles. -/
def exact (q : ℚ) : WithBot (WithTop ℚ) :=
  (q : WithTop ℚ)

/-- The value of a double, the infinities at the ends. What is undefined has no value. -/
def value : Double → WithBot (WithTop ℚ)
  | nan => ⊥
  | inf s => if s then ⊥ else ⊤
  | finite s m e => exact (rational s m e)

theorem exact_strictMono : StrictMono exact :=
  WithBot.coe_strictMono.comp WithTop.coe_strictMono

@[simp] theorem exact_le_exact {p q : ℚ} : exact p ≤ exact q ↔ p ≤ q :=
  exact_strictMono.le_iff_le

theorem bot_lt_exact (q : ℚ) : ⊥ < exact q :=
  WithBot.bot_lt_coe _

theorem exact_lt_top (q : ℚ) : exact q < ⊤ :=
  WithBot.coe_lt_coe.mpr (WithTop.coe_lt_top q)

@[simp] theorem exact_ne_bot (q : ℚ) : exact q ≠ ⊥ :=
  (bot_lt_exact q).ne'

@[simp] theorem exact_ne_top (q : ℚ) : exact q ≠ ⊤ :=
  (exact_lt_top q).ne

/-- The significand at a smaller scale is the value in units of that scale. -/
theorem signedAt_mul {e low : Int} (s : Bool) (m : Nat) (h : low ≤ e) :
    (signedAt s m e low : ℚ) * 2 ^ low = rational s m e := by
  obtain ⟨k, rfl⟩ := Int.exists_add_of_le h
  have hshift : low + (k : Int) - low = (k : Int) := by omega
  have hscale : (2 : ℚ) ^ (low + (k : Int)) = 2 ^ k * 2 ^ low := by
    rw [add_comm, zpow_add₀ (by decide), zpow_natCast]
  unfold signedAt rational
  rw [hshift, Int.toNat_natCast, hscale, twoTo_eq]
  cases s <;> simp [mul_assoc]

theorem exact_scaled_lt (low : Int) {v w : Int} (hlt : v < w) : exact (v * 2 ^ low) < exact (w * 2 ^ low) := by
  have hpos : (0 : ℚ) < 2 ^ low := zpow_pos two_pos low
  have hcast : (v : ℚ) < w := by exact_mod_cast hlt
  exact exact_strictMono (mul_lt_mul_of_pos_right hcast hpos)

theorem compare_signedAt (s t : Bool) (m n : Nat) (e f : Int) :
    compare (signedAt s m e (min e f)) (signedAt t n f (min e f)) =
      compare (finite s m e).value (finite t n f).value := by
  rw [value, value, ← signedAt_mul s m (min_le_left e f), ← signedAt_mul t n (min_le_right e f), ← cmp_eq_compare,
    ← cmp_eq_compare]
  have hmono : StrictMono fun v : Int => exact (v * 2 ^ min e f) := fun _ _ => exact_scaled_lt (min e f)
  exact (hmono.cmp_map_eq _ _).symm

/-- Two doubles that are defined are in the order of their values. -/
theorem compare?_eq (hx : x ≠ nan) (hy : y ≠ nan) : x.compare? y = some (compare x.value y.value) := by
  cases x with
  | nan => exact absurd rfl hx
  | inf s =>
    cases y with
    | nan => exact absurd rfl hy
    | inf t =>
      cases s <;> cases t
      · exact congrArg some (compare_eq_iff_eq.mpr rfl).symm
      · exact congrArg some (compare_gt_iff_gt.mpr bot_lt_top).symm
      · exact congrArg some (compare_lt_iff_lt.mpr bot_lt_top).symm
      · exact congrArg some (compare_eq_iff_eq.mpr rfl).symm
    | finite t n f =>
      cases s
      · exact congrArg some (compare_gt_iff_gt.mpr (exact_lt_top _)).symm
      · exact congrArg some (compare_lt_iff_lt.mpr (bot_lt_exact _)).symm
  | finite s m e =>
    cases y with
    | nan => exact absurd rfl hy
    | inf t =>
      cases t
      · exact congrArg some (compare_lt_iff_lt.mpr (exact_lt_top _)).symm
      · exact congrArg some (compare_gt_iff_gt.mpr (bot_lt_exact _)).symm
    | finite t n f => exact congrArg some (compare_signedAt s t m n e f)

theorem round_ne_nan (neg : Bool) (num den : Nat) : round neg num den ≠ nan := by
  unfold round zero
  dsimp only
  split_ifs <;> exact Double.noConfusion

theorem ofScaledDecimal_ne_nan (neg : Bool) (d : Nat) (k : Int) : ofScaledDecimal neg d k ≠ nan := by
  unfold ofScaledDecimal zero
  dsimp only
  split_ifs
  · exact Double.noConfusion
  · exact Double.noConfusion
  · exact Double.noConfusion
  · cases k <;> exact round_ne_nan _ _ _

end LineScript.Number.Double
