import LineScript.Number.Power

/-! Double-precision numbers as exact data: a sign, a significand and a power of two. Every arithmetic
result is the exact rational result, rounded once to the nearest double with ties to even. -/
namespace LineScript.Number

/-- A double. `finite neg m e` is `m · 2 ^ e`, negated if `neg`. -/
inductive Double where
  | nan
  | inf (neg : Bool)
  | finite (neg : Bool) (m : Nat) (e : Int)
  deriving DecidableEq, Repr, Inhabited

namespace Double

/-- The least exponent; significands below `2 ^ 52` occur only with it. -/
def minExponent : Int := -1074

/-- The largest exponent of a finite double. -/
def maxExponent : Int := 971

/-- The only representation of each finite value. -/
def Canonical : Double → Prop
  | finite _ m e =>
    m < twoTo 53 ∧ minExponent ≤ e ∧ e ≤ maxExponent ∧ (twoTo 52 ≤ m ∨ e = minExponent)
  | _ => True

/-- Zero of either sign. -/
def zero (neg : Bool) : Double :=
  finite neg 0 minExponent

/-- The integer nearest to `num / den`, the even one of two. -/
def nearestEven (num den : Nat) : Nat :=
  let q := num / den
  let r := num % den
  if 2 * r < den then q else if den < 2 * r then q + 1 else q + q % 2

/-- The fraction `num / den · 2 ^ (-e)` as numerator and denominator. -/
def scaleDown (num den : Nat) (e : Int) : Nat × Nat :=
  match e with
  | .ofNat k => (num, den * twoTo k)
  | .negSucc k => (num * twoTo (k + 1), den)

/-- The exponent with which `num / den` has a significand of 53 bits, or the least exponent. -/
def exponentOf (num den : Nat) : Int :=
  let e : Int := (Nat.log2 num : Int) - Nat.log2 den - 52
  let (n, d) := scaleDown num den e
  max minExponent (if n < twoTo 52 * d then e - 1 else e)

/-- The double nearest to `num / den` for a positive `den`. -/
def round (neg : Bool) (num den : Nat) : Double :=
  if num = 0 then zero neg
  else
    let e := exponentOf num den
    let (n, d) := scaleDown num den e
    let m := nearestEven n d
    let (m, e) := if m = twoTo 53 then (twoTo 52, e + 1) else (m, e)
    if maxExponent < e then inf neg else finite neg m e

/-- The double nearest to `n · 2 ^ e`. -/
def roundScaled (neg : Bool) (n : Nat) (e : Int) : Double :=
  match e with
  | .ofNat k => round neg (n * twoTo k) 1
  | .negSucc k => round neg n (twoTo (k + 1))

/-- The double nearest to a natural number. -/
def ofNat (n : Nat) : Double :=
  round false n 1

/-- The double nearest to an integer. -/
def ofInt (n : Int) : Double :=
  round (n < 0) n.natAbs 1

/-- One if a test holds, else zero. -/
def ofBool (b : Bool) : Double :=
  ofNat b.toNat

/-- The other sign. -/
def neg : Double → Double
  | nan => nan
  | inf s => inf !s
  | finite s m e => finite (!s) m e

/-- Neither infinite nor undefined. -/
def isFinite : Double → Bool
  | finite .. => true
  | _ => false

/-- The signed significand at the scale `2 ^ low`, for `low` at most the exponent. -/
def signedAt (s : Bool) (m : Nat) (e low : Int) : Int :=
  let v : Int := m * twoTo (e - low).toNat
  if s then -v else v

/-- The sum. Opposite infinities have none; a vanishing sum is positive unless both parts are
negative. -/
def add : Double → Double → Double
  | nan, _ | _, nan => nan
  | inf s, inf t => if s = t then inf s else nan
  | inf s, finite .. => inf s
  | finite .., inf t => inf t
  | finite s m e, finite t n f =>
    let low := min e f
    let v := signedAt s m e low + signedAt t n f low
    if v = 0 then zero (s && t) else roundScaled (v < 0) v.natAbs low

/-- The difference. -/
def sub (x y : Double) : Double :=
  add x (neg y)

/-- The product. -/
def mul : Double → Double → Double
  | nan, _ | _, nan => nan
  | inf s, inf t => inf (s != t)
  | inf s, finite t n _ | finite t n _, inf s => if n = 0 then nan else inf (s != t)
  | finite s m e, finite t n f => roundScaled (s != t) (m * n) (e + f)

/-- The quotient. -/
def div : Double → Double → Double
  | nan, _ | _, nan => nan
  | inf _, inf _ => nan
  | inf s, finite t _ _ => inf (s != t)
  | finite s _ _, inf t => zero (s != t)
  | finite s m e, finite t n f =>
    if n = 0 then (if m = 0 then nan else inf (s != t))
    else
      match e - f with
      | .ofNat k => round (s != t) (m * twoTo k) n
      | .negSucc k => round (s != t) m (n * twoTo (k + 1))

/-- The order of two numbers: none if one is undefined; the zeros are equal. -/
def compare? : Double → Double → Option Ordering
  | nan, _ | _, nan => none
  | inf s, inf t => some (if s = t then .eq else if s then .lt else .gt)
  | inf s, finite .. => some (if s then .lt else .gt)
  | finite .., inf t => some (if t then .gt else .lt)
  | finite s m e, finite t n f =>
    let low := min e f
    some (compare (signedAt s m e low) (signedAt t n f low))

/-- The magnitude without its fraction. -/
def truncated (m : Nat) (e : Int) : Nat :=
  match e with
  | .ofNat k => m * twoTo k
  | .negSucc k => m / twoTo (k + 1)

/-- Whether a finite number has no fraction. -/
def isInteger : Double → Bool
  | finite _ m (.negSucc k) => m % twoTo (k + 1) == 0
  | finite .. => true
  | _ => false

/-- The integer part, brought into `[low, high]`; undefined counts as zero. -/
def toIntWithin (low high : Int) : Double → Int
  | nan => 0
  | inf s => if s then low else high
  | finite s m e =>
    let v : Int := truncated m e
    max low (min high (if s then -v else v))

/-- The integer part as a size of 64 bits; negative numbers count as zero. -/
def toSize (x : Double) : Nat :=
  (x.toIntWithin 0 (twoTo 64 - 1)).toNat

/-- The number itself, or zero if it is negative or undefined. -/
def clampBelow : Double → Double
  | nan => zero false
  | inf s => if s then zero false else inf false
  | finite s m e => if s then zero false else finite false m e

end Double

end LineScript.Number
