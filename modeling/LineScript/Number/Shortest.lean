import LineScript.Number.Double

/-! The text of a number: the fewest digits that read back as the same double, written without an
exponent. -/
namespace LineScript.Number

/-- Whether `c · 10 ^ k` and `x · 2 ^ e` are in the order, as `compare` says it. -/
def compareDecimal (c : Nat) (k : Int) (x : Nat) (e : Int) : Ordering :=
  compare (c * tenTo k.toNat * twoTo (-e).toNat) (x * twoTo e.toNat * tenTo (-k).toNat)

/-- Whether a decimal reads back as the double `m · 2 ^ e`. The quarter of the spacing above is the
unit: a double reaches half way to its neighbours, ends included if its significand is even, and the
spacing below a power of two is halved. -/
def readsBack (m : Nat) (e : Int) (c : Nat) (k : Int) : Bool :=
  let low := if m = twoTo 52 && Double.minExponent < e then 4 * m - 1 else 4 * m - 2
  let atLow := compareDecimal c k low (e - 2)
  let atHigh := compareDecimal c k (4 * m + 2) (e - 2)
  if m % 2 = 0 then atLow != .lt && atHigh != .gt else atLow == .gt && atHigh == .lt

/-- The largest multiple of `10 ^ k` that is at most `m · 2 ^ e`, in units of `10 ^ k`. -/
def gridFloor (m : Nat) (e k : Int) : Nat :=
  m * twoTo e.toNat * tenTo (-k).toNat / (tenTo k.toNat * twoTo (-e).toNat)

/-- The decimal on the grid of `10 ^ k` that reads back as the double and is nearest to it, the
larger of two. -/
def onGrid? (m : Nat) (e k : Int) : Option Nat :=
  let c := gridFloor m e k
  let down := readsBack m e c k
  let up := readsBack m e (c + 1) k
  if down && up then
    if compareDecimal (2 * c + 1) k (2 * m) e == .gt then some c else some (c + 1)
  else if down then some c
  else if up then some (c + 1)
  else none

/-- The first hit on the grids of `10 ^ k`, `10 ^ (k - 1)`, … -/
def firstOnGrid (m : Nat) (e : Int) : Nat → Int → Nat × Int
  | 0, k => (gridFloor m e k, k)
  | fuel + 1, k =>
    match onGrid? m e k with
    | some c => (c, k)
    | none => firstOnGrid m e fuel (k - 1)

/-- The shortest decimal `c · 10 ^ k` that reads back as `m · 2 ^ e`, for a positive `m`. No double
needs more than 17 digits, and the first grid tried is at most four places above the first digit. -/
def shortest (m : Nat) (e : Int) : Nat × Int :=
  firstOnGrid m e 24 (((Nat.log2 m : Int) + e) * 30103 / 100000 + 2)

/-- The digits of `c · 10 ^ k` with a point where it is needed. -/
def positional (c : Nat) (k : Int) : List Char :=
  let digits := Nat.toDigits 10 c
  match k with
  | .ofNat n => digits ++ List.replicate n '0'
  | .negSucc n =>
    let places := n + 1
    let padded := List.replicate (places + 1 - digits.length) '0' ++ digits
    padded.take (padded.length - places) ++ '.' :: padded.drop (padded.length - places)

/-- The text of a number: whole numbers below `10 ^ 15` as integers, others by their shortest
digits. -/
def Double.toText : Double → String
  | .nan => "NaN"
  | .inf s => if s then "-inf" else "inf"
  | x@(.finite s m e) =>
    if x.isInteger && Double.truncated m e < tenTo 15 then
      toString (x.toIntWithin (-tenTo 15) (tenTo 15))
    else
      let (c, k) := shortest m e
      String.ofList ((if s then ['-'] else []) ++ positional c k)

end LineScript.Number
