import LineScript.Number.Double
import LineScript.Text.Blank

/-! Decimal text of a number: an optional sign, digits with at most one point and at least one digit,
and an optional exponent; or the words for infinity and an undefined value, in either case. -/
namespace LineScript.Number

/-- The value of a run of decimal digits, read onto a value. -/
def digitsValue (acc : Nat) (cs : List Char) : Nat :=
  cs.foldl (fun n c => 10 * n + (c.toNat - '0'.toNat)) acc

/-- The double nearest to `d · 10 ^ k`. Exponents beyond the reach of doubles are settled by the
number of digits. -/
def Double.ofScaledDecimal (neg : Bool) (d : Nat) (k : Int) : Double :=
  if d = 0 then .zero neg
  else
    let size : Int := (Nat.toDigits 10 d).length + k
    if 310 < size then .inf neg
    else if size < -330 then .zero neg
    else
      match k with
      | .ofNat n => .round neg (d * tenTo n) 1
      | .negSucc n => .round neg d (tenTo (n + 1))

/-- The sign at the start, if there is one, and the rest. -/
def takeSign : List Char → Bool × List Char
  | '-' :: cs => (true, cs)
  | '+' :: cs => (false, cs)
  | cs => (false, cs)

/-- The exponent that makes up all of a text: nothing, or a letter, a sign and digits. -/
def exponent? : List Char → Option Int
  | [] => some 0
  | c :: cs =>
    if c = 'e' ∨ c = 'E' then
      let (neg, ds) := takeSign cs
      if ds.isEmpty || !ds.all Char.isDigit then none
      else
        let n : Int := digitsValue 0 ds
        some (if neg then -n else n)
    else none

/-- The unsigned decimal that makes up all of a text. -/
def unsigned? (neg : Bool) (cs : List Char) : Option Double :=
  let whole := cs.takeWhile Char.isDigit
  let rest := cs.dropWhile Char.isDigit
  let (fraction, rest) :=
    match rest with
    | '.' :: r => (r.takeWhile Char.isDigit, r.dropWhile Char.isDigit)
    | r => ([], r)
  if whole.isEmpty && fraction.isEmpty then none
  else
    (exponent? rest).map fun k =>
      .ofScaledDecimal neg (digitsValue (digitsValue 0 whole) fraction) (k - fraction.length)

/-- The number a text spells. -/
def ofText? (cs : List Char) : Option Double :=
  let (neg, body) := takeSign cs
  let word := body.map Char.toLower
  if word = "inf".toList ∨ word = "infinity".toList then some (.inf neg)
  else if word = "nan".toList then some .nan
  else unsigned? neg body

/-- The number a string spells, apart from white space around it. -/
def ofTrimmed? (s : String) : Option Double :=
  ofText? (Text.trim s.toList)

end LineScript.Number
