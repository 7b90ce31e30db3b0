import LineScript.Text.Blank
import LineScript.Unicode.CategoryRuns
import LineScript.Unicode.PropertyRanges
import LineScript.Unicode.ScriptRanges

/-! Membership of characters in the classes of Unicode: general categories, scripts, properties, and
the words and digits that text patterns speak of. -/
namespace LineScript.Unicode

/-- Whether `n` lies in one of some closed ranges. -/
def inRanges (ranges : Array (Nat × Nat)) (n : Nat) : Bool :=
  ranges.any fun (low, high) => low ≤ n && n ≤ high

/-- The last index below `high` whose run starts at or before `n`, by halving; `low` is one. -/
def runIndex {α : Type} (runs : Array (Nat × α)) (n low high : Nat) : Nat :=
  if _h : low + 1 < high then
    let mid := (low + high) / 2
    match runs[mid]? with
    | some (start, _) => if start ≤ n then runIndex runs n mid high else runIndex runs n low mid
    | none => runIndex runs n low mid
  else low
  termination_by high - low

/-- What the runs of a table say about `n`. -/
def runAt? {α : Type} (runs : Array (Nat × α)) (n : Nat) : Option α :=
  (runs[runIndex runs n 0 runs.size]?).map (·.2)

/-- The general category of a character. -/
def category (c : Char) : Category :=
  (runAt? categoryRuns c.toNat).getD .cn

/-- Whether a character has a property. -/
def BinaryProperty.holds (p : BinaryProperty) (c : Char) : Bool :=
  (p.categories.contains (category c) && !inRanges p.except c.toNat) || inRanges p.also c.toNat

/-- Letters, marks, decimal digits, connectors and joiners: the characters words are made of. -/
def isWord (c : Char) : Bool :=
  let n := c.toNat
  if n < 0x80 then c.isAlphanum || c == '_'
  else
    match category c with
    | .lu | .ll | .lt | .lm | .lo | .mn | .mc | .me | .nd | .nl | .pc => true
    | _ =>
      n == 0x200C || n == 0x200D || (0x24B6 ≤ n && n ≤ 0x24E9) || (0x1F130 ≤ n && n ≤ 0x1F149) ||
        (0x1F150 ≤ n && n ≤ 0x1F169) || (0x1F170 ≤ n && n ≤ 0x1F189)

/-- Decimal digits of any script. -/
def isDigit (c : Char) : Bool :=
  if c.toNat < 0x80 then c.isDigit else category c == .nd

/-- The property of this name, if there is one. -/
def property? (name : String) : Option BinaryProperty :=
  binaryProperties.find? (·.names.contains name)

/-- The characters of the script of this name, if there is one. -/
def script? (name : String) : Option (Array (Nat × Nat)) :=
  (scripts.find? (·.names.contains name)).map (·.ranges)

/-- Whether a character has the property of this name. -/
def hasProperty (name : String) (c : Char) : Bool :=
  (property? name).any (·.holds c)

/-- Letters and what counts as one. -/
def isAlphabetic (c : Char) : Bool :=
  if c.toNat < 0x80 then c.isAlpha else hasProperty "alphabetic" c

/-- Letters and numbers of any kind. -/
def isAlphanumeric (c : Char) : Bool :=
  isAlphabetic c ||
    match category c with
    | .nd | .nl | .no => true
    | _ => false

end LineScript.Unicode
