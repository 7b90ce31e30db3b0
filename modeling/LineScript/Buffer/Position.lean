import LineScript.Text.Bytes

/-! Positions in a list of lines. Lines count from zero and columns are byte offsets; the position
behind the last line has column zero. -/
namespace LineScript.Buffer

/-- A line and a column. -/
structure Position where
  line : Nat := 0
  column : Nat := 0
  deriving DecidableEq, Repr, Inhabited

namespace Position

/-- The order of reading: by line, then by column. -/
def order (p q : Position) : Ordering :=
  (compare p.line q.line).then (compare p.column q.column)

instance : LE Position where
  le p q := p.line < q.line ∨ (p.line = q.line ∧ p.column ≤ q.column)

instance : LT Position where
  lt p q := p.line < q.line ∨ (p.line = q.line ∧ p.column < q.column)

instance (p q : Position) : Decidable (p ≤ q) :=
  inferInstanceAs (Decidable (_ ∨ _))

instance (p q : Position) : Decidable (p < q) :=
  inferInstanceAs (Decidable (_ ∨ _))

/-- The nearest position of some lines that is not behind `p`: past the last line there is only the
start of a line, and a column is moved back to the last character boundary. -/
def clamp (p : Position) (lines : List String) : Position :=
  let line := min p.line lines.length
  match lines[line]? with
  | some text => ⟨line, Text.floor text.toList p.column⟩
  | none => ⟨line, 0⟩

/-- Whether a position is one of some lines. -/
def Clamped (p : Position) (lines : List String) : Prop :=
  p.clamp lines = p

instance (p : Position) (lines : List String) : Decidable (p.Clamped lines) :=
  inferInstanceAs (Decidable (_ = _))

/-- Two positions, the earlier first. -/
def ordered (p q : Position) : Position × Position :=
  if p ≤ q then (p, q) else (q, p)

/-- The text of a position; lines and columns count from one there. -/
def toText (p : Position) : String :=
  s!"{p.line + 1}:{p.column + 1}"

end Position

/-- The outcome of a search: whether there was a hit, where it starts and how many bytes it has. -/
structure Hit where
  found : Bool := false
  position : Position := {}
  length : Nat := 0
  deriving DecidableEq, Repr, Inhabited

namespace Hit

/-- A hit. -/
def of (position : Position) (length : Nat) : Hit :=
  ⟨true, position, length⟩

/-- No hit. -/
def miss : Hit := {}

/-- The position behind a hit, in the same line. -/
def stop (h : Hit) : Position :=
  ⟨h.position.line, h.position.column + h.length⟩

end Hit

end LineScript.Buffer
