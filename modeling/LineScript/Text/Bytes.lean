/-! Columns of a text are byte offsets into its UTF-8 form. A text is cut only between characters:
`take` keeps the characters that fit into a number of bytes and `drop` keeps the others. -/
namespace LineScript.Text

/-- Number of bytes of the UTF-8 form. -/
def size : List Char → Nat
  | [] => 0
  | c :: cs => c.utf8Size + size cs

/-- The longest run of leading characters with at most `n` bytes. -/
def take : List Char → Nat → List Char
  | [], _ => []
  | c :: cs, n => if c.utf8Size ≤ n then c :: take cs (n - c.utf8Size) else []

/-- What follows `take`. -/
def drop : List Char → Nat → List Char
  | [], _ => []
  | c :: cs, n => if c.utf8Size ≤ n then drop cs (n - c.utf8Size) else c :: cs

/-- The characters between two byte offsets. -/
def slice (cs : List Char) (start stop : Nat) : List Char :=
  drop (take cs stop) start

/-- The largest character boundary at or before `n`. -/
def floor (cs : List Char) (n : Nat) : Nat :=
  size (take cs n)

/-- The end of the character that starts at the boundary `n`; the end of the text if none does. -/
def next (cs : List Char) (n : Nat) : Nat :=
  match drop cs n with
  | [] => size cs
  | c :: _ => n + c.utf8Size

/-- Whether a cut at `n` splits no character and lies inside the text. -/
def IsBoundary (cs : List Char) (n : Nat) : Prop :=
  floor cs n = n

instance (cs : List Char) (n : Nat) : Decidable (IsBoundary cs n) :=
  inferInstanceAs (Decidable (_ = _))

@[simp] theorem take_append_drop (cs : List Char) (n : Nat) : take cs n ++ drop cs n = cs := by
  induction cs generalizing n with
  | nil => rfl
  | cons c cs ih => by_cases h : c.utf8Size ≤ n <;> simp [take, drop, h, ih]

@[simp] theorem size_append (as bs : List Char) : size (as ++ bs) = size as + size bs := by
  induction as with
  | nil => simp [size]
  | cons a as ih => simp [size, ih, Nat.add_assoc]

theorem size_take_le (cs : List Char) (n : Nat) : size (take cs n) ≤ n := by
  induction cs generalizing n with
  | nil => simp [take, size]
  | cons c cs ih =>
    by_cases h : c.utf8Size ≤ n
    · have := ih (n - c.utf8Size)
      simp only [take, h, if_true, size]
      omega
    · simp [take, h, size]

/-- The byte length of a string. -/
def length (s : String) : Nat :=
  s.utf8ByteSize

/-- The characters of a string that fit into its first `n` bytes. -/
def before (s : String) (n : Nat) : String :=
  String.ofList (take s.toList n)

/-- The characters of a string behind its first `n` bytes. -/
def after (s : String) (n : Nat) : String :=
  String.ofList (drop s.toList n)

/-- The part of a string between two byte offsets. -/
def between (s : String) (start stop : Nat) : String :=
  String.ofList (slice s.toList start stop)

end LineScript.Text
