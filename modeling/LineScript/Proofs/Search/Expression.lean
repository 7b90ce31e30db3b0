import LineScript.Proofs.Regex.Bounds
import LineScript.Search.Expression

/-! Search expressions: their matchers find parts of the text, and their flags are those in the flag text. All of these
count, in any order, but of those that name an end of a buffer only the last one. -/
namespace LineScript.Search

/-- A matcher whose matches lie at boundaries of the text, not before the offset it is asked for. -/
def Matcher.Sound (m : Matcher) : Prop :=
  ∀ text column w, m.find? text column = some w → Regex.Match.Bounded text.toList column w

namespace Expression

/-- An expression that was read from a pattern, however often it was set anew. -/
inductive Made : Expression → Prop
  | new {pattern flags : String} {kind : Kind} {x : Expression}
    (h : Expression.new pattern kind flags = .ok x) : Made x
  | set {x : Expression} (h : Made x) (pattern : String) (kind : Kind) (flags : String) :
    Made (x.set pattern kind flags).1

/-- An expression whose machine is that of a regular expression. -/
def IsCompiled (x : Expression) : Prop :=
  ∃ r : Regex.Syntax, x.machine = r.machine

theorem compile_eq_ok {pattern : String} {ignoreCase : Bool} {source : List Char}
    {machine : Regex.Node} {groupCount : Nat}
    (h : compile pattern ignoreCase source = .ok (machine, groupCount)) :
    ∃ r : Regex.Syntax, machine = r.machine := by
  unfold compile at h
  split at h
  · exact nomatch h
  · next r _ =>
    split at h
    · exact nomatch h
    · cases h
      exact ⟨r, rfl⟩

theorem IsCompiled.set {x : Expression} (hx : x.IsCompiled) (pattern : String) (kind : Kind)
    (flags : String) : (x.set pattern kind flags).1.IsCompiled := by
  unfold Expression.set
  dsimp only
  split
  · exact hx
  · split
    · exact hx
    · next h => exact compile_eq_ok h

theorem Made.isCompiled {x : Expression} (h : x.Made) : x.IsCompiled := by
  induction h with
  | @new pattern flags kind x h =>
    have hset := IsCompiled.set (x := { kind }) ⟨.empty, rfl⟩ pattern kind flags
    unfold Expression.new at h
    split at h
    · next y hy =>
      cases h
      rwa [hy] at hset
    · exact nomatch h
  | set _ pattern kind flags ih => exact ih.set pattern kind flags

theorem Made.sound {x : Expression} (h : x.Made) : x.matcher.Sound := by
  obtain ⟨r, hr⟩ := h.isCompiled
  intro text column w hw
  simp only [matcher, hr] at hw
  split at hw
  · exact nomatch hw
  · next hle =>
    rw [Text.length_eq_size] at hle
    exact Regex.search?_bounded (Nat.le_of_not_lt hle) hw

end Expression

/-- The end of a buffer that a flag names. -/
def edgeOf (c : Char) : Option BufferEnd :=
  if c = '<' then some .first else if c = '>' then some .last else none

/-- The end of a buffer that is named last in a flag text. -/
def lastEdge (cs : List Char) : Option BufferEnd :=
  (cs.filterMap edgeOf).getLast?

/-- What flags have become when a flag text has been read. -/
structure Flags.Reads (f : Flags) (cs : List Char) (read : Flags) : Prop where
  ignoreCase : read.ignoreCase = true ↔ f.ignoreCase = true ∨ 'i' ∈ cs
  lineStart : read.lineStart = true ↔ f.lineStart = true ∨ '^' ∈ cs
  lineEnd : read.lineEnd = true ↔ f.lineEnd = true ∨ '$' ∈ cs
  backwards : read.backwards = true ↔ f.backwards = true ∨ 'B' ∈ cs
  inLine : read.inLine = true ↔ f.inLine = true ∨ 'L' ∈ cs
  startAt : read.startAt = (lastEdge cs).or f.startAt

theorem lastEdge_cons (c : Char) (cs : List Char) : lastEdge (c :: cs) = (lastEdge cs).or (edgeOf c) := by
  unfold lastEdge
  cases h : edgeOf c with
  | none => simp [h]
  | some edge => simp [h, List.getLast?_cons]

theorem Flags.reads_of_read {f read : Flags} {isRegex isRegex' : Bool} {cs : List Char}
    (h : Flags.read f isRegex cs = (read, .ok isRegex')) : f.Reads cs read := by
  fun_induction Flags.read f isRegex cs with
  | case1 f isRegex =>
    cases h
    constructor <;> simp [lastEdge]
  | case2 f isRegex cs ih | case3 f isRegex cs ih | case4 f isRegex cs ih | case5 f isRegex cs ih
  | case6 f isRegex cs ih | case7 f isRegex cs ih | case8 f isRegex cs ih | case9 f isRegex cs ih =>
    obtain ⟨hcase, hlineStart, hlineEnd, hbackwards, hinLine, hstartAt⟩ := ih h
    constructor <;> simp [*, lastEdge_cons, edgeOf]
  | case10 => cases h

section
variable {f : Flags} {cs : List Char} (h : Flags.Reads {} cs f)
include h

theorem Flags.Reads.backwards_iff : f.backwards = true ↔ 'B' ∈ cs := by
  simpa using h.backwards

theorem Flags.Reads.inLine_iff : f.inLine = true ↔ 'L' ∈ cs := by
  simpa using h.inLine

theorem Flags.Reads.startAt_eq : f.startAt = lastEdge cs := by
  simpa using h.startAt

/-- Tied to the start of a line, a search forward starts there. -/
theorem Flags.Reads.caret_iff : (f.lineStart && !f.backwards) = true ↔ '^' ∈ cs ∧ 'B' ∉ cs := by
  have hcaret : f.lineStart = true ↔ '^' ∈ cs := by simpa using h.lineStart
  simp [← hcaret, ← h.backwards_iff]

/-- Tied to the end of a line, a search backwards starts there. -/
theorem Flags.Reads.dollar_iff : (f.lineEnd && f.backwards) = true ↔ '$' ∈ cs ∧ 'B' ∈ cs := by
  have hdollar : f.lineEnd = true ↔ '$' ∈ cs := by simpa using h.lineEnd
  simp [← hdollar, ← h.backwards_iff]

end

/-- The flags of an expression are those of its flag text. -/
theorem Expression.reads_of_new {pattern flags : String} {kind : Kind} {x : Expression}
    (h : Expression.new pattern kind flags = .ok x) : Flags.Reads {} flags.toList x.flags := by
  unfold Expression.new Expression.set at h
  generalize hread : Flags.read {} false flags.toList = r at h
  obtain ⟨f, isRegex | isRegex⟩ := r
  · cases h
  · have hflags : x.flags = f := by
      dsimp only at h
      split at h
      · next hset =>
        cases h
        split at hset
        · cases hset
        · cases hset
          rfl
      · cases h
    rw [hflags]
    exact Flags.reads_of_read hread

end LineScript.Search
