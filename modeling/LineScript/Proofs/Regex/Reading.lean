import Mathlib.Algebra.GroupWithZero.Nat
import LineScript.Proofs.Regex.Language
import LineScript.Regex.Escaped
import LineScript.Regex.Reader

/-! How the reader of regular expressions goes on from place to place in a text where white space counts. -/
namespace LineScript.Regex

/-- A state of the reader with another text left. -/
def ReadState.on (s : ReadState) (cs : List Char) : ReadState :=
  { s with rest := cs }

namespace Reader

variable {s : ReadState} {c : Char} {cs : List Char}

theorem run_rest (s : ReadState) (cs : List Char) : rest.run (s.on cs) = some (cs, s.on cs) :=
  rfl

theorem run_flags (s : ReadState) (cs : List Char) : flags.run (s.on cs) = some (s.flags, s.on cs) :=
  rfl

theorem run_failure {α : Type} (s : ReadState) : (failure : Reader α).run s = none :=
  rfl

theorem run_bump (s : ReadState) (c : Char) (cs : List Char) : bump.run (s.on (c :: cs)) = some ((), s.on cs) :=
  rfl

theorem run_skip (h : s.flags.ignoreBlank = false) (cs : List Char) : skip.run (s.on cs) = some ((), s.on cs) := by
  have hblank : (s.on cs).flags.ignoreBlank = false := h
  change some ((), if (s.on cs).flags.ignoreBlank then _ else s.on cs) = _
  rw [hblank]
  rfl

theorem run_bumpOn (h : s.flags.ignoreBlank = false) (c : Char) (hcs : cs ≠ []) :
    bumpOn.run (s.on (c :: cs)) = some ((), s.on cs) := by
  unfold bumpOn
  simp only [StateT.run_bind, run_bump, run_skip h, run_rest, Option.bind_eq_bind, Option.bind_some]
  cases cs with
  | nil => exact absurd rfl hcs
  | cons c cs => rfl

end Reader

open Reader

/-- A backslash in front of a character with a meaning leaves the character itself. -/
theorem run_escape {s : ReadState} {c : Char} (hc : isMeta c = true) (cs : List Char) :
    escape.run (s.on ('\\' :: c :: cs)) = some (.char c false, s.on cs) := by
  have hescapable : isEscapable c = true := by
    have hall : "\\.+*?()|[]\x7b\x7d^$#&-~".toList.all isEscapable = true := by decide
    exact List.all_eq_true.mp hall c (List.contains_iff_mem.mp hc)
  unfold escape
  simp only [StateT.run_bind, run_bump, run_rest, run_flags, Option.bind_eq_bind, Option.bind_some]
  split
  case h_24 =>
    rw [if_pos hescapable]
    rfl
  all_goals cases hc

section Classes

variable {s s' : ReadState} {c d : Char} {cs : List Char} {fuel : Nat} {left : Option (ClassOp × CharSet × Nat)}
  {p : ClassPart}

theorem toSet?_char {f : Flags} (h : f.unicode = true) (c : Char) :
    (Atom.char c false).toSet? f = some (.single c) := by
  simp [Atom.toSet?, h]

/-- A member of a class that no dash follows is a member by itself. -/
theorem run_classRange (h : s.flags.ignoreBlank = false) (hunicode : s.flags.unicode = true)
    (hatom : classAtom.run s' = some (.char c false, s.on (d :: cs))) (hd : d ≠ '-') :
    classRange.run s' = some (.single c, s.on (d :: cs)) := by
  unfold classRange
  simp only [StateT.run_bind, hatom, run_skip h, run_flags, run_rest, Option.bind_eq_bind, Option.bind_some, h]
  rw [if_pos (by simp [hd]), toSet?_char hunicode]
  rfl

theorem run_classAtom (hc : c ≠ '\\') (cs : List Char) :
    classAtom.run (s.on (c :: cs)) = some (.char c false, s.on cs) := by
  unfold classAtom
  simp only [StateT.run_bind, run_rest, Option.bind_eq_bind, Option.bind_some]
  rfl

theorem run_classAtom_escaped (hc : isMeta c = true) (cs : List Char) :
    classAtom.run (s.on ('\\' :: c :: cs)) = some (.char c false, s.on cs) := by
  unfold classAtom
  simp only [StateT.run_bind, run_rest, Option.bind_eq_bind, Option.bind_some, run_escape hc]

theorem classItems_end (h : s.flags.ignoreBlank = false) :
    (classItems (fuel + 1) left p).run (s.on (']' :: cs)) = some (p.close s.flags left, s.on cs) := by
  conv_lhs => unfold classItems
  simp only [StateT.run_bind, run_skip h, run_flags, run_rest, Option.bind_eq_bind, Option.bind_some]
  rfl

theorem run_leadingDashes (hc : c ≠ '-') (cs : List Char) :
    (leadingDashes (fuel + 1) p).run (s.on (c :: cs)) = some (p, s.on (c :: cs)) := by
  unfold leadingDashes
  simp only [StateT.run_bind, run_rest, Option.bind_eq_bind, Option.bind_some]
  split
  · rename_i heq
    cases heq
    exact absurd rfl hc
  · rfl

end Classes

section Branches

variable {s s' : ReadState} {c : Char} {cs : List Char} {fuel : Nat} {done : List (Syntax × Nat)} {ps : List Piece}
  {r : Syntax}

/-- A character without a meaning is a piece of its own. -/
theorem branches_char (h : s.flags.ignoreBlank = false) (hc : isMeta c = false)
    (hatom : (Atom.char c false).toSyntax? s.flags = some r) :
    (branches (fuel + 1) done ps).run (s.on (c :: cs)) = (branches fuel done (⟨some r, 0⟩ :: ps)).run (s.on cs) := by
  conv_lhs => unfold branches
  simp only [StateT.run_bind, run_skip h, run_flags, run_rest, Option.bind_eq_bind, Option.bind_some]
  split
  case h_12 heq =>
    cases heq
    split
    · cases hc
    · cases hc
    · simp only [StateT.run_bind, run_bump, StateT.run_pure, Option.pure_def, Option.bind_eq_bind, Option.bind_some,
        hatom]
  all_goals
    rename_i heq
    cases heq
    try cases hc

/-- A backslash in front of a character with a meaning leaves the character itself. -/
theorem branches_escaped (h : s.flags.ignoreBlank = false) (hc : isMeta c = true)
    (hatom : (Atom.char c false).toSyntax? s.flags = some r) :
    (branches (fuel + 1) done ps).run (s.on ('\\' :: c :: cs)) =
      (branches fuel done (⟨some r, 0⟩ :: ps)).run (s.on cs) := by
  conv_lhs => unfold branches
  simp only [StateT.run_bind, run_skip h, run_flags, run_rest, Option.bind_eq_bind, Option.bind_some]
  split
  case h_12 heq =>
    cases heq
    simp only [StateT.run_bind, run_escape hc, Option.bind_eq_bind, Option.bind_some, hatom]
  all_goals
    rename_i heq
    cases heq

/-- A point stands for any character but a line break. -/
theorem branches_dot (h : s.flags.ignoreBlank = false) (hatom : Atom.dot.toSyntax? s.flags = some r) :
    (branches (fuel + 1) done ps).run (s.on ('.' :: cs)) = (branches fuel done (⟨some r, 0⟩ :: ps)).run (s.on cs) := by
  conv_lhs => unfold branches
  simp only [StateT.run_bind, run_skip h, run_flags, run_rest, Option.bind_eq_bind, Option.bind_some]
  split
  case h_12 heq =>
    cases heq
    simp only [StateT.run_bind, run_bump, StateT.run_pure, Option.pure_def, Option.bind_eq_bind, Option.bind_some,
      hatom]
  all_goals
    rename_i heq
    cases heq

/-- A star repeats the last piece. -/
theorem branches_star (h : s.flags.ignoreBlank = false) (hlazy : cs.head? ≠ some '?') {depth : Nat} :
    (branches (fuel + 1) done (⟨some r, depth⟩ :: ps)).run (s.on ('*' :: cs)) =
      (branches fuel done (⟨some (.repeated r 0 none !s.flags.swapGreed), depth + 1⟩ :: ps)).run (s.on cs) := by
  have hmark : lazyMark.run (s.on cs) = some (false, s.on cs) := by
    unfold lazyMark
    simp only [StateT.run_bind, run_rest, Option.bind_eq_bind, Option.bind_some]
    split
    · exact absurd rfl hlazy
    · rfl
  conv_lhs => unfold branches
  simp only [StateT.run_bind, run_skip h, run_flags, run_rest, run_bump, Option.bind_eq_bind, Option.bind_some, hmark,
    repeatLast]
  cases s.flags.swapGreed <;> rfl

/-- A bracket opens a class. -/
theorem branches_class (h : s.flags.ignoreBlank = false) {set : CharSet} {depth : Nat}
    (hclass : (bracketed fuel).run (s.on ('[' :: cs)) = some ((set, depth), s')) :
    (branches (fuel + 1) done ps).run (s.on ('[' :: cs)) =
      (branches fuel done (⟨some (.set set), depth⟩ :: ps)).run s' := by
  conv_lhs => unfold branches
  simp only [StateT.run_bind, run_skip h, run_flags, run_rest, Option.bind_eq_bind, Option.bind_some, hclass]

theorem branches_class_none (h : s.flags.ignoreBlank = false)
    (hclass : (bracketed fuel).run (s.on ('[' :: cs)) = none) :
    (branches (fuel + 1) done ps).run (s.on ('[' :: cs)) = none := by
  conv_lhs => unfold branches
  simp only [StateT.run_bind, run_skip h, run_flags, run_rest, Option.bind_eq_bind, Option.bind_some, hclass,
    Option.bind_none]

/-- The pieces up to the end are a sequence. -/
theorem branches_end (h : s.flags.ignoreBlank = false) :
    (branches (fuel + 1) done ps).run (s.on []) = some (alternation (Piece.sequence ps) done, s.on []) := by
  conv_lhs => unfold branches
  simp only [StateT.run_bind, run_skip h, run_flags, run_rest, Option.bind_eq_bind, Option.bind_some]
  rfl

end Branches

section Sequences

/-- Whether expressions match one behind the other. -/
def MatchesAll : List Syntax → Place → Place → Prop
  | [], p, q => q = p
  | r :: rs, p, q => ∃ m, r.Matches p m ∧ MatchesAll rs m q

/-- An expression put in front of others. -/
def Syntax.prepend (acc r : Syntax) : Syntax :=
  if acc = .empty then r else .cat r acc

variable {rs rs' : List Syntax} {acc r : Syntax} {p q : Place}

theorem matchesAll_append : MatchesAll (rs ++ rs') p q ↔ ∃ m, MatchesAll rs p m ∧ MatchesAll rs' m q := by
  induction rs generalizing p with
  | nil => simp [MatchesAll]
  | cons r rs ih =>
    simp only [List.cons_append, MatchesAll, ih]
    constructor
    · rintro ⟨m, hr, m', hrs, hrs'⟩
      exact ⟨m', ⟨m, hr, hrs⟩, hrs'⟩
    · rintro ⟨m', ⟨m, hr, hrs⟩, hrs'⟩
      exact ⟨m, hr, m', hrs, hrs'⟩

theorem Syntax.matches_prepend : (acc.prepend r).Matches p q ↔ ∃ m, r.Matches p m ∧ acc.Matches m q := by
  unfold Syntax.prepend
  split
  · rename_i hempty
    subst hempty
    simp [Matches]
  · rfl

theorem matches_foldl_prepend : (rs.foldl Syntax.prepend acc).Matches p q ↔
    ∃ m, MatchesAll rs.reverse p m ∧ acc.Matches m q := by
  induction rs generalizing acc with
  | nil => simp [MatchesAll]
  | cons r rs ih =>
    rw [List.foldl_cons, ih, List.reverse_cons]
    simp only [matchesAll_append, Syntax.matches_prepend, MatchesAll]
    constructor
    · rintro ⟨m, hrs, m', hr, hacc⟩
      exact ⟨m', ⟨m, hrs, m', hr, rfl⟩, hacc⟩
    · rintro ⟨m', ⟨m, hrs, _, hr, rfl⟩, hacc⟩
      exact ⟨m, hrs, _, hr, hacc⟩

theorem wellFormed_foldl_prepend (hacc : acc.WellFormed) (hrs : ∀ r ∈ rs, r.WellFormed) :
    (rs.foldl Syntax.prepend acc).WellFormed := by
  induction rs generalizing acc with
  | nil => exact hacc
  | cons r rs ih =>
    obtain ⟨hr, hrs⟩ := List.forall_mem_cons.mp hrs
    refine ih ?_ hrs
    unfold Syntax.prepend
    split
    · exact hr
    · exact ⟨hr, hacc⟩

/-- The sequence of pieces matches what they match one behind the other. -/
theorem matches_sequence {ps : List Piece} : (Piece.sequence ps).1.Matches p q ↔
    MatchesAll (ps.filterMap (·.syn)).reverse p q := by
  change ((ps.filterMap (·.syn)).foldl Syntax.prepend .empty).Matches p q ↔ _
  rw [matches_foldl_prepend]
  simp [Syntax.Matches]

theorem wellFormed_sequence {ps : List Piece} (h : ∀ r ∈ ps.filterMap (·.syn), r.WellFormed) :
    (Piece.sequence ps).1.WellFormed := by
  have hempty : Syntax.empty.WellFormed := trivial
  exact wellFormed_foldl_prepend hempty h

end Sequences

/-- What the branches at the start of a text come to, whatever stands behind them and however deep they nest. -/
def reading (ignoreCase : Bool) (cs : List Char) : Option ((Syntax × Nat) × ReadState) :=
  (branches (2 * cs.length + 2) [] []).run { rest := cs, flags := { ignoreCase } }

/-- A text reads as its branches if they make up all of it and do not nest too deep. -/
theorem read?_eq_some_iff {ignoreCase : Bool} {cs : List Char} {r : Syntax} : read? ignoreCase cs = some r ↔
    ∃ depth s, reading ignoreCase cs = some ((r, depth), s) ∧ s.rest = [] ∧ depth ≤ maxDepth := by
  unfold read?
  dsimp only
  cases h : reading ignoreCase cs with
  | none =>
    have hrun : (branches _ [] []).run _ = none := h
    simp [hrun]
  | some v =>
    obtain ⟨⟨r', depth⟩, s⟩ := v
    have hrun : (branches _ [] []).run _ = some ((r', depth), s) := h
    simp only [hrun, List.isEmpty_iff, Bool.and_eq_true, decide_eq_true_iff, Option.ite_none_right_eq_some,
      Option.some_inj, Prod.mk.injEq]
    constructor
    · rintro ⟨⟨hrest, hdepth⟩, rfl⟩
      exact ⟨depth, s, ⟨⟨rfl, rfl⟩, rfl⟩, hrest, hdepth⟩
    · rintro ⟨_, _, ⟨⟨rfl, rfl⟩, rfl⟩, hrest, hdepth⟩
      exact ⟨⟨hrest, hdepth⟩, rfl⟩

end LineScript.Regex
