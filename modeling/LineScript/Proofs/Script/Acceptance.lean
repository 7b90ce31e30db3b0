import LineScript.Proofs.Script.Alone
import Mathlib

/-! Which scripts are accepted, and what their programs are. -/
namespace LineScript

/-- Whether a statement closes an embedded script. -/
def Statement.isEndScript : Statement → Bool
  | .endScript => true
  | _ => false

/-- Whether the line with an index has a statement of a certain kind. -/
def statesAt (p : Statement → Bool) (slots : List (Option Located)) (k : Nat) : Bool :=
  slots[k]?.join.any (p ·.statement)

@[simp] theorem statesAt_cons_zero (p : Statement → Bool) (slot : Option Located)
    (slots : List (Option Located)) : statesAt p (slot :: slots) 0 = slot.any (p ·.statement) :=
  rfl

@[simp] theorem statesAt_cons_succ (p : Statement → Bool) (slot : Option Located)
    (slots : List (Option Located)) (k : Nat) :
    statesAt p (slot :: slots) (k + 1) = statesAt p slots k := by
  rw [statesAt, statesAt, List.getElem?_cons_succ]

/-- Whether a line is in the body of an embedded script: behind a `script`, and in front of the
`endscript` that comes next. -/
def InBody (slots : List (Option Located)) (k : Nat) : Prop :=
  ∃ j < k, statesAt Statement.isScript slots j = true ∧
    ∀ m, j < m → m ≤ k → statesAt Statement.isEndScript slots m = false

/-- Whether no line up to one closes an embedded script. -/
def StaysOpen (slots : List (Option Located)) (k : Nat) : Prop :=
  ∀ m ≤ k, statesAt Statement.isEndScript slots m = false

/-- Whether a line is in the body of an embedded script that may have begun in front of all lines. -/
def InBodyFrom (inside : Bool) (slots : List (Option Located)) (k : Nat) : Prop :=
  (inside = true ∧ StaysOpen slots k) ∨ InBody slots k

theorem staysOpen_cons_zero {slot : Option Located} {slots : List (Option Located)} :
    StaysOpen (slot :: slots) 0 ↔ slot.any (·.statement.isEndScript) = false := by
  simp [StaysOpen]

theorem staysOpen_cons_succ {slot : Option Located} {slots : List (Option Located)} {k : Nat} :
    StaysOpen (slot :: slots) (k + 1) ↔
      slot.any (·.statement.isEndScript) = false ∧ StaysOpen slots k := by
  constructor
  · intro h
    refine ⟨h 0 (Nat.zero_le _), fun m hm => ?_⟩
    rw [← statesAt_cons_succ]
    exact h (m + 1) (Nat.succ_le_succ hm)
  · rintro ⟨hslot, h⟩ m hm
    cases m with
    | zero => exact hslot
    | succ m => exact (statesAt_cons_succ _ _ _ _).trans (h m (Nat.le_of_succ_le_succ hm))

theorem not_inBody_zero (slots : List (Option Located)) : ¬ InBody slots 0 := by
  rintro ⟨j, hj, -⟩
  exact Nat.not_lt_zero j hj

theorem inBody_cons_succ {slot : Option Located} {slots : List (Option Located)} {k : Nat} :
    InBody (slot :: slots) (k + 1) ↔
      (slot.any (·.statement.isScript) = true ∧ StaysOpen slots k) ∨ InBody slots k := by
  constructor
  · rintro ⟨j, hj, hscript, hopen⟩
    have hopen' : ∀ m, j < m + 1 → m ≤ k → statesAt Statement.isEndScript slots m = false := by
      intro m hjm hm
      rw [← statesAt_cons_succ _ slot]
      exact hopen (m + 1) hjm (Nat.succ_le_succ hm)
    cases j with
    | zero => exact .inl ⟨hscript, fun m hm => hopen' m (Nat.succ_pos m) hm⟩
    | succ j =>
      rw [statesAt_cons_succ] at hscript
      exact .inr ⟨j, Nat.lt_of_succ_lt_succ hj, hscript, fun m hjm hm =>
        hopen' m (Nat.succ_lt_succ hjm) hm⟩
  · rintro (⟨hscript, hopen⟩ | ⟨j, hj, hscript, hopen⟩)
    · refine ⟨0, Nat.succ_pos k, hscript, fun m hm hmk => ?_⟩
      obtain ⟨m, rfl⟩ := Nat.exists_eq_succ_of_ne_zero (Nat.ne_of_gt hm)
      exact (statesAt_cons_succ _ _ _ _).trans (hopen m (Nat.le_of_succ_le_succ hmk))
    · refine ⟨j + 1, Nat.succ_lt_succ hj, (statesAt_cons_succ _ _ _ _).trans hscript,
        fun m hm hmk => ?_⟩
      obtain ⟨m, rfl⟩ := Nat.exists_eq_succ_of_ne_zero (Nat.ne_of_gt (Nat.zero_lt_of_lt hm))
      exact (statesAt_cons_succ _ _ _ _).trans
        (hopen m (Nat.lt_of_succ_lt_succ hm) (Nat.le_of_succ_le_succ hmk))

/-- Being in a body is a matter of the lines in front. -/
theorem inBodyFrom_cons_succ {inside : Bool} {slot : Option Located} {slots : List (Option Located)}
    {k : Nat} (h : inside = true → ∀ l, slot = some l → l.statement = .endScript) :
    InBodyFrom inside (slot :: slots) (k + 1) ↔
      InBodyFrom (Program.insideBehind inside slot) slots k := by
  have hinside : (inside = true ∧ slot.any (·.statement.isEndScript) = false) ∨
      slot.any (·.statement.isScript) = true ↔ Program.insideBehind inside slot = true := by
    cases slot with
    | none => simp [Program.insideBehind]
    | some l =>
      refine or_iff_right ?_
      rintro ⟨hin, hstop⟩
      rw [Option.any_some, h hin l rfl] at hstop
      cases hstop
  rw [InBodyFrom, InBodyFrom, staysOpen_cons_succ, inBody_cons_succ, ← hinside]
  tauto

namespace Program

open Reading Script

/-- Whether a line is blank or nothing but a comment. -/
def IsBlankLine (name : String) (number : Nat) (line : String) : Prop :=
  ∃ t, (outcome peek (lineStream name number line)).1 = .ok t ∧ t.isEnd = true

/-- Inside of an embedded script, only its end is a statement. -/
theorem isEndScript_of_lineAlone {s : TokenStream} {l : Located}
    (h : (outcome (lineAlone true) s).1 = .ok (some l)) : l.statement = .endScript := by
  obtain ⟨first, s₁, -, h⟩ := outcome_bind_fst_eq_ok.mp h
  split at h
  · cases h
  · obtain ⟨s', s₂, -, h⟩ := outcome_bind_fst_eq_ok.mp h
    obtain ⟨body, s₃, hbody, h⟩ := outcome_bind_fst_eq_ok.mp h
    cases body with
    | none => cases h
    | some statement =>
      obtain rfl := readBody_eq_some hbody
      cases h
      rfl

/-- A line without a statement is blank, or another line than the end of the embedded script around
it. -/
theorem lineAlone_eq_none {name : String} {number : Nat} {line : String} {inside : Bool}
    {slot : Option Located}
    (h : (outcome (lineAlone inside) (lineStream name number line)).1 = .ok slot) :
    slot = none ↔ IsBlankLine name number line ∨
      (inside = true ∧ slot.any (·.statement.isEndScript) = false) := by
  constructor
  · rintro rfl
    obtain ⟨first, s₁, hfirst, h⟩ := outcome_bind_fst_eq_ok.mp h
    split at h
    · rename_i hend
      exact .inl ⟨first, congrArg Prod.fst hfirst, hend⟩
    · cases inside with
      | true => exact .inr ⟨rfl, rfl⟩
      | false =>
        obtain ⟨s', s₂, -, h⟩ := outcome_bind_fst_eq_ok.mp h
        obtain ⟨statement, s₃, hread, h⟩ := outcome_bind_fst_eq_ok.mp h
        obtain ⟨whole, s₄, -, hread⟩ := outcome_bind_eq_ok.mp hread
        cases hread
        cases h
  · rintro (⟨first, hfirst, hend⟩ | ⟨rfl, hstop⟩)
    · obtain ⟨t, s₁, ht, h⟩ := outcome_bind_fst_eq_ok.mp h
      rw [ht] at hfirst
      cases hfirst
      rw [if_pos hend] at h
      cases h
      rfl
    · cases slot with
      | none => rfl
      | some l =>
        rw [Option.any_some, isEndScript_of_lineAlone h] at hstop
        cases hstop

theorem line_of_lineAlone {inside : Bool} {s : TokenStream} {l : Located}
    (h : (outcome (lineAlone inside) s).1 = .ok (some l)) : l.line = s.line := by
  obtain ⟨first, s₁, hfirst, h⟩ := outcome_bind_fst_eq_ok.mp h
  rw [← (peek_line hfirst).2]
  split at h
  · cases h
  · obtain ⟨s', s₂, hs, h⟩ := outcome_bind_fst_eq_ok.mp h
    cases hs
    obtain ⟨statement, s₃, -, h⟩ := outcome_bind_fst_eq_ok.mp h
    cases statement with
    | none => cases h
    | some statement =>
      cases h
      rfl

/-- Every line is read once, has its own number, and has no statement if and only if it is blank or in a
body. -/
theorem linesAlone_slots {name : String} {offset index : Nat} {inside : Bool} {lines : List String}
    {slots : List (Option Located)} (h : linesAlone name offset inside index lines = .ok slots) :
    slots.length = lines.length ∧
      (∀ k l, slots[k]? = some (some l) → l.line = offset + index + k + 1) ∧
      ∀ k line, lines[k]? = some line →
        (slots[k]? = some none ↔
          IsBlankLine name (offset + index + k + 1) line ∨ InBodyFrom inside slots k) := by
  induction lines generalizing inside index slots with
  | nil =>
    cases h
    simp
  | cons line lines ih =>
    obtain ⟨slot, rest, rfl, hslot, hrest⟩ := linesAlone_cons_eq_ok.mp h
    obtain ⟨hlength, hnumber, hnone⟩ := ih hrest
    refine ⟨by rw [List.length_cons, List.length_cons, hlength], fun k l hk => ?_, fun k l hk => ?_⟩
    · cases k with
      | zero =>
        cases hk
        exact line_of_lineAlone hslot
      | succ k =>
        rw [hnumber k l hk]
        omega
    · cases k with
      | zero =>
        cases hk
        have hfirst := lineAlone_eq_none hslot
        rw [List.getElem?_cons_zero, Option.some.injEq, hfirst, InBodyFrom, staysOpen_cons_zero,
          or_iff_left (not_inBody_zero _)]
      | succ k =>
        have hk' : lines[k]? = some l := hk
        have hindex : offset + (index + 1) + k + 1 = offset + index + (k + 1) + 1 := by omega
        rw [List.getElem?_cons_succ, hnone k l hk', inBodyFrom_cons_succ, hindex]
        rintro rfl l' rfl
        exact isEndScript_of_lineAlone hslot

/-- A script whose lines are read by themselves is accepted if and only if they spell a nested tree. -/
theorem check_isOk_iff {name : String} {lines : List String} {offset : Nat}
    {slots : List (Option Located)} (h : linesAlone name offset false 0 lines = .ok slots) :
    (∃ p, check name lines offset = .ok p) ↔ ∃ t : BlockTree, t.lines = slots ∧ t.Nested 0 := by
  constructor
  · rintro ⟨p, hp⟩
    obtain ⟨hlines, t, ht, hnested, -⟩ := exists_nested_of_check hp
    rw [h] at hlines
    cases hlines
    exact ⟨t, ht, hnested⟩
  · rintro ⟨t, rfl, ht⟩
    exact exists_check_of_nested h ht

/-- Where a program of some lines has statements, and where they jump. -/
structure Describes (p : Program) (name : String) (offset : Nat) (lines : List String) : Prop where
  length : p.statements.length = lines.length
  number : ∀ k l, p.statements[k]? = some (some l) → l.line = offset + k + 1
  skipped : ∀ k line, lines[k]? = some line →
    (p.statements[k]? = some none ↔
      IsBlankLine name (offset + k + 1) line ∨ InBody p.statements k)
  ifs : Targets.keys p.jumps.ifTargets = indicesOf Statement.isIf 0 p.statements
  others : Targets.keys p.jumps.blockTargets = indicesOf Statement.isJump 0 p.statements
  targets : ∃ t : BlockTree, t.lines = p.statements ∧ t.Nested 0 ∧ p.jumps = t.jumps

theorem describes_of_check {name : String} {lines : List String} {offset : Nat} {p : Program}
    (h : check name lines offset = .ok p) : p.Describes name offset lines := by
  obtain ⟨hlines, t, ht, hnested, hjumps⟩ := exists_nested_of_check h
  obtain ⟨hlength, hnumber, hnone⟩ := linesAlone_slots hlines
  refine ⟨hlength, by simpa using hnumber, fun k line hk => ?_, ?_, ?_, t, ht, hnested, hjumps⟩
  · rw [hnone k line hk, InBodyFrom]
    simp
  · rw [hjumps, ← ht]
    exact BlockTree.keys_ifTargets hnested 0
  · have hnested' : t.Nested ([] : List Nat).length := hnested
    rw [hjumps, ← ht]
    exact BlockTree.keys_blockTargets hnested' 0

/-- A script whose lines are read by themselves is accepted if and only if they are well nested, and its
program then has the statements of the lines and exactly the jumps between them. -/
theorem check_exact {name : String} {lines : List String} {offset : Nat}
    {slots : List (Option Located)} (h : linesAlone name offset false 0 lines = .ok slots) :
    ((∃ p, check name lines offset = .ok p) ↔ ∃ t : BlockTree, t.lines = slots ∧ t.Nested 0) ∧
      ∀ p, check name lines offset = .ok p →
        p.statements = slots ∧ p.Describes name offset lines := by
  refine ⟨check_isOk_iff h, fun p hp => ⟨?_, describes_of_check hp⟩⟩
  have hlines := (exists_nested_of_check hp).1
  rw [h] at hlines
  exact (Except.ok.inj hlines).symm

theorem check_exact_loop :
    ∃ p, check "count" ["while found", "leave", "endwhile"] 4 = .ok p ∧
      p.Describes "count" 4 ["while found", "leave", "endwhile"] := by
  let head : Located := ⟨5, 1, "while found", .whileTest ⟨false, .found⟩⟩
  let leave : Located := ⟨6, 1, "leave", .leave 1 none⟩
  let closer : Located := ⟨7, 1, "endwhile", .endWhile⟩
  have hlines : linesAlone "count" 4 false 0 ["while found", "leave", "endwhile"] =
      .ok [some head, some leave, some closer] := by cbv
  obtain ⟨haccepted, hprogram⟩ := check_exact hlines
  have htree : BlockTree.Nested 0
      (.loop head ⟨false, .found⟩ (.leave leave 1 none .done) closer .done) :=
    ⟨⟨rfl, rfl⟩, ⟨rfl, by decide, trivial⟩, trivial⟩
  obtain ⟨p, hp⟩ := haccepted.mpr ⟨_, rfl, htree⟩
  exact ⟨p, hp, (hprogram p hp).2⟩

end Program

end LineScript
