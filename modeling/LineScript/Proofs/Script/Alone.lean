import LineScript.Proofs.Script.Nesting
import LineScript.Proofs.Script.Statements

/-! Lines that are read by themselves. The blocks around a line decide whether its statement may stand
there, but not which statement it is. -/
namespace LineScript

namespace Reading

/-- Looking ahead stays on the line. -/
theorem peek_line {s s' : TokenStream} {r : Except Error Token} (h : outcome peek s = (r, s')) :
    s'.script = s.script ∧ s'.line = s.line := by
  rw [peek, outcome_bind, outcome_get] at h
  cases hp : s.pending with
  | some t =>
    simp only [hp, outcome_pure, Prod.mk.injEq] at h
    exact h.2 ▸ ⟨rfl, rfl⟩
  | none =>
    simp only [hp, outcome_bind] at h
    cases hs : s.scan true with
    | error e =>
      rw [hs] at h
      cases h
      exact ⟨rfl, rfl⟩
    | ok t =>
      rw [hs] at h
      cases h
      exact ⟨rfl, rfl⟩

end Reading

open Reading

namespace Script

/-- Whether a reading does the same as another one, but refuses what does not fit. -/
def Restricts {α : Type} (fits : α → Bool) (m m' : Reading α) : Prop :=
  ∀ s a s', outcome m s = (.ok a, s') ↔ outcome m' s = (.ok a, s') ∧ fits a = true

namespace Restricts

variable {α β : Type} {fits : α → Bool}

theorem pure {a : α} (h : fits a = true) : Restricts fits (Pure.pure a) (Pure.pure a) := by
  intro s b s'
  simp only [outcome_pure, Prod.mk.injEq, Except.ok.injEq]
  constructor
  · rintro ⟨rfl, rfl⟩
    exact ⟨⟨rfl, rfl⟩, h⟩
  · exact And.left

theorem throw (e : Error) : Restricts fits (MonadExcept.throw e) (MonadExcept.throw e) := by
  intro s b s'
  simp

theorem bind (m : Reading β) {f f' : β → Reading α} (h : ∀ b, Restricts fits (f b) (f' b)) :
    Restricts fits (m >>= f) (m >>= f') := by
  intro s a s'
  simp only [outcome_bind_eq_ok]
  constructor
  · rintro ⟨b, s₁, hm, hf⟩
    obtain ⟨hf', hfit⟩ := (h b s₁ a s').mp hf
    exact ⟨⟨b, s₁, hm, hf'⟩, hfit⟩
  · rintro ⟨⟨b, s₁, hm, hf'⟩, hfit⟩
    exact ⟨b, s₁, hm, (h b s₁ a s').mpr ⟨hf', hfit⟩⟩

/-- What is refused early is what would come out as something that does not fit. -/
theorem bind_left {fits' : β → Bool} {m m' : Reading β} {f : β → Reading α}
    (h : Restricts fits' m m')
    (hf : ∀ b s a s', outcome (f b) s = (.ok a, s') → fits a = fits' b) :
    Restricts fits (m >>= f) (m' >>= f) := by
  intro s a s'
  simp only [outcome_bind_eq_ok]
  constructor
  · rintro ⟨b, s₁, hm, hb⟩
    obtain ⟨hm', hfit⟩ := (h s b s₁).mp hm
    exact ⟨⟨b, s₁, hm', hb⟩, (hf b s₁ a s' hb).trans hfit⟩
  · rintro ⟨⟨b, s₁, hm', hb⟩, hfit⟩
    exact ⟨b, s₁, (h s b s₁).mpr ⟨hm', (hf b s₁ a s' hb).symm.trans hfit⟩, hb⟩

theorem ite {c : Prop} [Decidable c] {m m' n n' : Reading α} (hm : Restricts fits m m')
    (hn : Restricts fits n n') :
    Restricts fits (if c then m else n) (if c then m' else n') := by
  split
  · exact hm
  · exact hn

end Restricts

theorem restricts_levelsWithin (depth n : Nat) :
    Restricts (fun n => 1 ≤ n && n ≤ depth) (levelsWithin depth n >>= fun _ => pure n)
      (pure () >>= fun _ => pure n) := by
  intro s k s'
  rw [levelsWithin]
  split <;>
    simp only [outcome_bind, outcome_throw, outcome_pure, Prod.mk.injEq, Except.ok.injEq,
      reduceCtorEq, false_and, false_iff, Bool.and_eq_true, decide_eq_true_eq]
  · rintro ⟨⟨rfl, -⟩, hfit⟩
    omega
  · refine ⟨?_, And.left⟩
    rintro ⟨rfl, rfl⟩
    exact ⟨⟨rfl, rfl⟩, by omega⟩

theorem restricts_leaveLevels (depth : Nat) :
    Restricts (fun n => 1 ≤ n && n ≤ depth) (leaveLevels (levelsWithin depth))
      (leaveLevels fun _ => pure ()) := by
  unfold leaveLevels
  refine .bind _ fun t => ?_
  split
  · refine .bind _ fun t => ?_
    split <;> exact .bind _ fun n => restricts_levelsWithin depth n
  · exact .bind _ fun n => restricts_levelsWithin depth n

theorem restricts_leave (depth : Nat) :
    Restricts (Statement.levelsFit depth) (keywordStatement (levelsWithin depth) "leave")
      (keywordStatement (fun _ => pure ()) "leave") := by
  refine .bind _ fun fuel => ?_
  refine .bind_left (restricts_leaveLevels depth) fun levels s statement s' h => ?_
  obtain ⟨conditional, s₁, -, h⟩ := outcome_bind_eq_ok.mp h
  cases conditional with
  | true =>
    obtain ⟨condition, s₂, -, h⟩ := outcome_bind_eq_ok.mp h
    cases h
    rfl
  | false =>
    cases h
    rfl

theorem restricts_keywordStatement (depth : Nat) (word : String) :
    Restricts (Statement.levelsFit depth) (keywordStatement (levelsWithin depth) word)
      (keywordStatement (fun _ => pure ()) word) := by
  by_cases hleave : word = "leave"
  · exact hleave ▸ restricts_leave depth
  unfold keywordStatement
  refine .bind _ fun s => ?_
  split
  case h_11 => exact absurd rfl hleave
  -- every other word is read alike on both sides, and yields a statement without levels
  all_goals
    repeat'
      first
      | with_reducible refine .bind _ fun _ => ?_
      | with_reducible refine .ite ?_ ?_
      | with_reducible refine .pure ?_
      | with_reducible refine .throw _
      | split
  all_goals rfl

/-- The blocks around a statement only matter for the levels of a `leave`. -/
theorem restricts_statement (depth : Nat) :
    Restricts (Statement.levelsFit depth) (statement (levelsWithin depth))
      (statement fun _ => pure ()) := by
  refine .bind _ fun t => ?_
  split
  · unfold assignBuffer
    repeat'
      first
      | with_reducible refine .bind _ fun _ => ?_
      | with_reducible refine .ite ?_ ?_
      | with_reducible refine .pure ?_
      | rfl
  · unfold assign
    repeat'
      first
      | with_reducible refine .bind _ fun _ => ?_
      | with_reducible refine .ite ?_ ?_
      | with_reducible refine .pure ?_
      | with_reducible refine .throw _
      | rfl
  · exact restricts_keywordStatement depth _
  · exact .throw _

end Script

namespace Program

open Script

/-- The statement of a line that consists of one. -/
def wholeStatement : Reading Statement := do
  let statement ← statement fun _ => pure ()
  expectEnd
  return statement

/-- The statement of a line by itself, if it has one, inside of an embedded script or not. -/
def lineAlone (inside : Bool) : Reading (Option Located) := do
  let first ← peek
  if first.isEnd then return none
  let s ← get
  let statement ← (if inside then readBody first else
    wholeStatement >>= fun statement => return some statement)
  return statement.map (located s (s.positionAt first.column).column)

/-- Whether the lines behind a line are inside of an embedded script. -/
def insideBehind (inside : Bool) : Option Located → Bool
  | some l => l.statement.isScript
  | none => inside

/-- The statements of some lines, each by itself. Where an embedded script begins and ends is all that
the lines in front matter for. -/
def linesAlone (name : String) (offset : Nat) : Bool → Nat → List String →
    Except Error (List (Option Located))
  | _, _, [] => .ok []
  | inside, index, line :: lines =>
    match (outcome (lineAlone inside) (lineStream name (offset + index + 1) line)).1 with
    | .error e => .error e
    | .ok slot =>
      (linesAlone name offset (insideBehind inside slot) (index + 1) lines).map (slot :: ·)

/-- A statement is read in an outline if and only if it is one by itself, its levels fit and the outline
takes it in. -/
theorem readStatement_eq_ok {o o' : Outline} {index : Nat} {position : SourcePosition}
    {s s' : TokenStream} {statement : Statement} :
    outcome (readStatement o index position) s = (.ok (statement, o'), s') ↔
      outcome wholeStatement s = (.ok statement, s') ∧
        statement.levelsFit o.blocks.length = true ∧
          o.advance index position statement = .ok o' := by
  have heffect : outcome (readStatement o index position) s = (.ok (statement, o'), s') ↔
      outcome (readEffect o index position) s = (.ok (statement, o'), s') := by
    rw [outcome_readStatement]
    cases outcome (readEffect o index position) s with
    | mk r s₁ => cases r <;> simp [Except.mapError]
  rw [heffect, readEffect, outcome_bind_eq_ok, wholeStatement, outcome_bind_eq_ok]
  constructor
  · rintro ⟨statement', s₁, hread, h⟩
    obtain ⟨hread, hfit⟩ := (restricts_statement _ s statement' s₁).mp hread
    cases hadvance : o.advance index position statement' with
    | error m => simp [hadvance] at h
    | ok o₁ =>
      simp only [hadvance, outcome_bind_eq_ok, outcome_pure, Prod.mk.injEq, Except.ok.injEq] at h
      obtain ⟨u, s₂, hend, ⟨rfl, rfl⟩, rfl⟩ := h
      exact ⟨⟨statement', s₁, hread, outcome_bind_eq_ok.mpr ⟨u, s₂, hend, rfl⟩⟩, hfit, hadvance⟩
  · rintro ⟨⟨statement', s₁, hread, h⟩, hfit, hadvance⟩
    simp only [outcome_bind_eq_ok, outcome_pure, Prod.mk.injEq, Except.ok.injEq] at h
    obtain ⟨u, s₂, hend, rfl, rfl⟩ := h
    refine ⟨statement', s₁, (restricts_statement _ s statement' s₁).mpr ⟨hread, hfit⟩, ?_⟩
    simp only [hadvance]
    exact outcome_bind_eq_ok.mpr ⟨u, s₂, hend, rfl⟩

theorem readBody_eq_some {first : Token} {s s' : TokenStream} {statement : Statement}
    (h : outcome (readBody first) s = (.ok (some statement), s')) : statement = .endScript := by
  unfold readBody at h
  split at h
  · obtain ⟨_, _, -, h⟩ := outcome_bind_eq_ok.mp h
    obtain ⟨_, _, -, h⟩ := outcome_bind_eq_ok.mp h
    cases h
    rfl
  · cases h

/-- A line without a statement leaves the outline as it is, and one with a statement is taken in. -/
def steps? (name : String) (o : Outline) (index : Nat) : Option Located → Option Outline
  | none => some o
  | some l => o.take? name index l

/-- In an embedded script, a line is taken in if and only if it is read by itself. -/
theorem readBody_steps? {o o' : Outline} {opening : Nat × SourcePosition} {index : Nat}
    {s : TokenStream} {name : String} {first : Token} {slot : Option Located}
    (he : o.embedded = some opening) (place : Statement → Located)
    (hplace : ∀ statement, (place statement).statement = statement) :
    (outcome (readBody first >>= fun body =>
        match body with
        | none => return (none, o)
        | some statement =>
          return (some (place statement),
            { o with embedded := none }.jump opening.1 (index + 1))) s).1 = .ok (slot, o') ↔
      (outcome (readBody first >>= fun body => return body.map place) s).1 = .ok slot ∧
        steps? name o index slot = some o' := by
  simp only [outcome_bind_fst_eq_ok]
  constructor
  · rintro ⟨body, s', hbody, h⟩
    cases body with
    | none =>
      cases h
      exact ⟨⟨none, s', hbody, rfl⟩, rfl⟩
    | some statement =>
      obtain rfl := readBody_eq_some hbody
      cases h
      exact ⟨⟨_, s', hbody, rfl⟩, by simp [steps?, Outline.take?, he, hplace]⟩
  · rintro ⟨⟨body, s', hbody, h⟩, hsteps⟩
    refine ⟨body, s', hbody, ?_⟩
    cases body with
    | none =>
      cases h
      cases hsteps
      rfl
    | some statement =>
      obtain rfl := readBody_eq_some hbody
      cases h
      simp only [Option.map_some, steps?, Outline.take?, he, hplace, Option.some.injEq] at hsteps
      rw [← hsteps]
      rfl

/-- Elsewhere, a line is taken in if and only if it is read by itself and its statement may stand
there. -/
theorem readStatement_steps? {o o' : Outline} {index : Nat} {s : TokenStream}
    {position : SourcePosition} {slot : Option Located} (he : o.embedded = none)
    (place : Statement → Located) (hplace : ∀ statement, (place statement).statement = statement)
    (hposition : ∀ statement,
      position = ⟨position.script, (place statement).line, (place statement).column⟩) :
    (outcome (readStatement o index position >>= fun r => return (some (place r.1), r.2)) s).1 =
        .ok (slot, o') ↔
      (outcome ((wholeStatement >>= fun statement => return some statement) >>= fun statement =>
        return statement.map place) s).1 = .ok slot ∧
        steps? position.script o index slot = some o' := by
  simp only [bind_assoc, pure_bind, outcome_bind_fst_eq_ok]
  constructor
  · rintro ⟨⟨statement, o₁⟩, s', hread, h⟩
    cases h
    obtain ⟨hwhole, hfit, hadvance⟩ := readStatement_eq_ok.mp hread
    refine ⟨⟨statement, s', hwhole, rfl⟩, ?_⟩
    refine Outline.take?_of_advance he ?_ ?_ <;> rw [hplace]
    · exact hfit
    · rw [← hposition]
      exact hadvance
  · rintro ⟨⟨statement, s', hwhole, h⟩, hsteps⟩
    cases h
    simp only [Option.map_some, steps?, Outline.take?, he, hplace, ← hposition] at hsteps
    split_ifs at hsteps with hfit
    split at hsteps
    · rename_i hadvance
      cases hsteps
      exact ⟨(statement, _), s', readStatement_eq_ok.mpr ⟨hwhole, hfit, hadvance⟩, rfl⟩
    · cases hsteps

/-- A line is read in an outline if and only if it is read by itself and its statement may stand
there. -/
theorem readLine_eq_ok {o o' : Outline} {index : Nat} {s : TokenStream} {slot : Option Located} :
    (outcome (readLine o index) s).1 = .ok (slot, o') ↔
      (outcome (lineAlone o.embedded.isSome) s).1 = .ok slot ∧
        steps? s.script o index slot = some o' := by
  rw [readLine, lineAlone, outcome_bind, outcome_bind]
  cases hpeek : outcome peek s with
  | mk r s₁ =>
    have hscript := (peek_line hpeek).1
    cases r with
    | error e => simp
    | ok first =>
      by_cases hend : first.isEnd = true
      · simp only [hend, if_true, outcome_pure, Except.ok.injEq, Prod.mk.injEq]
        constructor
        · rintro ⟨rfl, rfl⟩
          exact ⟨rfl, rfl⟩
        · rintro ⟨rfl, h⟩
          exact ⟨rfl, Option.some.inj h⟩
      · simp only [hend, Bool.false_eq_true, if_false]
        rw [outcome_bind, outcome_bind, outcome_get, ← hscript]
        cases he : o.embedded with
        | some opening => exact readBody_steps? he _ fun _ => rfl
        | none => exact readStatement_steps? he _ (fun _ => rfl) fun _ => rfl

/-- Taking a line in moves in and out of embedded scripts as the line by itself does. -/
theorem isSome_embedded_of_steps? {name : String} {o o' : Outline} {index : Nat}
    {slot : Option Located} (h : steps? name o index slot = some o') :
    o'.embedded.isSome = insideBehind o.embedded.isSome slot := by
  cases slot with
  | none =>
    cases h
    rfl
  | some l =>
    have hshift := Outline.take?_shifts h
    change o'.standing.1 = l.statement.isScript
    generalize o.standing = p, l.statement = statement, o'.standing = q at hshift
    cases hshift with
    | plain hplain => cases statement <;> first | rfl | cases hplain
    | _ => rfl

theorem readLines_cons_eq_ok {name : String} {offset index : Nat} {o o' : Outline} {line : String}
    {lines : List String} {slots : List (Option Located)} :
    readLines name offset o index (line :: lines) = .ok (slots, o') ↔
      ∃ slot o₁ rest, slots = slot :: rest ∧
        (outcome (readLine o index) (lineStream name (offset + index + 1) line)).1 = .ok (slot, o₁) ∧
        readLines name offset o₁ (index + 1) lines = .ok (rest, o') := by
  have hrun : (readLine o index).run (lineStream name (offset + index + 1) line) =
      outcome (readLine o index) (lineStream name (offset + index + 1) line) := rfl
  rw [readLines, hrun]
  cases (outcome (readLine o index) (lineStream name (offset + index + 1) line)).1 with
  | error e => simp
  | ok r =>
    obtain ⟨slot, o₁⟩ := r
    cases hrest : readLines name offset o₁ (index + 1) lines with
    | error e => simp [hrest, Except.map]
    | ok r =>
      obtain ⟨rest, o₂⟩ := r
      simp only [hrest, Except.map, Except.ok.injEq, Prod.mk.injEq]
      constructor
      · rintro ⟨rfl, rfl⟩
        exact ⟨slot, o₁, rest, rfl, ⟨rfl, rfl⟩, hrest⟩
      · rintro ⟨slot', o₁', rest', rfl, ⟨rfl, rfl⟩, h⟩
        rw [hrest] at h
        cases h
        exact ⟨rfl, rfl⟩

theorem linesAlone_cons_eq_ok {name : String} {offset index : Nat} {inside : Bool} {line : String}
    {lines : List String} {slots : List (Option Located)} :
    linesAlone name offset inside index (line :: lines) = .ok slots ↔
      ∃ slot rest, slots = slot :: rest ∧
        (outcome (lineAlone inside) (lineStream name (offset + index + 1) line)).1 = .ok slot ∧
        linesAlone name offset (insideBehind inside slot) (index + 1) lines = .ok rest := by
  rw [linesAlone]
  cases (outcome (lineAlone inside) (lineStream name (offset + index + 1) line)).1 with
  | error e => simp
  | ok slot =>
    cases hrest : linesAlone name offset (insideBehind inside slot) (index + 1) lines with
    | error e => simp [hrest, Except.map]
    | ok rest =>
      simp only [hrest, Except.map, Except.ok.injEq]
      constructor
      · rintro rfl
        exact ⟨slot, rest, rfl, rfl, hrest⟩
      · rintro ⟨slot', rest', rfl, rfl, h⟩
        rw [hrest] at h
        cases h
        rfl

theorem follow?_cons {name : String} {o : Outline} {index : Nat} {slot : Option Located}
    {slots : List (Option Located)} :
    Outline.follow? name o index (slot :: slots) =
      (steps? name o index slot).bind fun o₁ => Outline.follow? name o₁ (index + 1) slots := by
  cases slot with
  | none => rfl
  | some l =>
    rw [Outline.follow?, steps?]
    cases o.take? name index l <;> rfl

/-- Lines are accepted in an outline if and only if each is read by itself and the outline can be followed
along the statements. -/
theorem readLines_eq_ok {name : String} {offset index : Nat} {o o' : Outline} {lines : List String}
    {slots : List (Option Located)} :
    readLines name offset o index lines = .ok (slots, o') ↔
      linesAlone name offset o.embedded.isSome index lines = .ok slots ∧
        Outline.follow? name o index slots = some o' := by
  induction lines generalizing o index slots with
  | nil =>
    simp only [readLines, linesAlone, Except.ok.injEq, Prod.mk.injEq]
    constructor
    · rintro ⟨rfl, rfl⟩
      exact ⟨rfl, rfl⟩
    · rintro ⟨rfl, h⟩
      exact ⟨rfl, Option.some.inj h⟩
  | cons line lines ih =>
    rw [readLines_cons_eq_ok, linesAlone_cons_eq_ok]
    constructor
    · rintro ⟨slot, o₁, rest, rfl, hline, hrest⟩
      obtain ⟨halone, hstep⟩ := readLine_eq_ok.mp hline
      obtain ⟨hlines, hfollow⟩ := ih.mp hrest
      rw [isSome_embedded_of_steps? hstep] at hlines
      refine ⟨⟨slot, rest, rfl, halone, hlines⟩, ?_⟩
      rw [follow?_cons]
      exact Option.bind_eq_some_iff.mpr ⟨o₁, hstep, hfollow⟩
    · rintro ⟨⟨slot, rest, rfl, halone, hlines⟩, hfollow⟩
      rw [follow?_cons] at hfollow
      obtain ⟨o₁, hstep, hfollow⟩ := Option.bind_eq_some_iff.mp hfollow
      rw [← isSome_embedded_of_steps? hstep] at hlines
      exact ⟨slot, o₁, rest, rfl, readLine_eq_ok.mpr ⟨halone, hstep⟩, ih.mpr ⟨hlines, hfollow⟩⟩

/-- The statements of an accepted script are those of its lines, and they spell a nested tree, the jumps
of which are those of the script. -/
theorem exists_nested_of_check {name : String} {lines : List String} {offset : Nat} {p : Program}
    (h : check name lines offset = .ok p) :
    linesAlone name offset false 0 lines = .ok p.statements ∧
      ∃ t : BlockTree, t.lines = p.statements ∧ t.Nested 0 ∧ p.jumps = t.jumps := by
  unfold check at h
  split at h
  · cases h
  · rename_i slots o hlines
    obtain ⟨halone, hfollow⟩ := readLines_eq_ok.mp hlines
    split at h
    · cases h
    · rename_i hopen
      cases h
      obtain ⟨t, rfl, ht⟩ := Outline.follow?_iff_nested.mp ⟨o, hfollow, hopen⟩
      obtain ⟨o', hfollow', -, hjumps⟩ := Outline.follow?_tree name ht
      rw [hfollow] at hfollow'
      cases hfollow'
      exact ⟨halone, t, rfl, ht, hjumps⟩

/-- A script is accepted if its lines are read by themselves as those of a nested tree. -/
theorem exists_check_of_nested {name : String} {lines : List String} {offset : Nat} {t : BlockTree}
    (h : linesAlone name offset false 0 lines = .ok t.lines) (ht : t.Nested 0) :
    ∃ p, check name lines offset = .ok p := by
  obtain ⟨o, hfollow, hopen⟩ := Outline.follow?_iff_nested.mpr ⟨t, rfl, ht⟩
  have hlines : readLines name offset {} 0 lines = .ok (t.lines, o) :=
    readLines_eq_ok.mpr ⟨h, hfollow⟩
  exact ⟨{ statements := t.lines, jumps := o.jumps }, by rw [check, hlines]; simp [hopen]⟩

end Program

end LineScript
