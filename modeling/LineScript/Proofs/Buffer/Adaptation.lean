import LineScript.Buffer.Edit
import LineScript.Proofs.Buffer.Clamping

/-! Keeping a line up to date changes one line at most, and none the second time. The line that is changed or left
is the first one that matches; a line that is put in takes the cursor and the mark down with the lines below. -/
namespace LineScript.LineBuffer

open Buffer (Position)
open Search (Matcher)

/-- Whether a matcher matches none of some lines. -/
def NoMatch (m : Matcher) (lines : List String) : Prop :=
  ∀ line ∈ lines, m.matches line = false

/-- The first of some lines that a matcher matches, with the lines around it. -/
structure FirstMatch (m : Matcher) (lines pre : List String) (line : String) (post : List String) : Prop where
  parts : lines = pre ++ line :: post
  before : NoMatch m pre
  found : m.matches line = true

/-- Where a position goes when a line is put in at a place: down, if its own line does. -/
structure Carried (lines lines' : List String) (place : Nat) (p p' : Position) : Prop where
  line : p'.line = if p.line < place then p.line else p.line + 1
  column : p'.column = p.column
  /-- It stands on the same line, or behind the last one as before. -/
  text : lines'[p'.line]? = lines[p.line]?

/-- What keeping a line up to date has to come to. -/
inductive Adapts (b : LineBuffer) (m : Matcher) (new : String) (anchor : Option Matcher) (above : Bool) :
    LineBuffer → Adaptation → Prop
  | unchanged {pre post : List String} : FirstMatch m b.lines pre new post → Adapts b m new anchor above b .unchanged
  | replaced {pre post lines : List String} {line : String} :
      FirstMatch m b.lines pre line post → line ≠ new → lines = pre ++ new :: post →
      Adapts b m new anchor above { b with
        lines := lines
        cursor := b.cursor.clamp lines
        mark := b.mark.clamp lines
        changed := true } .replaced
  | inserted {a : Matcher} {pre post lines : List String} {line : String} {place : Nat} {cursor mark : Position} :
      NoMatch m b.lines → anchor = some a → FirstMatch a b.lines pre line post →
      lines = (if above then pre ++ new :: line :: post else pre ++ line :: new :: post) →
      place = (if above then pre.length else pre.length + 1) →
      Carried b.lines lines place b.cursor cursor → Carried b.lines lines place b.mark mark →
      Adapts b m new anchor above { b with lines, cursor, mark, changed := true } .inserted
  | appended : NoMatch m b.lines → (∀ a ∈ anchor, NoMatch a b.lines) →
      Adapts b m new anchor above { b with lines := b.lines ++ [new], changed := true } .appended

variable {b : LineBuffer} {m : Matcher} {new line : String} {anchor : Option Matcher} {above : Bool}
  {pre post : List String}

theorem FirstMatch.findLine? (h : FirstMatch m b.lines pre line post) : b.findLine? m 0 = some pre.length := by
  have hpre : pre.findIdx? m.matches = none := List.findIdx?_eq_none_iff.mpr h.before
  simp [LineBuffer.findLine?, h.parts, hpre, List.findIdx?_cons, h.found]

theorem findLine?_cases (b : LineBuffer) (m : Matcher) :
    (∃ pre line post, FirstMatch m b.lines pre line post) ∨ NoMatch m b.lines ∧ b.findLine? m 0 = none := by
  cases hfind : b.lines.findIdx? m.matches with
  | none =>
    have hnone : b.findLine? m 0 = none := by simp [LineBuffer.findLine?, hfind]
    exact .inr ⟨List.findIdx?_eq_none_iff.mp hfind, hnone⟩
  | some i =>
    obtain ⟨hi, hmatch, hbefore⟩ := List.findIdx?_eq_some_iff_getElem.mp hfind
    refine .inl ⟨b.lines.take i, b.lines[i], b.lines.drop (i + 1), ?_, ?_, hmatch⟩
    · rw [← List.drop_eq_getElem_cons hi, List.take_append_drop]
    · intro other hother
      obtain ⟨j, hj, rfl⟩ := List.mem_take_iff_getElem.mp hother
      simpa using hbefore j (by omega)

/-- A line that matches first and reads as it should is left. -/
theorem adapt_of_firstMatch (h : FirstMatch m b.lines pre new post) (anchor : Option Matcher) (above : Bool) :
    b.adapt m new anchor above = (b, .unchanged) := by
  have hline : b.lines[pre.length]? = some new := by simp [h.parts]
  rw [adapt, h.findLine?]
  dsimp only
  rw [if_pos hline]

theorem insertIdx_append (front below : List String) (new : String) :
    (front ++ below).insertIdx front.length new = front ++ new :: below := by
  induction front with
  | nil => rfl
  | cons line front ih => simp [ih]

/-- A position of some lines when a line is put in between them. -/
theorem carried_insert {p : Position} {front below : List String} (hp : p.Clamped (front ++ below)) (new : String) :
    let p' : Position := if front.length ≤ p.line then { p with line := p.line + 1 } else p
    p'.Clamped (front ++ new :: below) ∧ Carried (front ++ below) (front ++ new :: below) front.length p p' := by
  dsimp only
  by_cases hplace : front.length ≤ p.line
  · obtain ⟨line, column⟩ := p
    obtain ⟨i, rfl⟩ : ∃ i, line = front.length + i := Nat.exists_eq_add_of_le hplace
    have hlines : front ++ new :: below = (front ++ [new]) ++ below := by simp
    have hline : front.length + i + 1 = (front ++ [new]).length + i := by
      simp only [List.length_append, List.length_singleton]
      omega
    rw [Position.clamped_append_right] at hp
    rw [if_pos hplace, hlines]
    dsimp only
    rw [hline, Position.clamped_append_right]
    refine ⟨hp, ?_, rfl, ?_⟩
    · show (front ++ [new]).length + i = if front.length + i < front.length then _ else _
      rw [if_neg (by omega), hline]
    · rw [List.getElem?_append_right (Nat.le_add_right _ _), List.getElem?_append_right (Nat.le_add_right _ _),
        Nat.add_sub_cancel_left, Nat.add_sub_cancel_left]
  · have hlt : p.line < front.length := Nat.lt_of_not_le hplace
    rw [Position.clamped_append_left hlt] at hp
    rw [if_neg hplace, Position.clamped_append_left hlt]
    refine ⟨hp, ?_, rfl, ?_⟩
    · rw [if_pos hlt]
    · rw [List.getElem?_append_left hlt, List.getElem?_append_left hlt]

/-- A line is put in above or below the first line that matches the anchor. -/
theorem adapts_of_anchor {a : Matcher} (hb : b.Placed Position.Clamped) (hnone : NoMatch m b.lines)
    (hfind : b.findLine? m 0 = none) (h : FirstMatch a b.lines pre line post) (new : String) (above : Bool) :
    Adapts b m new (some a) above (b.adapt m new (some a) above).1 (b.adapt m new (some a) above).2 := by
  obtain ⟨hcursor, hmark⟩ := hb
  -- The lines above and below the new one.
  obtain ⟨front, below, hparts, hplace, hlines⟩ : ∃ front below, b.lines = front ++ below ∧
      (if above then pre.length else pre.length + 1) = front.length ∧
      front ++ new :: below = if above then pre ++ new :: line :: post else pre ++ line :: new :: post := by
    cases above with
    | true => exact ⟨pre, line :: post, h.parts, rfl, rfl⟩
    | false =>
      refine ⟨pre ++ [line], post, ?_, ?_, ?_⟩
      · rw [h.parts]
        simp
      · simp
      · simp
  have hstate : b.adapt m new (some a) above = ({ b with
      cursor := if front.length ≤ b.cursor.line then { b.cursor with line := b.cursor.line + 1 } else b.cursor
      mark := if front.length ≤ b.mark.line then { b.mark with line := b.mark.line + 1 } else b.mark }.edit
        (front ++ new :: below), .inserted) := by
    rw [adapt, hfind, Option.bind_some, h.findLine?]
    dsimp only
    rw [hplace, hparts, insertIdx_append]
  rw [hparts] at hcursor hmark
  obtain ⟨hcursor', hcarriedCursor⟩ := carried_insert hcursor new
  obtain ⟨hmark', hcarriedMark⟩ := carried_insert hmark new
  rw [hstate, edit, Placed.normalize_eq ⟨hcursor', hmark'⟩]
  rw [← hparts] at hcarriedCursor hcarriedMark
  exact .inserted hnone rfl h hlines hplace.symm hcarriedCursor hcarriedMark

theorem adapts_adapt (hb : b.Placed Position.Clamped) (m : Matcher) (new : String) (anchor : Option Matcher)
    (above : Bool) : Adapts b m new anchor above (b.adapt m new anchor above).1 (b.adapt m new anchor above).2 := by
  rcases findLine?_cases b m with ⟨pre, line, post, h⟩ | ⟨hnone, hfind⟩
  · by_cases heq : line = new
    · subst heq
      rw [adapt_of_firstMatch h]
      exact .unchanged h
    · have hline : b.lines[pre.length]? ≠ some new := by simpa [h.parts] using heq
      have hset : b.lines.set pre.length new = pre ++ new :: post := by simp [h.parts]
      have hstate : b.adapt m new anchor above = (b.edit (pre ++ new :: post), .replaced) := by
        rw [adapt, h.findLine?]
        dsimp only
        rw [if_neg hline, hset]
      rw [hstate]
      exact .replaced h heq rfl
  · cases anchor with
    | none =>
      have hstate : b.adapt m new none above = (b.append [new], .appended) := by
        rw [adapt, hfind]
        rfl
      rw [hstate]
      exact .appended hnone (by simp)
    | some a =>
      rcases findLine?_cases b a with ⟨pre, line, post, h⟩ | ⟨hnoneAnchor, hfindAnchor⟩
      · exact adapts_of_anchor hb hnone hfind h new above
      · have hstate : b.adapt m new (some a) above = (b.append [new], .appended) := by
          rw [adapt, hfind, Option.bind_some, hfindAnchor]
        rw [hstate]
        refine .appended hnone ?_
        intro a' ha'
        cases ha'
        exact hnoneAnchor

section
variable {b' : LineBuffer} {outcome : Adaptation}

theorem Adapts.of_unchanged (h : Adapts b m new anchor above b' .unchanged) :
    b' = b ∧ ∃ pre post, FirstMatch m b.lines pre new post := by
  cases h with
  | unchanged hfirst => exact ⟨rfl, _, _, hfirst⟩

theorem NoMatch.insert {front below : List String} (h : NoMatch m (front ++ below)) (hnew : m.matches new = true) :
    FirstMatch m (front ++ new :: below) front new below := by
  have hfront : NoMatch m front := fun line hline => h line (List.mem_append_left _ hline)
  exact ⟨rfl, hfront, hnew⟩

/-- Whatever has been done, the line that has been written is the first one that matches now. -/
theorem Adapts.firstMatch (h : Adapts b m new anchor above b' outcome) (hnew : m.matches new = true) :
    ∃ pre post, FirstMatch m b'.lines pre new post := by
  cases h with
  | unchanged hfirst => exact ⟨_, _, hfirst⟩
  | replaced hfirst _ hlines => exact ⟨_, _, hlines, hfirst.before, hnew⟩
  | @inserted a pre post lines line _ _ _ hnone _ hfirst hlines =>
    dsimp only
    cases above with
    | true =>
      have hlines : lines = pre ++ new :: line :: post := hlines
      rw [hfirst.parts] at hnone
      rw [hlines]
      exact ⟨_, _, hnone.insert hnew⟩
    | false =>
      have hparts : b.lines = (pre ++ [line]) ++ post := by simp [hfirst.parts]
      have hlines : lines = (pre ++ [line]) ++ new :: post := by simp [hlines]
      rw [hparts] at hnone
      rw [hlines]
      exact ⟨_, _, hnone.insert hnew⟩
  | appended hnone _ =>
    have hnone : NoMatch m (b.lines ++ []) := by rwa [List.append_nil]
    exact ⟨_, _, hnone.insert hnew⟩

end

/-- One change at most, and none the second time if the new line matches. The buffer is left as it is if and only
if the first line that matches is the new one already. -/
theorem adapt_minimal (hb : b.Placed Position.Clamped) (m : Matcher) (new : String) (anchor : Option Matcher)
    (above : Bool) :
    Adapts b m new anchor above (b.adapt m new anchor above).1 (b.adapt m new anchor above).2 ∧
      ((b.adapt m new anchor above).2 = .unchanged ↔ ∃ pre post, FirstMatch m b.lines pre new post) ∧
      ((b.adapt m new anchor above).2 = .unchanged → (b.adapt m new anchor above).1 = b) ∧
      (m.matches new = true →
        (b.adapt m new anchor above).1.adapt m new anchor above = ((b.adapt m new anchor above).1, .unchanged)) := by
  have hadapts := adapts_adapt hb m new anchor above
  refine ⟨hadapts, ⟨?_, ?_⟩, ?_, ?_⟩
  · intro hunchanged
    rw [hunchanged] at hadapts
    exact hadapts.of_unchanged.2
  · rintro ⟨pre, post, hfirst⟩
    rw [adapt_of_firstMatch hfirst]
  · intro hunchanged
    rw [hunchanged] at hadapts
    exact hadapts.of_unchanged.1
  · intro hnew
    obtain ⟨pre, post, hfirst⟩ := hadapts.firstMatch hnew
    exact adapt_of_firstMatch hfirst anchor above

/-- The expression for a letter. -/
def letter (c : Char) : Search.Expression where
  pattern := c.toString
  kind := .literal
  machine := .cat (.mark 0 0) (.cat (.set 2 (.range c.toNat c.toNat)) (.mark 1 1))

/-- No line has the letter, and the first of two lines that match the anchor is the place: the mark is above the new
line, and the cursor behind the last line goes down. -/
theorem adapt_minimal_below :
    let b : LineBuffer := { lines := ["x", "a1", "a2"], cursor := ⟨3, 0⟩, mark := ⟨1, 2⟩ }
    let adapted := b.adapt (letter 'b').matcher "b" (some (letter 'a').matcher) false
    Search.Expression.new "b" .literal "" = .ok (letter 'b') ∧ Search.Expression.new "a" .literal "" = .ok (letter 'a') ∧
      b.Placed Position.Clamped ∧ (letter 'b').matcher.matches "b" = true ∧
      adapted = ({ b with lines := ["x", "a1", "b", "a2"], cursor := ⟨4, 0⟩, changed := true }, .inserted) ∧
      Adapts b (letter 'b').matcher "b" (some (letter 'a').matcher) false adapted.1 adapted.2 ∧
      adapted.1.adapt (letter 'b').matcher "b" (some (letter 'a').matcher) false = (adapted.1, .unchanged) := by
  intro b adapted
  have hb : b.Placed Position.Clamped := ⟨by decide, by decide⟩
  have hnew : (letter 'b').matcher.matches "b" = true := by decide +kernel
  obtain ⟨hadapts, -, -, hagain⟩ := adapt_minimal hb (letter 'b').matcher "b" (some (letter 'a').matcher) false
  exact ⟨rfl, rfl, hb, hnew, by decide +kernel, hadapts, hagain hnew⟩

end LineScript.LineBuffer
