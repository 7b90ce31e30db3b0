import LineScript.Proofs.Buffer.Confinement
import LineScript.Proofs.Run.Books
import LineScript.Proofs.Run.Substitutions

/-! Replacing in the line of the cursor, or in some lines from it on, as a statement does it. -/
namespace LineScript

open Regex (Match)

/-- The range of the line of the cursor, or of some lines from it on. -/
def Range.ofLines : Option Operand → Range
  | none => .line
  | some n => .lines n

namespace RunState

theorem buffer?_setBuffer_self (s : RunState) (name : String) (b : LineBuffer) :
    (s.setBuffer name b).buffer? name = some b := by
  unfold RunState.setBuffer RunState.buffer?
  by_cases hglobal : isGlobalName name = true
  · simp only [hglobal, if_true]
    unfold Engine.setBuffer Engine.buffer?
    by_cases hmain : name = mainName
    · simp [hmain]
    · simp [hmain, Registry.get?_insert_self]
  · simp [hglobal, Registry.get?_insert_self]

theorem selected_setBuffer (s : RunState) (name : String) (b : LineBuffer) :
    (s.setBuffer name b).active.script.selected = s.active.script.selected := by
  unfold RunState.setBuffer
  split <;> rfl

end RunState

namespace Run

open Number (Double)

/-- Looking at a selected buffer that is there changes nothing. -/
theorem outcome_selected_of_some {s : RunState} {b : LineBuffer}
    (h : s.buffer? s.active.script.selected = some b) :
    outcome selected s = (.ok (s.active.script.selected, b), s) := by
  have hbuffer : outcome selected s = outcome (do
      let b ← NamedBuffers.buffer (m := Run) s.active.script.selected
      return (s.active.script.selected, b)) s := rfl
  rw [hbuffer, outcome_bind, outcome_buffer, h]
  rfl

/-- Looking at the selected buffer twice is to look at it once. -/
theorem outcome_selected_again {s s' : RunState} {p : String × LineBuffer}
    (h : outcome selected s = (.ok p, s')) : outcome selected s' = (.ok p, s') := by
  obtain ⟨b, s₁, hselected, hleft⟩ := outcome_selected s
  rw [hselected] at h
  cases h
  rcases hleft with ⟨hfound, rfl⟩ | rfl
  · exact hselected
  · have hname := s.selected_setBuffer s.active.script.selected b
    have hfound : (s.setBuffer s.active.script.selected b).buffer?
        (s.setBuffer s.active.script.selected b).active.script.selected = some b := by
      rw [hname]
      exact s.buffer?_setBuffer_self _ b
    have hagain := outcome_selected_of_some hfound
    rwa [hname] at hagain

theorem selected_twice {α : Type} (f : String × LineBuffer → String × LineBuffer → Run α) :
    (do let p ← selected; let q ← selected; f p q) = (do let p ← selected; f p p) := by
  funext s
  change outcome _ s = outcome _ s
  obtain ⟨b, s', hselected, -⟩ := outcome_selected s
  rw [outcome_bind, outcome_bind, hselected]
  dsimp only
  rw [outcome_bind, outcome_selected_again hselected]

/-- The number of lines that such a range names. -/
def lineCount : Option Operand → Run Nat
  | none => return 1
  | some n => return (← operandNumber n).toSize

/-- What a replacement in lines looks at before it is made. -/
structure LineReplacement where
  expression : Search.Expression
  /-- The text to put in place of the matches. -/
  text : String
  /-- The options, without a range. -/
  options : LineBuffer.ReplaceOptions
  /-- The number of lines. -/
  lines : Nat

def lineReplacement (pattern : Pattern) (other : Option Pattern) (new : Value) (count lines : Option Operand) :
    Run LineReplacement := do
  let (x, filter, r) ← substitution pattern other new
  let count ← count.mapM operandNumber
  return {
    expression := x
    text := r
    lines := ← lineCount lines
    options := {
      count := count.map Double.toSize
      filter := filter.map (·.matcher)
      inLine := x.flags.inLine
      groups := x.hasGroups } }

/-- A replacement in lines is one in the selected buffer, from the line of its cursor on. -/
theorem replace_ofLines (pattern : Pattern) (new : Value) (count : Option Operand) (other : Option Pattern)
    (lines : Option Operand) :
    replace pattern new count other (some (.ofLines lines)) = (do
      let p ← lineReplacement pattern other new count lines
      changeSelected (fun b => b.replace p.expression.matcher p.text (p.options.inLines b p.lines)) fun k =>
        modifyScript ({ · with replaced := k })) := by
  have hends : rangeEnds (.ofLines lines) = (do
      let n ← lineCount lines
      let named ← selected
      return (⟨named.2.cursor.line, 0⟩, ⟨named.2.cursor.line + n, 0⟩)) := by
    cases lines with
    | none => rfl
    | some n =>
      simp only [rangeEnds, Range.ofLines, lineCount, bind_assoc, pure_bind]
  rw [replace_eq]
  simp only [replaceOptions, lineReplacement, changeSelected, Option.mapM_some, hends, map_bind, map_pure,
    bind_assoc, pure_bind, selected_twice]
  rfl

/-- The expression of a pattern is one that was read, if one that is compiled in advance is. -/
theorem made_of_expression {p : Pattern} (hp : ∀ x ∈ p.compiled, x.Made) {s s' : RunState}
    {x : Search.Expression} (h : outcome (expression p) s = (.ok x, s')) : x.Made := by
  unfold expression at h
  split at h
  · next y hy =>
    cases h
    exact hp x hy
  · obtain ⟨body, s₁, -, hnew⟩ := outcome_bind_eq_ok.mp h
    split at hnew
    · next y hy =>
      cases hnew
      exact .new hy
    · cases hnew

theorem made_of_lineReplacement {pattern : Pattern} (hpattern : ∀ x ∈ pattern.compiled, x.Made)
    {other : Option Pattern} {new : Value} {count lines : Option Operand} {s s' : RunState}
    {p : LineReplacement} (h : outcome (lineReplacement pattern other new count lines) s = (.ok p, s')) :
    p.expression.Made := by
  simp only [lineReplacement, substitution, bind_assoc, pure_bind] at h
  obtain ⟨y, _, hy, h⟩ := outcome_bind_eq_ok.mp h
  obtain ⟨_, _, -, h⟩ := outcome_bind_eq_ok.mp h
  obtain ⟨_, _, -, h⟩ := outcome_bind_eq_ok.mp h
  obtain ⟨_, _, -, h⟩ := outcome_bind_eq_ok.mp h
  obtain ⟨_, _, -, h⟩ := outcome_bind_eq_ok.mp h
  cases h
  exact made_of_expression hpattern hy

/-- What a replacement in the line of the cursor, or in some lines from it on, does to the selected buffer. If what
it looks at fails, nothing is replaced. Otherwise the other lines stay, up to the one right behind: that line gets the
new text in front if it passes the filter, the count leaves room, and the first match in it is an empty one at its
start. So the lines confine the replacement exactly if this is not so, or the new text is empty. -/
theorem replace_in_lines_confined (text : String) {pattern : Pattern} (new : Value)
    (count : Option Operand) (other : Option Pattern) (lines : Option Operand)
    (hpattern : ∀ x ∈ pattern.compiled, x.Made) (s : RunState) :
    let st : Statement := .replace pattern new count other (some (.ofLines lines))
    (∀ e s₁, outcome (lineReplacement pattern other new count lines) s = (.error e, s₁) →
      outcome (execute text st) s = (.error e, s₁)) ∧
    ∀ p s₁, outcome (lineReplacement pattern other new count lines) s = (.ok p, s₁) →
      ∃ b s₂, outcome selected s₁ = (.ok (s₁.active.script.selected, b), s₂) ∧
        let m := p.expression.matcher
        let n := p.lines
        let o := p.options.inLines b n
        let result := b.replace m p.text o
        outcome (execute text st) s =
          outcome (do modifyScript ({ · with replaced := result.2 }); return .next)
            (s₂.setBuffer s₁.active.script.selected result.1) ∧
        LineBuffer.Confined b m p.text o n result.1 ∧
        ((∀ i, i < b.cursor.line ∨ b.cursor.line + n ≤ i → result.1.lines[i]? = b.lines[i]?) ↔
          ∀ line w, LineBuffer.Spills b m p.text o n line w → LineBuffer.newText p.text o w = "") := by
  intro st
  have hexecute : outcome (execute text st) s = outcome (do
      let p ← lineReplacement pattern other new count lines
      changeSelected (fun b => b.replace p.expression.matcher p.text (p.options.inLines b p.lines)) fun k =>
        modifyScript ({ · with replaced := k })
      return .next) s := by
    change outcome (do replace pattern new count other (some (.ofLines lines)); return Flow.next) s = _
    rw [replace_ofLines, bind_assoc]
  rw [hexecute]
  constructor
  · intro e s₁ h
    rw [outcome_bind, h]
  · intro p s₁ h
    obtain ⟨b, s₂, hselected, hleft⟩ := outcome_selected s₁
    have hname : s₂.active.script.selected = s₁.active.script.selected := by
      rcases hleft with ⟨-, rfl⟩ | rfl
      · rfl
      · exact s₁.selected_setBuffer _ b
    have hconfined := LineBuffer.replace_confined (made_of_lineReplacement hpattern h).sound b p.text
      p.options p.lines
    refine ⟨b, s₂, hselected, ?_, hconfined, hconfined.iff⟩
    rw [outcome_bind, h]
    dsimp only
    rw [changeSelected, bind_assoc, outcome_bind, hselected, ← hname]
    rfl

/-- In the first line only. -/
theorem replace_in_lines_confined_first :
    let x : Search.Expression := {
      pattern := "a"
      kind := .literal
      machine := .cat (.mark 0 0) (.cat (.set 2 (.range 97 97)) (.mark 1 1)) }
    let pattern : Pattern := ⟨.literal, [.text "a"], "", some x⟩
    let st : Statement := .replace pattern [.text [.text "-"]] none none (some (.ofLines none))
    let b : LineBuffer := { lines := ["aa", "ab"] }
    let s : RunState := ⟨{ script := { name := "s", lines := [] }, program := {} }, { main := b }⟩
    (∀ x ∈ pattern.compiled, x.Made) ∧
      (outcome (execute "" st) s).2.engine.main.lines = ["--", "ab"] ∧
      let o := LineBuffer.ReplaceOptions.inLines {} b 1
      LineBuffer.Confined b x.matcher "-" o 1 (b.replace x.matcher "-" o).1 := by
  intro x pattern st b s
  have hpattern : ∀ x ∈ pattern.compiled, x.Made := by
    intro y hy
    cases hy
    have hnew : Search.Expression.new "a" .literal "" = .ok x := by rfl
    exact .new hnew
  have hoperands : outcome (lineReplacement pattern none [.text [.text "-"]] none none) s =
      (.ok ⟨x, "-", {}, 1⟩, s) := by rfl
  obtain ⟨-, hdone⟩ := replace_in_lines_confined "" [.text [.text "-"]] none none none hpattern s
  obtain ⟨b', s₂, hselected, -, hconfined, -⟩ := hdone ⟨x, "-", {}, 1⟩ s hoperands
  have hmain : s.buffer? s.active.script.selected = some b := by decide +kernel
  rw [outcome_selected_of_some hmain] at hselected
  cases hselected
  exact ⟨hpattern, by decide +kernel, hconfined⟩

/-- An empty match at the start of the line behind is replaced as well. -/
theorem replace_in_line_spills :
    let x : Search.Expression := {
      pattern := "^"
      kind := .regex
      machine := .cat (.mark 0 0) (.cat (.look 2 .textStart) (.mark 1 1)) }
    let st : Statement :=
      .replace ⟨.regex, [.text "^"], "", some x⟩ [.text [.text "x"]] none none (some .line)
    let b : LineBuffer := { lines := ["a", "b"] }
    let s : RunState := ⟨{ script := { name := "s", lines := [] }, program := {} }, { main := b }⟩
    Search.Expression.new "^" .regex "" = .ok x ∧
      (outcome (execute "replace r/^/ \"x\" in line" st) s).2.engine.main.lines = ["xa", "xb"] ∧
      ¬∀ i, i ≠ b.cursor.line →
        (outcome (execute "replace r/^/ \"x\" in line" st) s).2.engine.main.lines[i]? = b.lines[i]? := by
  intro x st b s
  have hlines : (outcome (execute "replace r/^/ \"x\" in line" st) s).2.engine.main.lines = ["xa", "xb"] := by
    decide +kernel
  refine ⟨by decide +kernel, hlines, fun hall => ?_⟩
  have hbehind := hall 1 (by decide)
  rw [hlines] at hbehind
  exact absurd hbehind (by decide)

end Run

end LineScript
