import LineScript.Proofs.Run.Breaks

/-! Statements that put a text in place of matches or of a line leave lines whole exactly if the text has no
line break, or nothing is replaced. -/
namespace LineScript

open Text (Unbroken)

namespace RunState

variable {s : RunState}

theorem whole_record_iff (event : Event) : Whole { s with engine := s.engine.record event } ↔ s.Whole :=
  ⟨fun h => ⟨h.engine.congr rfl rfl rfl, h.script⟩, fun h => h.record event⟩

end RunState

namespace Run

/-- What a statement looks for, what else it looks at, and the text that it puts in place. -/
def substitution (pattern : Pattern) (other : Option Pattern) (new : Value) :
    Run (Search.Expression × Option Search.Expression × String) := do
  let x ← expression pattern
  let other ← other.mapM expression
  return (x, other, ← valueText new)

/-- The options of a replacement. -/
def replaceOptions (x : Search.Expression) (filter : Option Search.Expression) (count : Option Operand)
    (range : Option Range) : Run LineBuffer.ReplaceOptions := do
  let count ← count.mapM operandNumber
  let ends ← range.mapM rangeEnds
  return {
    count := count.map Number.Double.toSize
    start := ends.map (·.1)
    stop := ends.map (·.2)
    filter := filter.map (·.matcher)
    inLine := x.flags.inLine
    groups := x.hasGroups }

/-- Changes the selected buffer, and does something with what else the change comes to. -/
def changeSelected {γ : Type} (f : LineBuffer → LineBuffer × γ) (k : γ → Run Unit) : Run Unit := do
  let (_, b) ← selected
  setSelected (f b).1
  k (f b).2

variable {pattern : Pattern} {new : Value} {other : Option Pattern} {above : Bool}
  {count : Option Operand} {range : Option Range}

theorem adapt_eq (pattern : Pattern) (new : Value) (other : Option Pattern) (above : Bool) :
    adapt pattern new other above = (do
      let (x, anchor, r) ← substitution pattern other new
      changeSelected (·.adapt x.matcher r (anchor.map (·.matcher)) above) fun change =>
        note .debug s!"adapt: {adaptationName change}") := by
  simp only [adapt, substitution, changeSelected, bind_assoc, pure_bind]

theorem replace_eq (pattern : Pattern) (new : Value) (count : Option Operand) (other : Option Pattern)
    (range : Option Range) :
    replace pattern new count other range = (do
      let (x, filter, r) ← substitution pattern other new
      let o ← replaceOptions x filter count range
      changeSelected (·.replace x.matcher r o) fun n => modifyScript ({ · with replaced := n })) := by
  simp only [replace, substitution, replaceOptions, changeSelected, bind_assoc, pure_bind]

/-- What looking at the selected buffer comes to. -/
theorem outcome_selected (s : RunState) :
    ∃ b s', outcome selected s = (.ok (s.active.script.selected, b), s') ∧
      (s.buffer? s.active.script.selected = some b ∧ s' = s ∨
        s' = s.setBuffer s.active.script.selected b) := by
  have hbuffer : outcome selected s = outcome (do
      let b ← NamedBuffers.buffer (m := Run) s.active.script.selected
      return (s.active.script.selected, b)) s := rfl
  rw [hbuffer, outcome_bind, outcome_buffer]
  cases hfound : s.buffer? s.active.script.selected with
  | none => exact ⟨_, _, rfl, .inr rfl⟩
  | some b => exact ⟨_, _, rfl, .inl ⟨rfl, rfl⟩⟩

/-- There is always a buffer that is selected. -/
theorem exists_selected {s : RunState} (h : s.Whole) :
    ∃ (b : LineBuffer) (s' : RunState), b.Whole ∧ s'.Whole ∧
      ∀ {γ : Type} (f : LineBuffer → LineBuffer × γ) (k : γ → Run Unit),
        outcome (changeSelected f k) s =
          outcome (k (f b).2) (s'.setBuffer s'.active.script.selected (f b).1) := by
  obtain ⟨b, s', hselected, -⟩ := outcome_selected s
  obtain ⟨hwhole, hb⟩ := Carries.selected closed_anywhere s trivial h
  rw [hselected] at hwhole hb
  refine ⟨b, s', (hb _ rfl).2, hwhole, fun f k => ?_⟩
  rw [changeSelected, outcome_bind, hselected]
  rfl

/-- Whether a statement that is done in a state puts a text with a line break in place of a match or of a
line. -/
inductive PutsBreak (text : String) (s : RunState) : Statement → Prop
  | adapt {pattern : Pattern} {new : Value} {other : Option Pattern} {above : Bool}
      {x : Search.Expression} {anchor : Option Search.Expression} {r : String} {s' : RunState} :
      (outcome (substitution pattern other new) s).1 = .ok (x, anchor, r) → ¬Unbroken r →
      outcome (execute text (.adapt pattern new other above)) s = (.ok .next, s') →
      PutsBreak text s (.adapt pattern new other above)
  | replace {pattern : Pattern} {new : Value} {count : Option Operand} {other : Option Pattern}
      {range : Option Range} {x : Search.Expression} {filter : Option Search.Expression} {r : String}
      {s' : RunState} :
      (outcome (substitution pattern other new) s).1 = .ok (x, filter, r) → ¬Unbroken r →
      outcome (execute text (.replace pattern new count other range)) s = (.ok .next, s') →
      s'.active.script.replaced ≠ 0 → PutsBreak text s (.replace pattern new count other range)

/-- Such a statement goes on with the next one. -/
theorem PutsBreak.done {text : String} {s : RunState} {st : Statement} (h : PutsBreak text s st) :
    ∃ s', outcome (execute text st) s = (.ok .next, s') := by
  cases h with
  | adapt _ _ hdone => exact ⟨_, hdone⟩
  | replace _ _ hdone => exact ⟨_, hdone⟩

theorem not_putsBreak {text : String} {s : RunState} {st : Statement} (h : st.substitutes = false) :
    ¬PutsBreak text s st := by
  intro hputs
  cases hputs <;> cases h

section
variable {A : RunState → Prop} {s : RunState}

theorem Carries.substitution (h : Allows A (valueCalls new)) :
    Carries A A (Run.substitution pattern other new) :=
  (expression h.closed pattern).seq fun _ => (mapM_option fun p _ => expression h.closed p).seq fun _ =>
    (valueText new h).seq fun _ => pure trivial

theorem Carries.replaceOptions
    (h : Allows A (count.toList.flatMap Operand.calls ++ range.toList.flatMap Range.calls))
    (x : Search.Expression) (filter : Option Search.Expression) :
    Carries A A (Run.replaceOptions x filter count range) :=
  (mapM_option fun _ ho => operandNumber (h.left.toList ho)).seq fun _ =>
    (mapM_option fun _ hr => rangeEnds (h.right.toList hr)).seq fun _ => pure trivial

/-- Keeping a line up to date. -/
theorem adapt_whole_iff (text : String) (h : Allows A (valueCalls new)) (hs : A s) (hwhole : s.Whole) :
    (outcome (execute text (.adapt pattern new other above)) s).2.Whole ↔
      ¬PutsBreak text s (.adapt pattern new other above) := by
  have hexecute : outcome (execute text (.adapt pattern new other above)) s =
      outcome (do adapt pattern new other above; return .next) s := rfl
  have hsubstitution : Carries A A (substitution pattern other new) := .substitution h
  obtain ⟨hwhole₁, -⟩ := hsubstitution s hs hwhole
  rw [adapt_eq, bind_assoc, outcome_bind] at hexecute
  cases ho : outcome (substitution pattern other new) s with
  | mk r s₁ =>
    rw [ho] at hwhole₁ hexecute
    cases r with
    | error e =>
      rw [hexecute]
      refine iff_of_true hwhole₁ fun hputs => ?_
      cases hputs with
      | adapt hok =>
        rw [ho] at hok
        cases hok
    | ok parts =>
      obtain ⟨x, anchor, r⟩ := parts
      obtain ⟨b, s₂, hb, hwhole₂, hchange⟩ := exists_selected hwhole₁
      dsimp only at hexecute
      rw [outcome_bind, hchange] at hexecute
      have hputs : PutsBreak text s (.adapt pattern new other above) ↔ ¬Unbroken r := by
        refine ⟨fun hputs => ?_, fun hr => .adapt (by rw [ho]) hr hexecute⟩
        cases hputs with
        | adapt hok hr =>
          rw [ho] at hok
          cases hok
          exact hr
      rw [hputs, Classical.not_not, hexecute]
      refine (RunState.whole_record_iff _).trans ((RunState.whole_setBuffer_iff hwhole₂ _ _).trans ?_)
      exact LineBuffer.adapt_whole_iff hb x.matcher r (anchor.map (·.matcher)) above

/-- Replacing matches. -/
theorem replace_whole_iff (text : String)
    (h : Allows A (Statement.replace pattern new count other range).calls) (hs : A s) (hwhole : s.Whole) :
    (outcome (execute text (.replace pattern new count other range)) s).2.Whole ↔
      ¬PutsBreak text s (.replace pattern new count other range) := by
  have hcalls : count.toList.flatMap Operand.calls ++ range.toList.flatMap Range.calls ⊆
      (Statement.replace pattern new count other range).calls := by
    rw [Statement.calls, List.append_assoc]
    exact List.subset_append_right _ _
  have hexecute : outcome (execute text (.replace pattern new count other range)) s =
      outcome (do replace pattern new count other range; return .next) s := rfl
  have hsubstitution : Carries A A (substitution pattern other new) := .substitution h.left.left
  obtain ⟨hwhole₁, hs₁⟩ := hsubstitution s hs hwhole
  rw [replace_eq, bind_assoc, outcome_bind] at hexecute
  cases ho : outcome (substitution pattern other new) s with
  | mk r s₁ =>
    rw [ho] at hwhole₁ hs₁ hexecute
    cases r with
    | error e =>
      rw [hexecute]
      refine iff_of_true hwhole₁ fun hputs => ?_
      cases hputs with
      | replace hok =>
        rw [ho] at hok
        cases hok
    | ok parts =>
      obtain ⟨x, filter, r⟩ := parts
      obtain ⟨hs₁, -⟩ := hs₁ _ rfl
      obtain ⟨hwhole₂, -⟩ := Carries.replaceOptions (h.mono hcalls) x filter s₁ hs₁ hwhole₁
      dsimp only at hexecute
      rw [bind_assoc, outcome_bind] at hexecute
      cases hoptions : outcome (replaceOptions x filter count range) s₁ with
      | mk r₂ s₂ =>
        rw [hoptions] at hwhole₂ hexecute
        cases r₂ with
        | error e =>
          rw [hexecute]
          refine iff_of_true hwhole₂ fun hputs => ?_
          cases hputs with
          | replace _ _ hdone =>
            rw [hexecute] at hdone
            cases hdone
        | ok o =>
          obtain ⟨b, s₃, hb, hwhole₃, hchange⟩ := exists_selected hwhole₂
          dsimp only at hexecute
          rw [outcome_bind, hchange] at hexecute
          have hputs : PutsBreak text s (.replace pattern new count other range) ↔
              ¬Unbroken r ∧ (b.replace x.matcher r o).2 ≠ 0 := by
            refine ⟨fun hputs => ?_, fun ⟨hr, hn⟩ => .replace (by rw [ho]) hr hexecute hn⟩
            cases hputs with
            | replace hok hr hdone hn =>
              rw [ho] at hok
              cases hok
              rw [hexecute] at hdone
              cases hdone
              exact ⟨hr, hn⟩
          have hleft : (outcome (execute text (.replace pattern new count other range)) s).2.Whole ↔
              (s₃.setBuffer s₃.active.script.selected (b.replace x.matcher r o).1).Whole := by
            rw [hexecute]
            exact ⟨fun h => ⟨h.engine, h.script⟩, fun h => ⟨h.engine, h.script⟩⟩
          rw [hleft, RunState.whole_setBuffer_iff hwhole₃, hputs,
            LineBuffer.replace_whole_iff hb (LineBuffer.quotes_matcher x), not_and_or, Classical.not_not,
            Ne, Classical.not_not, or_comm]

end

/-- The states that calls of functions lead to, whichever of them are made and in whatever order. -/
inductive Course (calls : List FunctionCall) (s : RunState) : RunState → Prop
  | start : Course calls s s
  | named {u : RunState} : Course calls s u → ∀ name,
      Course calls s (outcome (NamedBuffers.buffer name : Run LineBuffer) u).2
  | recorded {u : RunState} : Course calls s u → ∀ event,
      Course calls s { u with engine := u.engine.record event }
  | made {u : RunState} {c : FunctionCall} : Course calls s u → c ∈ calls →
      Course calls s (outcome c.made.dispatch u).2

/-- Whether a call in a statement that is done in a state can make a line with a line break. -/
def MakesBreak (s : RunState) (st : Statement) : Prop :=
  ∃ c ∈ st.calls, ∃ u, Course st.calls s u ∧ u.Whole ∧ c.made.Breaks u

theorem not_makesBreak {s : RunState} {st : Statement} (h : ∀ c ∈ st.calls, c.made.fills = false) :
    ¬MakesBreak s st := by
  rintro ⟨c, hc, u, -, -, hfills, -⟩
  rw [h c hc] at hfills
  cases hfills

theorem allows_course {s : RunState} {st : Statement} (h : ¬MakesBreak s st) :
    Allows (Course st.calls s) st.calls :=
  ⟨⟨fun _ hu => hu.named, fun _ hu => hu.recorded⟩, fun _ hc _ hu => hu.made hc,
    fun c hc u hu hwhole hbreaks => h ⟨c, hc, u, hu, hwhole, hbreaks⟩⟩

/-- A statement whose calls make no line with a line break leaves lines whole, unless it puts a text with one
in place of a match or of a line. -/
theorem execute_whole_iff (text : String) {st : Statement} {s : RunState} (hwhole : s.Whole)
    (hmakes : ¬MakesBreak s st) :
    (outcome (execute text st) s).2.Whole ↔ ¬PutsBreak text s st := by
  have hallows := allows_course hmakes
  cases hst : st.substitutes with
  | false =>
    exact iff_of_true (Carries.execute text hallows hst s .start hwhole).1 (not_putsBreak hst)
  | true =>
    cases st with
    | adapt pattern new other above => exact adapt_whole_iff text hallows .start hwhole
    | replace pattern new count other range => exact replace_whole_iff text hallows .start hwhole
    | _ => cases hst

end Run

end LineScript
