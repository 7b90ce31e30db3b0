import LineScript.Function.Evaluation
import LineScript.Proofs.Number.Whole
import LineScript.Proofs.Outcome
import LineScript.Proofs.Search.Expression
import LineScript.Run.State

/-! Calls whose arguments are known. -/
namespace LineScript

open Number (Double Spells)

variable {c : Call Run} {i : Nat} {s t name : String} {n : Int} {out : Output}

/-- Whether an argument is a search expression, or a text that is read as a regular expression. -/
inductive Supplied.Supplies : Supplied Run → Search.Expression → Prop
  | pattern {x : Search.Expression} (h : x.Made) : Supplies (.pattern (pure x)) x
  | text {s : String} {x : Search.Expression} (h : Search.Expression.new s .regex "" = .ok x) :
    Supplies (.text (pure s)) x

namespace Call

/-- A call with texts as arguments. -/
def ofTexts (function : Builtin) (texts : List String) : Call Run :=
  ⟨function, texts.map fun s => .text (pure s)⟩

/-- The state behind a call that did nothing: the call is noted. -/
def noted (c : Call Run) (s : RunState) : RunState :=
  { s with engine := s.engine.record (.note .trace .functions s!"calling {c.function.name}") }

/-- Whether a call returns something wherever it is made, and does nothing else. -/
def Returns (c : Call Run) (out : Output) : Prop :=
  ∀ s, outcome c.run s = (.ok out, c.noted s)

theorem outcome_run (c : Call Run) (s : RunState) : outcome c.run s = outcome c.dispatch (c.noted s) :=
  rfl

theorem Returns.of_dispatch (h : c.dispatch = pure out) : c.Returns out := by
  intro s
  rw [outcome_run, h, outcome_pure]

theorem text?_of_text (h : c.arguments[i]? = some (.text (pure s))) : c.text? i = pure (some s) := by
  unfold Call.text?
  rw [h]
  rfl

theorem text_of_text (h : c.arguments[i]? = some (.text (pure s))) : c.text i = pure s := by
  unfold Call.text
  rw [text?_of_text h, pure_bind]

theorem text?_of_none (h : c.arguments[i]? = none) : c.text? i = pure none := by
  unfold Call.text?
  rw [h]

/-- An argument that spells a whole number. -/
theorem number?_of_spells (h : c.arguments[i]? = some (.text (pure t))) (ht : Spells t n) :
    ∃ x, c.number? i = pure (some x) ∧ x.Equals n := by
  obtain ⟨x, hread, hx⟩ := ht
  refine ⟨x, ?_, hx⟩
  unfold Call.number?
  rw [text?_of_text h, pure_bind]
  simp only [hread, hx.isFinite, if_true]

theorem number?_of_none (h : c.arguments[i]? = none) : c.number? i = pure none := by
  unfold Call.number?
  rw [text?_of_none h, pure_bind]

theorem number_of_spells (h : c.arguments[i]? = some (.text (pure t))) (ht : Spells t n) :
    ∃ x, c.number i = pure x ∧ x.Equals n := by
  obtain ⟨x, hnumber, hx⟩ := number?_of_spells h ht
  refine ⟨x, ?_, hx⟩
  unfold Call.number
  rw [hnumber, pure_bind]

theorem pattern_of_supplies {a : Supplied Run} {x : Search.Expression} (h : c.arguments[i]? = some a)
    (hx : a.Supplies x) : c.pattern i = pure x := by
  cases hx with
  | pattern hmade =>
    unfold Call.pattern
    rw [h]
  | text hnew =>
    unfold Call.pattern
    rw [h]
    dsimp only
    rw [text_of_text h, pure_bind, hnew]

end Call

theorem Supplied.Supplies.made {a : Supplied Run} {x : Search.Expression} (h : a.Supplies x) : x.Made := by
  cases h with
  | pattern hmade => exact hmade
  | text hnew => exact .new hnew

end LineScript
