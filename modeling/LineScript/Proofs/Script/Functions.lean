import Mathlib.Tactic.Common
import LineScript.Script.Program
import LineScript.Script.Tree

/-! The functions that a statement calls, and statements in which every function is called as its signature says. -/
namespace LineScript

/-- A function with the arguments that it is called with. -/
abbrev FunctionCall : Type :=
  Builtin × List Argument

mutual

/-- The calls in a fragment, those in arguments of others among them. -/
def Fragment.calls : Fragment → List FunctionCall
  | .call f args => (f, args) :: argumentsCalls args
  | .text _ | .variable _ | .buffer _ => []
  termination_by structural f => f

/-- The same for a value. -/
def valueCalls : List Fragment → List FunctionCall
  | [] => []
  | f :: fs => f.calls ++ valueCalls fs
  termination_by structural fs => fs

/-- The same for an argument. -/
def Argument.calls : Argument → List FunctionCall
  | .value fs => valueCalls fs
  | .buffer _ | .pattern _ => []
  termination_by structural a => a

/-- The same for all arguments of a call. -/
def argumentsCalls : List Argument → List FunctionCall
  | [] => []
  | a :: as => a.calls ++ argumentsCalls as
  termination_by structural as => as

end

/-- The same for an operand. -/
def Operand.calls : Operand → List FunctionCall
  | .call f args => (f, args) :: argumentsCalls args
  | .number _ | .variable _ => []

/-- The same for a numeric expression. -/
def NumExpr.calls (e : NumExpr) : List FunctionCall :=
  e.first.operand.calls ++ e.rest.flatMap fun x => x.2.operand.calls

/-- The same for a test. -/
def Test.calls (t : Test) : List FunctionCall :=
  match t.condition with
  | .compare left _ right => valueCalls left ++ valueCalls right
  | .truthy v => valueCalls v
  | .found | .search _ => []

/-- The same for a part of a buffer. -/
def Range.calls : Range → List FunctionCall
  | .lines count => count.calls
  | .all | .line | .mark | .hit => []

/-- The same for where a cursor is to go. -/
def MoveTarget.calls : MoveTarget → List FunctionCall
  | .line l c => l.calls ++ c.toList.flatMap Operand.calls
  | .by delta => delta.calls
  | .pattern _ | .bufferStart | .bufferEnd | .lineStart | .lineEnd | .mark => []

/-- The same for the parameters of a script. -/
def Parameters.calls : Parameters → List FunctionCall
  | .pairs ps => ps.flatMap fun p => valueCalls p.2
  | .none | .buffer _ => []

/-- The same for a statement. -/
def Statement.calls : Statement → List FunctionCall
  | .assign _ _ v | .assignBuffer _ _ v | .adapt _ v _ _ | .insert _ v | .load _ v => valueCalls v
  | .assignNumeric _ e => e.calls
  | .assert t | .ifTest t | .whileTest t => t.calls
  | .call v ps => valueCalls v ++ ps.calls
  | .copy r _ _ | .delete r => r.calls
  | .leave _ condition => condition.toList.flatMap Test.calls
  | .exit _ code | .stop code => code.toList.flatMap Operand.calls
  | .store _ file _ _ => file.toList.flatMap valueCalls
  | .move target => target.calls
  | .replace _ v count _ range =>
    valueCalls v ++ count.toList.flatMap Operand.calls ++ range.toList.flatMap Range.calls
  | .elseWord | .endIf | .endWhile | .script _ | .endScript | .log _ | .mark | .select _ => []

open Script

mutual

/-- Whether the functions that a fragment calls take the arguments that they are given. -/
def Fragment.Callable : Fragment → Prop
  | .call f args => callMistake? f args = none ∧ argumentsCallable args
  | .text _ | .variable _ | .buffer _ => True
  termination_by structural f => f

/-- The same for a value. -/
def valueCallable : List Fragment → Prop
  | [] => True
  | f :: fs => f.Callable ∧ valueCallable fs
  termination_by structural fs => fs

/-- The same for an argument. -/
def Argument.Callable : Argument → Prop
  | .value fs => valueCallable fs
  | .buffer _ | .pattern _ => True
  termination_by structural a => a

/-- The same for all arguments of a call. -/
def argumentsCallable : List Argument → Prop
  | [] => True
  | a :: as => a.Callable ∧ argumentsCallable as
  termination_by structural as => as

end

theorem valueCallable_append {v w : Value} :
    valueCallable (v ++ w) ↔ valueCallable v ∧ valueCallable w := by
  induction v with
  | nil => simp [valueCallable]
  | cons f v ih => simp [valueCallable, ih, and_assoc]

/-- The same for an operand. -/
def Operand.Callable : Operand → Prop
  | .call f args => callMistake? f args = none ∧ argumentsCallable args
  | .number _ | .variable _ => True

/-- The same for a numeric expression. -/
def NumExpr.Callable (e : NumExpr) : Prop :=
  e.first.operand.Callable ∧ ∀ x ∈ e.rest, x.2.operand.Callable

/-- The same for a test. -/
def Test.Callable (t : Test) : Prop :=
  match t.condition with
  | .compare left _ right => valueCallable left ∧ valueCallable right
  | .truthy v => valueCallable v
  | .found | .search _ => True

/-- The same for a part of a buffer. -/
def Range.Callable : Range → Prop
  | .lines count => count.Callable
  | .all | .line | .mark | .hit => True

/-- The same for where a cursor is to go. -/
def MoveTarget.Callable : MoveTarget → Prop
  | .line l c => l.Callable ∧ ∀ o ∈ c, o.Callable
  | .by delta => delta.Callable
  | .pattern _ | .bufferStart | .bufferEnd | .lineStart | .lineEnd | .mark => True

/-- The same for the parameters of a script. -/
def Parameters.Callable : Parameters → Prop
  | .pairs ps => ∀ p ∈ ps, valueCallable p.2
  | .none | .buffer _ => True

/-- The same for a statement. -/
def Statement.Callable : Statement → Prop
  | .assign _ _ v | .assignBuffer _ _ v | .adapt _ v _ _ | .insert _ v | .load _ v => valueCallable v
  | .assignNumeric _ e => e.Callable
  | .assert t | .ifTest t | .whileTest t => t.Callable
  | .call v ps => valueCallable v ∧ ps.Callable
  | .copy r _ _ | .delete r => r.Callable
  | .leave _ condition => ∀ t ∈ condition, t.Callable
  | .exit _ code | .stop code => ∀ o ∈ code, o.Callable
  | .store _ file _ _ => ∀ v ∈ file, valueCallable v
  | .move target => target.Callable
  | .replace _ v count _ range =>
    valueCallable v ∧ (∀ o ∈ count, o.Callable) ∧ ∀ r ∈ range, r.Callable
  | .elseWord | .endIf | .endWhile | .script _ | .endScript | .log _ | .mark | .select _ => True

/-- Whether the functions that a program calls take the arguments that they are given. -/
def Program.Callable (p : Program) : Prop :=
  ∀ l, some l ∈ p.statements → l.statement.Callable

/-- What a call that fits a signature gives: enough arguments, and a buffer where one is asked for. -/
theorem Script.callMistake?_eq_none {f : Builtin} {args : List Argument}
    (h : callMistake? f args = none) :
    f.signature.required ≤ args.length ∧
      ∀ (i : Nat) (a : Argument), f.signature.parameters[i]? = some .buffer → args[i]? = some a →
        ∃ name, a = .buffer name := by
  have hfits : ∀ index ps, misfit? index ps args = none →
      ∀ (i : Nat) (a : Argument), ps[i]? = some Parameter.buffer → args[i]? = some a →
      ∃ name, a = .buffer name := by
    clear h
    induction args with
    | nil => simp
    | cons x xs ih =>
      intro index ps hmisfit i a hp ha
      cases ps with
      | nil => simp at hp
      | cons p ps =>
        unfold misfit? at hmisfit
        split at hmisfit
        · rename_i hfit
          cases i with
          | zero =>
            cases hp
            cases ha
            cases x with
            | buffer name => exact ⟨name, rfl⟩
            | value v => cases hfit
            | pattern p => cases hfit
          | succ i => exact ih (index + 1) ps hmisfit i a hp ha
        · cases hmisfit
  unfold callMistake? at h
  dsimp only at h
  split_ifs at h with hfew hmany
  exact ⟨Nat.le_of_not_lt hfew, hfits 1 _ (Option.map_eq_none_iff.mp h)⟩

end LineScript
