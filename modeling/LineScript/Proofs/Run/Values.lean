import LineScript.Proofs.Function.Orderly
import LineScript.Proofs.Run.Outcomes
import LineScript.Proofs.Script.Functions

/-! Values, tests and all statements that do not jump keep all promises if their functions are called as
their signatures say. -/
namespace LineScript.Run

open Number (Double)

theorem supplied_eq_map (args : List Argument) : supplied args = args.map argument := by
  induction args with
  | nil => rfl
  | cons a args ih => rw [supplied, ih, List.map_cons]

namespace Orderly

variable {α : Type}

theorem onEngine_setVariable (name v : String) :
    Orderly (Run.onEngine (Engine.setVariable name v)) := by
  refine onEngine fun e => ?_
  cases hintrinsic : isIntrinsicName name <;> cases hglobal : isGlobalName name <;>
    simp only [Engine.setVariable, hintrinsic, hglobal, if_true, Bool.not_true, Bool.not_false,
      Bool.false_eq_true, if_false]
  · exact .error trivial rfl
  · exact .ok trivial
  · exact .error trivial rfl
  · exact .error trivial rfl

theorem intrinsic (name : String) : Orderly (Run.intrinsic name) := by
  refine getWorld.seq fun w => ?_
  split
  case h_6 => exact script.seq fun _ => .pure trivial
  case h_8 => exact script.seq fun _ => .pure trivial
  case h_9 | h_10 | h_11 => exact .pure trivial
  case h_12 => exact .throw trivial rfl
  all_goals exact selected.seq fun _ => .pure trivial

theorem lookup? (name : String) : Orderly (Run.lookup? name) :=
  .ite (engine.seq fun _ => .pure trivial) (script.seq fun _ => .pure trivial)

theorem variableValue (name : String) : Orderly (Run.variableValue name) := by
  refine .ite (intrinsic name) ((lookup? name).seq fun v => ?_)
  cases v with
  | some v => exact .pure trivial
  | none => exact .throw trivial rfl

theorem setVariable (name v : String) : Orderly (Run.setVariable name v) :=
  .ite (onEngine_setVariable name v) (modifyScript _)

theorem templateText (t : Template) : Orderly (Run.templateText t) := by
  induction t with
  | nil => exact .pure trivial
  | cons part parts ih =>
    match part with
    | .text _ => exact ih.seq fun _ => .pure trivial
    | .variable name => exact (variableValue name).seq fun _ => ih.seq fun _ => .pure trivial

theorem expression (p : Pattern) : Orderly (Run.expression p) := by
  unfold Run.expression
  split
  · exact .pure trivial
  · refine (templateText _).seq fun body => ?_
    split
    · exact .pure trivial
    · exact .throw trivial rfl

theorem bufferText (ref : BufferRef) : Orderly (Run.bufferText ref) := by
  refine (buffer _).seq fun b => ?_
  split <;> exact .pure trivial

/-- A call that has been read is as the signature of its function says. -/
theorem fits {f : Builtin} {args : List Argument} (hf : Script.callMistake? f args = none)
    (hargs : ∀ a ∈ Run.supplied args, a.Orderly) : Call.Fits ⟨f, Run.supplied args⟩ := by
  obtain ⟨henough, hbuffers⟩ := Script.callMistake?_eq_none hf
  refine ⟨hargs, ?_, fun i a hparameter ha => ?_⟩
  · rw [supplied_eq_map, List.length_map]
    exact henough
  · rw [supplied_eq_map, List.getElem?_map, Option.map_eq_some_iff] at ha
    obtain ⟨x, hx, rfl⟩ := ha
    obtain ⟨name, rfl⟩ := hbuffers i x hparameter hx
    exact ⟨name, rfl⟩

mutual

theorem fragmentText : (f : Fragment) → f.Callable → Orderly (Run.fragmentText f)
  | .text t, _ => templateText t
  | .variable name, _ => variableValue name
  | .buffer ref, _ => bufferText ref
  | .call _ args, h =>
    Call.Fits.asText (fits h.1 (supplied args h.2))
  termination_by structural f => f

theorem valueText : (v : List Fragment) → valueCallable v → Orderly (Run.valueText v)
  | [], _ => .pure trivial
  | f :: fs, h => (fragmentText f h.1).seq fun _ => (valueText fs h.2).seq fun _ => .pure trivial
  termination_by structural v => v

theorem argument : (a : Argument) → a.Callable → (Run.argument a).Orderly
  | .value fs, h => valueText fs h
  | .buffer _, _ => trivial
  | .pattern p, _ => expression p
  termination_by structural a => a

theorem supplied : (args : List Argument) → argumentsCallable args →
    ∀ a ∈ Run.supplied args, a.Orderly
  | [], _, _, h => absurd h List.not_mem_nil
  | a :: as, h, x, hx => by
    rcases List.mem_cons.mp hx with rfl | hx
    · exact argument a h.1
    · exact supplied as h.2 x hx
  termination_by structural args => args

end

theorem operandNumber {o : Operand} (h : o.Callable) : Orderly (Run.operandNumber o) := by
  have hfinite : ∀ x : Double, Orderly (if x.isFinite then Pure.pure x
      else MonadExcept.throw (Error.ofFailure (.notFinite x)) : Run Double) :=
    fun _ => .ite (.pure trivial) (.throw trivial rfl)
  match o with
  | .number x => exact hfinite x
  | .variable name =>
    refine (variableValue name).seq fun s => ?_
    split
    · exact hfinite _
    · exact .throw_bind (by trivial) rfl
  | .call f args =>
    exact (Call.Fits.asNumber (fits h.1 (supplied args h.2))).seq fun _ => hfinite _

theorem termNumber {t : Term} (h : t.operand.Callable) : Orderly (Run.termNumber t) :=
  (operandNumber h).seq fun _ => .pure trivial

theorem termsNumber (x : Double) {terms : List (ArithOp × Term)}
    (h : ∀ t ∈ terms, t.2.operand.Callable) : Orderly (Run.termsNumber x terms) := by
  induction terms generalizing x with
  | nil => exact .pure trivial
  | cons term terms ih =>
    obtain ⟨hterm, hterms⟩ := List.forall_mem_cons.mp h
    refine (termNumber hterm).seq fun y => ?_
    cases hresult : arithmetic x term.1 y with
    | ok z =>
      exact ih z hterms
    | error f =>
      have hf : f = .divisionByZero := by
        unfold arithmetic at hresult
        split at hresult
        · cases hresult
        · cases hresult
        · cases hresult
        · split at hresult <;> cases hresult
          rfl
      subst hf
      exact .throw trivial rfl

theorem exprNumber {e : NumExpr} (h : e.Callable) : Orderly (Run.exprNumber e) :=
  (termNumber h.1).seq fun _ => termsNumber _ h.2

theorem search (p : Pattern) : Orderly (Run.search p) :=
  (expression p).seq fun _ => selected.seq fun _ => (setSelected _).seq fun _ => .pure trivial

theorem testHolds {t : Test} (h : t.Callable) : Orderly (Run.testHolds t) := by
  obtain ⟨negated, condition⟩ := t
  have hcondition : Orderly (Run.conditionHolds condition) := by
    match condition, h with
    | .found, _ => exact selected.seq fun _ => .pure trivial
    | .search p, _ => exact search p
    | .truthy v, h => exact (valueText v h).seq fun _ => .pure trivial
    | .compare left op right, h =>
      exact (valueText left h.1).seq fun _ => (valueText right h.2).seq fun _ => .pure trivial
  exact hcondition.seq fun _ => .pure trivial

theorem rangeEnds {r : Range} (h : r.Callable) : Orderly (Run.rangeEnds r) := by
  have hends (count : Nat) : Orderly (endsOf r count) := by
    refine selected.seq fun b => ?_
    cases r with
    | hit => exact .ite (.pure trivial) (.throw trivial rfl)
    | _ => exact .pure trivial
  cases r with
  | lines n => exact (operandNumber h).seq fun _ => hends _
  | _ => exact hends 1

theorem bufferOrSelected (name : Option String) : Orderly (Run.bufferOrSelected name) := by
  cases name with
  | some name => exact (buffer name).seq fun _ => .pure trivial
  | none => exact selected

theorem putLines (name : String) (append : Bool) (lines : List String) :
    Orderly (Run.putLines name append lines) :=
  (buffer name).seq fun _ => setBuffer name _

theorem codeOf {code : Option Operand} (h : ∀ o ∈ code, o.Callable) (default : Int) :
    Orderly (Run.codeOf code default) := by
  cases code with
  | some o => exact (operandNumber (h o rfl)).seq fun _ => .pure trivial
  | none => exact .pure trivial

theorem parametersOfLines_error {lines : List String} {f : Failure}
    (h : parametersOfLines lines = .error f) : ∃ line, f = .parameterLine line := by
  induction lines with
  | nil => cases h
  | cons line lines ih =>
    unfold parametersOfLines at h
    split at h
    · exact ih h
    · split at h
      · cases h
        exact ⟨line, rfl⟩
      · cases hrest : parametersOfLines lines with
        | error f' =>
          rw [hrest] at h
          cases h
          exact ih hrest
        | ok ps =>
          rw [hrest] at h
          cases h

theorem callee {name : Value} {ps : Parameters} (hname : valueCallable name) (hps : ps.Callable) :
    Orderly (Run.callee name ps) := by
  refine (valueText name hname).seq fun name => ?_
  match ps, hps with
  | .none, _ => exact .pure trivial
  | .pairs ps, hps =>
    refine (mapM fun p hp => ?_).seq fun _ => .pure trivial
    exact (valueText p.2 (hps p hp)).seq fun _ => .pure trivial
  | .buffer b, _ =>
    refine (buffer b).seq fun b => ?_
    split
    · exact .pure trivial
    · rename_i f hf
      obtain ⟨line, rfl⟩ := parametersOfLines_error hf
      exact .throw trivial rfl

theorem rangeLines {r : Range} (h : r.Callable) : Orderly (Run.rangeLines r) :=
  (rangeEnds h).seq fun _ => selected.seq fun _ => .ite (.pure trivial) (.pure trivial)

theorem adapt (pattern : Pattern) {replacement : Value} (anchor : Option Pattern) (above : Bool)
    (h : valueCallable replacement) : Orderly (Run.adapt pattern replacement anchor above) :=
  (expression pattern).seq fun _ => (mapM_option fun p _ => expression p).seq fun _ =>
    (valueText _ h).seq fun _ => selected.seq fun _ => (setSelected _).seq fun _ => modifyEngine _

theorem insert (wholeLines : Bool) {v : Value} (h : valueCallable v) :
    Orderly (Run.insert wholeLines v) :=
  (valueText v h).seq fun _ => selected.seq fun _ => setSelected _

theorem load (buffer : Option String) {file : Value} (h : valueCallable file) :
    Orderly (Run.load buffer file) :=
  (valueText file h).seq fun _ => (bufferOrSelected buffer).seq fun _ =>
    ((demand _ _).seq fun _ => .pure trivial).seq fun _ => (setBuffer _ _).seq fun _ => modifyEngine _

theorem storeTo (b : LineBuffer) (path : Option String) (append force : Bool) :
    Orderly (b.storeTo path append force) := by
  refine .ite (.pure trivial) ?_
  split
  · exact .throw trivial rfl
  · exact (demand _ _).seq fun _ => .pure trivial

theorem store (buffer : Option String) {file : Option Value} (append force : Bool)
    (h : ∀ v ∈ file, valueCallable v) : Orderly (Run.store buffer file append force) :=
  (mapM_option fun v hv => valueText v (h v hv)).seq fun _ => (bufferOrSelected buffer).seq fun _ =>
    (storeTo _ _ append force).seq fun _ => (setBuffer _ _).seq fun _ =>
      .ite (modifyEngine _) (.pure trivial)

theorem moveTo (f : LineBuffer → Buffer.Position) : Orderly (Run.moveTo f) :=
  selected.seq fun _ => setSelected _

theorem move {target : MoveTarget} (h : target.Callable) : Orderly (Run.move target) := by
  unfold Run.move
  split
  · exact (search _).seq fun _ => .pure trivial
  · refine (operandNumber h.1).seq fun line => ?_
    exact (mapM_option fun o ho => operandNumber (h.2 o ho)).seq fun _ => moveTo _
  · exact (operandNumber h).seq fun _ => moveTo _
  · exact moveTo _
  · exact moveTo _
  · exact moveTo _
  · exact moveTo _
  · exact moveTo _

theorem replace (pattern : Pattern) {replacement : Value} {count : Option Operand}
    (filter : Option Pattern) {range : Option Range} (hvalue : valueCallable replacement)
    (hcount : ∀ o ∈ count, o.Callable) (hrange : ∀ r ∈ range, r.Callable) :
    Orderly (Run.replace pattern replacement count filter range) := by
  refine (expression pattern).seq fun x => (mapM_option fun p _ => expression p).seq fun filter => ?_
  refine (valueText replacement hvalue).seq fun replacement => ?_
  refine (mapM_option fun o ho => operandNumber (hcount o ho)).seq fun count => ?_
  refine (mapM_option fun r hr => rangeEnds (hrange r hr)).seq fun ends => ?_
  exact selected.seq fun b => (setSelected _).seq fun _ => modifyScript _

theorem select (s : Selection) : Orderly (Run.select s) := by
  match s with
  | .set name => exact ((buffer name).seq fun _ => .pure trivial).seq fun _ => modifyScript _
  | .push name => exact ((buffer name).seq fun _ => .pure trivial).seq fun _ => modifyScript _
  | .pop =>
    refine script.seq fun s => ?_
    split
    · exact .throw trivial rfl
    · exact modifyScript _

theorem perform (text : String) {s : Statement} (h : s.Callable) : Orderly (Run.perform text s) := by
  match s, h with
  | .assign name append v, h =>
    refine (valueText v h).seq fun _ => ?_
    exact .ite ((lookup? name).seq fun _ => setVariable name _)
      ((pure trivial).seq fun _ => setVariable name _)
  | .assignBuffer name append v, h => exact (valueText v h).seq fun _ => putLines name append _
  | .assignNumeric name e, h => exact (exprNumber h).seq fun _ => setVariable name _
  | .adapt pattern replacement anchor above, h => exact adapt pattern anchor above h
  | .assert t, h =>
    exact (testHolds h).seq fun _ => .ite (.throw trivial rfl) (.pure trivial)
  | .copy r target append, h => exact (rangeLines h).seq fun _ => putLines target append _
  | .delete r, h => exact (rangeEnds h).seq fun _ => selected.seq fun _ => setSelected _
  | .insert wholeLines v, h => exact insert wholeLines h
  | .load buffer file, h => exact load buffer h
  | .store buffer file append force, h => exact store buffer append force h
  | .log t, _ => exact (templateText t).seq fun _ => modifyEngine _
  | .mark, _ => exact selected.seq fun _ => setSelected _
  | .move target, h => exact move h
  | .replace pattern replacement count filter range, h => exact replace pattern filter h.1 h.2.1 h.2.2
  | .select s, _ => exact select s
  | .ifTest _, _ | .elseWord, _ | .endIf, _ | .whileTest _, _ | .endWhile, _ | .leave .., _
  | .script _, _ | .endScript, _ | .exit .., _ | .stop _, _ | .call .., _ => exact .pure trivial

end Orderly

end LineScript.Run
