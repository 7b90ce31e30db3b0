import LineScript.Proofs.Function.Steady
import LineScript.Proofs.Run.Outcomes
import LineScript.Proofs.Script.BlockTree

/-! Values, tests and all statements that do not jump are steady. -/
namespace LineScript.Run

namespace Steady

variable {α : Type}

theorem onEngine_setVariable (name v : String) :
    Steady (onEngine (Engine.setVariable name v)) := by
  refine (modifyGet fun s c _ => ?_).bind fun r => ?_
  · cases hintrinsic : isIntrinsicName name <;> cases hglobal : isGlobalName name <;>
      simp only [Engine.setVariable, hintrinsic, hglobal, if_true, Bool.not_true, Bool.not_false,
        Bool.false_eq_true, if_false] <;> rfl
  · cases r with
    | ok x => exact .pure x
    | error e => exact .throw e

theorem intrinsic (name : String) : Steady (Run.intrinsic name) := by
  refine getWorld.bind fun w => ?_
  split
  case h_6 => exact .script (fun _ => .pure _) fun _ _ _ => rfl
  case h_8 => exact .script (fun _ => .pure _) fun _ _ h => congrArg Pure.pure h
  case h_9 | h_10 | h_11 => exact .pure _
  case h_12 => exact .throw _
  all_goals exact selected.bind fun _ => .pure _

theorem lookup? (name : String) : Steady (Run.lookup? name) :=
  .ite (.engine (fun _ => .pure _) fun _ _ => rfl) (.script (fun _ => .pure _) fun _ _ _ => rfl)

theorem variableValue (name : String) : Steady (Run.variableValue name) := by
  refine .ite (intrinsic name) ((lookup? name).bind fun v => ?_)
  cases v with
  | some v => exact .pure v
  | none => exact .throw _

theorem setVariable (name v : String) : Steady (Run.setVariable name v) :=
  .ite (onEngine_setVariable name v) fun _ _ _ => rfl

theorem templateText (t : Template) : Steady (Run.templateText t) := by
  induction t with
  | nil => exact .pure _
  | cons part parts ih =>
    match part with
    | .text _ => exact ih.bind fun _ => .pure _
    | .variable name => exact (variableValue name).bind fun _ => ih.bind fun _ => .pure _

theorem expression (p : Pattern) : Steady (Run.expression p) := by
  unfold Run.expression
  split
  · exact .pure _
  · refine (templateText _).bind fun body => ?_
    split
    · exact .pure _
    · exact .throw _

theorem bufferText (ref : BufferRef) : Steady (Run.bufferText ref) := by
  refine (buffer _).bind fun b => ?_
  split <;> exact .pure _

mutual

theorem fragmentText : (f : Fragment) → Steady (Run.fragmentText f)
  | .text t => templateText t
  | .variable name => variableValue name
  | .buffer ref => bufferText ref
  | .call function args => Call.Steady.asText (c := ⟨function, Run.supplied args⟩) (supplied args)
  termination_by structural f => f

theorem valueText : (v : List Fragment) → Steady (Run.valueText v)
  | [] => .pure _
  | f :: fs => (fragmentText f).bind fun _ => (valueText fs).bind fun _ => .pure _
  termination_by structural v => v

theorem argument : (a : Argument) → (Run.argument a).Steady
  | .value fs => valueText fs
  | .buffer _ => trivial
  | .pattern p => expression p
  termination_by structural a => a

theorem supplied : (args : List Argument) → ∀ a ∈ Run.supplied args, a.Steady
  | [], _, h => absurd h List.not_mem_nil
  | a :: as, x, hx => by
    rcases List.mem_cons.mp hx with rfl | hx
    · exact argument a
    · exact supplied as x hx
  termination_by structural args => args

end

theorem operandNumber (o : Operand) : Steady (Run.operandNumber o) := by
  have hfinite : ∀ x : Number.Double, Steady (if x.isFinite then Pure.pure x
      else MonadExcept.throw (Error.ofFailure (.notFinite x)) : Run Number.Double) :=
    fun _ => .ite (.pure _) (.throw _)
  match o with
  | .number x => exact hfinite x
  | .variable name =>
    refine (variableValue name).bind fun s => ?_
    split
    · exact hfinite _
    · exact (throw _).bind fun _ => hfinite _
  | .call function args =>
    exact (Call.Steady.asNumber (c := ⟨function, _⟩) (supplied args)).bind fun _ => hfinite _

theorem termNumber (t : Term) : Steady (Run.termNumber t) :=
  (operandNumber t.operand).bind fun _ => .pure _

theorem termsNumber (x : Number.Double) (terms : List (ArithOp × Term)) :
    Steady (Run.termsNumber x terms) := by
  induction terms generalizing x with
  | nil => exact .pure x
  | cons term terms ih =>
    refine (termNumber term.2).bind fun y => ?_
    split
    · exact ih _
    · exact .throw _

theorem exprNumber (e : NumExpr) : Steady (Run.exprNumber e) :=
  (termNumber e.first).bind fun _ => termsNumber _ e.rest

theorem search (p : Pattern) : Steady (Run.search p) :=
  (expression p).bind fun _ => selected.bind fun _ => (setSelected _).bind fun _ => .pure _

theorem conditionHolds (c : Condition) : Steady (Run.conditionHolds c) := by
  match c with
  | .found => exact selected.bind fun _ => .pure _
  | .search p => exact search p
  | .truthy v => exact (valueText v).bind fun _ => .pure _
  | .compare left op right =>
    exact (valueText left).bind fun _ => (valueText right).bind fun _ => .pure _

/-- A test has the same result in all surroundings. -/
theorem testHolds (t : Test) : Steady (Run.testHolds t) :=
  (conditionHolds t.condition).bind fun _ => .pure _

theorem rangeEnds (r : Range) : Steady (Run.rangeEnds r) := by
  have hends (count : Nat) : Steady (endsOf r count) := by
    refine selected.bind fun b => ?_
    cases r with
    | hit => exact .ite (.pure _) (.throw _)
    | _ => exact .pure _
  cases r with
  | lines n => exact (operandNumber n).bind fun _ => hends _
  | _ => exact hends 1

theorem mapM {β : Type} {f : β → Run α} (hf : ∀ b, Steady (f b)) (l : List β) :
    Steady (l.mapM f) := by
  induction l with
  | nil => exact .pure _
  | cons b l ih =>
    rw [List.mapM_cons]
    exact (hf b).bind fun _ => ih.bind fun _ => .pure _

theorem mapM_option {β : Type} {f : β → Run α} (hf : ∀ b, Steady (f b)) (o : Option β) :
    Steady (o.mapM f) := by
  cases o with
  | none => exact .pure _
  | some b => exact (hf b).bind fun _ => .pure _

theorem bufferOrSelected (name : Option String) : Steady (Run.bufferOrSelected name) := by
  cases name with
  | some name => exact (buffer name).bind fun _ => .pure _
  | none => exact selected

theorem putLines (name : String) (append : Bool) (lines : List String) :
    Steady (Run.putLines name append lines) :=
  (buffer name).bind fun _ => setBuffer name _

theorem codeOf (code : Option Operand) (default : Int) : Steady (Run.codeOf code default) := by
  cases code with
  | some o => exact (operandNumber o).bind fun _ => .pure _
  | none => exact .pure _

theorem callee (name : Value) (ps : Parameters) : Steady (Run.callee name ps) := by
  refine (valueText name).bind fun name => ?_
  match ps with
  | .none => exact .pure _
  | .pairs ps =>
    exact (mapM (fun p => (valueText p.2).bind fun _ => .pure _) ps).bind fun _ => .pure _
  | .buffer b =>
    refine (buffer b).bind fun b => ?_
    split
    · exact .pure _
    · exact .throw _

theorem rangeLines (r : Range) : Steady (Run.rangeLines r) :=
  (rangeEnds r).bind fun _ => selected.bind fun _ => .ite (.pure _) (.pure _)

theorem adapt (pattern : Pattern) (replacement : Value) (anchor : Option Pattern) (above : Bool) :
    Steady (Run.adapt pattern replacement anchor above) :=
  (expression pattern).bind fun _ => (mapM_option expression anchor).bind fun _ =>
    (valueText replacement).bind fun _ => selected.bind fun _ => (setSelected _).bind fun _ =>
      note _ _

theorem insert (wholeLines : Bool) (v : Value) : Steady (Run.insert wholeLines v) :=
  (valueText v).bind fun _ => selected.bind fun _ => setSelected _

theorem load (buffer : Option String) (file : Value) : Steady (Run.load buffer file) :=
  (valueText file).bind fun _ => (bufferOrSelected buffer).bind fun _ =>
    ((steady_demand _ _).bind fun _ => .pure _).bind fun _ => (setBuffer _ _).bind fun _ => note _ _

theorem storeTo (b : LineBuffer) (path : Option String) (append force : Bool) :
    Steady (b.storeTo path append force) := by
  refine .ite (.pure _) ?_
  split
  · exact .throw _
  · exact (steady_demand _ _).bind fun _ => .pure _

theorem store (buffer : Option String) (file : Option Value) (append force : Bool) :
    Steady (Run.store buffer file append force) :=
  (mapM_option valueText file).bind fun _ => (bufferOrSelected buffer).bind fun _ =>
    (storeTo _ _ append force).bind fun _ => (setBuffer _ _).bind fun _ =>
      .ite (note _ _) (.pure _)

theorem moveTo (f : LineBuffer → Buffer.Position) : Steady (Run.moveTo f) :=
  selected.bind fun _ => setSelected _

theorem move (target : MoveTarget) : Steady (Run.move target) := by
  unfold Run.move
  split
  · exact (search _).bind fun _ => .pure _
  · refine (operandNumber _).bind fun line => (mapM_option operandNumber _).bind fun column => ?_
    exact moveTo _
  · exact (operandNumber _).bind fun _ => moveTo _
  · exact moveTo _
  · exact moveTo _
  · exact moveTo _
  · exact moveTo _
  · exact moveTo _

theorem replace (pattern : Pattern) (replacement : Value) (count : Option Operand)
    (filter : Option Pattern) (range : Option Range) :
    Steady (Run.replace pattern replacement count filter range) := by
  have hreplaced : ∀ n : Nat, Steady (modifyScript ({ · with replaced := n })) :=
    fun _ _ _ _ => rfl
  refine (expression pattern).bind fun x => (mapM_option expression filter).bind fun filter => ?_
  refine (valueText replacement).bind fun replacement => ?_
  refine (mapM_option operandNumber count).bind fun count => ?_
  refine (mapM_option rangeEnds range).bind fun ends => ?_
  refine selected.bind fun b => ?_
  split
  split
  exact (setSelected _).bind fun _ => hreplaced _

theorem select (s : Selection) : Steady (Run.select s) := by
  match s with
  | .set name => exact ((buffer name).bind fun _ => .pure _).bind fun _ _ _ _ => rfl
  | .push name => exact ((buffer name).bind fun _ => .pure _).bind fun _ _ _ _ => rfl
  | .pop =>
    refine .script (fun s => ?_) fun _ _ _ => rfl
    split
    · exact .throw _
    · exact fun _ _ _ => rfl

theorem perform (text : String) (s : Statement) : Steady (Run.perform text s) := by
  match s with
  | .assign name append v =>
    refine (valueText v).bind fun _ => ?_
    exact .ite ((lookup? name).bind fun _ => setVariable name _)
      ((pure none).bind fun _ => setVariable name _)
  | .assignBuffer name append v => exact (valueText v).bind fun _ => putLines name append _
  | .assignNumeric name e => exact (exprNumber e).bind fun _ => setVariable name _
  | .adapt pattern replacement anchor above => exact adapt pattern replacement anchor above
  | .assert t => exact (testHolds t).bind fun _ => .ite (.throw _) (.pure _)
  | .copy r target append => exact (rangeLines r).bind fun _ => putLines target append _
  | .delete r => exact (rangeEnds r).bind fun _ => selected.bind fun _ => setSelected _
  | .insert wholeLines v => exact insert wholeLines v
  | .load buffer file => exact load buffer file
  | .store buffer file append force => exact store buffer file append force
  | .log t => exact (templateText t).bind fun _ => record _
  | .mark => exact selected.bind fun _ => setSelected _
  | .move target => exact move target
  | .replace pattern replacement count filter range =>
    exact replace pattern replacement count filter range
  | .select s => exact select s
  | .ifTest _ | .elseWord | .endIf | .whileTest _ | .endWhile | .leave .. | .script _
  | .endScript | .exit .. | .stop _ | .call .. => exact .pure _

/-- A statement that does not jump does the same in all surroundings, and goes on as it does there. -/
theorem execute (text : String) {s : Statement} (h : s.isPlain = true) :
    Steady (Run.execute text s) := by
  cases s with
  | exit abort code => exact (codeOf code 0).bind fun _ => .pure _
  | stop code => exact (codeOf code 1).bind fun _ => .pure _
  | call name ps => exact callee name ps
  | ifTest | elseWord | endIf | whileTest | endWhile | leave | script | endScript => cases h
  | _ => exact (perform text _).bind fun _ => .pure _

end Steady

end LineScript.Run
