import LineScript.Proofs.Function.Whole
import LineScript.Proofs.Run.Outcomes
import LineScript.Proofs.Script.Functions

/-! Which statements bring a line break into a line: those that call a function which makes a line with one,
and those that put a text with one in place of matches or of a line. -/
namespace LineScript

open Text (Unbroken)

/-- A call as it is made in a run. -/
def FunctionCall.made (c : FunctionCall) : Call Run :=
  ⟨c.1, Run.supplied c.2⟩

/-- Whether a statement puts a text in place of matches or of a line. -/
def Statement.substitutes : Statement → Bool
  | .replace .. | .adapt .. => true
  | _ => false

namespace Run

/-- Whether calls may be made where `A` holds: naming buffers, recording events and making the calls lead to
states of that kind only, and in none of these a call makes a line with a line break. -/
structure Allows (A : RunState → Prop) (calls : List FunctionCall) : Prop where
  closed : Closed A
  made : ∀ c ∈ calls, ∀ s, A s → A (outcome c.made.dispatch s).2
  harmless : ∀ c ∈ calls, ∀ s, A s → s.Whole → ¬c.made.Breaks s

namespace Allows

variable {A : RunState → Prop} {calls more : List FunctionCall}

theorem mono (h : Allows A calls) (hsub : more ⊆ calls) : Allows A more :=
  ⟨h.closed, fun c hc => h.made c (hsub hc), fun c hc => h.harmless c (hsub hc)⟩

theorem left (h : Allows A (calls ++ more)) : Allows A calls :=
  h.mono (List.subset_append_left calls more)

theorem right (h : Allows A (calls ++ more)) : Allows A more :=
  h.mono (List.subset_append_right calls more)

theorem flatMap {α : Type} {f : α → List FunctionCall} {l : List α} (h : Allows A (l.flatMap f)) {a : α}
    (ha : a ∈ l) : Allows A (f a) :=
  h.mono fun _ hc => List.mem_flatMap_of_mem ha hc

theorem toList {α : Type} {f : α → List FunctionCall} {o : Option α} (h : Allows A (o.toList.flatMap f))
    {a : α} (ha : a ∈ o) : Allows A (f a) :=
  h.flatMap (Option.mem_toList.mpr ha)

/-- A call leads to where it may be made again. -/
theorem run (h : Allows A calls) {c : FunctionCall} (hc : c ∈ calls) (hargs : c.made.Carries A) :
    Carries A A c.made.run := by
  have hrecord : Carries A A
      (modify fun w : World => w.record (.note .trace .functions s!"calling {c.made.function.name}")) :=
    fun s hs hwhole => ⟨hwhole.record _, fun _ _ => ⟨h.closed.recorded s hs _, trivial⟩⟩
  have hdispatch : Carries A A c.made.dispatch := by
    intro s hs hwhole
    obtain ⟨hwhole', -⟩ := Call.Carries.dispatch h.closed hargs (h.harmless c hc) s hs hwhole
    exact ⟨hwhole', fun _ _ => ⟨h.made c hc s hs, trivial⟩⟩
  exact hrecord.seq fun _ => hdispatch

end Allows

namespace Carries

variable {α : Type} {A : RunState → Prop} {calls : List FunctionCall}

/-- Work on the engine. -/
theorem onEngine {a : Engine.Action α} (ha : Engine.Spares a) : Carries A Anywhere (Run.onEngine a) := by
  intro s _ hwhole
  have hengine := (ha s.engine hwhole.engine).1
  rw [outcome_onEngine]
  exact ⟨⟨hengine, hwhole.script⟩, fun _ _ => ⟨trivial, trivial⟩⟩

theorem setVariable (name v : String) : Carries A Anywhere (Run.setVariable name v) :=
  .ite (onEngine (.setVariable name v)) (modifyScript fun _ => rfl)

theorem lookup? (name : String) : Carries A A (Run.lookup? name) :=
  .ite (engine.seq fun _ => pure trivial) (script.seq fun _ => pure trivial)

section Closed
variable (hA : Closed A)
include hA

theorem intrinsic (name : String) : Carries A A (Run.intrinsic name) := by
  refine getWorld.seq fun w => ?_
  split
  case h_6 | h_8 => exact script.seq fun _ => pure trivial
  case h_9 | h_10 | h_11 => exact pure trivial
  case h_12 => exact throw _
  all_goals exact (selected hA).seq fun _ => pure trivial

theorem variableValue (name : String) : Carries A A (Run.variableValue name) := by
  refine .ite (intrinsic hA name) ((lookup? name).seq fun v => ?_)
  cases v with
  | some v => exact pure trivial
  | none => exact throw _

theorem templateText (t : Template) : Carries A A (Run.templateText t) := by
  induction t with
  | nil => exact pure trivial
  | cons part parts ih =>
    match part with
    | .text _ => exact ih.seq fun _ => pure trivial
    | .variable name => exact (variableValue hA name).seq fun _ => ih.seq fun _ => pure trivial

theorem expression (p : Pattern) : Carries A A (Run.expression p) := by
  unfold Run.expression
  split
  · exact pure trivial
  · refine (templateText hA _).seq fun body => ?_
    split
    · exact pure trivial
    · exact throw _

theorem bufferText (ref : BufferRef) : Carries A A (Run.bufferText ref) := by
  refine (buffer hA _).seq fun b => ?_
  split <;> exact pure trivial

theorem bufferOrSelected (name : Option String) :
    Carries A A (Run.bufferOrSelected name) fun r => r.2.Whole := by
  cases name with
  | some name => exact (buffer hA name).bind fun _ hb => pure hb
  | none => exact selected hA

theorem search (p : Pattern) : Carries A Anywhere (Run.search p) :=
  (expression hA p).seq fun x => (selected hA).bind fun _ hb =>
    (setSelected (hb.search x.matcher x.flags true)).seq fun _ => pure trivial

theorem putLines (name : String) (append : Bool) {lines : List String}
    (hlines : ∀ line ∈ lines, Unbroken line) : Carries A Anywhere (Run.putLines name append lines) := by
  refine (buffer hA name).bind fun b hb => setBuffer name ?_
  split
  · exact hb.append hlines
  · exact LineBuffer.whole_setLines hlines

theorem moveTo (f : LineBuffer → Buffer.Position) : Carries A Anywhere (Run.moveTo f) :=
  (selected hA).bind fun _ hb => setSelected (hb.setCursor _)

theorem select (s : Selection) : Carries A Anywhere (Run.select s) := by
  have hname (name : String) : Carries A A (discard (NamedBuffers.buffer name : Run LineBuffer)) :=
    (buffer hA name).seq fun _ => pure trivial
  match s with
  | .set name => exact (hname name).seq fun _ => modifyScript fun _ => rfl
  | .push name => exact (hname name).seq fun _ => modifyScript fun _ => rfl
  | .pop =>
    refine script.seq fun s => ?_
    split
    · exact throw _
    · exact modifyScript fun _ => rfl

end Closed

mutual

theorem fragmentText : (f : Fragment) → Allows A f.calls → Carries A A (Run.fragmentText f)
  | .text t, h => templateText h.closed t
  | .variable name, h => variableValue h.closed name
  | .buffer ref, h => bufferText h.closed ref
  | .call function args, h => by
    have hargs := supplied args (h.mono (List.subset_cons_self _ _))
    have hrun := h.run (c := (function, args)) List.mem_cons_self hargs
    exact hrun.seq fun _ => pure trivial
  termination_by structural f => f

theorem valueText : (v : List Fragment) → Allows A (valueCalls v) → Carries A A (Run.valueText v)
  | [], _ => pure trivial
  | f :: fs, h => (fragmentText f h.left).seq fun _ => (valueText fs h.right).seq fun _ => pure trivial
  termination_by structural v => v

theorem argument : (a : Argument) → Allows A a.calls → (Run.argument a).Carries A
  | .value fs, h => valueText fs h
  | .buffer _, _ => trivial
  | .pattern p, h => expression h.closed p
  termination_by structural a => a

theorem supplied : (args : List Argument) → Allows A (argumentsCalls args) →
    ∀ a ∈ Run.supplied args, a.Carries A
  | [], _, _, h => absurd h List.not_mem_nil
  | a :: as, h, x, hx => by
    rcases List.mem_cons.mp hx with rfl | hx
    · exact argument a h.left
    · exact supplied as h.right x hx
  termination_by structural args => args

end

theorem operandNumber {o : Operand} (h : Allows A o.calls) : Carries A A (Run.operandNumber o) := by
  have hfinite (x : Number.Double) : Carries A A (if x.isFinite then Pure.pure x
      else MonadExcept.throw (Error.ofFailure (.notFinite x)) : Run Number.Double) :=
    .ite (pure trivial) (throw _)
  match o with
  | .number x => exact hfinite x
  | .variable name =>
    refine (variableValue h.closed name).seq fun s => ?_
    split
    · exact hfinite _
    · exact .throw_bind _
  | .call function args =>
    have hargs := supplied args (h.mono (List.subset_cons_self _ _))
    have hrun := h.run (c := (function, args)) List.mem_cons_self hargs
    have hnumber : Carries A A (Call.asNumber ⟨function, Run.supplied args⟩) := by
      refine hrun.seq fun output => ?_
      cases output with
      | number x => exact pure trivial
      | text s =>
        dsimp only
        split
        · exact pure trivial
        · exact throw _
    exact hnumber.seq fun _ => hfinite _

theorem termNumber {t : Term} (h : Allows A t.operand.calls) : Carries A A (Run.termNumber t) :=
  (operandNumber h).seq fun _ => pure trivial

theorem exprNumber {e : NumExpr} (h : Allows A e.calls) : Carries A A (Run.exprNumber e) := by
  have hterms (x : Number.Double) (terms : List (ArithOp × Term))
      (hterms : ∀ t ∈ terms, Allows A t.2.operand.calls) : Carries A A (Run.termsNumber x terms) := by
    induction terms generalizing x with
    | nil => exact pure trivial
    | cons term terms ih =>
      obtain ⟨hterm, hrest⟩ := List.forall_mem_cons.mp hterms
      refine (termNumber hterm).seq fun y => ?_
      split
      · exact ih _ hrest
      · exact throw _
  exact (termNumber h.left).seq fun _ => hterms _ e.rest fun t ht => h.right.flatMap ht

theorem testHolds {t : Test} (h : Allows A t.calls) : Carries A Anywhere (Run.testHolds t) := by
  have hcondition : Carries A Anywhere (Run.conditionHolds t.condition) := by
    obtain ⟨negated, condition⟩ := t
    match condition with
    | .found => exact (selected h.closed).seq fun _ => .done (pure trivial)
    | .search p => exact search h.closed p
    | .truthy v => exact (valueText v h).seq fun _ => .done (pure trivial)
    | .compare left op right =>
      exact (valueText left h.left).seq fun _ => (valueText right h.right).seq fun _ =>
        .done (pure trivial)
  exact hcondition.seq fun _ => pure trivial

theorem rangeEnds {r : Range} (h : Allows A r.calls) : Carries A A (Run.rangeEnds r) := by
  have hends (count : Nat) : Carries A A (endsOf r count) := by
    refine (selected h.closed).seq fun b => ?_
    cases r with
    | hit => exact .ite (pure trivial) (throw _)
    | _ => exact pure trivial
  cases r with
  | lines n => exact (operandNumber h).seq fun _ => hends _
  | _ => exact hends 1

theorem rangeLines {r : Range} (h : Allows A r.calls) :
    Carries A A (Run.rangeLines r) fun lines => ∀ line ∈ lines, Unbroken line := by
  refine (rangeEnds h).seq fun ends => (selected h.closed).bind fun b hb => ?_
  have hlines := hb.extract ends.1 ends.2 false
  exact .ite (pure fun line hline => hlines line (List.dropLast_subset _ hline)) (pure hlines)

theorem insert {v : Value} (h : Allows A (valueCalls v)) (wholeLines : Bool) :
    Carries A Anywhere (Run.insert wholeLines v) := by
  refine (valueText v h).seq fun s => (selected h.closed).bind fun b hb => ?_
  have hinsert := hb.insert (if wholeLines then ⟨b.2.cursor.line, 0⟩ else b.2.cursor)
    (fun line => Text.lines_unbroken (s := s)) wholeLines
  exact setSelected (hinsert.setCursor _)

theorem load {file : Value} (h : Allows A (valueCalls file)) (buffer : Option String) :
    Carries A Anywhere (Run.load buffer file) := by
  have hlines (path : String) (w : World) (lines : List String)
      (hread : (outcome (FileAction.readLines path) w).1 = .ok lines) :
      ∀ line ∈ lines, Unbroken line := by
    obtain ⟨content, w', -, hcontent⟩ := outcome_bind_fst_eq_ok.mp hread
    have hok : Files.lines content = .ok lines := hcontent
    exact fun line => Files.lines_unbroken hok
  refine (valueText file h).seq fun path => (bufferOrSelected h.closed buffer).seq fun r => ?_
  have hread : Carries A Anywhere (r.2.readFrom path) LineBuffer.Whole :=
    (demand path (hlines path)).bind fun lines hlines => pure hlines
  refine hread.bind fun b hb => (setBuffer r.1 hb).seq fun _ => ?_
  exact record closed_anywhere _

theorem store {file : Option Value} (h : Allows A (file.toList.flatMap valueCalls)) (buffer : Option String)
    (append force : Bool) : Carries A Anywhere (Run.store buffer file append force) := by
  have hstore {b : LineBuffer} (hb : b.Whole) (path : Option String) :
      Carries A Anywhere (b.storeTo path append force) fun r => r.1.Whole := by
    refine .ite (.done (pure hb)) ?_
    split
    · exact throw _
    · exact (demand (P := fun _ => True) _ fun _ _ _ => trivial).seq fun _ => pure (hb.stored append)
  refine (mapM_option fun v hv => valueText v (h.toList hv)).seq fun path => ?_
  refine (bufferOrSelected h.closed buffer).bind fun r hr => (hstore hr path).bind fun b hb => ?_
  refine (setBuffer r.1 hb).seq fun _ => ?_
  exact .ite (record closed_anywhere _) (pure trivial)

theorem move {target : MoveTarget} (h : Allows A target.calls) : Carries A Anywhere (Run.move target) := by
  unfold Run.move
  split
  · exact (search h.closed _).seq fun _ => pure trivial
  · refine (operandNumber h.left).seq fun line => ?_
    exact (mapM_option fun o ho => operandNumber (h.right.toList ho)).seq fun column => moveTo h.closed _
  · exact (operandNumber h).seq fun _ => moveTo h.closed _
  all_goals exact moveTo h.closed _

/-- A statement that does not jump, but for those that put a text in place of matches or of a line. -/
theorem perform (text : String) {st : Statement} (h : Allows A st.calls) (hst : st.substitutes = false) :
    Carries A Anywhere (Run.perform text st) := by
  cases st with
  | assign name append v =>
    refine (valueText v h).seq fun _ => ?_
    exact .ite ((lookup? name).seq fun _ => setVariable name _)
      ((pure (P := fun _ => True) trivial).seq fun _ => setVariable name _)
  | assignBuffer name append v =>
    exact (valueText v h).seq fun _ => putLines h.closed name append fun _ => Text.lines_unbroken
  | assignNumeric name e => exact (exprNumber h).seq fun _ => setVariable name _
  | assert t => exact (testHolds h).seq fun _ => .ite (throw _) (pure trivial)
  | copy r target append => exact (rangeLines h).bind fun _ hlines => putLines h.closed target append hlines
  | delete r =>
    refine (rangeEnds h).seq fun ends => (selected h.closed).bind fun b hb => ?_
    exact setSelected ((hb.delete ends.1 ends.2).setCursor _)
  | insert wholeLines v => exact insert h wholeLines
  | load buffer file => exact load h buffer
  | store buffer file append force => exact store h buffer append force
  | log t => exact (templateText h.closed t).seq fun _ => .done (record h.closed _)
  | mark => exact (selected h.closed).bind fun _ hb => setSelected (hb.setMark _)
  | move target => exact move h
  | select s => exact select h.closed s
  | adapt | replace => cases hst
  | _ => exact .done (pure trivial)

theorem jumpBy (table : JumpTable → Targets) : Carries A A (Run.jumpBy table) := by
  refine of_reads fun s => ?_
  rw [outcome_jumpBy_eq]

theorem index : Carries A A Run.index :=
  of_reads fun _ => rfl

theorem jumps : Carries A A Run.jumps :=
  of_reads fun _ => rfl

theorem loops : Carries A A Run.loops :=
  of_reads fun _ => rfl

theorem setLoops (loops : LoopCounts) : Carries A Anywhere (Run.setLoops loops) :=
  fun _ _ hwhole => ⟨⟨hwhole.engine, hwhole.script⟩, fun _ _ => ⟨trivial, trivial⟩⟩

theorem enterLoop : Carries A Anywhere Run.enterLoop := by
  refine index.seq fun i => loops.seq fun counts => (setLoops _).seq fun _ => engine.seq fun e => ?_
  split
  · exact .ite (throw _) (pure trivial)
  · exact pure trivial

theorem codeOf {code : Option Operand} (h : Allows A (code.toList.flatMap Operand.calls)) (default : Int) :
    Carries A A (Run.codeOf code default) := by
  cases code with
  | some o => exact (operandNumber (h.toList rfl)).seq fun _ => pure trivial
  | none => exact pure trivial

theorem callee {name : Value} {ps : Parameters} (h : Allows A (valueCalls name ++ ps.calls)) :
    Carries A A (Run.callee name ps) := by
  refine (valueText name h.left).seq fun name => ?_
  match ps with
  | .none => exact pure trivial
  | .pairs ps =>
    refine (mapM fun p hp => ?_).seq fun _ => pure trivial
    exact (valueText p.2 (h.right.flatMap hp)).seq fun _ => pure trivial
  | .buffer b =>
    refine (buffer h.closed b).seq fun b => ?_
    split
    · exact pure trivial
    · exact throw _

/-- The same for any statement. -/
theorem execute (text : String) {st : Statement} (h : Allows A st.calls) (hst : st.substitutes = false) :
    Carries A Anywhere (Run.execute text st) := by
  cases st with
  | ifTest t => exact (testHolds h).seq fun _ => .ite (pure trivial) (jumpBy _)
  | elseWord | endWhile | script => exact .done (jumpBy _)
  | whileTest t =>
    refine (testHolds h).seq fun _ => .ite (enterLoop.seq fun _ => pure trivial) ?_
    exact loops.seq fun _ => index.seq fun _ => (setLoops _).seq fun _ => jumpBy _
  | leave levels condition =>
    have hleaves (c : Bool) : Carries Anywhere Anywhere (if !c then Pure.pure .next else leaveLoops) := by
      refine .ite (pure trivial) (jumps.seq fun table => index.seq fun i => ?_)
      split
      · exact throw _
      · exact loops.seq fun _ => (setLoops _).seq fun _ => pure trivial
    rw [execute_leave]
    cases condition with
    | some t => exact (testHolds (h.toList rfl)).seq hleaves
    | none => exact (Carries.done (pure (P := fun _ => True) trivial)).seq hleaves
  | exit abort code => exact (codeOf h 0).seq fun _ => .done (pure trivial)
  | stop code => exact (codeOf h 1).seq fun _ => .done (pure trivial)
  | call name ps => exact .done (callee h)
  | _ => exact (perform text h hst).seq fun _ => pure trivial

end Carries
end Run
end LineScript
