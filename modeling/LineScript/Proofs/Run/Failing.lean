import LineScript.Proofs.Run.Unharmed

/-! A statement that fails has no effect on variables and on the text of buffers: it looks at all that it works on
before it changes anything, and what it changes then cannot fail. -/
namespace LineScript.Run

variable {α β : Type} {searches : Bool}

/-- Whether some work harms nothing if it fails. -/
def Atomic (searches : Bool) (m : Run α) : Prop :=
  ∀ (s : RunState) (e : Error) (s' : RunState), outcome m s = (.error e, s') → s.Unharmed searches s'

/-- Whether some work cannot fail. -/
def Succeeds (m : Run α) : Prop :=
  ∀ s, ∃ a, (outcome m s).1 = .ok a

namespace Succeeds

theorem pure (a : α) : Succeeds (Pure.pure a) :=
  fun _ => ⟨a, rfl⟩

theorem bind {m : Run α} {f : α → Run β} (hm : Succeeds m) (hf : ∀ a, Succeeds (f a)) :
    Succeeds (m >>= f) := by
  intro s
  obtain ⟨a, ha⟩ := hm s
  rw [outcome_bind]
  cases ho : outcome m s with
  | mk r s' =>
    rw [ho] at ha
    cases ha
    exact hf a s'

theorem ite {c : Prop} [Decidable c] {m n : Run α} (hm : Succeeds m) (hn : Succeeds n) :
    Succeeds (if c then m else n) := by
  split
  · exact hm
  · exact hn

theorem modifyScript (f : Script → Script) : Succeeds (Run.modifyScript f) :=
  fun _ => ⟨(), rfl⟩

theorem modifyEngine (f : Engine → Engine) : Succeeds (Run.modifyEngine f) :=
  fun _ => ⟨(), rfl⟩

theorem buffer (name : String) : Succeeds (NamedBuffers.buffer name) :=
  fun _ => ⟨_, rfl⟩

theorem setBuffer (name : String) (b : LineBuffer) : Succeeds (NamedBuffers.setBuffer name b) :=
  fun _ => ⟨(), rfl⟩

theorem selected : Succeeds Run.selected :=
  fun _ => ⟨_, rfl⟩

theorem setSelected (b : LineBuffer) : Succeeds (Run.setSelected b) :=
  fun _ => ⟨(), rfl⟩

theorem putLines (name : String) (append : Bool) (lines : List String) :
    Succeeds (Run.putLines name append lines) :=
  (buffer name).bind fun _ => setBuffer name _

theorem moveTo (f : LineBuffer → Buffer.Position) : Succeeds (Run.moveTo f) :=
  selected.bind fun _ => setSelected _

end Succeeds

namespace Atomic

theorem of_looks {m : Run α} (h : Looks searches m) : Atomic searches m := by
  intro s e s' houtcome
  have hleft := h s
  rwa [houtcome] at hleft

theorem of_succeeds {m : Run α} (h : Succeeds m) : Atomic searches m := by
  intro s e s' houtcome
  obtain ⟨a, ha⟩ := h s
  rw [houtcome] at ha
  cases ha

/-- Looking first and changing something then harms nothing if it fails. -/
theorem bind {m : Run α} {f : α → Run β} (hm : Looks searches m) (hf : ∀ a, Atomic searches (f a)) :
    Atomic searches (m >>= f) := by
  intro s e s' houtcome
  have hfirst := hm s
  rw [outcome_bind] at houtcome
  cases ho : outcome m s with
  | mk r s₁ =>
    rw [ho] at hfirst houtcome
    cases r with
    | error e =>
      cases houtcome
      exact hfirst
    | ok a => exact hfirst.trans (hf a s₁ e s' houtcome)

/-- What cannot fail may follow. -/
theorem seq {m : Run α} {f : α → Run β} (hm : Atomic searches m) (hf : ∀ a, Succeeds (f a)) :
    Atomic searches (m >>= f) := by
  intro s e s' houtcome
  rw [outcome_bind] at houtcome
  cases ho : outcome m s with
  | mk r s₁ =>
    rw [ho] at houtcome
    cases r with
    | error e =>
      cases houtcome
      exact hm s e _ ho
    | ok a =>
      obtain ⟨b, hb⟩ := hf a s₁
      dsimp only at houtcome
      rw [houtcome] at hb
      cases hb

theorem ite {c : Prop} [Decidable c] {m n : Run α} (hm : Atomic searches m) (hn : Atomic searches n) :
    Atomic searches (if c then m else n) := by
  split
  · exact hm
  · exact hn

/-- A shared variable is refused before anything is set. -/
theorem setVariable (name v : String) : Atomic searches (Run.setVariable name v) := by
  refine ite ?_ (of_succeeds (.modifyScript _))
  intro s e s' houtcome
  have hengine : ∀ e, (outcome (Engine.setVariable name v) s.engine).1 = .error e →
      (outcome (Engine.setVariable name v) s.engine).2 = s.engine := by
    intro e
    cases hintrinsic : isIntrinsicName name <;> cases hglobal : isGlobalName name <;>
      simp [Engine.setVariable, hintrinsic, hglobal]
  rw [outcome_onEngine] at houtcome
  obtain ⟨hresult, hleft⟩ := Prod.mk.inj houtcome
  rw [← hleft, hengine e hresult]
  exact .refl _ s

theorem load (buffer : Option String) {file : Value} (h : valueCalls file = []) :
    Atomic searches (Run.load buffer file) := by
  refine bind (.valueText h) fun path => bind (.bufferOrSelected buffer) fun named => ?_
  refine bind ((Looks.demand _ _).bind fun _ => .pure _) fun b => of_succeeds ?_
  exact (Succeeds.setBuffer _ b).bind fun _ => .modifyEngine _

/-- A buffer that cannot be written is not touched. -/
theorem store (buffer : Option String) {file : Option Value} (append force : Bool)
    (h : file.toList.flatMap valueCalls = []) : Atomic searches (Run.store buffer file append force) := by
  have hstore (b : LineBuffer) (path : Option String) :
      Looks searches (b.storeTo path append force : Run (LineBuffer × Bool)) := by
    refine .ite (.pure _) ?_
    split
    · exact .throw _
    · exact (Looks.demand _ _).bind fun _ => .pure _
  refine bind (.mapM_option_of_calls h .valueText) fun path => ?_
  refine bind (.bufferOrSelected buffer) fun named => bind (hstore named.2 path) fun r => of_succeeds ?_
  exact (Succeeds.setBuffer _ r.1).bind fun _ => .ite (.modifyEngine _) (.pure _)

theorem adapt (pattern : Pattern) {replacement : Value} (anchor : Option Pattern) (above : Bool)
    (h : valueCalls replacement = []) : Atomic searches (Run.adapt pattern replacement anchor above) := by
  refine bind (.expression pattern) fun x => bind (.mapM_option fun p _ => .expression p) fun anchor => ?_
  refine bind (.valueText h) fun replacement => bind .selected fun named => of_succeeds ?_
  exact (Succeeds.setSelected _).bind fun _ => .modifyEngine _

theorem insert (wholeLines : Bool) {v : Value} (h : valueCalls v = []) :
    Atomic searches (Run.insert wholeLines v) :=
  bind (.valueText h) fun _ => bind .selected fun _ => of_succeeds (.setSelected _)

theorem moveTo (f : LineBuffer → Buffer.Position) : Atomic searches (Run.moveTo f) :=
  of_succeeds (.moveTo f)

/-- A search on its own fails only while its expression is looked at. -/
theorem search (p : Pattern) : Atomic searches (Run.search p) :=
  bind (.expression p) fun _ => bind .selected fun _ => of_succeeds ((Succeeds.setSelected _).bind fun _ => .pure _)

theorem move {target : MoveTarget} (h : target.calls = []) : Atomic searches (Run.move target) := by
  unfold Run.move
  split
  · exact (search _).seq fun _ => .pure _
  · obtain ⟨hline, hcolumn⟩ := List.append_eq_nil_iff.mp h
    refine bind (.operandNumber hline) fun line => ?_
    exact bind (.mapM_option_of_calls hcolumn .operandNumber) fun column => moveTo _
  · exact bind (.operandNumber h) fun _ => moveTo _
  all_goals exact moveTo _

theorem replace (pattern : Pattern) {replacement : Value} {count : Option Operand}
    (filter : Option Pattern) {range : Option Range} (hvalue : valueCalls replacement = [])
    (hcount : count.toList.flatMap Operand.calls = []) (hrange : range.toList.flatMap Range.calls = []) :
    Atomic searches (Run.replace pattern replacement count filter range) := by
  refine bind (.expression pattern) fun x => bind (.mapM_option fun p _ => .expression p) fun filter => ?_
  refine bind (.valueText hvalue) fun replacement => ?_
  refine bind (.mapM_option_of_calls hcount .operandNumber) fun count => ?_
  refine bind (.mapM_option_of_calls hrange .rangeEnds) fun ends => ?_
  refine bind .selected fun named => of_succeeds ?_
  exact (Succeeds.setSelected _).bind fun _ => .modifyScript _

theorem select (s : Selection) : Atomic searches (Run.select s) := by
  match s with
  | .set name | .push name =>
    exact of_succeeds (((Succeeds.buffer name).bind fun _ => .pure _).bind fun _ => .modifyScript _)
  | .pop =>
    refine bind .script fun s => ?_
    split
    · exact of_looks (.throw _)
    · exact of_succeeds (.modifyScript _)

theorem perform (text : String) {st : Statement} (h : st.calls = []) :
    Atomic st.searches (Run.perform text st) := by
  match st with
  | .assign name append v =>
    refine bind (.valueText h) fun s => ite (bind (.lookup? name) fun _ => setVariable name _) ?_
    exact bind (.pure none) fun _ => setVariable name _
  | .assignBuffer name append v => exact bind (.valueText h) fun _ => of_succeeds (.putLines name append _)
  | .assignNumeric name e => exact bind (.exprNumber h) fun _ => setVariable name _
  | .adapt pattern replacement anchor above => exact adapt pattern anchor above h
  | .assert t => exact of_looks ((Looks.testHolds h).bind fun _ => .ite (.throw _) (.pure _))
  | .copy r target append => exact bind (.rangeLines h) fun _ => of_succeeds (.putLines target append _)
  | .delete r => exact bind (.rangeEnds h) fun _ => bind .selected fun _ => of_succeeds (.setSelected _)
  | .insert wholeLines v => exact insert wholeLines h
  | .load buffer file => exact load buffer h
  | .store buffer file append force => exact store buffer append force h
  | .log t => exact bind (.templateText t) fun _ => of_succeeds (.modifyEngine _)
  | .mark => exact bind .selected fun _ => of_succeeds (.setSelected _)
  | .move target => exact move h
  | .replace pattern replacement count filter range =>
    obtain ⟨hleft, hrange⟩ := List.append_eq_nil_iff.mp h
    obtain ⟨hvalue, hcount⟩ := List.append_eq_nil_iff.mp hleft
    exact replace pattern filter hvalue hcount hrange
  | .select s => exact select s
  | .ifTest _ | .elseWord | .endIf | .whileTest _ | .endWhile | .leave .. | .script _ | .endScript | .exit ..
  | .stop _ | .call .. => exact of_succeeds (.pure _)

theorem execute (text : String) {st : Statement} (h : st.calls = []) :
    Atomic st.searches (Run.execute text st) := by
  match st with
  | .ifTest t => exact of_looks ((Looks.testHolds h).bind fun _ => .ite (.pure _) (.jumpBy _))
  | .whileTest t =>
    refine of_looks ((Looks.testHolds h).bind fun _ => .ite (Looks.enterLoop.bind fun _ => .pure _) ?_)
    refine (Looks.of_reads fun _ => rfl : Looks _ loops).bind fun _ => ?_
    refine (Looks.of_reads fun _ => rfl : Looks _ index).bind fun _ => ?_
    exact (Looks.setLoops _).bind fun _ => .jumpBy _
  | .leave levels condition =>
    rw [execute_leave]
    refine of_looks (Looks.bind ?_ fun _ => .ite (.pure _) .leaveLoops)
    cases condition with
    | none => exact .pure _
    | some t => exact .testHolds (List.flatMap_eq_nil_iff.mp h t List.mem_cons_self)
  | .exit abort code => exact of_looks ((Looks.codeOf h 0).bind fun _ => .pure _)
  | .stop code => exact of_looks ((Looks.codeOf h 1).bind fun _ => .pure _)
  | .call name ps =>
    obtain ⟨hname, hps⟩ := List.append_eq_nil_iff.mp h
    exact of_looks (.callee hname hps)
  | .elseWord | .endWhile | .script _ => exact of_looks (.jumpBy _)
  | .assign .. | .assignBuffer .. | .assignNumeric .. | .adapt .. | .assert _ | .copy .. | .delete _
  | .insert .. | .load .. | .store .. | .log _ | .mark | .move _ | .replace .. | .select _ | .endIf
  | .endScript => exact (perform text h).seq fun _ => .pure _

end Atomic

/-- A statement that calls no function and fails leaves all variables as they were, the selected buffers, the count
of the last replacement, and of every buffer the lines, the mark, the file and whether it counts as changed. Cursors
and last searches are as they were, too, unless a test of the statement is a search; even then only those of the
selected buffer may differ. -/
theorem failing_statement_harms_nothing (text : String) {st : Statement} (hcalls : st.calls = [])
    {s s' : RunState} {e : Error} (h : outcome (execute text st) s = (.error e, s')) :
    s.Unharmed st.searches s' :=
  Atomic.execute text hcalls s e s' h

/-- A replacement fails at its range after all else has been looked at, and a search whose outcome is refused has moved
the cursor. -/
theorem failing_statement_harms_nothing_late :
    let x : Search.Expression := {
      pattern := "b"
      kind := .literal
      machine := .cat (.mark 0 0) (.cat (.set 2 (.range 98 98)) (.mark 1 1)) }
    let pattern : Pattern := ⟨.literal, [.text "b"], "", some x⟩
    let late : Statement := .replace pattern [.text [.text "-"], .buffer ⟨"new", .all⟩] none none (some .hit)
    let refused : Statement := .assert ⟨true, .search pattern⟩
    let s : RunState := ⟨{ script := { name := "s", lines := [] }, program := {} }, { main := { lines := ["ab"] } }⟩
    s.Unharmed false (outcome (execute "" late) s).2 ∧ s.Unharmed true (outcome (execute "" refused) s).2 ∧
      (outcome (execute "" refused) s).2.engine.main.cursor = ⟨0, 2⟩ := by
  intro x pattern late refused s
  have hfails (st : Statement) (h : (outcome (execute "" st) s).1.isOk = false) :
      ∃ e, outcome (execute "" st) s = (.error e, (outcome (execute "" st) s).2) := by
    cases hresult : (outcome (execute "" st) s).1 with
    | ok flow =>
      rw [hresult] at h
      cases h
    | error e => exact ⟨e, Prod.ext hresult rfl⟩
  obtain ⟨_, hlate⟩ := hfails late (by decide +kernel)
  obtain ⟨_, hrefused⟩ := hfails refused (by decide +kernel)
  exact ⟨failing_statement_harms_nothing "" rfl hlate, failing_statement_harms_nothing "" rfl hrefused,
    by decide +kernel⟩

end LineScript.Run
