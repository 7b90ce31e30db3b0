import LineScript.Proofs.Run.WholeLines
import LineScript.Proofs.Script.Functions

/-! States that differ in nothing that matters to scripts: variables, the text of buffers and what is selected. All
that a statement looks at before it changes anything leaves such a state, whether or not it can be had. Naming a buffer
for the first time makes one without lines, and a search moves the cursor of the selected buffer. -/
namespace LineScript

/-- Whether two buffers hold the same text with the same mark, and stand in the same way to their file. The cursor
and the last search may differ. -/
structure LineBuffer.SameText (b b' : LineBuffer) : Prop where
  lines : b'.lines = b.lines
  mark : b'.mark = b.mark
  changed : b'.changed = b.changed
  file : b'.file = b.file

namespace LineBuffer

theorem SameText.refl (b : LineBuffer) : b.SameText b :=
  ⟨rfl, rfl, rfl, rfl⟩

theorem SameText.trans {b b' b'' : LineBuffer} (h : b.SameText b') (h' : b'.SameText b'') : b.SameText b'' :=
  ⟨h'.lines.trans h.lines, h'.mark.trans h.mark, h'.changed.trans h.changed, h'.file.trans h.file⟩

theorem sameText_search (b : LineBuffer) (m : Search.Matcher) (f : Search.Flags) (advance : Bool) :
    b.SameText (b.search m f advance).1 := by
  unfold search
  dsimp only
  generalize (if f.backwards = true then _ else _ : Buffer.Hit) = hit
  split
  · split <;> exact ⟨rfl, rfl, rfl, rfl⟩
  · exact ⟨rfl, rfl, rfl, rfl⟩

end LineBuffer

namespace RunState

/-- Whether a state keeps what a statement that fails must not change: the variables, the selected buffers, the
count of the last replacement and the text of every buffer. Unless something is searched for, buffers also keep
their cursors and last searches, and all but the selected one keep them in any case. -/
structure Unharmed (searches : Bool) (s s' : RunState) : Prop where
  globals : s'.engine.bindings = s.engine.bindings
  locals : s'.active.script.bindings = s.active.script.bindings
  selected : s'.selectedName = s.selectedName
  pushed : s'.active.script.pushed = s.active.script.pushed
  replaced : s'.active.script.replaced = s.active.script.replaced
  text : ∀ name, (s.held name).SameText (s'.held name)
  held : ∀ name, searches = false ∨ name ≠ s.selectedName → s'.held name = s.held name

variable {s s' s'' : RunState} {searches : Bool}

namespace Unharmed

theorem refl (searches : Bool) (s : RunState) : s.Unharmed searches s :=
  ⟨rfl, rfl, rfl, rfl, rfl, fun _ => .refl _, fun _ _ => rfl⟩

theorem trans (h : s.Unharmed searches s') (h' : s'.Unharmed searches s'') : s.Unharmed searches s'' where
  globals := h'.globals.trans h.globals
  locals := h'.locals.trans h.locals
  selected := h'.selected.trans h.selected
  pushed := h'.pushed.trans h.pushed
  replaced := h'.replaced.trans h.replaced
  text name := (h.text name).trans (h'.text name)
  held name hname := by
    have hname' : searches = false ∨ name ≠ s'.selectedName := by rwa [h.selected]
    rw [h'.held name hname', h.held name hname]

end Unharmed

/-- Changing a buffer leaves variables, selection and counts alone. -/
theorem unharmed_setBuffer {name : String} {b : LineBuffer} (htext : (s.held name).SameText b)
    (hheld : b = s.held name ∨ searches = true ∧ name = s.selectedName) :
    s.Unharmed searches (s.setBuffer name b) := by
  have hupdates := s.updates_setBuffer name b
  refine ⟨?_, ?_, hupdates.selected, ?_, ?_, fun other => ?_, fun other hother => ?_⟩
  · unfold setBuffer Engine.setBuffer
    split <;> [split; skip] <;> rfl
  · unfold setBuffer
    split <;> rfl
  · unfold setBuffer
    split <;> rfl
  · unfold setBuffer
    split <;> rfl
  · by_cases hname : other = name
    · rw [hname, hupdates.held]
      exact htext
    · rw [hupdates.others other hname]
      exact .refl _
  · by_cases hname : other = name
    · subst hname
      rw [hupdates.held]
      rcases hheld with hb | ⟨hsearches, hselected⟩
      · exact hb
      · rcases hother with hother | hother
        · rw [hsearches] at hother
          cases hother
        · exact absurd hselected hother
    · exact hupdates.others other hname

end RunState

namespace Run

variable {α β : Type} {searches : Bool}

/-- Whether some work harms nothing, whatever it comes to. -/
def Looks (searches : Bool) (m : Run α) : Prop :=
  ∀ s : RunState, s.Unharmed searches (outcome m s).2

namespace Looks

theorem pure (a : α) : Looks searches (Pure.pure a) :=
  fun s => .refl _ s

theorem throw (e : Error) : Looks searches (MonadExcept.throw e : Run α) :=
  fun s => .refl _ s

theorem bind {m : Run α} {f : α → Run β} (hm : Looks searches m) (hf : ∀ a, Looks searches (f a)) :
    Looks searches (m >>= f) := by
  intro s
  have hfirst := hm s
  rw [outcome_bind]
  cases ho : outcome m s with
  | mk r s' =>
    rw [ho] at hfirst
    cases r with
    | error e => exact hfirst
    | ok a => exact hfirst.trans (hf a s')

theorem ite {c : Prop} [Decidable c] {m n : Run α} (hm : Looks searches m) (hn : Looks searches n) :
    Looks searches (if c then m else n) := by
  split
  · exact hm
  · exact hn

theorem mapM_option {f : β → Run α} {o : Option β} (hf : ∀ b ∈ o, Looks searches (f b)) :
    Looks searches (o.mapM f) := by
  cases o with
  | none => exact pure _
  | some b => exact (hf b rfl).bind fun _ => pure _

/-- An operand that may be left out calls functions only if it is given. -/
theorem mapM_option_of_calls {γ : Type} {calls : β → List γ} {f : β → Run α} {o : Option β}
    (ho : o.toList.flatMap calls = []) (hf : ∀ {b}, calls b = [] → Looks searches (f b)) :
    Looks searches (o.mapM f) :=
  mapM_option fun b hb => hf (List.flatMap_eq_nil_iff.mp ho b (Option.mem_toList.mpr hb))

/-- Work that only reads. -/
theorem of_reads {m : Run α} (h : ∀ s, (outcome m s).2 = s) : Looks searches m := by
  intro s
  rw [h s]
  exact .refl _ s

theorem getWorld : Looks searches (getThe World) :=
  of_reads fun _ => rfl

theorem script : Looks searches Run.script :=
  of_reads fun _ => rfl

theorem engine : Looks searches Run.engine :=
  of_reads fun _ => rfl

/-- Files, the journal and the rest of the world are no part of what is kept. -/
theorem modifyWorld (f : World → α × World) : Looks searches (MonadStateOf.modifyGet f) :=
  fun _ => ⟨rfl, rfl, rfl, rfl, rfl, fun _ => .refl _, fun _ _ => rfl⟩

theorem setLoops (loops : LoopCounts) : Looks searches (Run.setLoops loops) :=
  fun _ => ⟨rfl, rfl, rfl, rfl, rfl, fun _ => .refl _, fun _ _ => rfl⟩

theorem demand (path : String) (a : FileAction α) : Looks searches (FileAction.demand path a) := by
  refine (modifyWorld _).bind fun r => ?_
  cases r with
  | ok x => exact pure x
  | error e => exact throw _

theorem buffer (name : String) : Looks searches (NamedBuffers.buffer name) := by
  intro s
  rw [outcome_buffer]
  cases hfound : s.buffer? name with
  | some b => exact .refl _ s
  | none =>
    have hempty : s.held name = {} := by rw [RunState.held, hfound, Option.getD_none]
    exact RunState.unharmed_setBuffer (hempty ▸ .refl _) (.inl hempty.symm)

theorem selected : Looks searches Run.selected :=
  script.bind fun _ => (buffer _).bind fun _ => pure _

theorem lookup? (name : String) : Looks searches (Run.lookup? name) :=
  ite (engine.bind fun _ => pure _) (script.bind fun _ => pure _)

theorem intrinsic (name : String) : Looks searches (Run.intrinsic name) := by
  refine getWorld.bind fun w => ?_
  split
  case h_6 | h_8 => exact script.bind fun _ => pure _
  case h_9 | h_10 | h_11 => exact pure _
  case h_12 => exact throw _
  all_goals exact selected.bind fun _ => pure _

theorem variableValue (name : String) : Looks searches (Run.variableValue name) := by
  refine ite (intrinsic name) ((lookup? name).bind fun v => ?_)
  cases v with
  | some v => exact pure v
  | none => exact throw _

theorem templateText (t : Template) : Looks searches (Run.templateText t) := by
  induction t with
  | nil => exact pure _
  | cons part parts ih =>
    match part with
    | .text _ => exact ih.bind fun _ => pure _
    | .variable name => exact (variableValue name).bind fun _ => ih.bind fun _ => pure _

theorem expression (p : Pattern) : Looks searches (Run.expression p) := by
  unfold Run.expression
  split
  · exact pure _
  · refine (templateText _).bind fun body => ?_
    split
    · exact pure _
    · exact throw _

theorem bufferText (ref : BufferRef) : Looks searches (Run.bufferText ref) := by
  refine (buffer _).bind fun b => ?_
  split <;> exact pure _

theorem fragmentText {f : Fragment} (h : f.calls = []) : Looks searches (Run.fragmentText f) := by
  match f with
  | .text t => exact templateText t
  | .variable name => exact variableValue name
  | .buffer ref => exact bufferText ref
  | .call _ _ => cases h

theorem valueText {v : Value} (h : valueCalls v = []) : Looks searches (Run.valueText v) := by
  induction v with
  | nil => exact pure _
  | cons f fs ih =>
    obtain ⟨hf, hfs⟩ := List.append_eq_nil_iff.mp h
    exact (fragmentText hf).bind fun _ => (ih hfs).bind fun _ => pure _

theorem operandNumber {o : Operand} (h : o.calls = []) : Looks searches (Run.operandNumber o) := by
  have hfinite (x : Number.Double) : Looks searches (if x.isFinite then Pure.pure x
      else MonadExcept.throw (Error.ofFailure (.notFinite x)) : Run Number.Double) :=
    ite (pure _) (throw _)
  match o with
  | .number x => exact hfinite x
  | .variable name =>
    refine (variableValue name).bind fun s => ?_
    split
    · exact hfinite _
    · exact (throw _).bind fun _ => hfinite _
  | .call _ _ => cases h

theorem termNumber {t : Term} (h : t.operand.calls = []) : Looks searches (Run.termNumber t) :=
  (operandNumber h).bind fun _ => pure _

theorem termsNumber (x : Number.Double) {terms : List (ArithOp × Term)}
    (h : ∀ t ∈ terms, t.2.operand.calls = []) : Looks searches (Run.termsNumber x terms) := by
  induction terms generalizing x with
  | nil => exact pure x
  | cons term terms ih =>
    obtain ⟨hterm, hterms⟩ := List.forall_mem_cons.mp h
    refine (termNumber hterm).bind fun y => ?_
    split
    · exact ih _ hterms
    · exact throw _

theorem exprNumber {e : NumExpr} (h : e.calls = []) : Looks searches (Run.exprNumber e) := by
  obtain ⟨hfirst, hrest⟩ := List.append_eq_nil_iff.mp h
  exact (termNumber hfirst).bind fun _ => termsNumber _ (List.flatMap_eq_nil_iff.mp hrest)

/-- A search moves the cursor of the selected buffer and leaves its text alone. -/
theorem search (p : Pattern) : Looks true (Run.search p) := by
  have hselected (x : Search.Expression) : Looks true (do
      let named ← Run.selected
      Run.setSelected (named.2.search x.matcher x.flags true).1
      return (named.2.search x.matcher x.flags true).2.found) := by
    intro s
    obtain ⟨s', houtcome, hsame⟩ := outcome_selectedBuffer s
    have hunharmed : s.Unharmed true s' := by
      have hlooks : s.Unharmed true (outcome Run.selected s).2 := selected s
      rwa [houtcome] at hlooks
    rw [outcome_bind, houtcome]
    dsimp only
    rw [outcome_bind, outcome_setSelected, ← hsame.selectedBuffer]
    refine hunharmed.trans (RunState.unharmed_setBuffer ?_ (.inr ⟨rfl, rfl⟩))
    exact LineBuffer.sameText_search _ _ _ _
  exact (expression p).bind hselected

end Looks

end Run

/-- Whether a test searches the selected buffer. -/
def Test.searches (t : Test) : Bool :=
  match t.condition with
  | .search _ => true
  | .compare .. | .found | .truthy _ => false

/-- Whether a statement has a test that searches the selected buffer. -/
def Statement.searches : Statement → Bool
  | .assert t | .ifTest t | .whileTest t | .leave _ (some t) => t.searches
  | _ => false

namespace Run

variable {α β : Type} {searches : Bool}

namespace Looks

theorem testHolds {t : Test} (h : t.calls = []) : Looks t.searches (Run.testHolds t) := by
  obtain ⟨negated, condition⟩ := t
  have hcondition : Looks (Test.searches ⟨negated, condition⟩) (Run.conditionHolds condition) := by
    match condition with
    | .found => exact selected.bind fun _ => pure _
    | .search p => exact search p
    | .truthy v => exact (valueText h).bind fun _ => pure _
    | .compare left op right =>
      obtain ⟨hleft, hright⟩ := List.append_eq_nil_iff.mp h
      exact (valueText hleft).bind fun _ => (valueText hright).bind fun _ => pure _
  exact hcondition.bind fun _ => pure _

theorem rangeEnds {r : Range} (h : r.calls = []) : Looks searches (Run.rangeEnds r) := by
  have hends (count : Nat) : Looks searches (endsOf r count) := by
    refine selected.bind fun b => ?_
    cases r with
    | hit => exact ite (pure _) (throw _)
    | _ => exact pure _
  cases r with
  | lines n => exact (operandNumber h).bind fun _ => hends _
  | _ => exact hends 1

theorem rangeLines {r : Range} (h : r.calls = []) : Looks searches (Run.rangeLines r) :=
  (rangeEnds h).bind fun _ => selected.bind fun _ => ite (pure _) (pure _)

theorem bufferOrSelected (name : Option String) : Looks searches (Run.bufferOrSelected name) := by
  cases name with
  | some name => exact (buffer name).bind fun _ => pure _
  | none => exact selected

theorem codeOf {code : Option Operand} (h : code.toList.flatMap Operand.calls = []) (default : Int) :
    Looks searches (Run.codeOf code default) := by
  cases code with
  | some o => exact (operandNumber (List.flatMap_eq_nil_iff.mp h o List.mem_cons_self)).bind fun _ => pure _
  | none => exact pure _

theorem callee {name : Value} {ps : Parameters} (hname : valueCalls name = []) (hps : ps.calls = []) :
    Looks searches (Run.callee name ps) := by
  refine (valueText hname).bind fun name => ?_
  match ps with
  | .none => exact pure _
  | .pairs ps =>
    have hpairs (ps : List (String × Value)) (h : ∀ p ∈ ps, valueCalls p.2 = []) :
        Looks searches (ps.mapM fun p => do return (p.1, ← Run.valueText p.2)) := by
      induction ps with
      | nil => exact pure _
      | cons p ps ih =>
        obtain ⟨hp, hps⟩ := List.forall_mem_cons.mp h
        rw [List.mapM_cons]
        exact ((valueText hp).bind fun _ => pure _).bind fun _ => (ih hps).bind fun _ => pure _
    exact (hpairs ps (List.flatMap_eq_nil_iff.mp hps)).bind fun _ => pure _
  | .buffer b =>
    refine (buffer b).bind fun b => ?_
    split
    · exact pure _
    · exact throw _

theorem jumpBy (table : JumpTable → Targets) : Looks searches (Run.jumpBy table) := by
  intro s
  rw [outcome_jumpBy_eq]
  exact .refl _ s

/-- Counts of loops are no part of what is kept. -/
theorem enterLoop : Looks searches Run.enterLoop := by
  intro s
  rw [outcome_enterLoop]
  exact setLoops _ s

theorem leaveLoops : Looks searches Run.leaveLoops := by
  refine (of_reads fun _ => rfl : Looks searches jumps).bind fun _ => ?_
  refine (of_reads fun _ => rfl : Looks searches index).bind fun _ => ?_
  split
  · exact throw _
  · exact (of_reads fun _ => rfl : Looks searches loops).bind fun _ => (setLoops _).bind fun _ => pure _

end Looks

end Run

end LineScript
