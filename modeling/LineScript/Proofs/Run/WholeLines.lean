import LineScript.Proofs.Buffer.CutAndPaste
import LineScript.Proofs.Run.Confinement

/-! Statements that copy, delete and put back whole lines. -/
namespace LineScript

open Text (Unbroken)

namespace RunState

/-- The buffer of a name; one that has not been named before has no lines. -/
def held (s : RunState) (name : String) : LineBuffer :=
  (s.buffer? name).getD {}

/-- The name of the selected buffer. -/
def selectedName (s : RunState) : String :=
  s.active.script.selected

/-- The selected buffer. -/
def selectedBuffer (s : RunState) : LineBuffer :=
  s.held s.selectedName

/-- Whether a state has the buffers of another one, and the same one selected. Buffers without lines may have been
named for the first time. -/
structure SameBuffers (s s' : RunState) : Prop where
  held : ∀ name, s'.held name = s.held name
  selected : s'.selectedName = s.selectedName

/-- Whether a state has the buffers of another one but for one, and the same one selected. -/
structure Updates (s : RunState) (name : String) (b : LineBuffer) (s' : RunState) : Prop where
  held : s'.held name = b
  others : ∀ other, other ≠ name → s'.held other = s.held other
  selected : s'.selectedName = s.selectedName

variable {s s' s'' : RunState} {name other : String} {b : LineBuffer}

theorem SameBuffers.refl (s : RunState) : s.SameBuffers s :=
  ⟨fun _ => rfl, rfl⟩

theorem SameBuffers.trans (h : s.SameBuffers s') (h' : s'.SameBuffers s'') : s.SameBuffers s'' :=
  ⟨fun name => (h'.held name).trans (h.held name), h'.selected.trans h.selected⟩

theorem SameBuffers.selectedBuffer (h : s.SameBuffers s') : s'.selectedBuffer = s.selectedBuffer := by
  unfold RunState.selectedBuffer
  rw [h.selected, h.held]

theorem SameBuffers.updates (h : s.SameBuffers s') (h' : s'.Updates name b s'') : s.Updates name b s'' :=
  ⟨h'.held, fun other hother => (h'.others other hother).trans (h.held other), h'.selected.trans h.selected⟩

/-- What becomes of the selected buffer is the selected buffer afterwards. -/
theorem Updates.selectedBuffer (h : s.Updates s.selectedName b s') :
    s'.selectedBuffer = b ∧ s.Updates s.selectedName s'.selectedBuffer s' := by
  have hbuffer : s'.selectedBuffer = b := by
    unfold RunState.selectedBuffer
    rw [h.selected, h.held]
  exact ⟨hbuffer, hbuffer ▸ h⟩

theorem buffer?_setBuffer_ne (s : RunState) (b : LineBuffer) (h : other ≠ name) :
    (s.setBuffer name b).buffer? other = s.buffer? other := by
  unfold RunState.setBuffer RunState.buffer?
  cases hname : isGlobalName name with
  | false =>
    cases hother : isGlobalName other with
    | false => simp [Registry.get?_insert_ne _ _ h]
    | true => simp
  | true =>
    cases hother : isGlobalName other with
    | false => simp
    | true =>
      unfold Engine.setBuffer Engine.buffer?
      by_cases hmain : name = mainName
      · have hne : other ≠ mainName := hmain ▸ h
        simp [hmain, hne]
      · simp [hmain, Registry.get?_insert_ne _ _ h]

theorem updates_setBuffer (s : RunState) (name : String) (b : LineBuffer) :
    s.Updates name b (s.setBuffer name b) := by
  refine ⟨?_, fun other hother => ?_, s.selected_setBuffer name b⟩
  · rw [held, buffer?_setBuffer_self, Option.getD_some]
  · rw [held, held, buffer?_setBuffer_ne s b hother]

end RunState

namespace Run

open Number (Double)

/-- Looking at a buffer changes none. -/
theorem outcome_held (name : String) (s : RunState) :
    ∃ s', outcome (NamedBuffers.buffer name : Run LineBuffer) s = (.ok (s.held name), s') ∧ s.SameBuffers s' := by
  rw [outcome_buffer, RunState.held]
  cases hfound : s.buffer? name with
  | some b => exact ⟨s, rfl, .refl s⟩
  | none =>
    obtain ⟨hheld, hothers, hselected⟩ := s.updates_setBuffer name {}
    refine ⟨_, rfl, fun other => ?_, hselected⟩
    by_cases hother : other = name
    · rw [hother, hheld, RunState.held, hfound, Option.getD_none]
    · exact hothers other hother

theorem outcome_selectedBuffer (s : RunState) :
    ∃ s', outcome selected s = (.ok (s.selectedName, s.selectedBuffer), s') ∧ s.SameBuffers s' := by
  have hselected : outcome selected s = outcome (do
      let b ← NamedBuffers.buffer (m := Run) s.selectedName
      return (s.selectedName, b)) s := rfl
  obtain ⟨s', hbuffer, hsame⟩ := outcome_held s.selectedName s
  rw [hselected, outcome_bind, hbuffer]
  exact ⟨s', rfl, hsame⟩

/-- Changing the selected buffer. -/
theorem outcome_setSelected (b : LineBuffer) (s : RunState) :
    outcome (setSelected b) s = (.ok (), s.setBuffer s.selectedName b) :=
  rfl

end Run

/-- Where a range of whole lines starts, of how many lines it is, and the state in which the buffer is looked at. -/
inductive Range.Spans (s : RunState) : Range → RunState → Nat → Nat → Prop
  | all : Spans s .all s 0 s.selectedBuffer.lines.length
  | line : Spans s .line s s.selectedBuffer.cursor.line 1
  | lines {n : Operand} {x : Number.Double} {s' : RunState} : outcome (Run.operandNumber n) s = (.ok x, s') →
      Spans s (.lines n) s' s'.selectedBuffer.cursor.line x.toSize

/-- Whether a range says itself of how many lines it is. -/
inductive Range.Fixed : Range → Prop
  | all : Fixed .all
  | line : Fixed .line
  | lines (x : Number.Double) : Fixed (.lines (.number x))

variable {r : Range} {s s₁ s₂ : RunState} {l k : Nat}

/-- A range that says itself of how many lines it is is the same as long as the selected buffer is. -/
theorem Range.Fixed.spans (h : r.Fixed) (hspans : r.Spans s s₁ l k)
    (hbuffer : s₂.selectedBuffer = s₁.selectedBuffer) : r.Spans s₂ s₂ l k := by
  cases h with
  | all =>
    cases hspans
    rw [← hbuffer]
    exact .all
  | line =>
    cases hspans
    rw [← hbuffer]
    exact .line
  | lines x =>
    cases hspans with
    | lines hx =>
      have hnumber (s : RunState) : outcome (Run.operandNumber (.number x)) s =
          (if x.isFinite then .ok x else .error (.ofFailure (.notFinite x)), s) := by
        unfold Run.operandNumber
        rw [outcome_bind, outcome_pure]
        dsimp only
        split <;> rfl
      rw [hnumber] at hx
      split at hx
      · next hfinite =>
        cases hx
        rw [← hbuffer]
        apply Range.Spans.lines
        rw [hnumber, if_pos hfinite]
      · cases hx

theorem Range.Spans.isWholeLines (h : r.Spans s s₁ l k) : r.isWholeLines = true := by
  cases h <;> rfl

namespace Run

theorem outcome_rangeEnds (h : r.Spans s s₁ l k) :
    ∃ s₂, outcome (rangeEnds r) s = (.ok (⟨l, 0⟩, ⟨l + k, 0⟩), s₂) ∧ s₁.SameBuffers s₂ := by
  obtain ⟨s₂, hselected, hsame⟩ := outcome_selectedBuffer s₁
  refine ⟨s₂, ?_, hsame⟩
  cases h with
  | all =>
    have hends : rangeEnds .all = (do
        let named ← selected
        return (⟨0, 0⟩, ⟨named.2.lines.length, 0⟩)) := rfl
    rw [hends, outcome_bind, hselected, Nat.zero_add]
    rfl
  | line =>
    have hends : rangeEnds .line = (do
        let named ← selected
        return (⟨named.2.cursor.line, 0⟩, ⟨named.2.cursor.line + 1, 0⟩)) := rfl
    rw [hends, outcome_bind, hselected]
    rfl
  | @lines n x _ hx =>
    have hends : rangeEnds (.lines n) = (do
        let x ← operandNumber n
        let named ← selected
        return (⟨named.2.cursor.line, 0⟩, ⟨named.2.cursor.line + x.toSize, 0⟩)) := by
      simp only [rangeEnds, pure_bind]
    rw [hends, outcome_bind, hx]
    dsimp only
    rw [outcome_bind, hselected]
    rfl

/-- The lines of a range of whole lines. -/
theorem outcome_rangeLines (h : r.Spans s s₁ l k) :
    ∃ s₂, outcome (rangeLines r) s = (.ok ((s₁.selectedBuffer.lines.drop l).take k), s₂) ∧ s₁.SameBuffers s₂ := by
  obtain ⟨s₂, hends, hsame⟩ := outcome_rangeEnds h
  obtain ⟨s₃, hselected, hsame'⟩ := outcome_selectedBuffer s₂
  refine ⟨s₃, ?_, hsame.trans hsame'⟩
  obtain ⟨hfound, -⟩ := LineBuffer.extract_delete_block s₁.selectedBuffer l k
  rw [rangeLines, outcome_bind, hends]
  dsimp only
  rw [outcome_bind, hselected, hsame.selectedBuffer, ← hfound]
  dsimp only
  rw [h.isWholeLines]
  by_cases hpost : l + k < s₁.selectedBuffer.lines.length
  · simp [hpost]
  · simp [hpost]

/-- Copying whole lines sets the target to them. -/
theorem execute_copy (text : String) (h : r.Spans s s₁ l k) (t : String) :
    ∃ s₂, outcome (execute text (.copy r t false)) s = (.ok .next, s₂) ∧
      s₁.Updates t ((s₁.held t).setLines ((s₁.selectedBuffer.lines.drop l).take k)) s₂ := by
  obtain ⟨s₂, hlines, hsame⟩ := outcome_rangeLines h
  obtain ⟨s₃, hbuffer, hsame'⟩ := outcome_held t s₂
  have hexecute : execute text (.copy r t false) = (do
      let lines ← rangeLines r
      let b ← NamedBuffers.buffer (m := Run) t
      NamedBuffers.setBuffer t (b.setLines lines)
      return Flow.next) := by
    change (do perform text (.copy r t false); return Flow.next) = _
    simp only [perform, putLines, bind_assoc, Bool.false_eq_true, if_false]
  rw [hexecute, outcome_bind, hlines]
  dsimp only
  rw [outcome_bind, hbuffer, hsame.held]
  exact ⟨_, rfl, (hsame.trans hsame').updates (s₃.updates_setBuffer t _)⟩

/-- Deleting whole lines takes them out, and leaves the cursor at the start of the line that is there then. -/
theorem execute_delete (text : String) (h : r.Spans s s₁ l k) :
    ∃ s₂, outcome (execute text (.delete r)) s = (.ok .next, s₂) ∧
      s₁.Updates s₁.selectedName s₂.selectedBuffer s₂ ∧
      s₂.selectedBuffer.lines = s₁.selectedBuffer.lines.take l ++ s₁.selectedBuffer.lines.drop (l + k) ∧
      s₂.selectedBuffer.cursor = ⟨min l s₁.selectedBuffer.lines.length, 0⟩ := by
  obtain ⟨s₂, hends, hsame⟩ := outcome_rangeEnds h
  obtain ⟨s₃, hselected, hsame'⟩ := outcome_selectedBuffer s₂
  obtain ⟨-, hleft⟩ := LineBuffer.extract_delete_block s₁.selectedBuffer l k
  have hexecute : execute text (.delete r) = (do
      let ends ← rangeEnds r
      let named ← selected
      setSelected ((named.2.delete ends.1 ends.2).1.setCursor ends.1)
      return Flow.next) := by
    change (do perform text (.delete r); return Flow.next) = _
    simp only [perform, bind_assoc]
  rw [hexecute, outcome_bind, hends]
  dsimp only
  rw [outcome_bind, hselected, hsame.selectedBuffer]
  dsimp only
  rw [outcome_bind, outcome_setSelected, (hsame.trans hsame').selected]
  have hupdated := (hsame.trans hsame').updates (s₃.updates_setBuffer s₁.selectedName
    ((s₁.selectedBuffer.delete ⟨l, 0⟩ ⟨l + k, 0⟩).1.setCursor ⟨l, 0⟩))
  obtain ⟨hbuffer, hupdated⟩ := hupdated.selectedBuffer
  refine ⟨_, rfl, hupdated, ?_, ?_⟩
  · rw [hbuffer, LineBuffer.setCursor_lines, hleft]
  · have hmin : min l (min l s₁.selectedBuffer.lines.length + (s₁.selectedBuffer.lines.length - (l + k))) =
        min l s₁.selectedBuffer.lines.length := by omega
    rw [hbuffer, LineBuffer.cursor_setCursor_lineStart, hleft, List.length_append, List.length_take,
      List.length_drop, hmin]

/-- Inserting the lines of a buffer as whole lines puts them in front of the line of the cursor, and moves the cursor
to the start of the line behind them. -/
theorem execute_insert (text : String) {t : String} {pre post : List String} (hlines : (s.held t).lines ≠ [])
    (hunbroken : ∀ line ∈ (s.held t).lines, Unbroken line) (hparts : s.selectedBuffer.lines = pre ++ post)
    (hcursor : s.selectedBuffer.cursor.line = pre.length) :
    ∃ s', outcome (execute text (.insert true [.buffer ⟨t, .all⟩])) s = (.ok .next, s') ∧
      s.Updates s.selectedName s'.selectedBuffer s' ∧
      s'.selectedBuffer.lines = pre ++ (s.held t).lines ++ post ∧
      s'.selectedBuffer.cursor = ⟨pre.length + (s.held t).lines.length, 0⟩ := by
  obtain ⟨s₁, hbuffer, hsame⟩ := outcome_held t s
  obtain ⟨s₂, hselected, hsame'⟩ := outcome_selectedBuffer s₁
  have htext : Text.lines ((s.held t).text ++ "") = (s.held t).lines := by
    rw [String.append_empty]
    exact Text.lines_join hlines hunbroken
  have hexecute : execute text (.insert true [.buffer ⟨t, .all⟩]) = (do
      let b ← NamedBuffers.buffer (m := Run) t
      let named ← selected
      let pasted := named.2.insert ⟨named.2.cursor.line, 0⟩ (Text.lines (b.text ++ "")) true
      setSelected (pasted.1.setCursor pasted.2)
      return Flow.next) := by
    change (do perform text (.insert true [.buffer ⟨t, .all⟩]); return Flow.next) = _
    simp only [perform, insert, valueText, fragmentText, bufferText, bind_assoc, pure_bind, if_true]
  obtain ⟨hpasted, hstop⟩ := LineBuffer.insert_block_between hparts hlines
  rw [hexecute, outcome_bind, hbuffer]
  dsimp only
  rw [outcome_bind, hselected, hsame.selectedBuffer, htext]
  dsimp only
  rw [hcursor, outcome_bind, outcome_setSelected, (hsame.trans hsame').selected, hstop]
  have hupdated := (hsame.trans hsame').updates (s₂.updates_setBuffer s.selectedName
    ((s.selectedBuffer.insert ⟨pre.length, 0⟩ (s.held t).lines true).1.setCursor
      ⟨pre.length + (s.held t).lines.length, 0⟩))
  obtain ⟨hresult, hupdated⟩ := hupdated.selectedBuffer
  refine ⟨_, rfl, hupdated, ?_, ?_⟩
  · rw [hresult, LineBuffer.setCursor_lines, hpasted]
  · rw [hresult, LineBuffer.cursor_setCursor_lineStart, hpasted, List.length_append, List.length_append,
      Nat.min_eq_left (Nat.le_add_right _ _)]

/-- Inserting a block of some lines where it was taken out gives these lines again. -/
theorem execute_insert_block (text : String) {t : String} {lines : List String}
    (hunbroken : ∀ line ∈ lines, Unbroken line) (hblock : (lines.drop l).take k ≠ [])
    (hheld : (s.held t).lines = (lines.drop l).take k)
    (hleft : s.selectedBuffer.lines = lines.take l ++ lines.drop (l + k))
    (hcursor : s.selectedBuffer.cursor = ⟨min l lines.length, 0⟩) :
    ∃ s', outcome (execute text (.insert true [.buffer ⟨t, .all⟩])) s = (.ok .next, s') ∧
      s.Updates s.selectedName s'.selectedBuffer s' ∧ s'.selectedBuffer.lines = lines ∧
      s'.selectedBuffer.cursor = ⟨l + ((lines.drop l).take k).length, 0⟩ := by
  have hl : l < lines.length := by
    by_contra hge
    simp [List.drop_eq_nil_of_le (Nat.le_of_not_lt hge)] at hblock
  have hpre : (lines.take l).length = l := List.length_take_of_le (Nat.le_of_lt hl)
  have hwhole : ∀ line ∈ (s.held t).lines, Unbroken line := by
    rw [hheld]
    intro line hline
    exact hunbroken line (List.mem_of_mem_drop (List.mem_of_mem_take hline))
  have hplace : s.selectedBuffer.cursor.line = (lines.take l).length := by
    rw [hcursor, List.length_take]
  obtain ⟨s', hinsert, hinserted, hpasted, hstop⟩ := execute_insert text (hheld ▸ hblock) hwhole hleft hplace
  rw [hheld, List.append_assoc, ← LineBuffer.block_parts] at hpasted
  rw [hheld, hpre] at hstop
  exact ⟨s', hinsert, hinserted, hpasted, hstop⟩

/-- What copying a range of whole lines, deleting it and inserting the copy in its place come to. When the range is
deleted, its length is evaluated once more; it is the same again if it stands in the statement. The cursor goes to the
start of the range, or behind the last line if there are fewer lines. -/
theorem whole_lines_cut_and_paste (copying deleting inserting : String) {t : String} (h : r.Spans s s₁ l k)
    (ht : t ≠ s₁.selectedName) (hunbroken : ∀ line ∈ s₁.selectedBuffer.lines, Unbroken line) :
    let lines := s₁.selectedBuffer.lines
    let block := (lines.drop l).take k
    ∃ s₂, outcome (execute copying (.copy r t false)) s = (.ok .next, s₂) ∧
      s₁.Updates t (s₂.held t) s₂ ∧ (s₂.held t).lines = block ∧ s₂.selectedBuffer = s₁.selectedBuffer ∧
      (r.Fixed → r.Spans s₂ s₂ l k) ∧
      ∀ s₃, r.Spans s₂ s₃ l k → s₃.selectedName = s₁.selectedName → s₃.selectedBuffer = s₁.selectedBuffer →
        s₃.held t = s₂.held t →
        ∃ s₄, outcome (execute deleting (.delete r)) s₂ = (.ok .next, s₄) ∧
          s₃.Updates s₁.selectedName s₄.selectedBuffer s₄ ∧
          s₄.selectedBuffer.lines = lines.take l ++ lines.drop (l + k) ∧
          s₄.selectedBuffer.cursor = ⟨min l lines.length, 0⟩ ∧
          (block ≠ [] →
            ∃ s₅, outcome (execute inserting (.insert true [.buffer ⟨t, .all⟩])) s₄ = (.ok .next, s₅) ∧
              s₄.Updates s₁.selectedName s₅.selectedBuffer s₅ ∧ s₅.selectedBuffer.lines = lines ∧
              s₅.selectedBuffer.cursor = ⟨l + block.length, 0⟩) := by
  intro lines block
  obtain ⟨s₂, hcopy, hcopied⟩ := execute_copy copying h t
  have hheld : (s₂.held t).lines = block := congrArg LineBuffer.lines hcopied.held
  have hselected : s₂.selectedBuffer = s₁.selectedBuffer := by
    unfold RunState.selectedBuffer
    rw [hcopied.selected, hcopied.others _ ht.symm]
  refine ⟨s₂, hcopy, ⟨rfl, hcopied.others, hcopied.selected⟩, hheld, hselected,
    fun hfixed => hfixed.spans h hselected, ?_⟩
  intro s₃ hagain hname hbuffer hkept
  obtain ⟨s₄, hdelete, hdeleted, hleft, hcursor⟩ := execute_delete deleting hagain
  rw [hbuffer] at hleft hcursor
  rw [hname] at hdeleted
  refine ⟨s₄, hdelete, hdeleted, hleft, hcursor, ?_⟩
  intro hblock
  have hheld₄ : (s₄.held t).lines = block := by
    rw [hdeleted.others t ht, hkept, hheld]
  obtain ⟨s₅, hinsert, hinserted, hlines, hstop⟩ :=
    execute_insert_block inserting hunbroken hblock hheld₄ hleft hcursor
  rw [hdeleted.selected, hname] at hinserted
  exact ⟨s₅, hinsert, hinserted, hlines, hstop⟩

/-- Two lines of three, the first of them empty, up to the end of the buffer. -/
theorem whole_lines_cut_and_paste_end :
    let b : LineBuffer := { lines := ["a", "", "b"], cursor := ⟨1, 0⟩ }
    let s : RunState := ⟨{ script := { name := "s", lines := [] }, program := {} }, { main := b }⟩
    let r : Range := .lines (.number (.ofNat 2))
    r.Spans s s 1 2 ∧ "t" ≠ s.selectedName ∧ (∀ line ∈ s.selectedBuffer.lines, Unbroken line) ∧
      ∃ s₂ s₄ s₅,
        (outcome (execute "" (.copy r "t" false)) s = (.ok .next, s₂) ∧ (s₂.held "t").lines = ["", "b"]) ∧
        (outcome (execute "" (.delete r)) s₂ = (.ok .next, s₄) ∧ s₄.selectedBuffer.lines = ["a"] ∧
          s₄.selectedBuffer.cursor = ⟨1, 0⟩) ∧
        outcome (execute "" (.insert true [.buffer ⟨"t", .all⟩])) s₄ = (.ok .next, s₅) ∧
          s₅.selectedBuffer.lines = ["a", "", "b"] ∧ s₅.selectedBuffer.cursor = ⟨3, 0⟩ := by
  intro b s r
  have hfixed : r.Fixed := .lines _
  have hb : s.selectedBuffer = b := by decide +kernel
  have hspans : r.Spans s s 1 2 := by
    have hnumber : outcome (operandNumber (.number (.ofNat 2))) s = (.ok (.ofNat 2), s) := by rfl
    have hlines := Range.Spans.lines hnumber
    have hcount : (Number.Double.ofNat 2).toSize = 2 := by decide +kernel
    rwa [hb, hcount] at hlines
  have hname : "t" ≠ s.selectedName := by decide
  have hunbroken : ∀ line ∈ s.selectedBuffer.lines, Unbroken line := by decide
  obtain ⟨s₂, hcopy, hcopied, hblock, hsame, hagain, hrest⟩ :=
    whole_lines_cut_and_paste "" "" "" hspans hname hunbroken
  obtain ⟨s₄, hdelete, -, hleft, hcursor, hinsert⟩ := hrest s₂ (hagain hfixed) hcopied.selected hsame rfl
  rw [hb] at hblock hleft hcursor hinsert
  obtain ⟨s₅, hdone, -, hlines, hstop⟩ := hinsert (by decide)
  exact ⟨hspans, hname, hunbroken, s₂, s₄, s₅, ⟨hcopy, hblock⟩, ⟨hdelete, hleft, hcursor⟩, hdone, hlines, hstop⟩

end Run

end LineScript
