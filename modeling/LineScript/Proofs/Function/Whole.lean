import LineScript.Function.Evaluation
import LineScript.Proofs.Run.Carries

/-! Which calls of functions bring a line break into a line: of those whose arguments do not, only those that
split a text elsewhere than at its line breaks, or list files. -/
namespace LineScript

open Run (Anywhere Carries Closed)
open Text (Unbroken)

theorem SortFlags.sort_subset (f : SortFlags) (lines : List String) : f.sort lines ⊆ lines := by
  have hdedupe (lines : List String) : f.dedupe lines ⊆ lines := by
    fun_induction SortFlags.dedupe f lines with
    | case1 => exact List.Subset.refl _
    | case2 a => exact List.Subset.refl _
    | case3 a b rest h ih =>
      exact List.Subset.trans ih (List.cons_subset_cons a (List.subset_cons_self b rest))
    | case4 a b rest h ih => exact List.cons_subset_cons a ih
  intro line hline
  unfold SortFlags.sort at hline
  dsimp only at hline
  have hkept : line ∈ if f.unique then f.dedupe (lines.mergeSort fun a b => f.order a b != .gt)
      else lines.mergeSort fun a b => f.order a b != .gt := by
    split at hline
    · exact List.mem_reverse.mp hline
    · exact hline
  split at hkept
  · exact List.mem_mergeSort.mp (hdedupe _ hkept)
  · exact List.mem_mergeSort.mp hkept

theorem Path.join_unbroken {directory path : String} (hdirectory : Unbroken directory)
    (hpath : Unbroken path) : Unbroken (Path.join directory path) := by
  have hslash : Unbroken "/" := by decide
  unfold Path.join
  split
  · exact hpath
  · dsimp only
    split <;> simp [hdirectory, hpath, hslash]

/-- Whether computing an argument brings no line break into a line, and ends in states of the kind in which
it starts. -/
def Supplied.Carries (A : RunState → Prop) : Supplied Run → Prop
  | .text value => Run.Carries A A value
  | .buffer _ => True
  | .pattern expression => Run.Carries A A expression

namespace Call

/-- The lines that a text is split into. -/
def splitLines (c : Call Run) : Run (List String) := do
  let s ← c.text 1
  let separator ← c.text? 2
  return Text.splitLines s (separator.getD ",")

/-- The paths of files that are listed. -/
def listedPaths (c : Call Run) : Run (List String) := do
  let path ← c.text 1
  let fits : String → Bool ← match ← c.text? 2 with
    | none => pure fun _ => true
    | some glob =>
      match Glob.fileName? glob with
      | some g => pure (Glob.matchesName g)
      | none => throw (.ofFailure .fileGlob)
  let names ← FileAction.demand path (.list path)
  return ((names.filter fits).map (Path.join path)).mergeSort fun a b => !decide (b < a)

/-- Whether a function fills a buffer with lines that are not those of buffers. -/
def fills (c : Call Run) : Bool :=
  c.function = .bufferSplit || c.function = .osListFiles

/-- The lines that such a function fills a buffer with. -/
def newLines (c : Call Run) : Run (List String) :=
  if c.function = .bufferSplit then c.splitLines else c.listedPaths

/-- Fills the first argument with lines. -/
def fillBuffer (c : Call Run) (lines : List String) : Run Output := do
  let (name, b) ← c.buffer 0
  NamedBuffers.setBuffer name (b.setLines lines)
  return .count lines.length

/-- Whether a call that is made in a state fills a buffer with a line that has a line break. -/
def Breaks (c : Call Run) (s : RunState) : Prop :=
  c.fills = true ∧ ∃ lines, (outcome c.newLines s).1 = .ok lines ∧ ∃ line ∈ lines, ¬Unbroken line

theorem dispatch_eq_fill {c : Call Run} (h : c.fills = true) :
    c.dispatch = c.newLines >>= c.fillBuffer := by
  have hsplit : c.bufferSplit = c.splitLines >>= c.fillBuffer := by
    unfold fillBuffer
    simp only [bufferSplit, splitLines, bind_assoc, pure_bind]
  have hlist : c.osListFiles = c.listedPaths >>= c.fillBuffer := by
    unfold fillBuffer
    simp only [osListFiles, listedPaths, buffer, bind_assoc, pure_bind]
    refine bind_congr fun path => bind_congr fun glob => ?_
    cases glob with
    | none => simp only [bind_assoc, pure_bind]
    | some glob =>
      dsimp only
      cases Glob.fileName? glob <;> simp only [bind_assoc, pure_bind]
  unfold fills at h
  simp only [Bool.or_eq_true, decide_eq_true_iff] at h
  rcases h with hf | hf
  · simp only [dispatch, newLines, hf, Builtin.group, bufferFunction, if_true]
    exact hsplit
  · simp only [dispatch, newLines, hf, Builtin.group, osFunction, reduceCtorEq, if_false]
    exact hlist

/-- Whether computing the arguments of a call brings no line break into a line, and ends in states of the kind
in which it starts. -/
def Carries (A : RunState → Prop) (c : Call Run) : Prop :=
  ∀ a ∈ c.arguments, a.Carries A

namespace Carries

variable {A : RunState → Prop} {α : Type} {P : α → Prop} {c : Call Run}

theorem missing (index : Nat) : Run.Carries A A (c.missing index : Run α) P :=
  .throw _

theorem bufferName (index : Nat) : Run.Carries A A (c.bufferName index) := by
  unfold Call.bufferName
  split
  · exact .pure trivial
  · exact .throw _

theorem foreign (group : FunctionGroup) : Run.Carries A Anywhere (c.foreign group : Run α) :=
  .throw _

section
variable (hA : Closed A)
include hA

theorem buffer (index : Nat) : Run.Carries A A (c.buffer index) fun r => r.2.Whole :=
  (bufferName index).seq fun _ => (Run.Carries.buffer hA _).bind fun _ hb => .pure hb

theorem bufferDifference : Run.Carries A Anywhere c.bufferDifference := by
  refine (buffer hA 0).bind fun left hleft => (buffer hA 1).seq fun right => ?_
  have hlines : ∀ line ∈ left.2.lines.filter fun line => !right.2.lines.contains line, Unbroken line :=
    fun line hline => hleft line (List.mem_filter.mp hline).1
  dsimp only
  split
  · refine (Run.Carries.buffer hA _).seq fun _ => ?_
    exact (Run.Carries.setBuffer _ (LineBuffer.whole_setLines hlines)).seq fun _ => .pure trivial
  · exact .done (.pure trivial)

theorem bufferPop : Run.Carries A Anywhere c.bufferPop :=
  (buffer hA 0).bind fun _ hb => (Run.Carries.setBuffer _ hb.pop).seq fun _ => .pure trivial

theorem bufferShift : Run.Carries A Anywhere c.bufferShift :=
  (buffer hA 0).bind fun _ hb => (Run.Carries.setBuffer _ hb.shift).seq fun _ => .pure trivial

variable (hc : c.Carries A)
include hc

theorem text? (index : Nat) : Run.Carries A A (c.text? index) := by
  unfold Call.text?
  split
  · exact .pure trivial
  · rename_i value h
    have hvalue : Run.Carries A A value := hc _ (List.mem_of_getElem? h)
    exact hvalue.seq fun _ => .pure trivial
  · exact (Run.Carries.buffer hA _).seq fun _ => .pure trivial
  · rename_i expression h
    have hexpression : Run.Carries A A expression := hc _ (List.mem_of_getElem? h)
    exact hexpression.seq fun _ => .pure trivial

theorem text (index : Nat) : Run.Carries A A (c.text index) := by
  refine (text? hA hc index).seq fun s => ?_
  cases s with
  | some s => exact .pure trivial
  | none => exact missing index

theorem number? (index : Nat) : Run.Carries A A (c.number? index) := by
  refine (text? hA hc index).seq fun s => ?_
  cases s with
  | none => exact .pure trivial
  | some s =>
    dsimp only
    split
    · exact .throw _
    · exact .ite (.pure trivial) (.throw _)

theorem number (index : Nat) : Run.Carries A A (c.number index) := by
  refine (number? hA hc index).seq fun x => ?_
  cases x with
  | some x => exact .pure trivial
  | none => exact missing index

theorem pattern (index : Nat) : Run.Carries A A (c.pattern index) := by
  unfold Call.pattern
  split
  · rename_i expression h
    exact hc _ (List.mem_of_getElem? h)
  · refine (text hA hc index).seq fun s => ?_
    split
    · exact .pure trivial
    · exact .throw _
  · exact missing index

theorem bufferJoin : Run.Carries A Anywhere c.bufferJoin :=
  .done ((text? hA hc 1).seq fun _ => (buffer hA 0).seq fun _ => .pure trivial)

theorem bufferSort : Run.Carries A Anywhere c.bufferSort := by
  refine (text? hA hc 1).seq fun flags => ?_
  split
  · exact .throw _
  · rename_i f _
    refine (buffer hA 0).bind fun r hr => ?_
    have hlines : ∀ line ∈ f.sort r.2.lines, Unbroken line :=
      fun line hline => hr line (f.sort_subset _ hline)
    exact (Run.Carries.setBuffer _ (LineBuffer.whole_setLines hlines)).seq fun _ => .pure trivial

theorem splitLines : Run.Carries A A c.splitLines :=
  (text hA hc 1).seq fun _ => (text? hA hc 2).seq fun _ => .pure trivial

theorem mathRandom : Run.Carries A Anywhere c.mathRandom := by
  have hdraw (low high : Int) : Run.Carries A Anywhere (do
      let n ← modifyGet fun w : World => w.draw (high - low).toNat
      return Output.number (.ofInt (low + n))) :=
    (Run.Carries.modifyWorld _).seq fun _ => .pure trivial
  refine (number hA hc 0).seq fun _ => (number? hA hc 1).seq fun _ => ?_
  exact .ite (.throw_bind _) (hdraw _ _)

theorem osBasename : Run.Carries A Anywhere c.osBasename :=
  (text hA hc 0).seq fun _ => .done (.pure trivial)

theorem osDirname : Run.Carries A Anywhere c.osDirname :=
  (text hA hc 0).seq fun _ => .done (.pure trivial)

theorem osChangeExtension : Run.Carries A Anywhere c.osChangeExtension :=
  (text hA hc 0).seq fun _ => (text hA hc 1).seq fun _ => .done (.pure trivial)

theorem osTempname : Run.Carries A Anywhere c.osTempname := by
  have hdemand (a : FileAction String) : Run.Carries A Anywhere (FileAction.demand "temporary file" a) :=
    .demand _ fun _ _ _ => trivial
  exact (text? hA hc 0).seq fun _ => (hdemand _).seq fun _ => .pure trivial

theorem osCd : Run.Carries A Anywhere c.osCd := by
  have henter (path : String) : Run.Carries A Anywhere (do
      return Output.flag (← FileAction.attempt (m := Run) "os.cd" (.enter path))) :=
    (Run.Carries.attempt _ _).seq fun _ => .pure trivial
  refine (text? hA hc 0).seq fun path => ?_
  cases path with
  | some path => exact henter path
  | none =>
    refine Run.Carries.getWorld.seq fun w => ?_
    split
    · exact henter _
    · exact .throw_bind _

theorem osPushd : Run.Carries A Anywhere c.osPushd := by
  refine (text hA hc 0).seq fun _ => Run.Carries.getWorld.seq fun _ => ?_
  refine (Run.Carries.attempt _ _).seq fun ok => ?_
  exact .ite ((Run.Carries.modifyWorld _).seq fun _ => .pure trivial) (.pure trivial)

theorem osCopy : Run.Carries A Anywhere c.osCopy :=
  (text hA hc 0).seq fun _ => (text hA hc 1).seq fun _ => (Run.Carries.asked _ _).seq fun _ =>
    (Run.Carries.attempt _ _).seq fun _ => .pure trivial

theorem osExists : Run.Carries A Anywhere c.osExists :=
  (text hA hc 0).seq fun _ => (Run.Carries.asked _ _).seq fun _ => .pure trivial

theorem osIsDir : Run.Carries A Anywhere c.osIsDir :=
  (text hA hc 0).seq fun _ => (Run.Carries.asked _ _).seq fun _ => .pure trivial

theorem osMkdir : Run.Carries A Anywhere c.osMkdir :=
  (text hA hc 0).seq fun _ => (Run.Carries.attempt _ _).seq fun _ => .pure trivial

theorem listedPaths : Run.Carries A Anywhere c.listedPaths := by
  have hlist (path : String) (fits : String → Bool) : Run.Carries A Anywhere (do
      let names ← FileAction.demand (m := Run) path (.list path)
      return ((names.filter fits).map (Path.join path)).mergeSort fun a b => !decide (b < a)) := by
    have hdemand : Run.Carries A Anywhere (FileAction.demand path (.list path)) :=
      .demand _ fun _ _ _ => trivial
    exact hdemand.seq fun _ => .pure trivial
  refine (text hA hc 1).seq fun path => (text? hA hc 2).seq fun glob => ?_
  cases glob with
  | none => exact hlist path _
  | some glob =>
    dsimp only
    split
    · exact hlist path _
    · exact .throw_bind _

theorem newLines : Run.Carries A Anywhere c.newLines :=
  .ite (.done (splitLines hA hc)) (listedPaths hA hc)

theorem stringIndex : Run.Carries A Anywhere c.stringIndex :=
  (text hA hc 0).seq fun _ => (text hA hc 1).seq fun _ => (number? hA hc 2).seq fun _ =>
    .done (.pure trivial)

theorem stringLength : Run.Carries A Anywhere c.stringLength :=
  (text hA hc 0).seq fun _ => .done (.pure trivial)

theorem stringPiece : Run.Carries A Anywhere c.stringPiece := by
  refine (text hA hc 0).seq fun _ => (text hA hc 1).seq fun _ => (number hA hc 2).seq fun _ => ?_
  exact .ite (.throw_bind _) (.done (.pure trivial))

theorem stringReplace : Run.Carries A Anywhere c.stringReplace := by
  refine (text hA hc 0).seq fun _ => (text hA hc 1).seq fun _ => (text hA hc 2).seq fun _ => ?_
  exact .ite (.done (.pure trivial)) ((number? hA hc 3).seq fun _ => .done (.pure trivial))

theorem stringSearch : Run.Carries A Anywhere c.stringSearch := by
  refine (text hA hc 0).seq fun s => (pattern hA hc 1).seq fun x => ?_
  split
  · exact .done (.pure trivial)
  · exact .done (.pure trivial)

theorem stringSubstring : Run.Carries A Anywhere c.stringSubstring :=
  (text hA hc 0).seq fun _ => (number hA hc 1).seq fun _ => (number? hA hc 2).seq fun _ =>
    .done (.pure trivial)

end

theorem osPwd : Run.Carries A Anywhere c.osPwd :=
  Run.Carries.getWorld.seq fun _ => .done (.pure trivial)

theorem osPopd : Run.Carries A Anywhere c.osPopd := by
  refine Run.Carries.getWorld.seq fun w => ?_
  split
  · exact (Run.Carries.modifyWorld _).seq fun _ => .pure trivial
  · exact (Run.Carries.modifyWorld _).seq fun _ => (Run.Carries.attempt _ _).seq fun _ => .pure trivial

theorem fillBuffer {lines : List String} (hlines : ∀ line ∈ lines, Unbroken line) :
    Run.Carries Anywhere Anywhere (c.fillBuffer lines) :=
  (buffer Run.closed_anywhere 0).seq fun _ =>
    (Run.Carries.setBuffer _ (LineBuffer.whole_setLines hlines)).seq fun _ => .pure trivial

/-- A call brings no line break into a line, unless it fills a buffer with a line that has one. -/
theorem dispatch (hA : Closed A) (hc : c.Carries A) (hbreaks : ∀ s, A s → s.Whole → ¬c.Breaks s) :
    Run.Carries A Anywhere c.dispatch := by
  by_cases hfills : c.fills = true
  · rw [dispatch_eq_fill hfills]
    refine ((newLines hA hc).result fun s hs hwhole lines hlines line hline => ?_).bind
      fun lines hlines => fillBuffer hlines
    by_contra hbroken
    exact hbreaks s hs hwhole ⟨hfills, lines, hlines, line, hline, hbroken⟩
  unfold Call.dispatch
  cases hgroup : c.function.group with
  | buffer =>
    dsimp only
    unfold Call.bufferFunction
    split
    · exact bufferDifference hA
    · exact bufferJoin hA hc
    · exact bufferPop hA
    · exact bufferShift hA
    · exact bufferSort hA hc
    · next hf => exact absurd (by simp [fills, hf]) hfills
    · exact foreign .buffer
  | math =>
    dsimp only
    unfold Call.mathFunction
    split
    · exact mathRandom hA hc
    · exact foreign .math
  | os =>
    dsimp only
    unfold Call.osFunction
    split
    · exact osBasename hA hc
    · exact osCd hA hc
    · exact osChangeExtension hA hc
    · exact osCopy hA hc
    · exact osDirname hA hc
    · exact osExists hA hc
    · exact osIsDir hA hc
    · next hf => exact absurd (by simp [fills, hf]) hfills
    · exact osMkdir hA hc
    · exact osPopd
    · exact osPushd hA hc
    · exact osPwd
    · exact osTempname hA hc
    · exact foreign .os
  | string =>
    dsimp only
    unfold Call.stringFunction
    split
    · exact stringIndex hA hc
    · exact stringLength hA hc
    · exact stringPiece hA hc
    · exact stringReplace hA hc
    · exact stringSearch hA hc
    · exact stringSubstring hA hc
    · exact foreign .string

/-- A call that succeeds brings a line break into a line exactly if it fills a buffer with a line that has
one. -/
theorem dispatch_whole_iff (hA : Closed A) (hc : c.Carries A) {s s' : RunState} (hs : A s)
    (hwhole : s.Whole) {out : Output} (hok : outcome c.dispatch s = (.ok out, s')) :
    s'.Whole ↔ ¬c.Breaks s := by
  by_cases hfills : c.fills = true
  · rw [dispatch_eq_fill hfills] at hok
    obtain ⟨lines, s₁, hlines, hfill⟩ := outcome_bind_eq_ok.mp hok
    obtain ⟨⟨name, b⟩, s₂, hbuffer, hset⟩ := outcome_bind_eq_ok.mp hfill
    have hleft : s₂.setBuffer name (b.setLines lines) = s' := congrArg Prod.snd hset
    have hwhole₁ := (newLines hA hc s hs hwhole).1
    rw [hlines] at hwhole₁
    have hwhole₂ := (buffer (c := c) Run.closed_anywhere 0 s₁ trivial hwhole₁).1
    rw [hbuffer] at hwhole₂
    rw [← hleft, RunState.whole_setBuffer_iff hwhole₂]
    have hbreaks : c.Breaks s ↔ ∃ line ∈ lines, ¬Unbroken line := by
      simp [Breaks, hfills, hlines]
    rw [hbreaks]
    push Not
    exact Iff.rfl
  · have hwhole' := (dispatch hA hc (fun _ _ _ h => hfills h.1) s hs hwhole).1
    rw [hok] at hwhole'
    exact iff_of_true hwhole' fun h => hfills h.1

end Carries

/-- A line that has a line break is split from a text that has one, elsewhere than at its line breaks. -/
theorem Breaks.of_split {c : Call Run} {s : RunState} (h : c.Breaks s) (hf : c.function = .bufferSplit) :
    ∃ text s₁ separator, outcome (c.text 1) s = (.ok text, s₁) ∧
      (outcome (c.text? 2) s₁).1 = .ok separator ∧ ¬Unbroken text ∧ separator ≠ some "\n" := by
  obtain ⟨-, lines, hlines, line, hline, hbroken⟩ := h
  rw [Call.newLines, if_pos hf] at hlines
  obtain ⟨text, s₁, htext, hrest⟩ := outcome_bind_fst_eq_ok.mp hlines
  obtain ⟨separator, s₂, hseparator, hsplit⟩ := outcome_bind_fst_eq_ok.mp hrest
  have hsplit : Text.splitLines text (separator.getD ",") = lines := Except.ok.inj hsplit
  rw [← hsplit] at hline
  refine ⟨text, s₁, separator, htext, by rw [hseparator], fun htext => ?_, fun hnewline => ?_⟩
  · exact hbroken (htext.splitLines hline)
  · rw [hnewline] at hline
    exact hbroken (Text.splitLines_newline hline)

/-- A path that has a line break is that of a file whose name has one, or that is listed by a path which has
one. -/
theorem Breaks.of_list {c : Call Run} {s : RunState} (h : c.Breaks s) (hf : c.function = .osListFiles) :
    ∃ path w names, (outcome (c.text 1) s).1 = .ok path ∧ (outcome (FileAction.list path) w).1 = .ok names ∧
      (¬Unbroken path ∨ ∃ name ∈ names, ¬Unbroken name) := by
  obtain ⟨-, lines, hlines, line, hline, hbroken⟩ := h
  have hother : ¬c.function = .bufferSplit := by simp [hf]
  rw [Call.newLines, if_neg hother] at hlines
  obtain ⟨path, s₁, hpath, hrest⟩ := outcome_bind_fst_eq_ok.mp hlines
  obtain ⟨glob, s₂, -, hrest⟩ := outcome_bind_fst_eq_ok.mp hrest
  have hlist (fits : String → Bool) (hnames : (outcome (do
      let names ← FileAction.demand (m := Run) path (.list path)
      return ((names.filter fits).map (Path.join path)).mergeSort fun a b => !decide (b < a)) s₂).1 =
        .ok lines) : ∃ w names, (outcome (FileAction.list path) w).1 = .ok names ∧
          ∃ name ∈ names, line = Path.join path name := by
    obtain ⟨names, s₃, hdemand, hsorted⟩ := outcome_bind_fst_eq_ok.mp hnames
    obtain ⟨r, s₄, hr, hcase⟩ := outcome_bind_eq_ok.mp hdemand
    have hanswer : (outcome (FileAction.list path) s₂.engine.world).1 = r :=
      Except.ok.inj (congrArg Prod.fst hr)
    cases r with
    | error e => cases hcase
    | ok x =>
      cases hcase
      rw [← Except.ok.inj hsorted, List.mem_mergeSort] at hline
      obtain ⟨name, hname, rfl⟩ := List.mem_map.mp hline
      exact ⟨_, _, hanswer, name, (List.mem_filter.mp hname).1, rfl⟩
  have hfound : ∃ w names, (outcome (FileAction.list path) w).1 = .ok names ∧
      ∃ name ∈ names, line = Path.join path name := by
    cases glob with
    | none => exact hlist _ hrest
    | some glob =>
      dsimp only at hrest
      split at hrest
      · exact hlist _ hrest
      · cases hrest
  obtain ⟨w, names, hnames, name, hname, rfl⟩ := hfound
  refine ⟨path, w, names, by rw [hpath], hnames, ?_⟩
  by_contra hnot
  push Not at hnot
  exact hbroken (Path.join_unbroken hnot.1 (hnot.2 name hname))

end Call

end LineScript
