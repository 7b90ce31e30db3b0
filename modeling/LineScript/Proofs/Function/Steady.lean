import LineScript.Function.Evaluation
import LineScript.Proofs.Run.Steady

/-! Functions are steady if their arguments are. -/
namespace LineScript

open Run (Steady)

variable {α : Type}

theorem steady_outcome (a : FileAction α) : Steady (FileAction.outcome a) :=
  .modifyWorld _

theorem steady_asked (path : String) (f : FileTree → List String → String → Bool) :
    Steady (FileAction.asked path f) :=
  (Steady.modifyWorld _).bind fun _ => Steady.getWorld.bind fun _ => .pure _

theorem steady_attempt (name : String) (a : FileAction α) : Steady (FileAction.attempt name a) := by
  refine (steady_outcome a).bind fun r => ?_
  cases r with
  | ok _ => exact .pure _
  | error e => exact (Steady.modifyWorld _).bind fun _ => .pure _

theorem steady_demand (path : String) (a : FileAction α) : Steady (FileAction.demand path a) := by
  refine (steady_outcome a).bind fun r => ?_
  cases r with
  | ok x => exact .pure x
  | error e => exact .throw _

/-- Whether an argument is steady work. -/
def Supplied.Steady : Supplied Run → Prop
  | .text value => Run.Steady value
  | .buffer _ => True
  | .pattern expression => Run.Steady expression

namespace Call

/-- Whether all arguments of a call are steady. -/
def Steady (c : Call Run) : Prop :=
  ∀ a ∈ c.arguments, a.Steady

namespace Steady

variable {c : Call Run}

theorem missing (index : Nat) : Run.Steady (c.missing index : Run α) :=
  .throw _

theorem text? (hc : c.Steady) (index : Nat) : Run.Steady (c.text? index) := by
  unfold Call.text?
  split
  · exact .pure _
  · rename_i value h
    have hvalue : Run.Steady value := hc _ (List.mem_of_getElem? h)
    exact hvalue.bind fun _ => .pure _
  · exact (Run.Steady.buffer _).bind fun _ => .pure _
  · rename_i expression h
    have hexpression : Run.Steady expression := hc _ (List.mem_of_getElem? h)
    exact hexpression.bind fun _ => .pure _

theorem text (hc : c.Steady) (index : Nat) : Run.Steady (c.text index) := by
  refine (hc.text? index).bind fun s => ?_
  cases s with
  | some s => exact .pure s
  | none => exact missing index

theorem number? (hc : c.Steady) (index : Nat) : Run.Steady (c.number? index) := by
  refine (hc.text? index).bind fun s => ?_
  cases s with
  | none => exact .pure none
  | some s =>
    dsimp only
    split
    · exact .throw _
    · exact .ite (.pure _) (.throw _)

theorem number (hc : c.Steady) (index : Nat) : Run.Steady (c.number index) := by
  refine (hc.number? index).bind fun x => ?_
  cases x with
  | some x => exact .pure x
  | none => exact missing index

theorem bufferName (index : Nat) : Run.Steady (c.bufferName index) := by
  unfold Call.bufferName
  split
  · exact .pure _
  · exact .throw _

theorem pattern (hc : c.Steady) (index : Nat) : Run.Steady (c.pattern index) := by
  unfold Call.pattern
  split
  · rename_i expression h
    exact hc _ (List.mem_of_getElem? h)
  · refine (hc.text index).bind fun s => ?_
    split
    · exact .pure _
    · exact .throw _
  · exact missing index

theorem buffer (index : Nat) : Run.Steady (c.buffer index) :=
  (bufferName index).bind fun _ => (Run.Steady.buffer _).bind fun _ => .pure _

theorem bufferDifference : Run.Steady c.bufferDifference := by
  refine (buffer 0).bind fun _ => (buffer 1).bind fun _ => ?_
  dsimp only
  split
  · exact (Run.Steady.buffer _).bind fun _ => (Run.Steady.setBuffer _ _).bind fun _ => .pure _
  · exact .pure _

theorem bufferJoin (hc : c.Steady) : Run.Steady c.bufferJoin :=
  (hc.text? 1).bind fun _ => (buffer 0).bind fun _ => .pure _

theorem bufferPop : Run.Steady c.bufferPop :=
  (buffer 0).bind fun _ => (Run.Steady.setBuffer _ _).bind fun _ => .pure _

theorem bufferShift : Run.Steady c.bufferShift :=
  (buffer 0).bind fun _ => (Run.Steady.setBuffer _ _).bind fun _ => .pure _

theorem bufferSort (hc : c.Steady) : Run.Steady c.bufferSort := by
  refine (hc.text? 1).bind fun flags => ?_
  split
  · exact .throw _
  · exact (buffer 0).bind fun _ => (Run.Steady.setBuffer _ _).bind fun _ => .pure _

theorem bufferSplit (hc : c.Steady) : Run.Steady c.bufferSplit :=
  (hc.text 1).bind fun _ => (hc.text? 2).bind fun _ => (buffer 0).bind fun _ =>
    (Run.Steady.setBuffer _ _).bind fun _ => .pure _

theorem mathRandom (hc : c.Steady) : Run.Steady c.mathRandom := by
  have hdraw : ∀ low high : Int, Run.Steady (do
      let n ← modifyGet fun w : World => w.draw (high - low).toNat
      return Output.number (.ofInt (low + n))) :=
    fun _ _ => (Run.Steady.modifyWorld _).bind fun _ => .pure _
  refine (hc.number 0).bind fun _ => (hc.number? 1).bind fun _ => ?_
  exact .ite ((Run.Steady.throw _).bind fun _ => hdraw _ _) (hdraw _ _)

theorem osBasename (hc : c.Steady) : Run.Steady c.osBasename :=
  (hc.text 0).bind fun _ => .pure _

theorem osDirname (hc : c.Steady) : Run.Steady c.osDirname :=
  (hc.text 0).bind fun _ => .pure _

theorem osChangeExtension (hc : c.Steady) : Run.Steady c.osChangeExtension :=
  (hc.text 0).bind fun _ => (hc.text 1).bind fun _ => .pure _

theorem osPwd : Run.Steady c.osPwd :=
  Run.Steady.getWorld.bind fun _ => .pure _

theorem osTempname (hc : c.Steady) : Run.Steady c.osTempname :=
  (hc.text? 0).bind fun _ => (steady_demand _ _).bind fun _ => .pure _

theorem osCd (hc : c.Steady) : Run.Steady c.osCd := by
  have henter : ∀ path, Run.Steady (do
      return Output.flag (← FileAction.attempt (m := Run) "os.cd" (.enter path))) :=
    fun _ => (steady_attempt _ _).bind fun _ => .pure _
  refine (hc.text? 0).bind fun path => ?_
  cases path with
  | some path => exact henter path
  | none =>
    refine Run.Steady.getWorld.bind fun w => ?_
    split
    · exact henter _
    · exact (Run.Steady.throw _).bind fun _ => henter _

theorem osPushd (hc : c.Steady) : Run.Steady c.osPushd := by
  refine (hc.text 0).bind fun _ => Run.Steady.getWorld.bind fun _ => (steady_attempt _ _).bind
    fun ok => ?_
  exact .ite ((Run.Steady.modifyWorld _).bind fun _ => .pure _) (.pure _)

theorem osPopd : Run.Steady c.osPopd := by
  refine Run.Steady.getWorld.bind fun w => ?_
  split
  · exact (Run.Steady.modifyWorld _).bind fun _ => .pure _
  · exact (Run.Steady.modifyWorld _).bind fun _ => (steady_attempt _ _).bind fun _ => .pure _

theorem osCopy (hc : c.Steady) : Run.Steady c.osCopy :=
  (hc.text 0).bind fun _ => (hc.text 1).bind fun _ => (steady_asked _ _).bind fun _ =>
    (steady_attempt _ _).bind fun _ => .pure _

theorem osExists (hc : c.Steady) : Run.Steady c.osExists :=
  (hc.text 0).bind fun _ => (steady_asked _ _).bind fun _ => .pure _

theorem osIsDir (hc : c.Steady) : Run.Steady c.osIsDir :=
  (hc.text 0).bind fun _ => (steady_asked _ _).bind fun _ => .pure _

theorem osMkdir (hc : c.Steady) : Run.Steady c.osMkdir :=
  (hc.text 0).bind fun _ => (steady_attempt _ _).bind fun _ => .pure _

theorem osListFiles (hc : c.Steady) : Run.Steady c.osListFiles := by
  have hlist : ∀ (path : String) (fits : String → Bool), Run.Steady (do
      let names ← FileAction.demand (m := Run) path (.list path)
      let lines := ((names.filter fits).map (Path.join path)).mergeSort fun a b => !decide (b < a)
      let name ← c.bufferName 0
      NamedBuffers.setBuffer name ((← NamedBuffers.buffer (m := Run) name).setLines lines)
      return Output.count lines.length) :=
    fun _ _ => (steady_demand _ _).bind fun _ => (bufferName 0).bind fun _ =>
      (Run.Steady.buffer _).bind fun _ => (Run.Steady.setBuffer _ _).bind fun _ => .pure _
  refine (hc.text 1).bind fun path => (hc.text? 2).bind fun glob => ?_
  cases glob with
  | none => exact hlist path _
  | some glob =>
    dsimp only
    split
    · exact hlist path _
    · exact (Run.Steady.throw _).bind fun _ => hlist path _

theorem stringIndex (hc : c.Steady) : Run.Steady c.stringIndex :=
  (hc.text 0).bind fun _ => (hc.text 1).bind fun _ => (hc.number? 2).bind fun _ => .pure _

theorem stringLength (hc : c.Steady) : Run.Steady c.stringLength :=
  (hc.text 0).bind fun _ => .pure _

theorem stringPiece (hc : c.Steady) : Run.Steady c.stringPiece := by
  refine (hc.text 0).bind fun _ => (hc.text 1).bind fun _ => (hc.number 2).bind fun _ => ?_
  exact .ite ((Run.Steady.throw _).bind fun _ => .pure _) (.pure _)

theorem stringReplace (hc : c.Steady) : Run.Steady c.stringReplace := by
  refine (hc.text 0).bind fun _ => (hc.text 1).bind fun _ => (hc.text 2).bind fun _ => ?_
  exact .ite (.pure _) ((hc.number? 3).bind fun _ => .pure _)

theorem stringSearch (hc : c.Steady) : Run.Steady c.stringSearch := by
  refine (hc.text 0).bind fun s => (hc.pattern 1).bind fun x => ?_
  split
  · exact .pure _
  · exact .pure _

theorem stringSubstring (hc : c.Steady) : Run.Steady c.stringSubstring :=
  (hc.text 0).bind fun _ => (hc.number 1).bind fun _ => (hc.number? 2).bind fun _ => .pure _

theorem foreign (group : FunctionGroup) : Run.Steady (c.foreign group : Run α) :=
  .throw _

theorem bufferFunction (hc : c.Steady) : Run.Steady c.bufferFunction := by
  unfold Call.bufferFunction
  split
  · exact bufferDifference
  · exact hc.bufferJoin
  · exact bufferPop
  · exact bufferShift
  · exact hc.bufferSort
  · exact hc.bufferSplit
  · exact foreign .buffer

theorem mathFunction (hc : c.Steady) : Run.Steady c.mathFunction := by
  unfold Call.mathFunction
  split
  · exact hc.mathRandom
  · exact foreign .math

theorem osFunction (hc : c.Steady) : Run.Steady c.osFunction := by
  unfold Call.osFunction
  split
  · exact hc.osBasename
  · exact hc.osCd
  · exact hc.osChangeExtension
  · exact hc.osCopy
  · exact hc.osDirname
  · exact hc.osExists
  · exact hc.osIsDir
  · exact hc.osListFiles
  · exact hc.osMkdir
  · exact osPopd
  · exact hc.osPushd
  · exact osPwd
  · exact hc.osTempname
  · exact foreign .os

theorem stringFunction (hc : c.Steady) : Run.Steady c.stringFunction := by
  unfold Call.stringFunction
  split
  · exact hc.stringIndex
  · exact hc.stringLength
  · exact hc.stringPiece
  · exact hc.stringReplace
  · exact hc.stringSearch
  · exact hc.stringSubstring
  · exact foreign .string

theorem dispatch (hc : c.Steady) : Run.Steady c.dispatch := by
  unfold Call.dispatch
  cases c.function.group with
  | buffer => exact hc.bufferFunction
  | math => exact hc.mathFunction
  | os => exact hc.osFunction
  | string => exact hc.stringFunction

/-- A call of a function is steady if its arguments are. -/
theorem run (hc : c.Steady) : Run.Steady c.run :=
  (Run.Steady.modifyWorld _).bind fun _ => hc.dispatch

theorem asText (hc : c.Steady) : Run.Steady c.asText :=
  hc.run.bind fun _ => .pure _

theorem asNumber (hc : c.Steady) : Run.Steady c.asNumber := by
  refine hc.run.bind fun output => ?_
  cases output with
  | number x => exact .pure x
  | text s =>
    dsimp only
    split
    · exact .pure _
    · exact .throw _

end Steady

end Call

end LineScript
