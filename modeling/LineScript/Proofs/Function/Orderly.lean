import LineScript.Function.Evaluation
import LineScript.Proofs.Run.Orderly

/-! Functions that are called as their signatures say keep all promises: the arguments that they need are
there, buffers are where they ask for them, and each is found in its group. -/
namespace LineScript

open Run (Orderly)

variable {α : Type}

/-- Flags are refused for an unknown letter only. -/
theorem SortFlags.exists_sortFlag_of_read {f : SortFlags} {cs : List Char} {e : Failure}
    (h : f.read cs = .error e) : ∃ c, e = .sortFlag c := by
  induction cs generalizing f with
  | nil => cases h
  | cons c cs ih =>
    unfold SortFlags.read at h
    split at h
    · exact ih h
    · exact ih h
    · exact ih h
    · exact ih h
    · cases h
      exact ⟨_, rfl⟩

/-- Whether computing an argument keeps all promises. -/
def Supplied.Orderly : Supplied Run → Prop
  | .text value => Run.Orderly value
  | .buffer _ => True
  | .pattern expression => Run.Orderly expression

namespace Call

/-- Whether a call is as the signature of its function says: there are enough arguments, and buffers where
they are asked for. -/
structure Fits (c : Call Run) : Prop where
  arguments : ∀ a ∈ c.arguments, a.Orderly
  enough : c.function.signature.required ≤ c.arguments.length
  buffers : ∀ (i : Nat) (a : Supplied Run), c.function.signature.parameters[i]? = some .buffer →
    c.arguments[i]? = some a → ∃ name, a = .buffer name

namespace Fits

variable {c : Call Run} {f : Builtin} {index : Nat}

/-- An argument that has to be given is there. -/
theorem given (hc : c.Fits) (hf : c.function = f) (hindex : index < f.signature.required) :
    index < c.arguments.length :=
  Nat.lt_of_lt_of_le (hf ▸ hindex) hc.enough

theorem text? (hc : c.Fits) (index : Nat) :
    Orderly (c.text? index) fun s => index < c.arguments.length → s.isSome := by
  unfold Call.text?
  split
  · rename_i hnone
    exact .pure fun h => absurd h (Nat.not_lt.mpr (List.getElem?_eq_none_iff.mp hnone))
  · rename_i value h
    have hvalue : Orderly value := hc.arguments _ (List.mem_of_getElem? h)
    exact hvalue.seq fun _ => .pure fun _ => rfl
  · exact (Run.Orderly.buffer _).seq fun _ => .pure fun _ => rfl
  · rename_i expression h
    have hexpression : Orderly expression := hc.arguments _ (List.mem_of_getElem? h)
    exact hexpression.seq fun _ => .pure fun _ => rfl

theorem text (hc : c.Fits) (hf : c.function = f) (hindex : index < f.signature.required) :
    Orderly (c.text index) := by
  refine (hc.text? index).bind fun s hs => ?_
  cases s with
  | some s => exact .pure trivial
  | none => exact absurd (hs (hc.given hf hindex)) (by simp)

theorem number? (hc : c.Fits) (index : Nat) :
    Orderly (c.number? index) fun x => index < c.arguments.length → x.isSome := by
  refine (hc.text? index).bind fun s hs => ?_
  cases s with
  | none => exact .pure hs
  | some s =>
    dsimp only
    split
    · exact .throw trivial rfl
    · exact .ite (.pure fun _ => rfl) (.throw trivial rfl)

theorem number (hc : c.Fits) (hf : c.function = f) (hindex : index < f.signature.required) :
    Orderly (c.number index) := by
  refine (hc.number? index).bind fun x hx => ?_
  cases x with
  | some x => exact .pure trivial
  | none => exact absurd (hx (hc.given hf hindex)) (by simp)

theorem bufferName (hc : c.Fits) (hf : c.function = f) (hindex : index < f.signature.required)
    (hparameter : f.signature.parameters[index]? = some .buffer) : Orderly (c.bufferName index) := by
  obtain ⟨name, hname⟩ := hc.buffers index _ (hf ▸ hparameter)
    (List.getElem?_eq_getElem (hc.given hf hindex))
  have hgiven : c.arguments[index]? = some (.buffer name) := by
    rw [← hname]
    exact List.getElem?_eq_getElem _
  have hfound : c.bufferName? index = some name := by
    rw [Call.bufferName?, hgiven]
  unfold Call.bufferName
  rw [hfound]
  exact .pure trivial

theorem buffer (hc : c.Fits) (hf : c.function = f) (hindex : index < f.signature.required)
    (hparameter : f.signature.parameters[index]? = some .buffer) : Orderly (c.buffer index) :=
  (hc.bufferName hf hindex hparameter).seq fun _ => (Run.Orderly.buffer _).seq fun _ => .pure trivial

theorem pattern (hc : c.Fits) (hf : c.function = f) (hindex : index < f.signature.required) :
    Orderly (c.pattern index) := by
  unfold Call.pattern
  split
  · rename_i expression h
    exact hc.arguments _ (List.mem_of_getElem? h)
  · refine (hc.text hf hindex).seq fun s => ?_
    split
    · exact .pure trivial
    · exact .throw trivial rfl
  · rename_i hnone
    exact absurd (hc.given hf hindex) (Nat.not_lt.mpr (List.getElem?_eq_none_iff.mp hnone))

theorem bufferDifference (hc : c.Fits) (hf : c.function = .bufferDifference) :
    Orderly c.bufferDifference := by
  refine (hc.buffer hf (by decide) rfl).seq fun _ => (hc.buffer hf (by decide) rfl).seq fun _ => ?_
  dsimp only
  split
  · exact (Run.Orderly.buffer _).seq fun _ => (Run.Orderly.setBuffer _ _).seq fun _ => .pure trivial
  · exact .pure trivial

theorem bufferJoin (hc : c.Fits) (hf : c.function = .bufferJoin) : Orderly c.bufferJoin :=
  (hc.text? 1).bind fun _ _ => (hc.buffer hf (by decide) rfl).seq fun _ => .pure trivial

theorem bufferPop (hc : c.Fits) (hf : c.function = .bufferPop) : Orderly c.bufferPop :=
  (hc.buffer hf (by decide) rfl).seq fun _ => (Run.Orderly.setBuffer _ _).seq fun _ => .pure trivial

theorem bufferShift (hc : c.Fits) (hf : c.function = .bufferShift) : Orderly c.bufferShift :=
  (hc.buffer hf (by decide) rfl).seq fun _ => (Run.Orderly.setBuffer _ _).seq fun _ => .pure trivial

theorem bufferSort (hc : c.Fits) (hf : c.function = .bufferSort) : Orderly c.bufferSort := by
  refine (hc.text? 1).bind fun flags _ => ?_
  split
  · rename_i e he
    obtain ⟨flag, rfl⟩ := SortFlags.exists_sortFlag_of_read he
    exact .throw trivial rfl
  · exact (hc.buffer hf (by decide) rfl).seq fun _ => (Run.Orderly.setBuffer _ _).seq fun _ =>
      .pure trivial

theorem bufferSplit (hc : c.Fits) (hf : c.function = .bufferSplit) : Orderly c.bufferSplit :=
  (hc.text hf (by decide)).seq fun _ => (hc.text? 2).bind fun _ _ =>
    (hc.buffer hf (by decide) rfl).seq fun _ => (Run.Orderly.setBuffer _ _).seq fun _ => .pure trivial

theorem mathRandom (hc : c.Fits) (hf : c.function = .mathRandom) : Orderly c.mathRandom := by
  have hdraw : ∀ low high : Int, Orderly (do
      let n ← modifyGet fun w : World => w.draw (high - low).toNat
      return Output.number (.ofInt (low + n))) :=
    fun _ _ => (Run.Orderly.modifyWorld _).seq fun _ => .pure trivial
  refine (hc.number hf (by decide)).seq fun _ => (hc.number? 1).bind fun _ _ => ?_
  exact .ite (.throw_bind (by trivial) rfl) (hdraw _ _)

theorem osBasename (hc : c.Fits) (hf : c.function = .osBasename) : Orderly c.osBasename :=
  (hc.text hf (by decide)).seq fun _ => .pure trivial

theorem osDirname (hc : c.Fits) (hf : c.function = .osDirname) : Orderly c.osDirname :=
  (hc.text hf (by decide)).seq fun _ => .pure trivial

theorem osChangeExtension (hc : c.Fits) (hf : c.function = .osChangeExtension) :
    Orderly c.osChangeExtension :=
  (hc.text hf (by decide)).seq fun _ => (hc.text hf (by decide)).seq fun _ => .pure trivial

theorem osPwd : Orderly c.osPwd :=
  Run.Orderly.getWorld.seq fun _ => .pure trivial

theorem osTempname (hc : c.Fits) : Orderly c.osTempname :=
  (hc.text? 0).bind fun _ _ => (Run.Orderly.demand _ _).seq fun _ => .pure trivial

theorem osCd (hc : c.Fits) : Orderly c.osCd := by
  have henter : ∀ path, Orderly (do
      return Output.flag (← FileAction.attempt (m := Run) "os.cd" (.enter path))) :=
    fun _ => (Run.Orderly.attempt _ _).seq fun _ => .pure trivial
  refine (hc.text? 0).bind fun path _ => ?_
  cases path with
  | some path => exact henter path
  | none =>
    refine Run.Orderly.getWorld.seq fun w => ?_
    split
    · exact henter _
    · exact .throw_bind (by trivial) rfl

theorem osPushd (hc : c.Fits) (hf : c.function = .osPushd) : Orderly c.osPushd := by
  refine (hc.text hf (by decide)).seq fun _ => Run.Orderly.getWorld.seq fun _ => ?_
  refine (Run.Orderly.attempt _ _).seq fun ok => ?_
  exact .ite ((Run.Orderly.modifyWorld _).seq fun _ => .pure trivial) (.pure trivial)

theorem osPopd : Orderly c.osPopd := by
  refine Run.Orderly.getWorld.seq fun w => ?_
  split
  · exact (Run.Orderly.modifyWorld _).seq fun _ => .pure trivial
  · exact (Run.Orderly.modifyWorld _).seq fun _ => (Run.Orderly.attempt _ _).seq fun _ =>
      .pure trivial

theorem osCopy (hc : c.Fits) (hf : c.function = .osCopy) : Orderly c.osCopy :=
  (hc.text hf (by decide)).seq fun _ => (hc.text hf (by decide)).seq fun _ =>
    (Run.Orderly.asked _ _).seq fun _ => (Run.Orderly.attempt _ _).seq fun _ => .pure trivial

theorem osExists (hc : c.Fits) (hf : c.function = .osExists) : Orderly c.osExists :=
  (hc.text hf (by decide)).seq fun _ => (Run.Orderly.asked _ _).seq fun _ => .pure trivial

theorem osIsDir (hc : c.Fits) (hf : c.function = .osIsDir) : Orderly c.osIsDir :=
  (hc.text hf (by decide)).seq fun _ => (Run.Orderly.asked _ _).seq fun _ => .pure trivial

theorem osMkdir (hc : c.Fits) (hf : c.function = .osMkdir) : Orderly c.osMkdir :=
  (hc.text hf (by decide)).seq fun _ => (Run.Orderly.attempt _ _).seq fun _ => .pure trivial

theorem osListFiles (hc : c.Fits) (hf : c.function = .osListFiles) : Orderly c.osListFiles := by
  have hlist : ∀ (path : String) (fits : String → Bool), Orderly (do
      let names ← FileAction.demand (m := Run) path (.list path)
      let lines := ((names.filter fits).map (Path.join path)).mergeSort fun a b => !decide (b < a)
      let name ← c.bufferName 0
      NamedBuffers.setBuffer name ((← NamedBuffers.buffer (m := Run) name).setLines lines)
      return Output.count lines.length) :=
    fun _ _ => (Run.Orderly.demand _ _).seq fun _ => (hc.bufferName hf (by decide) rfl).seq fun _ =>
      (Run.Orderly.buffer _).seq fun _ => (Run.Orderly.setBuffer _ _).seq fun _ => .pure trivial
  refine (hc.text hf (by decide)).seq fun path => (hc.text? 2).bind fun glob _ => ?_
  cases glob with
  | none => exact hlist path _
  | some glob =>
    dsimp only
    split
    · exact hlist path _
    · exact .throw_bind (by trivial) rfl

theorem stringIndex (hc : c.Fits) (hf : c.function = .stringIndex) : Orderly c.stringIndex :=
  (hc.text hf (by decide)).seq fun _ => (hc.text hf (by decide)).seq fun _ =>
    (hc.number? 2).bind fun _ _ => .pure trivial

theorem stringLength (hc : c.Fits) (hf : c.function = .stringLength) : Orderly c.stringLength :=
  (hc.text hf (by decide)).seq fun _ => .pure trivial

theorem stringPiece (hc : c.Fits) (hf : c.function = .stringPiece) : Orderly c.stringPiece := by
  refine (hc.text hf (by decide)).seq fun _ => (hc.text hf (by decide)).seq fun _ => ?_
  refine (hc.number hf (by decide)).seq fun _ => ?_
  exact .ite (.throw_bind (by trivial) rfl) (.pure trivial)

theorem stringReplace (hc : c.Fits) (hf : c.function = .stringReplace) : Orderly c.stringReplace := by
  refine (hc.text hf (by decide)).seq fun _ => (hc.text hf (by decide)).seq fun _ => ?_
  refine (hc.text hf (by decide)).seq fun _ => ?_
  exact .ite (.pure trivial) ((hc.number? 3).bind fun _ _ => .pure trivial)

theorem stringSearch (hc : c.Fits) (hf : c.function = .stringSearch) : Orderly c.stringSearch := by
  refine (hc.text hf (by decide)).seq fun s => (hc.pattern hf (by decide)).seq fun x => ?_
  split
  · exact .pure trivial
  · exact .pure trivial

theorem stringSubstring (hc : c.Fits) (hf : c.function = .stringSubstring) :
    Orderly c.stringSubstring :=
  (hc.text hf (by decide)).seq fun _ => (hc.number hf (by decide)).seq fun _ =>
    (hc.number? 2).bind fun _ _ => .pure trivial

/-- A function that no part of its group does is in another group. -/
theorem bufferFunction (hc : c.Fits) (hgroup : c.function.group = .buffer) :
    Orderly c.bufferFunction := by
  unfold Call.bufferFunction
  split
  · exact hc.bufferDifference ‹_›
  · exact hc.bufferJoin ‹_›
  · exact hc.bufferPop ‹_›
  · exact hc.bufferShift ‹_›
  · exact hc.bufferSort ‹_›
  · exact hc.bufferSplit ‹_›
  · cases hf : c.function <;> simp_all [Builtin.group]

theorem mathFunction (hc : c.Fits) (hgroup : c.function.group = .math) : Orderly c.mathFunction := by
  unfold Call.mathFunction
  split
  · exact hc.mathRandom ‹_›
  · cases hf : c.function <;> simp_all [Builtin.group]

theorem osFunction (hc : c.Fits) (hgroup : c.function.group = .os) : Orderly c.osFunction := by
  unfold Call.osFunction
  split
  · exact hc.osBasename ‹_›
  · exact hc.osCd
  · exact hc.osChangeExtension ‹_›
  · exact hc.osCopy ‹_›
  · exact hc.osDirname ‹_›
  · exact hc.osExists ‹_›
  · exact hc.osIsDir ‹_›
  · exact hc.osListFiles ‹_›
  · exact hc.osMkdir ‹_›
  · exact osPopd
  · exact hc.osPushd ‹_›
  · exact osPwd
  · exact hc.osTempname
  · cases hf : c.function <;> simp_all [Builtin.group]

theorem stringFunction (hc : c.Fits) (hgroup : c.function.group = .string) :
    Orderly c.stringFunction := by
  unfold Call.stringFunction
  split
  · exact hc.stringIndex ‹_›
  · exact hc.stringLength ‹_›
  · exact hc.stringPiece ‹_›
  · exact hc.stringReplace ‹_›
  · exact hc.stringSearch ‹_›
  · exact hc.stringSubstring ‹_›
  · cases hf : c.function <;> simp_all [Builtin.group]

/-- Every function is found in the group that it is looked for in. -/
theorem dispatch (hc : c.Fits) : Orderly c.dispatch := by
  unfold Call.dispatch
  cases hgroup : c.function.group with
  | buffer => exact hc.bufferFunction hgroup
  | math => exact hc.mathFunction hgroup
  | os => exact hc.osFunction hgroup
  | string => exact hc.stringFunction hgroup

theorem run (hc : c.Fits) : Orderly c.run :=
  (Run.Orderly.modifyWorld _).seq fun _ => hc.dispatch

theorem asText (hc : c.Fits) : Orderly c.asText :=
  hc.run.seq fun _ => .pure trivial

theorem asNumber (hc : c.Fits) : Orderly c.asNumber := by
  refine hc.run.seq fun output => ?_
  cases output with
  | number x => exact .pure trivial
  | text s =>
    dsimp only
    split
    · exact .pure trivial
    · exact .throw trivial rfl

end Fits

end Call

end LineScript
