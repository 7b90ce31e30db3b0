import LineScript.Proofs.Buffer.Whole
import LineScript.Proofs.Run.Books

/-! Engines in which no line of any buffer has a line break. Loading, entering, starting and leaving scripts
keeps them so. -/
namespace LineScript

/-- Whether no line of the buffers of a script has a line break. -/
def Script.Whole (s : Script) : Prop :=
  s.buffers.All LineBuffer.Whole

theorem Registry.All.of_insert {α : Type} {p : α → Prop} {r : Registry α} {name : String} {v : α}
    (h : (r.insert name v).All p) : p v :=
  h.get? (r.get?_insert_self v name)

namespace Engine

/-- Whether no line of the buffers of an engine and of its scripts has a line break. -/
structure Whole (e : Engine) : Prop where
  main : e.main.Whole
  buffers : e.buffers.All LineBuffer.Whole
  scripts : e.scripts.All Script.Whole

variable {e e' : Engine} {s : Script}

/-- The buffers and the scripts are all that matters. -/
theorem Whole.congr (h : e.Whole) (hmain : e'.main = e.main) (hbuffers : e'.buffers = e.buffers)
    (hscripts : e'.scripts = e.scripts) : e'.Whole := by
  refine ⟨?_, ?_, ?_⟩
  · rw [hmain]
    exact h.main
  · rw [hbuffers]
    exact h.buffers
  · rw [hscripts]
    exact h.scripts

theorem Whole.insert (h : e.Whole) (hs : s.Whole) (name : String) :
    Whole { e with scripts := e.scripts.insert name s } :=
  ⟨h.main, h.buffers, h.scripts.insert name hs⟩

theorem Whole.putBack (h : e.Whole) (hs : s.Whole) : (putBack s e).Whole :=
  h.insert hs s.name

theorem Whole.leave (h : e.Whole) (hs : s.Whole) : (e.leave s).Whole :=
  ⟨h.main, h.buffers, h.scripts.insert s.name hs⟩

theorem Whole.buffer? (h : e.Whole) {name : String} {b : LineBuffer} (hb : e.buffer? name = some b) :
    b.Whole := by
  unfold Engine.buffer? at hb
  split at hb
  · cases hb
    exact h.main
  · exact h.buffers.get? hb

theorem Whole.setBuffer (h : e.Whole) (name : String) {b : LineBuffer} (hb : b.Whole) :
    (e.setBuffer name b).Whole := by
  unfold Engine.setBuffer
  split
  · exact ⟨hb, h.buffers, h.scripts⟩
  · exact ⟨h.main, h.buffers.insert name hb, h.scripts⟩

/-- Whether some work brings no line break into a line, and what is true of its result. -/
abbrev Spares {α : Type} (a : Action α) (P : α → Prop := fun _ => True) : Prop :=
  Preserves Whole a P

namespace Spares

variable {α β : Type} {P : α → Prop} {Q : β → Prop}

/-- Looking at the engine. -/
theorem get {f : Engine → Action β} (hf : ∀ e, e.Whole → Spares (f e) Q) :
    Spares (getThe Engine >>= f) Q :=
  fun e he => hf e he e he

theorem modify {f : Engine → Engine} (h : ∀ e, e.Whole → (f e).Whole) : Spares (modifyThe Engine f) :=
  fun e he => ⟨h e he, fun _ _ => trivial⟩

theorem of_worldOnly {a : Action α} (ha : WorldOnly a) : Spares a := by
  intro e he
  obtain ⟨world, hworld⟩ := ha e
  rw [hworld]
  exact ⟨he.congr rfl rfl rfl, fun _ _ => trivial⟩

theorem note (level : Level) (part : Part) (text : String) : Spares (Engine.note level part text) :=
  of_worldOnly (worldOnly_note level part text)

theorem add (hs : s.Whole) : Spares (Engine.add s) := by
  have hinsert : Spares (modifyThe Engine fun e => { e with scripts := e.scripts.insert s.name s }) :=
    modify fun e he => he.insert hs s.name
  exact get fun e _ => .ite (.throw_bind _) hinsert

/-- A script that is new has no buffers. -/
theorem load (hs : s.Whole) : Spares (Engine.load s) := by
  have haddAll (l : List Script) (hl : ∀ s ∈ l, s.Whole) : Spares (addAll l) := by
    induction l with
    | nil => exact .pure trivial
    | cons s l ih =>
      obtain ⟨hs, hl⟩ := List.forall_mem_cons.mp hl
      exact (add hs).seq fun _ => ih hl
  unfold Engine.load
  split
  · exact .throw _
  · refine (add hs).seq fun _ => (haddAll _ fun s hs => ?_).seq fun _ => ?_
    · obtain ⟨inner, -, rfl⟩ := List.mem_map.mp hs
      exact fun _ h => absurd h List.not_mem_nil
    · exact modify fun _ he => he.congr rfl rfl rfl

theorem loadFile (path : String) : Spares (Engine.loadFile path) := by
  unfold Engine.loadFile
  split
  · exact .throw _
  · refine (of_worldOnly (WorldOnly.demand _ _)).seq fun lines => (load ?_).seq fun _ => ?_
    · exact fun _ h => absurd h List.not_mem_nil
    · exact (note _ _ _).seq fun _ => .pure trivial

theorem resolve (site : CallSite) (name : String) : Spares (Engine.resolve site name) := by
  refine get fun e _ => .ite (.pure trivial) ?_
  split
  · exact .pure trivial
  · refine (of_worldOnly (WorldOnly.firstFile? _)).seq fun path => ?_
    cases path with
    | some path => exact loadFile path
    | none => exact .throw _

theorem ensureIdle (name : String) : Spares (Engine.ensureIdle name) :=
  get fun _ _ => .ite (.throw _) (.pure trivial)

theorem push (name : String) (line : Nat) : Spares (Engine.push name line) :=
  (ensureIdle name).seq fun _ => modify fun _ he => he.congr rfl rfl rfl

theorem pop : Spares Engine.pop := by
  intro e he
  refine ⟨?_, fun _ _ => trivial⟩
  obtain ⟨config, main, buffers, scripts, bindings, calls, current, world⟩ := e
  cases calls with
  | nil => exact he
  | cons f rest => exact he.congr rfl rfl rfl

theorem takeOut (name : String) : Spares (Engine.takeOut name) Script.Whole := by
  intro e he
  rw [outcome_takeOut]
  cases hs : e.scripts.get? name with
  | none => exact ⟨he, fun _ hx => by cases hx⟩
  | some s =>
    refine ⟨⟨he.main, he.buffers, he.scripts.erase name⟩, fun x hx => ?_⟩
    cases hx
    exact he.scripts.get? hs

theorem checked (hs : s.Whole) : Spares (Engine.checked s) Script.Whole := by
  unfold Engine.checked
  split
  · exact .pure hs
  · split
    · exact .throw _
    · exact (note _ _ _).seq fun _ => .pure hs

theorem activate (hs : s.Whole) : Spares (Engine.activate s) fun a => a.script.Whole := by
  refine (checked hs).bind fun s hs => ?_
  split
  · exact .throw _
  · exact (note _ _ _).seq fun _ => .pure hs

theorem setVariable (name value : String) : Spares (Engine.setVariable name value) := by
  have hset : Spares (modifyThe Engine fun e => { e with bindings := e.bindings.insert name value }) :=
    modify fun _ he => he.congr rfl rfl rfl
  have hglobal : Spares (if !isGlobalName name then do
        MonadExcept.throw (Error.ofFailure (.notGlobal name))
        modifyThe Engine fun e => { e with bindings := e.bindings.insert name value }
      else modifyThe Engine fun e => { e with bindings := e.bindings.insert name value }) :=
    .ite (.throw_bind _) hset
  exact .ite (.throw_bind _) hglobal

/-- Parameters are variables. -/
theorem handOver (hs : s.Whole) (ps : List (String × String)) :
    Spares (Engine.handOver s ps : StateM Engine _) fun r => r.1.Whole := by
  have hbuffers (s : Script) (e : Engine) : (Engine.handOver s ps e).1.1.buffers = s.buffers := by
    induction ps generalizing s e with
    | nil => rfl
    | cons p ps ih =>
      obtain ⟨name, value⟩ := p
      by_cases hglobal : isGlobalName name = true
      · rw [handOver_global hglobal]
        cases outcome (Engine.setVariable name value) e with
        | mk r e' =>
          cases r with
          | ok u => exact ih s e'
          | error err => rfl
      · rw [handOver_local hglobal]
        exact ih (s.setVariable name value) e
  intro e he
  obtain ⟨bindings, hbindings⟩ := handOver_bindings s ps e
  rw [outcome_handOver, hbindings]
  refine ⟨he.congr rfl rfl rfl, fun r hr => ?_⟩
  cases hr
  rw [Script.Whole, hbuffers]
  exact hs

theorem enter (site : CallSite) (name : String) (ps : List (String × String)) :
    Spares (Engine.enter site name ps) fun a => a.script.Whole := by
  have hpop : Spares (discard Engine.pop) := pop.seq fun _ => .pure trivial
  have hundo {α : Type} {P : α → Prop} (err : Error) : Spares (do
      discard Engine.pop
      MonadExcept.throw err) P :=
    hpop.seq fun _ => .throw err
  refine (ensureIdle name).seq fun _ => (resolve site name).seq fun name => ?_
  refine (push name site.line).seq fun _ => ((takeOut name).tryCatch hundo).bind fun s hs => ?_
  refine (handOver hs ps).bind fun r hr => ?_
  obtain ⟨s, failure⟩ := r
  have hback {P : Activation → Prop} (err : Error) : Spares (do
      modifyThe Engine (Engine.leave s)
      MonadExcept.throw err) P :=
    (modify fun _ he => he.leave hr).seq fun _ => .throw err
  cases failure with
  | some err => exact hback err
  | none => exact (activate hr).tryCatch hback

theorem start (name : Option String) : Spares (Engine.start name) fun a => a.script.Whole := by
  refine get fun e _ => ?_
  split
  · exact .throw _
  · rename_i name _
    have hback {α : Type} {P : α → Prop} {s : Script} (hs : s.Whole) (err : Error) : Spares (do
        modifyThe Engine (Engine.putBack s)
        MonadExcept.throw err) P :=
      (modify fun _ he => he.putBack hs).seq fun _ => .throw err
    refine (takeOut name).bind fun s hs => ((checked hs).tryCatch (hback hs)).bind fun s hs => ?_
    exact ((push name 0).tryCatch (hback hs)).seq fun _ => activate hs

end Spares

end Engine

/-- Whether no line of the buffers that a running script can reach, or of other scripts, has a line break. -/
structure RunState.Whole (s : RunState) : Prop where
  engine : s.engine.Whole
  script : s.active.script.Whole

namespace RunState

variable {s : RunState}

theorem Whole.buffer? (h : s.Whole) {name : String} {b : LineBuffer} (hb : s.buffer? name = some b) :
    b.Whole := by
  unfold RunState.buffer? at hb
  split at hb
  · exact h.engine.buffer? hb
  · exact h.script.get? hb

theorem Whole.setBuffer (h : s.Whole) (name : String) {b : LineBuffer} (hb : b.Whole) :
    (s.setBuffer name b).Whole := by
  unfold RunState.setBuffer
  split
  · exact ⟨h.engine.setBuffer name hb, h.script⟩
  · exact ⟨h.engine, h.script.insert name hb⟩

/-- A buffer that is put somewhere is there. -/
theorem whole_setBuffer_iff (h : s.Whole) (name : String) (b : LineBuffer) :
    (s.setBuffer name b).Whole ↔ b.Whole := by
  refine ⟨fun hset => ?_, h.setBuffer name⟩
  unfold RunState.setBuffer Engine.setBuffer at hset
  split at hset
  · split at hset
    · exact hset.engine.main
    · exact hset.engine.buffers.of_insert
  · exact hset.script.of_insert

/-- What is recorded does not matter. -/
theorem Whole.record (h : s.Whole) (event : Event) :
    Whole { s with engine := s.engine.record event } :=
  ⟨h.engine.congr rfl rfl rfl, h.script⟩

end RunState

end LineScript
