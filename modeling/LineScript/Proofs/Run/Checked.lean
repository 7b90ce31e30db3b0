import LineScript.Proofs.Run.Loaded
import LineScript.Proofs.Run.Orderly
import LineScript.Proofs.Script.Accepted

/-! Engines whose scripts keep accepted programs only. Loading, entering and leaving scripts keeps them so,
fails for ordinary reasons only, and does not depend on how often loops may be entered. -/
namespace LineScript

/-- Whether the program that a script keeps, if it does, is that of an accepted script. -/
def Script.Checked (s : Script) : Prop :=
  ∀ p, s.program = some p → p.Accepted

theorem Script.checked_of_none {s : Script} (h : s.program = none) : s.Checked := by
  intro p hp
  rw [h] at hp
  cases hp

/-- Whether an error tells that the source of a script is refused. -/
def Error.OfSource (e : Error) : Prop :=
  ∃ name lines offset, Program.check name lines offset = .error e ∨ EmbeddedScript.ofLines name lines = .error e

/-- What is known of a script that starts. -/
structure Activation.Fresh (a : Activation) : Prop where
  accepted : a.program.Accepted
  checked : a.script.Checked
  index : a.script.index = 0
  loops : a.loops = []

theorem Error.ordinary_of_isMistake {e : Error} (h : e.IsMistake) : e.Ordinary := by
  obtain ⟨m, hm⟩ := h
  rw [Error.Ordinary, hm]
  trivial

namespace Engine

/-- Whether the scripts that an engine keeps are checked. -/
def Checked (e : Engine) : Prop :=
  e.scripts.All Script.Checked

/-- The engine with another limit for loops. -/
def limited (e : Engine) (limit : Option Nat) : Engine :=
  { e with config := { e.config with loopLimit := limit } }

/-- Whether an error has no place yet, or tells that the source of a script is refused, and where. -/
def Raised (err : Error) : Prop :=
  err.position = none ∨ err.OfSource

/-- Whether some work fails for ordinary reasons only, with errors that have no place unless they are in the
source of a script, keeps the scripts checked, and does the same with whatever limit for loops, and what is
true of its result. -/
def Orderly {α : Type} (a : Action α) (P : α → Prop := fun _ => True) : Prop :=
  ∀ e : Engine, e.Checked → Achieved Raised P (outcome a e).1 ∧ (outcome a e).2.Checked ∧
    ∀ limit, outcome a (e.limited limit) = ((outcome a e).1, (outcome a e).2.limited limit)

/-- What taking out a script comes to. -/
theorem outcome_takeOut (name : String) (e : Engine) :
    outcome (takeOut name) e =
      match e.scripts.get? name with
      | none => (.error (.ofFailure (.unknownScript name)), e)
      | some s => (.ok s, { e with scripts := e.scripts.erase name }) := by
  change outcome (match e.scripts.get? name with
    | none => fail (.unknownScript name)
    | some s => do
      set { e with scripts := e.scripts.erase name }
      return s : Action Script) e = _
  cases e.scripts.get? name <;> rfl

/-- What handing over parameters comes to. -/
theorem outcome_handOver (s : Script) (ps : List (String × String)) (e : Engine) :
    outcome ((handOver s ps : StateM Engine (Script × Option Error)) : Action (Script × Option Error)) e =
      (.ok (handOver s ps e).1, (handOver s ps e).2) :=
  rfl

theorem Checked.insert {e : Engine} (he : e.Checked) {s : Script} (hs : s.Checked) :
    Checked { e with scripts := e.scripts.insert s.name s } :=
  Registry.All.insert he s.name hs

theorem Checked.putBack {e : Engine} (he : e.Checked) {s : Script} (hs : s.Checked) :
    (putBack s e).Checked :=
  he.insert hs

theorem Checked.leave {e : Engine} (he : e.Checked) {s : Script} (hs : s.Checked) : (e.leave s).Checked :=
  he.insert hs

namespace Orderly

variable {α β : Type} {P : α → Prop} {Q : β → Prop}

theorem of_ok {a : Action α} (ha : Orderly a P) {e e' : Engine} (he : e.Checked) {x : α}
    (h : outcome a e = (.ok x, e')) : P x ∧ e'.Checked := by
  obtain ⟨hfirst, hchecked, -⟩ := ha e he
  rw [h] at hfirst hchecked
  cases hfirst with
  | ok hx => exact ⟨hx, hchecked⟩

theorem of_error {a : Action α} (ha : Orderly a P) {e e' : Engine} (he : e.Checked) {err : Error}
    (h : outcome a e = (.error err, e')) : err.Ordinary ∧ e'.Checked := by
  obtain ⟨hfirst, hchecked, -⟩ := ha e he
  rw [h] at hfirst hchecked
  cases hfirst with
  | error herr => exact ⟨herr, hchecked⟩

theorem raised {a : Action α} (ha : Orderly a P) {e e' : Engine} (he : e.Checked) {err : Error}
    (h : outcome a e = (.error err, e')) : Raised err := by
  obtain ⟨hfirst, -, -⟩ := ha e he
  rw [h] at hfirst
  cases hfirst with
  | error _ hraised => exact hraised

/-- Work that is blind to the limit leaves it alone. -/
theorem loopLimit {a : Action α} (ha : Orderly a P) {e e' : Engine} (he : e.Checked) {r : Except Error α}
    (h : outcome a e = (r, e')) : e'.config.loopLimit = e.config.loopLimit := by
  have hself : e.limited e.config.loopLimit = e := rfl
  have hblind := (ha e he).2.2 e.config.loopLimit
  rw [hself, h] at hblind
  exact congrArg (·.2.config.loopLimit) hblind

theorem pure {a : α} (h : P a) : Orderly (Pure.pure a) P :=
  fun _ he => ⟨.ok h, he, fun _ => rfl⟩

theorem throw {err : Error} (h : err.Ordinary) (hraised : Raised err) :
    Orderly (MonadExcept.throw err : Action α) P :=
  fun _ he => ⟨.error h hraised, he, fun _ => rfl⟩

theorem bind {a : Action α} {f : α → Action β} (ha : Orderly a P)
    (hf : ∀ x, P x → Orderly (f x) Q) : Orderly (a >>= f) Q := by
  intro e he
  obtain ⟨hfirst, hchecked, hblind⟩ := ha e he
  rw [outcome_bind]
  simp only [outcome_bind, hblind]
  generalize outcome a e = r at hfirst hchecked
  obtain ⟨r, e'⟩ := r
  cases hfirst with
  | ok hx => exact hf _ hx e' hchecked
  | error herr hraised => exact ⟨.error herr hraised, hchecked, fun _ => rfl⟩

/-- The same for a result of which nothing has to be known. -/
theorem seq {a : Action α} {f : α → Action β} (ha : Orderly a) (hf : ∀ x, Orderly (f x) Q) :
    Orderly (a >>= f) Q :=
  ha.bind fun x _ => hf x

theorem tryCatch {a : Action α} {f : Error → Action α} (ha : Orderly a P)
    (hf : ∀ err, err.Ordinary → Raised err → Orderly (f err) P) :
    Orderly (MonadExcept.tryCatch a f) P := by
  intro e he
  obtain ⟨hfirst, hchecked, hblind⟩ := ha e he
  rw [outcome_tryCatch]
  simp only [outcome_tryCatch, hblind]
  generalize outcome a e = r at hfirst hchecked
  obtain ⟨r, e'⟩ := r
  cases hfirst with
  | ok hx => exact ⟨.ok hx, hchecked, fun _ => rfl⟩
  | error herr hraised => exact hf _ herr hraised e' hchecked

theorem modify {f : Engine → Engine} (hchecked : ∀ e, e.Checked → (f e).Checked)
    (hblind : ∀ e limit, f (e.limited limit) = (f e).limited limit) : Orderly (modifyThe Engine f) :=
  fun e he => ⟨.ok trivial, hchecked e he, fun limit => Prod.ext rfl (hblind e limit)⟩

/-- Looking at the engine. -/
theorem get {f : Engine → Action β} (hf : ∀ e, e.Checked → Orderly (f e) Q)
    (hblind : ∀ e limit, f (e.limited limit) = f e) : Orderly (getThe Engine >>= f) Q := by
  intro e he
  obtain ⟨hresult, hchecked, hlimit⟩ := hf e he e he
  refine ⟨hresult, hchecked, fun limit => ?_⟩
  change outcome (f (e.limited limit)) (e.limited limit) = _
  rw [hblind]
  exact hlimit limit

theorem ite {c : Prop} [Decidable c] {a b : Action α} (ha : Orderly a P) (hb : Orderly b P) :
    Orderly (if c then a else b) P := by
  split
  · exact ha
  · exact hb

theorem modifyWorld (f : World → α × World) : Orderly (MonadStateOf.modifyGet f : Action α) :=
  fun _ he => ⟨.ok trivial, he, fun _ => rfl⟩

theorem getWorld : Orderly (getThe World : Action World) :=
  fun _ he => ⟨.ok trivial, he, fun _ => rfl⟩

theorem fail {f : Failure} (h : (Error.ofFailure f).Ordinary) : Orderly (Engine.fail f : Action α) P :=
  throw h (.inl rfl)

theorem note (level : Level) (part : Part) (text : String) : Orderly (Engine.note level part text) :=
  modify (fun _ he => he) fun _ _ => rfl

theorem demand (path : String) (a : FileAction α) : Orderly (FileAction.demand path a) := by
  refine (modifyWorld _).seq fun r => ?_
  cases r with
  | ok x => exact .pure trivial
  | error e => exact .throw (Error.ordinary_ofFile path e) (.inl rfl)

theorem asked (path : String) (f : FileTree → List String → String → Bool) :
    Orderly (FileAction.asked path f) :=
  (modifyWorld _).seq fun _ => getWorld.seq fun _ => .pure trivial

theorem add {s : Script} (hs : s.Checked) : Orderly (Engine.add s) := by
  have hinsert : Orderly (modifyThe Engine fun e => { e with scripts := e.scripts.insert s.name s }) :=
    modify (fun e he => he.insert hs) fun _ _ => rfl
  refine get (fun e _ => .ite ?_ hinsert) fun _ _ => rfl
  exact (fail (f := .alreadyLoaded s.name) trivial).seq fun _ => hinsert

theorem addAll {l : List Script} (h : ∀ s ∈ l, s.Checked) : Orderly (Engine.addAll l) := by
  induction l with
  | nil => exact .pure trivial
  | cons s l ih =>
    refine (add (h s List.mem_cons_self)).seq fun _ => ?_
    exact ih fun s hs => h s (List.mem_cons_of_mem _ hs)

theorem load {s : Script} (hs : s.Checked) : Orderly (Engine.load s) := by
  unfold Engine.load
  split
  · rename_i err herr
    exact .throw (Error.ordinary_of_isMistake (EmbeddedScript.isMistake_of_ofLines herr))
      (.inr ⟨s.name, s.lines, 0, .inr herr⟩)
  · refine (add hs).seq fun _ => (addAll fun s hs => ?_).seq fun _ => ?_
    · obtain ⟨inner, -, rfl⟩ := List.mem_map.mp hs
      exact Script.checked_of_none rfl
    · exact modify (fun _ he => he) fun _ _ => rfl

theorem loadFile (path : String) : Orderly (Engine.loadFile path) := by
  unfold Engine.loadFile
  split
  · exact fail trivial
  · refine (demand _ _).seq fun lines => (load (Script.checked_of_none rfl)).seq fun _ => ?_
    exact (note _ _ _).seq fun _ => .pure trivial

theorem firstFile? (paths : List String) : Orderly (Engine.firstFile? paths) := by
  induction paths with
  | nil => exact .pure trivial
  | cons path paths ih => exact (asked _ _).seq fun _ => .ite (.pure trivial) ih

theorem resolve (site : CallSite) (name : String) : Orderly (Engine.resolve site name) := by
  refine get (fun e _ => .ite (.pure trivial) ?_) fun _ _ => rfl
  split
  · exact .pure trivial
  · refine (firstFile? _).seq fun path => ?_
    cases path with
    | some path => exact loadFile path
    | none => exact fail trivial

theorem ensureIdle (name : String) : Orderly (Engine.ensureIdle name) :=
  get (fun _ _ => .ite (fail trivial) (.pure trivial)) fun _ _ => rfl

theorem push (name : String) (line : Nat) : Orderly (Engine.push name line) :=
  (ensureIdle name).seq fun _ => modify (fun _ he => he) fun _ _ => rfl

theorem pop : Orderly Engine.pop := by
  intro e he
  obtain ⟨config, main, buffers, scripts, bindings, calls, stack⟩ := e
  cases calls with
  | nil => exact ⟨.ok trivial, he, fun _ => rfl⟩
  | cons f rest => exact ⟨.ok trivial, he, fun _ => rfl⟩

theorem takeOut (name : String) : Orderly (Engine.takeOut name) Script.Checked := by
  intro e he
  simp only [outcome_takeOut]
  change _ ∧ _ ∧ ∀ limit, (match e.scripts.get? name with
    | none => _
    | some s => _ : Except Error Script × Engine) = _
  cases hs : e.scripts.get? name with
  | none => exact ⟨.error trivial (.inl rfl), he, fun _ => rfl⟩
  | some s => exact ⟨.ok (he.get? hs), he.erase name, fun _ => rfl⟩

theorem checked {s : Script} (hs : s.Checked) :
    Orderly (Engine.checked s) fun s => ∃ p, s.program = some p ∧ p.Accepted := by
  unfold Engine.checked
  split
  · rename_i hsome
    obtain ⟨p, hp⟩ := Option.isSome_iff_exists.mp hsome
    exact .pure ⟨p, hp, hs p hp⟩
  · split
    · rename_i err herr
      exact .throw (Error.ordinary_of_isMistake (Program.isMistake_of_check herr))
        (.inr ⟨s.name, s.lines, s.offset, .inl herr⟩)
    · rename_i p hp
      exact (note _ _ _).seq fun _ => .pure ⟨p, rfl, s.name, s.lines, s.offset, hp⟩

theorem activate {s : Script} (hs : s.Checked) : Orderly (Engine.activate s) Activation.Fresh := by
  refine (checked hs).bind fun s hs => ?_
  obtain ⟨p, hp, haccepted⟩ := hs
  rw [hp]
  refine (note _ _ _).seq fun _ => .pure ⟨haccepted, ?_, rfl, rfl⟩
  intro p' hp'
  have heq : p = p' := Option.some.inj (hp.symm.trans hp')
  exact heq ▸ haccepted

theorem setVariable (name value : String) : Orderly (Engine.setVariable name value) := by
  have hreadOnly : (Error.ofFailure (.readOnly name)).Ordinary := trivial
  have hnotGlobal : (Error.ofFailure (.notGlobal name)).Ordinary := trivial
  have hset : Orderly (modifyThe Engine fun e => { e with bindings := e.bindings.insert name value }) :=
    modify (fun _ he => he) fun _ _ => rfl
  have hglobal : Orderly (if !isGlobalName name then do
        MonadExcept.throw (Error.ofFailure (.notGlobal name))
        modifyThe Engine fun e => { e with bindings := e.bindings.insert name value }
      else modifyThe Engine fun e => { e with bindings := e.bindings.insert name value }) :=
    .ite ((throw hnotGlobal (.inl rfl)).seq fun (_ : PUnit) => hset) hset
  exact .ite ((throw hreadOnly (.inl rfl)).seq fun (_ : PUnit) => hglobal) hglobal

/-- Handing over parameters changes the variables of a script only. -/
theorem handOver {s : Script} (hs : s.Checked) (ps : List (String × String)) :
    Orderly (Engine.handOver s ps : StateM Engine (Script × Option Error)) fun r =>
      r.1.Checked ∧ ∀ err ∈ r.2, err.Ordinary ∧ Raised err := by
  induction ps generalizing s with
  | nil =>
    intro e he
    refine ⟨.ok ⟨hs, fun _ h => ?_⟩, he, fun _ => rfl⟩
    cases h
  | cons p ps ih =>
    obtain ⟨name, value⟩ := p
    intro e he
    simp only [outcome_handOver] at ih ⊢
    by_cases hglobal : isGlobalName name = true
    · obtain ⟨hset, hchecked, hblind⟩ := setVariable name value e he
      simp only [handOver_global hglobal, hblind]
      generalize outcome (Engine.setVariable name value) e = r at hset hchecked
      obtain ⟨r, e'⟩ := r
      cases hset with
      | ok _ => exact ih hs e' hchecked
      | error herr hraised =>
        refine ⟨.ok ⟨hs, fun err' h => ?_⟩, hchecked, fun _ => rfl⟩
        cases h
        exact ⟨herr, hraised⟩
    · simp only [handOver_local hglobal]
      exact ih (s := s.setVariable name value) hs e he

/-- Entering a script gives a fresh one. -/
theorem enter (site : CallSite) (name : String) (parameters : List (String × String)) :
    Orderly (Engine.enter site name parameters) Activation.Fresh := by
  have hundo : ∀ {α : Type} {P : α → Prop} {err : Error}, err.Ordinary → Raised err → Orderly (do
      discard Engine.pop
      MonadExcept.throw err) P :=
    fun herr hraised => (pop.seq fun _ => .pure trivial).seq fun _ => .throw herr hraised
  refine (ensureIdle name).seq fun _ => (resolve site name).seq fun name => ?_
  refine (push name site.line).seq fun _ => ?_
  refine ((takeOut name).tryCatch fun err => hundo).bind fun s hs => ?_
  refine (handOver hs parameters).bind fun r hr => ?_
  obtain ⟨s, failure⟩ := r
  have hback : ∀ {P : Activation → Prop} {err : Error}, err.Ordinary → Raised err → Orderly (do
      modifyThe Engine (Engine.leave s)
      MonadExcept.throw err) P :=
    fun herr hraised =>
      (modify (fun _ he => he.leave hr.1) fun _ _ => rfl).seq fun _ => .throw herr hraised
  cases failure with
  | some err =>
    obtain ⟨herr, hraised⟩ := hr.2 err rfl
    exact hback herr hraised
  | none => exact (activate hr.1).tryCatch fun err => hback

/-- Starting a script from outside gives a fresh one. -/
theorem start (name : Option String) : Orderly (Engine.start name) Activation.Fresh := by
  refine get (fun e _ => ?_) fun _ _ => rfl
  split
  · exact fail trivial
  · rename_i name _
    refine (takeOut name).bind fun s hs => ?_
    have hback : ∀ {α : Type} {P : α → Prop} {s : Script} {err : Error}, s.Checked → err.Ordinary →
        Raised err → Orderly (do
          modifyThe Engine (putBack s)
          MonadExcept.throw err) P :=
      fun hs herr hraised =>
        (modify (fun _ he => he.putBack hs) fun _ _ => rfl).seq fun _ => .throw herr hraised
    refine ((checked hs).tryCatch fun err => hback hs).bind fun s hs => ?_
    have hs : s.Checked := by
      obtain ⟨p, hp, haccepted⟩ := hs
      intro p' hp'
      have heq : p = p' := Option.some.inj (hp.symm.trans hp')
      exact heq ▸ haccepted
    refine ((push name 0).tryCatch fun err => hback hs).seq fun _ => ?_
    exact activate hs

end Orderly

end Engine

end LineScript
