import LineScript.Proofs.Run.Checked

/-! What calling a script does to the scripts that are loaded and to those that run: the script that is meant
is taken out of the former and joins the latter, among which it was not. -/
namespace LineScript.Engine

/-- Whether some work leaves the scripts that run alone. -/
def KeepsCalls {α : Type} (a : Action α) : Prop :=
  ∀ e, (outcome a e).2.calls = e.calls

/-- Whether some work changes nothing but the world around an engine. -/
def WorldOnly {α : Type} (a : Action α) : Prop :=
  ∀ e, ∃ world, (outcome a e).2 = { e with world }

variable {α β : Type}

namespace KeepsCalls

theorem pure (a : α) : KeepsCalls (Pure.pure a) :=
  fun _ => rfl

theorem throw (err : Error) : KeepsCalls (MonadExcept.throw err : Action α) :=
  fun _ => rfl

theorem bind {a : Action α} {f : α → Action β} (ha : KeepsCalls a) (hf : ∀ x, KeepsCalls (f x)) :
    KeepsCalls (a >>= f) := by
  intro e
  have hfirst := ha e
  rw [outcome_bind]
  cases ho : outcome a e with
  | mk r e' =>
    rw [ho] at hfirst
    cases r with
    | error _ => exact hfirst
    | ok x => exact (hf x e').trans hfirst

theorem modify {f : Engine → Engine} (h : ∀ e, (f e).calls = e.calls) : KeepsCalls (modifyThe Engine f) :=
  h

theorem get {f : Engine → Action β} (hf : ∀ e, KeepsCalls (f e)) : KeepsCalls (getThe Engine >>= f) :=
  fun e => hf e e

theorem ite {c : Prop} [Decidable c] {a b : Action α} (ha : KeepsCalls a) (hb : KeepsCalls b) :
    KeepsCalls (if c then a else b) := by
  split
  · exact ha
  · exact hb

end KeepsCalls

namespace WorldOnly

theorem pure (a : α) : WorldOnly (Pure.pure a) :=
  fun e => ⟨e.world, rfl⟩

theorem throw (err : Error) : WorldOnly (MonadExcept.throw err : Action α) :=
  fun e => ⟨e.world, rfl⟩

theorem bind {a : Action α} {f : α → Action β} (ha : WorldOnly a) (hf : ∀ x, WorldOnly (f x)) :
    WorldOnly (a >>= f) := by
  intro e
  obtain ⟨world, hworld⟩ := ha e
  rw [outcome_bind]
  cases ho : outcome a e with
  | mk r e' =>
    rw [ho] at hworld
    cases r with
    | error _ => exact ⟨world, hworld⟩
    | ok x =>
      obtain ⟨world', hworld'⟩ := hf x e'
      refine ⟨world', hworld'.trans ?_⟩
      rw [show e' = _ from hworld]

theorem modifyWorld (f : World → α × World) : WorldOnly (MonadStateOf.modifyGet f : Action α) :=
  fun _ => ⟨_, rfl⟩

theorem getWorld : WorldOnly (getThe World : Action World) :=
  fun e => ⟨e.world, rfl⟩

theorem keepsCalls {a : Action α} (ha : WorldOnly a) : KeepsCalls a := by
  intro e
  obtain ⟨world, hworld⟩ := ha e
  rw [hworld]

theorem demand (path : String) (a : FileAction α) : WorldOnly (FileAction.demand path a) := by
  refine (modifyWorld _).bind fun r => ?_
  cases r with
  | ok x => exact pure x
  | error e => exact throw _

theorem firstFile? (paths : List String) : WorldOnly (Engine.firstFile? paths) := by
  induction paths with
  | nil => exact pure none
  | cons path paths ih =>
    refine ((modifyWorld _).bind fun _ => getWorld.bind fun _ => pure _).bind fun found => ?_
    split
    · exact pure _
    · exact ih

end WorldOnly

theorem keepsCalls_add (s : Script) : KeepsCalls (add s) := by
  have hinsert : KeepsCalls (modifyThe Engine fun e => { e with scripts := e.scripts.insert s.name s }) :=
    .modify fun _ => rfl
  exact .get fun _ => .ite ((KeepsCalls.throw _).bind fun (_ : PUnit) => hinsert) hinsert

theorem keepsCalls_load (s : Script) : KeepsCalls (load s) := by
  have haddAll : ∀ l, KeepsCalls (addAll l) := by
    intro l
    induction l with
    | nil => exact .pure _
    | cons s l ih => exact (keepsCalls_add s).bind fun _ => ih
  unfold load
  split
  · exact .throw _
  · exact (keepsCalls_add s).bind fun _ => (haddAll _).bind fun _ => .modify fun _ => rfl

theorem keepsCalls_loadFile (path : String) : KeepsCalls (loadFile path) := by
  unfold loadFile
  split
  · exact .throw _
  · rename_i name _
    refine (WorldOnly.demand _ _).keepsCalls.bind fun lines => (keepsCalls_load _).bind fun _ => ?_
    have hnote : KeepsCalls (note .debug .engine s!"loaded script '{name}' from {path}") := fun _ => rfl
    exact hnote.bind fun _ => .pure name

theorem keepsCalls_resolve (site : CallSite) (name : String) : KeepsCalls (resolve site name) := by
  refine .get fun e => .ite (.pure _) ?_
  split
  · exact .pure _
  · refine (WorldOnly.firstFile? _).keepsCalls.bind fun path => ?_
    cases path with
    | some path => exact keepsCalls_loadFile path
    | none => exact .throw _

/-- A script that is added was not loaded. -/
theorem not_contains_of_add {s : Script} {e e' : Engine} (h : outcome (add s) e = (.ok (), e')) :
    e.scripts.contains s.name = false := by
  have hadd : outcome (add s) e = outcome (if e.scripts.contains s.name then do
      fail (.alreadyLoaded s.name)
      modifyThe Engine fun e => { e with scripts := e.scripts.insert s.name s }
    else modifyThe Engine fun e => { e with scripts := e.scripts.insert s.name s } : Action Unit) e := rfl
  rw [hadd] at h
  cases hcontains : e.scripts.contains s.name with
  | false => rfl
  | true =>
    rw [hcontains] at h
    cases h

/-- A script that is loaded from a file was not loaded. -/
theorem not_contains_of_loadFile {path name : String} {e e' : Engine}
    (h : outcome (loadFile path) e = (.ok name, e')) : e.scripts.contains name = false := by
  unfold loadFile at h
  split at h
  · cases h
  · obtain ⟨lines, e₁, hread, h⟩ := outcome_bind_eq_ok.mp h
    obtain ⟨_, e₂, hload, h⟩ := outcome_bind_eq_ok.mp h
    obtain ⟨_, e₃, -, h⟩ := outcome_bind_eq_ok.mp h
    cases h
    obtain ⟨world, hworld⟩ := WorldOnly.demand path (FileAction.readLines path) e
    rw [hread] at hworld
    unfold load at hload
    split at hload
    · cases hload
    · obtain ⟨_, e₄, hadd, -⟩ := outcome_bind_eq_ok.mp hload
      have hnot := not_contains_of_add hadd
      rw [show e₁ = _ from hworld] at hnot
      exact hnot

/-- Resolving a name that means a loaded script changes nothing. -/
theorem resolve_loaded {site : CallSite} {name name' : String} {e e' : Engine}
    (h : outcome (resolve site name) e = (.ok name', e')) (hloaded : e.scripts.contains name' = true) :
    e' = e := by
  unfold resolve at h
  rw [outcome_bind, outcome_getThe] at h
  dsimp only at h
  split at h
  · cases h
    rfl
  · split at h
    · cases h
      rfl
    · obtain ⟨path, e₁, hfile, h⟩ := outcome_bind_eq_ok.mp h
      cases path with
      | none => cases h
      | some path =>
        obtain ⟨world, hworld⟩ := WorldOnly.firstFile? (candidates e site name) e
        rw [hfile] at hworld
        have hnot := not_contains_of_loadFile h
        rw [show e₁ = _ from hworld] at hnot
        exact absurd hloaded (by rw [hnot]; exact Bool.false_ne_true)

theorem ensureIdle_eq_ok {name : String} {e e' : Engine} (h : outcome (ensureIdle name) e = (.ok (), e')) :
    e' = e ∧ ∀ f ∈ e.calls, f.script ≠ name := by
  have hidle : outcome (ensureIdle name) e =
      outcome (if e.calls.any (·.script == name) then fail (.alreadyRunning name) else pure () :
        Action Unit) e := rfl
  rw [hidle] at h
  split at h
  · cases h
  · rename_i hnone
    cases h
    refine ⟨rfl, fun f hf heq => hnone ?_⟩
    exact List.any_eq_true.mpr ⟨f, hf, beq_iff_eq.mpr heq⟩

/-- Handing over parameters changes shared variables only. -/
theorem handOver_bindings (s : Script) (ps : List (String × String)) (e : Engine) :
    ∃ bindings, (handOver s ps e).2 = { e with bindings } := by
  induction ps generalizing s e with
  | nil => exact ⟨e.bindings, rfl⟩
  | cons p ps ih =>
    obtain ⟨name, value⟩ := p
    by_cases hglobal : isGlobalName name = true
    · rw [handOver_global hglobal]
      have hset : ∃ bindings, (outcome (setVariable name value) e).2 = { e with bindings } := by
        cases hintrinsic : isIntrinsicName name <;>
          simp only [setVariable, hintrinsic, hglobal, if_true, Bool.not_true, Bool.false_eq_true, if_false]
        · exact ⟨_, rfl⟩
        · exact ⟨e.bindings, rfl⟩
      obtain ⟨bindings, hset⟩ := hset
      cases ho : outcome (setVariable name value) e with
      | mk r e₁ =>
        rw [ho] at hset
        cases r with
        | error err => exact ⟨bindings, hset⟩
        | ok u =>
          obtain ⟨bindings', hrest⟩ := ih s e₁
          exact ⟨bindings', hrest.trans (by rw [show e₁ = _ from hset])⟩
    · rw [handOver_local hglobal]
      exact ih _ e

theorem worldOnly_note (level : Level) (part : Part) (text : String) : WorldOnly (note level part text) :=
  fun _ => ⟨_, rfl⟩

theorem worldOnly_activate (s : Script) : WorldOnly (activate s) := by
  have hchecked : WorldOnly (checked s) := by
    unfold checked
    split
    · exact .pure s
    · split
      · exact .throw _
      · exact (worldOnly_note _ _ _).bind fun _ => .pure _
  refine hchecked.bind fun s => ?_
  split
  · exact .throw _
  · exact (worldOnly_note _ _ _).bind fun _ => .pure _

/-- What it takes to enter a script: neither it nor the name that it is called by is that of a script that
runs. It is taken out of the loaded scripts and joins those that run. -/
theorem enter_eq_ok {site : CallSite} {name : String} {ps : List (String × String)} {a : Activation}
    {e e' : Engine} (h : outcome (enter site name ps) e = (.ok a, e')) :
    ∃ resolved e₁ s, outcome (resolve site name) e = (.ok resolved, e₁) ∧
      (∀ f ∈ e.calls, f.script ≠ name) ∧ (∀ f ∈ e.calls, f.script ≠ resolved) ∧
      e₁.scripts.get? resolved = some s ∧ e'.calls = ⟨resolved, site.line⟩ :: e.calls ∧
      e'.scripts = e₁.scripts.erase resolved := by
  obtain ⟨_, e₀, hidle, h₀⟩ := outcome_bind_eq_ok.mp h
  obtain ⟨heq, hname⟩ := ensureIdle_eq_ok hidle
  rw [heq] at h₀
  obtain ⟨resolved, e₁, hresolve, h₁⟩ := outcome_bind_eq_ok.mp h₀
  have hcalls : e₁.calls = e.calls := by
    have hkeeps := keepsCalls_resolve site name e
    rw [hresolve] at hkeeps
    exact hkeeps
  obtain ⟨_, e₂, hpush, h₂⟩ := outcome_bind_eq_ok.mp h₁
  obtain ⟨_, e₁', hidle', hpushed⟩ := outcome_bind_eq_ok.mp hpush
  obtain ⟨heq', hresolved⟩ := ensureIdle_eq_ok hidle'
  rw [heq'] at hpushed
  have he₂ : e₂ = { e₁ with calls := ⟨resolved, site.line⟩ :: e₁.calls } := by
    cases hpushed
    rfl
  obtain ⟨s, e₃, htaken, h₃⟩ := outcome_bind_eq_ok.mp h₂
  rw [outcome_tryCatch, outcome_takeOut] at htaken
  have hscript : e₂.scripts.get? resolved = some s ∧
      e₃ = { e₂ with scripts := e₂.scripts.erase resolved } := by
    cases hget : e₂.scripts.get? resolved with
    | none =>
      rw [hget] at htaken
      -- A script that cannot be taken out is not entered.
      obtain ⟨_, _, -, hthrown⟩ := outcome_bind_eq_ok.mp htaken
      cases hthrown
    | some s' =>
      rw [hget] at htaken
      cases htaken
      exact ⟨rfl, rfl⟩
  obtain ⟨hget, he₃⟩ := hscript
  obtain ⟨⟨s', failure⟩, e₄, hhanded, h₄⟩ := outcome_bind_eq_ok.mp h₃
  obtain ⟨bindings, hbindings⟩ := handOver_bindings s ps e₃
  have he₄ : e₄ = { e₃ with bindings } := by
    rw [outcome_handOver] at hhanded
    exact (congrArg Prod.snd hhanded).symm.trans hbindings
  cases failure with
  | some err => cases h₄
  | none =>
    obtain ⟨world, hworld⟩ := worldOnly_activate s' e₄
    have hactivated := h₄
    rw [outcome_tryCatch] at hactivated
    cases ho : outcome (activate s') e₄ with
    | mk r e₅ =>
      rw [ho] at hactivated hworld
      cases r with
      | error err => cases hactivated
      | ok a' =>
        cases hactivated
        have he' : e' = { e₄ with world } := hworld
        rw [he', he₄, he₃, he₂]
        rw [he₂] at hget
        rw [hcalls] at hresolved ⊢
        exact ⟨resolved, e₁, s, hresolve, hname, hresolved, hget, rfl, rfl⟩

end LineScript.Engine
