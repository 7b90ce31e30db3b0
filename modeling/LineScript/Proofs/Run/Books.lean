import LineScript.Proofs.Lookup
import LineScript.Proofs.Run.Calls

/-! The books of an engine: which scripts are loaded, from which sources, and which of them run. Loading only
adds to them, and a script that is entered is put back when it is left. -/
namespace LineScript

/-- What a script was loaded from. -/
structure Source where
  name : String
  lines : List String
  offset : Nat
  path : Option String

/-- What a script was loaded from. -/
def Script.source (s : Script) : Source :=
  ⟨s.name, s.lines, s.offset, s.path⟩

namespace Registry

variable {α : Type} (r : Registry α) {name other : String} (v : α)

theorem get?_insert_self (name : String) : (r.insert name v).get? name = some v := by
  have hplace : ∀ entries : List (String × α), (place name v entries).lookup name = some v := by
    intro entries
    induction entries with
    | nil => simp [place]
    | cons y entries ih =>
      obtain ⟨n, w⟩ := y
      unfold place
      by_cases hlt : name < n
      · rw [if_pos hlt, List.lookup_cons_self]
      · rw [if_neg hlt]
        by_cases heq : name = n
        · rw [if_pos heq, List.lookup_cons_self]
        · rw [if_neg heq, lookup_cons_ne heq, ih]
  exact hplace r.entries

theorem get?_insert_ne (h : other ≠ name) : (r.insert name v).get? other = r.get? other := by
  have hplace : ∀ entries : List (String × α),
      (place name v entries).lookup other = entries.lookup other := by
    intro entries
    induction entries with
    | nil => simp [place, lookup_cons_ne h]
    | cons y entries ih =>
      obtain ⟨n, w⟩ := y
      unfold place
      by_cases hlt : name < n
      · rw [if_pos hlt, lookup_cons_ne h]
      · rw [if_neg hlt]
        by_cases heq : name = n
        · rw [if_pos heq, lookup_cons_ne h, lookup_cons_ne (heq ▸ h)]
        · rw [if_neg heq, List.lookup_cons, List.lookup_cons, ih]
  exact hplace r.entries

theorem get?_erase_ne (h : other ≠ name) : (r.erase name).get? other = r.get? other := by
  have hfilter := lookup_filter (· != name) r.entries other
  rw [if_pos (bne_iff_ne.mpr h)] at hfilter
  exact hfilter

end Registry

namespace Engine

/-- The source of the loaded script of a name. -/
def source? (e : Engine) (name : String) : Option Source :=
  (e.scripts.get? name).map Script.source

/-- Whether loaded scripts are found under their own names, and none of the scripts that run runs twice. -/
structure Tidy (e : Engine) : Prop where
  named : ∀ x ∈ e.scripts.entries, x.2.name = x.1
  distinct : (e.calls.map (·.script)).Nodup

/-- Whether the same scripts run as before, and what was loaded still is, from the same sources. -/
structure Restored (e e' : Engine) : Prop where
  calls : e'.calls = e.calls
  sources : ∀ name source, e.source? name = some source → e'.source? name = some source

/-- Whether a script that runs has been taken out of the books properly: they are as they were once it is
left. -/
structure Lends (e : Engine) (s : Script) (e' : Engine) : Prop where
  tidy : e'.Tidy
  restored : e.Restored (e'.leave s)

variable {e e' e'' : Engine} {s s' : Script}

theorem source?_insert (e : Engine) (s : Script) (name : String) :
    source? { e with scripts := e.scripts.insert s.name s } name =
      if name = s.name then some s.source else e.source? name := by
  unfold source?
  by_cases h : name = s.name
  · rw [if_pos h, h, Registry.get?_insert_self]
    rfl
  · rw [if_neg h, Registry.get?_insert_ne _ _ h]

theorem Restored.refl (e : Engine) : e.Restored e :=
  ⟨rfl, fun _ _ h => h⟩

theorem Restored.trans (h : e.Restored e') (h' : e'.Restored e'') : e.Restored e'' :=
  ⟨h'.calls.trans h.calls, fun name source hsource => h'.sources name source (h.sources name source hsource)⟩

/-- The books are all that matters. -/
theorem Restored.congr (h : e.Restored e') (hcalls : e''.calls = e'.calls)
    (hscripts : e''.scripts = e'.scripts) : e.Restored e'' := by
  refine h.trans ⟨hcalls, fun name source hsource => ?_⟩
  rw [source?, hscripts]
  exact hsource

theorem Tidy.congr (h : e.Tidy) (hcalls : e'.calls = e.calls) (hscripts : e'.scripts = e.scripts) :
    e'.Tidy := by
  refine ⟨?_, ?_⟩
  · rw [hscripts]
    exact h.named
  · rw [hcalls]
    exact h.distinct

theorem Tidy.name_eq (h : e.Tidy) {name : String} (hs : e.scripts.get? name = some s) : s.name = name :=
  h.named _ (Registry.mem_of_lookup hs)

theorem Tidy.insert (h : e.Tidy) (s : Script) :
    Tidy { e with scripts := e.scripts.insert s.name s } := by
  refine ⟨fun x hx => ?_, h.distinct⟩
  rcases Registry.mem_place hx with rfl | hx
  · rfl
  · exact h.named x hx

theorem Tidy.leave (h : e.Tidy) (s : Script) : (e.leave s).Tidy := by
  have hinsert := h.insert s
  refine ⟨hinsert.named, ?_⟩
  have htail : (e.leave s).calls.map (·.script) = (e.calls.map (·.script)).tail := List.map_tail
  rw [htail]
  exact h.distinct.sublist (List.tail_sublist _)

/-- A script that takes the place of none, or of one from the same source. -/
theorem restored_insert (h : ∀ source, e.source? s.name = some source → source = s.source) :
    e.Restored { e with scripts := e.scripts.insert s.name s } := by
  refine ⟨rfl, fun name source hsource => ?_⟩
  rw [source?_insert]
  by_cases hname : name = s.name
  · rw [if_pos hname, h source (hname ▸ hsource)]
  · rw [if_neg hname, hsource]

/-- A script that is put back where it was taken from. -/
theorem restored_back (hs : e.source? s.name = some s.source) (hcalls : e'.calls = e.calls)
    (hscripts : e'.scripts = (e.scripts.erase s.name).insert s.name s) : e.Restored e' := by
  refine ⟨hcalls, fun name source hsource => ?_⟩
  have hinsert := source?_insert { e with scripts := e.scripts.erase s.name } s name
  have hsame : e'.source? name =
      source? { e with scripts := (e.scripts.erase s.name).insert s.name s } name := by
    rw [source?, hscripts]
    rfl
  rw [hsame, hinsert]
  by_cases hname : name = s.name
  · rw [if_pos hname, ← hs, ← hname, hsource]
  · rw [if_neg hname]
    unfold source? at hsource ⊢
    rw [Registry.get?_erase_ne _ hname]
    exact hsource

/-- Leaving a script goes the same way in engines with the same books. -/
theorem Restored.leave (h : e.Restored e') (hs : s'.source = s.source) :
    (e.leave s).Restored (e'.leave s') := by
  have hname : s'.name = s.name := congrArg Source.name hs
  refine ⟨congrArg List.tail h.calls, fun name source hsource => ?_⟩
  have hbefore : (e.leave s).source? name = if name = s.name then some s.source else e.source? name :=
    source?_insert e s name
  have hbehind : (e'.leave s').source? name =
      if name = s'.name then some s'.source else e'.source? name := source?_insert e' s' name
  rw [hbefore] at hsource
  rw [hbehind, hname, hs]
  by_cases hcase : name = s.name
  · rw [if_pos hcase] at hsource ⊢
    exact hsource
  · rw [if_neg hcase] at hsource ⊢
    exact h.sources name source hsource

/-- Work on a script that runs and on the engine around it, which leaves its source and the books alone. -/
theorem Lends.congr (h : e.Lends s e') (hs : s'.source = s.source) (hcalls : e''.calls = e'.calls)
    (hscripts : e''.scripts = e'.scripts) : e.Lends s' e'' := by
  refine ⟨h.tidy.congr hcalls hscripts, h.restored.trans ?_⟩
  exact ((Restored.refl e').congr hcalls hscripts).leave hs

theorem Lends.of_restored (h : e.Restored e') (h' : e'.Lends s e'') : e.Lends s e'' :=
  ⟨h'.tidy, h.trans h'.restored⟩

/-- Whether some work keeps engines tidy, and takes nothing out of the books. -/
def Adds {α : Type} (a : Action α) : Prop :=
  ∀ e, e.Tidy → (outcome a e).2.Tidy ∧ e.Restored (outcome a e).2

namespace Adds

variable {α β : Type}

theorem pure (a : α) : Adds (Pure.pure a) :=
  fun e he => ⟨he, .refl e⟩

theorem throw (err : Error) : Adds (MonadExcept.throw err : Action α) :=
  fun e he => ⟨he, .refl e⟩

theorem bind {a : Action α} {f : α → Action β} (ha : Adds a) (hf : ∀ x, Adds (f x)) :
    Adds (a >>= f) := by
  intro e he
  obtain ⟨htidy, hrestored⟩ := ha e he
  rw [outcome_bind]
  cases ho : outcome a e with
  | mk r e' =>
    rw [ho] at htidy hrestored
    cases r with
    | error err => exact ⟨htidy, hrestored⟩
    | ok x =>
      obtain ⟨htidy', hrestored'⟩ := hf x e' htidy
      exact ⟨htidy', hrestored.trans hrestored'⟩

/-- Looking at the engine. -/
theorem get {f : Engine → Action β} (hf : ∀ e, Adds (f e)) : Adds (getThe Engine >>= f) :=
  fun e he => hf e e he

theorem ite {c : Prop} [Decidable c] {a b : Action α} (ha : Adds a) (hb : Adds b) :
    Adds (if c then a else b) := by
  split
  · exact ha
  · exact hb

/-- Work that leaves the books alone. -/
theorem of_same {a : Action α} (hcalls : ∀ e, (outcome a e).2.calls = e.calls)
    (hscripts : ∀ e, (outcome a e).2.scripts = e.scripts) : Adds a :=
  fun e he => ⟨he.congr (hcalls e) (hscripts e), (Restored.refl e).congr (hcalls e) (hscripts e)⟩

theorem of_worldOnly {a : Action α} (ha : WorldOnly a) : Adds a := by
  have hscripts : ∀ e, (outcome a e).2.scripts = e.scripts := by
    intro e
    obtain ⟨world, hworld⟩ := ha e
    rw [hworld]
  exact of_same ha.keepsCalls hscripts

theorem add (s : Script) : Adds (Engine.add s) := by
  intro e he
  have hadd : outcome (Engine.add s) e = outcome (if e.scripts.contains s.name then do
      fail (.alreadyLoaded s.name)
      modifyThe Engine fun e => { e with scripts := e.scripts.insert s.name s }
    else modifyThe Engine fun e => { e with scripts := e.scripts.insert s.name s } : Action Unit) e := rfl
  rw [hadd]
  cases hcontains : e.scripts.contains s.name with
  | true => exact ⟨he, .refl e⟩
  | false =>
    have hfree : e.scripts.get? s.name = none := by simpa [Registry.contains] using hcontains
    refine ⟨he.insert s, restored_insert fun source hsource => ?_⟩
    rw [source?, hfree] at hsource
    cases hsource

theorem load (s : Script) : Adds (Engine.load s) := by
  have haddAll : ∀ l, Adds (addAll l) := by
    intro l
    induction l with
    | nil => exact pure _
    | cons s l ih => exact (add s).bind fun _ => ih
  unfold Engine.load
  split
  · exact throw _
  · exact (add s).bind fun _ => (haddAll _).bind fun _ => of_same (fun _ => rfl) fun _ => rfl

theorem loadFile (path : String) : Adds (Engine.loadFile path) := by
  unfold Engine.loadFile
  split
  · exact throw _
  · refine (of_worldOnly (WorldOnly.demand _ _)).bind fun lines => (load _).bind fun _ => ?_
    exact (of_worldOnly (worldOnly_note _ _ _)).bind fun _ => pure _

theorem resolve (site : CallSite) (name : String) : Adds (Engine.resolve site name) := by
  refine get fun e => ite (pure _) ?_
  split
  · exact pure _
  · refine (of_worldOnly (WorldOnly.firstFile? _)).bind fun path => ?_
    cases path with
    | some path => exact loadFile path
    | none => exact throw _

theorem select (name : String) : Adds (Engine.select name) := by
  have hselect : Adds (modifyThe Engine ({ · with current := some name })) :=
    of_same (fun _ => rfl) fun _ => rfl
  exact get fun _ => ite ((throw _).bind fun (_ : PUnit) => hselect) hselect

theorem setVariable (name value : String) : Adds (Engine.setVariable name value) := by
  have hset : Adds (modifyThe Engine fun e => { e with bindings := e.bindings.insert name value }) :=
    of_same (fun _ => rfl) fun _ => rfl
  have hglobal : Adds (if !isGlobalName name then do
        MonadExcept.throw (Error.ofFailure (.notGlobal name))
        modifyThe Engine fun e => { e with bindings := e.bindings.insert name value }
      else modifyThe Engine fun e => { e with bindings := e.bindings.insert name value }) :=
    ite ((throw _).bind fun (_ : PUnit) => hset) hset
  exact ite ((throw _).bind fun (_ : PUnit) => hglobal) hglobal

end Adds

theorem outcome_ensureIdle (name : String) (e : Engine) :
    outcome (ensureIdle name) e =
      (if e.calls.any (·.script == name) then .error (.ofFailure (.alreadyRunning name)) else .ok (),
        e) := by
  change outcome (if e.calls.any (·.script == name) then fail (.alreadyRunning name) else pure () :
    Action Unit) e = _
  split <;> rfl

theorem outcome_push (name : String) (line : Nat) (e : Engine) :
    outcome (push name line) e =
      if e.calls.any (·.script == name) then (.error (.ofFailure (.alreadyRunning name)), e)
      else (.ok (), { e with calls := ⟨name, line⟩ :: e.calls }) := by
  rw [push, outcome_bind, outcome_ensureIdle]
  by_cases hany : e.calls.any (·.script == name) = true
  · rw [if_pos hany, if_pos hany]
  · rw [if_neg hany, if_neg hany]
    rfl

theorem Tidy.push (he : e.Tidy) (name : String) (line : Nat) : (outcome (push name line) e).2.Tidy := by
  rw [outcome_push]
  by_cases hany : e.calls.any (·.script == name) = true
  · rw [if_pos hany]
    exact he
  · rw [if_neg hany]
    refine ⟨he.named, List.nodup_cons.mpr ⟨fun hmem => hany ?_, he.distinct⟩⟩
    obtain ⟨f, hf, heq⟩ := List.mem_map.mp hmem
    exact List.any_eq_true.mpr ⟨f, hf, beq_iff_eq.mpr heq⟩

theorem Tidy.pop (he : e.Tidy) : (outcome pop e).2.Tidy := by
  obtain ⟨config, main, buffers, scripts, bindings, calls, current, world⟩ := e
  cases calls with
  | nil => exact he
  | cons f rest =>
    have hrest := he.distinct
    rw [List.map_cons, List.nodup_cons] at hrest
    exact ⟨he.named, hrest.2⟩

theorem Tidy.erase (he : e.Tidy) (name : String) :
    Tidy { e with scripts := e.scripts.erase name } :=
  ⟨fun x hx => he.named x (List.mem_filter.mp hx).1, he.distinct⟩

theorem handOver_source (s : Script) (ps : List (String × String)) (e : Engine) :
    (handOver s ps e).1.1.source = s.source := by
  induction ps generalizing s e with
  | nil => rfl
  | cons p ps ih =>
    obtain ⟨name, value⟩ := p
    by_cases hglobal : isGlobalName name = true
    · rw [handOver_global hglobal]
      cases outcome (setVariable name value) e with
      | mk r e' =>
        cases r with
        | ok u => exact ih s e'
        | error err => rfl
    · rw [handOver_local hglobal]
      exact ih (s.setVariable name value) e

theorem checked_source (h : outcome (checked s) e = (.ok s', e')) : s'.source = s.source := by
  unfold checked at h
  split at h
  · cases h
    rfl
  · split at h
    · cases h
    · obtain ⟨_, e₁, -, h⟩ := outcome_bind_eq_ok.mp h
      cases h
      rfl

theorem worldOnly_checked (s : Script) : WorldOnly (checked s) := by
  unfold checked
  split
  · exact .pure s
  · split
    · exact .throw _
    · exact (worldOnly_note _ _ _).bind fun _ => .pure _

theorem activate_source {a : Activation} (h : outcome (activate s) e = (.ok a, e')) :
    a.script.source = s.source := by
  obtain ⟨s₁, e₁, hchecked, h⟩ := outcome_bind_eq_ok.mp h
  rw [← checked_source hchecked]
  cases hp : s₁.program with
  | none =>
    rw [hp] at h
    cases h
  | some p =>
    rw [hp] at h
    obtain ⟨_, e₂, -, h⟩ := outcome_bind_eq_ok.mp h
    cases h
    rfl

/-- What entering or starting a script comes to: it has been taken out properly, or nothing has been taken
out of the books. -/
def Begun (e : Engine) : Except Error Activation × Engine → Prop
  | (.ok a, e') => e.Lends a.script e'
  | (.error _, e') => e'.Tidy ∧ e.Restored e'

/-- A script that has been taken out becomes active, or is left again. -/
theorem Lends.activate (h : e.Lends s e') :
    e.Begun (outcome (tryCatch (activate s) fun err => do
      modifyThe Engine (leave s)
      throw err) e') := by
  obtain ⟨world, hworld⟩ := worldOnly_activate s e'
  rw [outcome_tryCatch]
  cases ho : outcome (Engine.activate s) e' with
  | mk r e₁ =>
    rw [ho] at hworld
    have he₁ : e₁ = { e' with world } := hworld
    cases r with
    | ok a =>
      subst he₁
      exact h.congr (activate_source ho) rfl rfl
    | error err =>
      subst he₁
      have hleft : e.Lends s { e' with world } := h.congr rfl rfl rfl
      exact ⟨hleft.tidy.leave s, hleft.restored⟩

/-- A script that has been taken out becomes active with the parameters that it gets. -/
theorem Lends.handOver (h : e.Lends s e') (ps : List (String × String)) :
    e.Begun (outcome (do
      let (s, failure) ← (Engine.handOver s ps : StateM Engine _)
      let back {α : Type} (err : Error) : Action α := do
        modifyThe Engine (leave s)
        throw err
      match failure with
      | some err => back err
      | none => tryCatch (Engine.activate s) back) e') := by
  have hsource := handOver_source s ps e'
  obtain ⟨bindings, hbindings⟩ := handOver_bindings s ps e'
  rw [outcome_bind, outcome_handOver]
  generalize Engine.handOver s ps e' = handed at hsource hbindings
  obtain ⟨⟨s', failure⟩, e₁⟩ := handed
  subst hbindings
  have hhanded : e.Lends s' { e' with bindings } := h.congr hsource rfl rfl
  cases failure with
  | some err => exact ⟨hhanded.tidy.leave s', hhanded.restored⟩
  | none => exact hhanded.activate

/-- A script that is taken out and joins those that run, among which it was not. -/
theorem lends_of_taken (he : e.Tidy) {name : String} (line : Nat) (hs : e.scripts.get? name = some s)
    (hidle : ¬ e.calls.any (·.script == name) = true) :
    e.Lends s { e with calls := ⟨name, line⟩ :: e.calls, scripts := e.scripts.erase name } := by
  obtain rfl : s.name = name := he.name_eq hs
  have hpushed := he.push s.name line
  rw [outcome_push, if_neg hidle] at hpushed
  have hsource : e.source? s.name = some s.source := by rw [source?, hs, Option.map_some]
  exact ⟨hpushed.erase s.name, restored_back hsource rfl rfl⟩

theorem begun_enter (he : e.Tidy) (site : CallSite) (name : String) (ps : List (String × String)) :
    e.Begun (outcome (enter site name ps) e) := by
  rw [enter, outcome_bind, outcome_ensureIdle]
  by_cases hrunning : e.calls.any (·.script == name) = true
  · rw [if_pos hrunning]
    exact ⟨he, .refl e⟩
  rw [if_neg hrunning]
  dsimp only
  obtain ⟨he₁, hrestored⟩ := Adds.resolve site name e he
  rw [outcome_bind]
  cases ho : outcome (resolve site name) e with
  | mk r e₁ =>
    rw [ho] at he₁ hrestored
    cases r with
    | error err => exact ⟨he₁, hrestored⟩
    | ok resolved =>
      dsimp only
      rw [outcome_bind, outcome_push]
      by_cases hrunning₁ : e₁.calls.any (·.script == resolved) = true
      · rw [if_pos hrunning₁]
        exact ⟨he₁, hrestored⟩
      rw [if_neg hrunning₁]
      dsimp only
      rw [outcome_bind, outcome_tryCatch, outcome_takeOut]
      cases hs : e₁.scripts.get? resolved with
      | none => exact ⟨he₁, hrestored⟩
      | some s =>
        have hlends := (lends_of_taken he₁ site.line hs hrunning₁).of_restored hrestored
        exact hlends.handOver ps

theorem program_of_checked (h : outcome (checked s) e = (.ok s', e')) : ∃ p, s'.program = some p := by
  unfold checked at h
  split at h
  · rename_i hsome
    cases h
    exact Option.isSome_iff_exists.mp hsome
  · split at h
    · cases h
    · rename_i p _
      obtain ⟨_, e₁, -, h⟩ := outcome_bind_eq_ok.mp h
      cases h
      exact ⟨p, rfl⟩

/-- A checked script becomes active. -/
theorem outcome_activate {p : Program} (hp : s.program = some p) (e : Engine) :
    ∃ world, outcome (activate s) e = (.ok { script := s.rewind, program := p }, { e with world }) := by
  have hchecked : checked s = pure s := by
    unfold checked
    rw [hp]
    rfl
  unfold activate
  rw [hchecked, pure_bind, hp]
  exact ⟨_, rfl⟩

theorem begun_start (he : e.Tidy) (name : Option String) : e.Begun (outcome (start name) e) := by
  unfold start
  rw [outcome_bind, outcome_getThe]
  dsimp only
  cases name.or e.current with
  | none => exact ⟨he, .refl e⟩
  | some name =>
    dsimp only
    rw [outcome_bind, outcome_takeOut]
    cases hs : e.scripts.get? name with
    | none => exact ⟨he, .refl e⟩
    | some s =>
      obtain rfl : s.name = name := he.name_eq hs
      have hsource : e.source? s.name = some s.source := by rw [source?, hs, Option.map_some]
      -- Until it is entered in the books as one that runs, a script only has to be put back.
      have hback : ∀ s' world, s'.source = s.source →
          (putBack s' { e with scripts := e.scripts.erase s.name, world }).Tidy ∧
            e.Restored (putBack s' { e with scripts := e.scripts.erase s.name, world }) := by
        intro s' world hsame
        have hname : s'.name = s.name := congrArg Source.name hsame
        have herased : Tidy { e with scripts := e.scripts.erase s.name, world } :=
          (he.erase s.name).congr rfl rfl
        refine ⟨herased.insert s', restored_back (s := s') ?_ rfl ?_⟩
        · rw [hname, hsame, hsource]
        · change (e.scripts.erase s.name).insert s'.name s' = _
          rw [hname]
      dsimp only
      obtain ⟨world, hworld⟩ := worldOnly_checked s { e with scripts := e.scripts.erase s.name }
      rw [outcome_bind, outcome_tryCatch]
      cases ho : outcome (checked s) { e with scripts := e.scripts.erase s.name } with
      | mk r e₁ =>
        rw [ho] at hworld
        subst hworld
        cases r with
        | error err => exact hback s world rfl
        | ok s₁ =>
          have hsame := checked_source ho
          obtain ⟨p, hp⟩ := program_of_checked ho
          dsimp only
          rw [outcome_bind, outcome_tryCatch, outcome_push]
          by_cases hrunning : e.calls.any (·.script == s.name) = true
          · rw [if_pos hrunning]
            exact hback s₁ world hsame
          · rw [if_neg hrunning]
            have hlends := lends_of_taken he 0 hs hrunning
            obtain ⟨world', hactive⟩ := outcome_activate hp
              { e with calls := ⟨s.name, 0⟩ :: e.calls, scripts := e.scripts.erase s.name, world }
            dsimp only
            rw [hactive]
            exact hlends.congr hsame rfl rfl

section Outcomes

variable {a : Activation} {err : Error} {site : CallSite} {name : String} {ps : List (String × String)}

theorem enter_lends (he : e.Tidy) (h : outcome (enter site name ps) e = (.ok a, e')) :
    e.Lends a.script e' := by
  have hbegun := begun_enter he site name ps
  rw [h] at hbegun
  exact hbegun

theorem enter_fails (he : e.Tidy) (h : outcome (enter site name ps) e = (.error err, e')) :
    e'.Tidy ∧ e.Restored e' := by
  have hbegun := begun_enter he site name ps
  rw [h] at hbegun
  exact hbegun

theorem start_lends (he : e.Tidy) {name : Option String} (h : outcome (start name) e = (.ok a, e')) :
    e.Lends a.script e' := by
  have hbegun := begun_start he name
  rw [h] at hbegun
  exact hbegun

theorem start_fails (he : e.Tidy) {name : Option String}
    (h : outcome (start name) e = (.error err, e')) : e'.Tidy ∧ e.Restored e' := by
  have hbegun := begun_start he name
  rw [h] at hbegun
  exact hbegun

end Outcomes

end Engine

end LineScript
