import LineScript.Proofs.Files.Requests
import LineScript.Proofs.Run.Books

/-! What a load that fails leaves behind. A source that cannot be read and a taken name change nothing; but
the scripts of a source are registered one after the other, so those in front of a taken name stay loaded. -/
namespace LineScript

/-- What loading a script registers, in order: the script, and the scripts inside it. -/
def Script.withInner (s : Script) (inner : List EmbeddedScript) : List Script :=
  s :: inner.map fun i =>
    { name := i.name, lines := i.lines, offset := i.firstLine, path := s.path }

namespace Engine

/-- Whether the same scripts are loaded as before, and the same one is chosen. -/
structure SameLoaded (e e' : Engine) : Prop where
  scripts : e'.scripts = e.scripts
  current : e'.current = e.current

/-- Whether some scripts have joined the loaded ones, under names that were free. -/
structure Joined (e : Engine) (l : List Script) (e' : Engine) : Prop where
  nodup : (l.map (·.name)).Nodup
  free : ∀ s ∈ l, e.source? s.name = none
  present : ∀ s ∈ l, e'.source? s.name = some s.source
  others : ∀ name, name ∉ l.map (·.name) → e'.scripts.get? name = e.scripts.get? name
  current : e'.current = e.current

/-- What a load of a script that fails leaves behind: nothing if the scripts inside it cannot be told, else
the scripts in front of the first one whose name is taken, be it by a script that was loaded or by one of
those in front. -/
inductive Leaves (e : Engine) (s : Script) (err : Error) (e' : Engine) : Prop
  | malformed : EmbeddedScript.ofLines s.name s.lines = .error err → e.SameLoaded e' → Leaves e s err e'
  | taken (inner : List EmbeddedScript) (registered : List Script) (refused : Script)
      (rest : List Script) : EmbeddedScript.ofLines s.name s.lines = .ok inner →
      s.withInner inner = registered ++ refused :: rest →
      err = .ofFailure (.alreadyLoaded refused.name) →
      (e.source? refused.name ≠ none ∨ refused.name ∈ registered.map (·.name)) →
      e.Joined registered e' → (e.SameLoaded e' ↔ registered = []) → Leaves e s err e'

/-- What a load of a file that fails leaves behind: nothing if the file gives no script. -/
inductive LeavesOfFile (e : Engine) (path : String) (err : Error) (e' : Engine) : Prop
  | unnamed : Path.stem? path = none → err = .ofFailure (.noScriptName path) → e.SameLoaded e' →
      LeavesOfFile e path err e'
  | unread : (outcome (FileAction.demand path (.readLines path) : Action (List String)) e).1 = .error err →
      e.SameLoaded e' → LeavesOfFile e path err e'
  | read (name : String) (lines : List String) (e₁ : Engine) : Path.stem? path = some name →
      outcome (FileAction.demand path (.readLines path) : Action (List String)) e = (.ok lines, e₁) →
      e.SameLoaded e₁ → Leaves e₁ { name, lines, path := some path } err e' → LeavesOfFile e path err e'

/-- What is left behind when a called script cannot be loaded: nothing if there is no file for it. -/
inductive LeavesOfCall (e : Engine) (site : CallSite) (name : String) (err : Error) (e' : Engine) : Prop
  | unknown : err = .ofFailure (.unknownScript name) → e.SameLoaded e' → LeavesOfCall e site name err e'
  | file (path : String) (e₁ : Engine) :
      outcome (firstFile? (candidates e site name)) e = (.ok (some path), e₁) → e.SameLoaded e₁ →
      e₁.LeavesOfFile path err e' → LeavesOfCall e site name err e'

variable {e e' e'' : Engine} {s : Script} {l : List Script} {err : Error}

theorem SameLoaded.refl (e : Engine) : e.SameLoaded e :=
  ⟨rfl, rfl⟩

theorem WorldOnly.sameLoaded {α : Type} {a : Action α} (ha : WorldOnly a) (e : Engine) :
    e.SameLoaded (outcome a e).2 := by
  obtain ⟨world, hworld⟩ := ha e
  rw [hworld]
  exact ⟨rfl, rfl⟩

theorem outcome_eq {α : Type} {a : Action α} {r : Except Error α} (h : (outcome a e).1 = r) :
    outcome a e = (r, (outcome a e).2) :=
  Prod.ext h rfl

theorem source?_eq_none_iff {name : String} : e.source? name = none ↔ e.scripts.contains name = false := by
  simp [source?, Registry.contains]

theorem outcome_add (s : Script) (e : Engine) :
    outcome (add s) e =
      if e.scripts.contains s.name then (.error (.ofFailure (.alreadyLoaded s.name)), e)
      else (.ok (), { e with scripts := e.scripts.insert s.name s }) := by
  have hadd : outcome (add s) e = outcome (if e.scripts.contains s.name then do
      fail (.alreadyLoaded s.name)
      modifyThe Engine fun e => { e with scripts := e.scripts.insert s.name s }
    else modifyThe Engine fun e => { e with scripts := e.scripts.insert s.name s } : Action Unit) e := rfl
  rw [hadd]
  split <;> rfl

theorem Joined.nil (e : Engine) : e.Joined [] e :=
  ⟨List.nodup_nil, fun _ h => absurd h List.not_mem_nil, fun _ h => absurd h List.not_mem_nil,
    fun _ _ => rfl, rfl⟩

/-- A script joins in front of others. -/
theorem Joined.cons (hfree : e.source? s.name = none)
    (h : Joined { e with scripts := e.scripts.insert s.name s } l e') : e.Joined (s :: l) e' := by
  -- The first script is there when the others join, so none of them has its name.
  have hname : s.name ∉ l.map (·.name) := by
    intro hmem
    obtain ⟨x, hx, heq⟩ := List.mem_map.mp hmem
    have hnone := h.free x hx
    rw [source?_insert, if_pos heq] at hnone
    cases hnone
  refine ⟨List.nodup_cons.mpr ⟨hname, h.nodup⟩, ?_, ?_, ?_, h.current⟩
  · intro x hx
    rcases List.mem_cons.mp hx with rfl | hx
    · exact hfree
    · have hne : x.name ≠ s.name := fun heq => hname (heq ▸ List.mem_map_of_mem hx)
      have hnone := h.free x hx
      rwa [source?_insert, if_neg hne] at hnone
  · intro x hx
    rcases List.mem_cons.mp hx with rfl | hx
    · rw [source?, h.others _ hname, Registry.get?_insert_self]
      rfl
    · exact h.present x hx
  · intro name hmem
    rw [List.map_cons, List.mem_cons, not_or] at hmem
    rw [h.others name hmem.2, Registry.get?_insert_ne _ _ hmem.1]

/-- Scripts that are registered one after the other all join, or those in front of the first one whose name
is taken do. -/
theorem addAll_joined (l : List Script) (e : Engine) :
    (∃ e', outcome (addAll l) e = (.ok (), e') ∧ e.Joined l e') ∨
      ∃ registered refused rest e', l = registered ++ refused :: rest ∧
        outcome (addAll l) e = (.error (.ofFailure (.alreadyLoaded refused.name)), e') ∧
        e.Joined registered e' ∧ (registered = [] → e' = e) ∧
        (e.source? refused.name ≠ none ∨ refused.name ∈ registered.map (·.name)) := by
  induction l generalizing e with
  | nil => exact .inl ⟨e, rfl, .nil e⟩
  | cons s l ih =>
    rw [addAll, outcome_bind, outcome_add]
    cases hs : e.scripts.contains s.name with
    | true =>
      refine .inr ⟨[], s, l, e, rfl, rfl, .nil e, fun _ => rfl, .inl fun hnone => ?_⟩
      rw [source?_eq_none_iff, hs] at hnone
      cases hnone
    | false =>
      have hfree := source?_eq_none_iff.mpr hs
      rcases ih { e with scripts := e.scripts.insert s.name s } with
        ⟨e', ho, hjoined⟩ | ⟨registered, refused, rest, e', rfl, ho, hjoined, -, htaken⟩
      · exact .inl ⟨e', ho, hjoined.cons hfree⟩
      · refine .inr ⟨s :: registered, refused, rest, e', rfl, ho, hjoined.cons hfree, (by cases ·), ?_⟩
        rw [source?_insert] at htaken
        by_cases hname : refused.name = s.name
        · exact .inr (hname ▸ List.mem_cons_self)
        · rw [if_neg hname] at htaken
          exact htaken.imp_right (List.mem_cons_of_mem _)

theorem Joined.eq_nil_of_sameLoaded (h : e.Joined l e') (hsame : e.SameLoaded e') : l = [] := by
  cases l with
  | nil => rfl
  | cons s l =>
    have hbehind := h.present s List.mem_cons_self
    rw [source?, hsame.scripts] at hbehind
    have hbefore := h.free s List.mem_cons_self
    rw [source?, hbehind] at hbefore
    cases hbefore

theorem leaves_of_load (h : outcome (load s) e = (.error err, e')) : e.Leaves s err e' := by
  unfold load at h
  cases hinner : EmbeddedScript.ofLines s.name s.lines with
  | error err' =>
    rw [hinner] at h
    cases h
    exact .malformed hinner (.refl e)
  | ok inner =>
    rw [hinner] at h
    have hload : outcome (addAll (s.withInner inner) >>= fun _ =>
        modifyThe Engine fun e => { e with current := e.current.or (some s.name) }) e =
          (.error err, e') := by
      rw [Script.withInner, addAll, bind_assoc]
      exact h
    rw [outcome_bind] at hload
    rcases addAll_joined (s.withInner inner) e with
      ⟨e₁, ho, -⟩ | ⟨registered, refused, rest, e₁, hsplit, ho, hjoined, hnone, htaken⟩
    · rw [ho] at hload
      cases hload
    · rw [ho] at hload
      cases hload
      refine .taken inner registered refused rest hinner hsplit rfl htaken hjoined
        ⟨hjoined.eq_nil_of_sameLoaded, fun hnil => ?_⟩
      rw [hnone hnil]
      exact .refl e

theorem leaves_of_loadFile {path : String} (h : outcome (loadFile path) e = (.error err, e')) :
    e.LeavesOfFile path err e' := by
  unfold loadFile at h
  cases hstem : Path.stem? path with
  | none =>
    rw [hstem] at h
    cases h
    exact .unnamed hstem rfl (.refl e)
  | some name =>
    rw [hstem] at h
    dsimp only at h
    have hread := (WorldOnly.demand path (.readLines path)).sameLoaded e
    rw [outcome_bind] at h
    cases ho : outcome (FileAction.demand path (.readLines path) : Action (List String)) e with
    | mk r e₁ =>
      rw [ho] at h hread
      cases r with
      | error err' =>
        cases h
        exact .unread (by rw [ho]) hread
      | ok lines =>
        dsimp only at h
        rw [outcome_bind] at h
        refine .read name lines e₁ hstem ho hread (leaves_of_load ?_)
        cases hload : outcome (load { name, lines, path := some path }) e₁ with
        | mk r e₂ =>
          rw [hload] at h
          cases r with
          | error err' =>
            cases h
            rfl
          | ok _ => cases h

theorem firstFile?_ok (paths : List String) (e : Engine) :
    ∃ path, (outcome (firstFile? paths) e).1 = .ok path := by
  induction paths generalizing e with
  | nil => exact ⟨none, rfl⟩
  | cons path paths ih =>
    rw [firstFile?, outcome_bind]
    cases ho : outcome (FileAction.asked path FileTree.isFile : Action Bool) e with
    | mk r e₁ =>
      cases r with
      | error err => cases ho
      | ok found =>
        cases found with
        | true => exact ⟨some path, rfl⟩
        | false => exact ih e₁

theorem leaves_of_resolve {site : CallSite} {name : String}
    (h : outcome (resolve site name) e = (.error err, e')) : e.LeavesOfCall site name err e' := by
  unfold resolve at h
  rw [outcome_bind, outcome_getThe] at h
  dsimp only at h
  split at h
  · cases h
  · split at h
    · cases h
    · have hfile := (WorldOnly.firstFile? (candidates e site name)).sameLoaded e
      rw [outcome_bind] at h
      cases ho : outcome (firstFile? (candidates e site name)) e with
      | mk r e₁ =>
        rw [ho] at h hfile
        cases r with
        | error err' =>
          have hok := firstFile?_ok (candidates e site name) e
          rw [ho] at hok
          exact absurd hok.choose_spec (by simp)
        | ok path =>
          cases path with
          | none =>
            cases h
            exact .unknown rfl hfile
          | some path => exact .file path e₁ ho hfile (leaves_of_loadFile h)

/-- A call whose script cannot be loaded fails in the same way. -/
theorem enter_error_of_resolve {site : CallSite} {name : String} (ps : List (String × String))
    (hidle : e.calls.any (·.script == name) = false)
    (h : outcome (resolve site name) e = (.error err, e')) :
    outcome (enter site name ps) e = (.error err, e') := by
  rw [enter, outcome_bind, outcome_ensureIdle, hidle]
  simp only [Bool.false_eq_true, if_false]
  rw [outcome_bind, h]

/-- A load that fails leaves the scripts in front of a taken name behind: if the name is that of the loaded
script there are none, and if it is that of a script inside it there are. It never chooses a script. -/
theorem leaves_of_failed_load (e e' : Engine) (err : Error) :
    (∀ s, outcome (load s) e = (.error err, e') → e.Leaves s err e') ∧
      (∀ path, outcome (loadFile path) e = (.error err, e') → e.LeavesOfFile path err e') ∧
      ∀ site name ps, e.calls.any (·.script == name) = false →
        outcome (resolve site name) e = (.error err, e') →
        outcome (enter site name ps) e = (.error err, e') ∧ e.LeavesOfCall site name err e' :=
  ⟨fun _ h => leaves_of_load h, fun _ h => leaves_of_loadFile h, fun _ _ ps hidle h =>
    ⟨enter_error_of_resolve ps hidle h, leaves_of_resolve h⟩⟩

/-- A script that first holds one of its own name is refused when it is there itself. -/
theorem load_of_own_name {i : EmbeddedScript} {rest : List EmbeddedScript}
    (hinner : EmbeddedScript.ofLines s.name s.lines = .ok (i :: rest)) (hname : i.name = s.name)
    (hfree : e.source? s.name = none) :
    outcome (load s) e = (.error (.ofFailure (.alreadyLoaded s.name)),
      { e with scripts := e.scripts.insert s.name s }) := by
  have htaken : (e.scripts.insert s.name s).contains i.name = true := by
    rw [hname, Registry.contains, Registry.get?_insert_self]
    rfl
  unfold load
  rw [hinner]
  dsimp only
  rw [outcome_bind, outcome_add, source?_eq_none_iff.mp hfree, if_neg Bool.false_ne_true]
  dsimp only
  rw [outcome_bind, List.map_cons, addAll, outcome_bind, outcome_add, htaken, if_pos rfl, hname]

theorem outcome_demand_readLines {path text : String}
    (hread : e.world.files.read e.world.directory path = .ok text.toUTF8) :
    outcome (FileAction.demand path (.readLines path) : Action (List String)) e =
      (.ok (Files.linesOfText text.toList), { e with world := e.world.visit path }) := by
  have hlines : outcome (FileAction.readLines path) e.world =
      (.ok (Files.linesOfText text.toList), e.world.visit path) := by
    rw [FileAction.outcome_readLines, hread, Except.bind, Files.lines_toUTF8]
  have hasked : outcome (FileAction.outcome (FileAction.readLines path) : Action _) e =
      (.ok (outcome (FileAction.readLines path) e.world).1,
        { e with world := (outcome (FileAction.readLines path) e.world).2 }) := rfl
  rw [FileAction.demand, outcome_bind, hasked, hlines]
  rfl

/-- A file that first holds a script of the file's own name is refused. -/
theorem loadFile_of_own_name (path : String) {name text : String} {i : EmbeddedScript}
    {rest : List EmbeddedScript} (hstem : Path.stem? path = some name)
    (hread : e.world.files.read e.world.directory path = .ok text.toUTF8)
    (hinner : EmbeddedScript.ofLines name (Files.linesOfText text.toList) = .ok (i :: rest))
    (hname : i.name = name) (hfree : e.source? name = none) :
    (outcome (loadFile path) e).1 = .error (.ofFailure (.alreadyLoaded name)) := by
  unfold loadFile
  rw [hstem]
  dsimp only
  rw [outcome_bind, outcome_demand_readLines hread]
  dsimp only
  rw [outcome_bind, load_of_own_name hinner hname hfree]

/-- An engine beside whose working directory there is a file with a script that holds one of its own name. -/
def withTwin : Engine :=
  { config := { scriptExtension := "s" }
    world := { files := { entries := [(["b.s"], .file "script b\nendscript".toUTF8)] } } }

/-- The script inside the one that holds one of its own name. -/
theorem inner_of_twin : EmbeddedScript.ofLines "b" ["script b", "endscript"] = .ok [⟨"b", 1, []⟩] := by
  cbv

theorem leaves_of_failed_load_twin :
    let s : Script := { name := "b", lines := ["script b", "endscript"] }
    Leaves {} s (.ofFailure (.alreadyLoaded "b")) (outcome (load s) {}).2 ∧
      LeavesOfFile withTwin "b.s" (.ofFailure (.alreadyLoaded "b"))
        (outcome (loadFile "b.s") withTwin).2 ∧
      outcome (enter ⟨1, none⟩ "b" []) withTwin =
        (.error (.ofFailure (.alreadyLoaded "b")), (outcome (resolve ⟨1, none⟩ "b") withTwin).2) ∧
      LeavesOfCall withTwin ⟨1, none⟩ "b" (.ofFailure (.alreadyLoaded "b"))
        (outcome (resolve ⟨1, none⟩ "b") withTwin).2 := by
  have hload : (outcome (load { name := "b", lines := ["script b", "endscript"] }) {}).1 =
      .error (.ofFailure (.alreadyLoaded "b")) := by
    rw [load_of_own_name inner_of_twin rfl rfl]
  have hlines : Files.linesOfText "script b\nendscript".toList = ["script b", "endscript"] := by cbv
  have hfile : (outcome (loadFile "b.s") withTwin).1 = .error (.ofFailure (.alreadyLoaded "b")) :=
    loadFile_of_own_name _ (by cbv) rfl (hlines ▸ inner_of_twin) rfl rfl
  have hcandidates : candidates withTwin ⟨1, none⟩ "b" = ["/b.s", "/b"] := by cbv
  have hcall : (outcome (resolve ⟨1, none⟩ "b") withTwin).1 =
      .error (.ofFailure (.alreadyLoaded "b")) := by
    unfold resolve
    rw [outcome_bind, outcome_getThe]
    dsimp only
    rw [hcandidates]
    exact loadFile_of_own_name "/b.s" (e := { withTwin with world := withTwin.world.visit "/b.s" })
      (by cbv) rfl (hlines ▸ inner_of_twin) rfl rfl
  have hentered := (leaves_of_failed_load withTwin _ _).2.2 ⟨1, none⟩ "b" [] rfl (outcome_eq hcall)
  exact ⟨(leaves_of_failed_load {} _ _).1 _ (outcome_eq hload),
    (leaves_of_failed_load withTwin _ _).2.1 _ (outcome_eq hfile), hentered⟩

/-- A load that fails can change which scripts are loaded. -/
theorem not_sameLoaded_of_failed_load :
    ¬ ∀ (e e' : Engine) (s : Script) (err : Error), outcome (load s) e = (.error err, e') →
      (∀ name, e'.source? name = e.source? name) ∧ e'.current = e.current := by
  intro h
  have hload := load_of_own_name (e := {}) (s := { name := "b", lines := ["script b", "endscript"] })
    inner_of_twin rfl rfl
  cases (h _ _ _ _ hload).1 "b"

end Engine

end LineScript
