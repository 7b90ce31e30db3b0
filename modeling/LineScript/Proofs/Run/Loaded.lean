import LineScript.Proofs.Outcome
import LineScript.Run.Engine

/-! The programs that an engine keeps are those of its scripts, whatever scripts are loaded, entered and
left. -/
namespace LineScript

namespace Registry

variable {α : Type}

/-- Whether all values have a property. -/
def All (p : α → Prop) (r : Registry α) : Prop :=
  ∀ x ∈ r.entries, p x.2

variable {p : α → Prop} {r : Registry α}

theorem mem_place {x : String × α} {name : String} {value : α} {entries : List (String × α)}
    (h : x ∈ place name value entries) : x = (name, value) ∨ x ∈ entries := by
  induction entries with
  | nil => simpa [place] using h
  | cons y entries ih =>
    obtain ⟨n, v⟩ := y
    unfold place at h
    split at h
    · simpa using h
    · split at h
      · rcases List.mem_cons.mp h with rfl | h
        · exact .inl rfl
        · exact .inr (List.mem_cons_of_mem _ h)
      · rcases List.mem_cons.mp h with rfl | h
        · exact .inr List.mem_cons_self
        · exact (ih h).imp_right (List.mem_cons_of_mem _)

theorem All.insert (hr : r.All p) (name : String) {value : α} (hv : p value) :
    (r.insert name value).All p := by
  intro x hx
  rcases mem_place hx with rfl | hx
  · exact hv
  · exact hr x hx

theorem All.erase (hr : r.All p) (name : String) : (r.erase name).All p :=
  fun x hx => hr x (List.mem_filter.mp hx).1

theorem mem_of_lookup {name : String} {v : α} {entries : List (String × α)}
    (h : entries.lookup name = some v) : (name, v) ∈ entries := by
  obtain ⟨before, after, rfl, -⟩ := List.lookup_eq_some_iff.mp h
  exact List.mem_append_right _ List.mem_cons_self

theorem All.get? (hr : r.All p) {name : String} {v : α} (h : r.get? name = some v) : p v :=
  hr _ (mem_of_lookup h)

end Registry

/-- Whether the program that a script keeps, if it does, is its own. -/
def Script.Genuine (s : Script) : Prop :=
  ∀ p, s.program = some p → Program.check s.name s.lines s.offset = .ok p

/-- Whether loops are not limited and all loaded scripts keep their own programs. -/
structure Engine.Sound (e : Engine) : Prop where
  unlimited : e.config.loopLimit = none
  genuine : e.scripts.All Script.Genuine

namespace Engine

/-- Whether some work keeps engines sound, and what is true of its result. -/
def Keeps {α : Type} (a : Action α) (post : α → Prop) : Prop :=
  ∀ e, e.Sound → (outcome a e).2.Sound ∧ ∀ x, (outcome a e).1 = .ok x → post x

namespace Keeps

variable {α β : Type} {post : α → Prop} {post' : β → Prop}

theorem pure {a : α} (h : post a) : Keeps (Pure.pure a) post :=
  Preserves.pure h

theorem throw (err : Error) : Keeps (MonadExcept.throw err) post :=
  Preserves.throw err

theorem bind {a : Action α} {f : α → Action β} (ha : Keeps a post)
    (hf : ∀ x, post x → Keeps (f x) post') : Keeps (a >>= f) post' :=
  Preserves.bind ha hf

theorem tryCatch {a : Action α} {f : Error → Action α} (ha : Keeps a post)
    (hf : ∀ err, Keeps (f err) post) : Keeps (MonadExcept.tryCatch a f) post :=
  Preserves.tryCatch ha hf

theorem modify {f : Engine → Engine} (h : ∀ e, e.Sound → (f e).Sound) :
    Keeps (modifyThe Engine f) fun _ => True :=
  fun e he => ⟨h e he, fun _ _ => trivial⟩

theorem set {e : Engine} (he : e.Sound) : Keeps (MonadStateOf.set e : Action PUnit) fun _ => True :=
  fun _ _ => ⟨he, fun _ _ => trivial⟩

/-- Looking at the engine. -/
theorem get {f : Engine → Action β} (hf : ∀ e, e.Sound → Keeps (f e) post') :
    Keeps (getThe Engine >>= f) post' :=
  fun e he => hf e he e he

theorem ite {c : Prop} [Decidable c] {a b : Action α} (ha : Keeps a post) (hb : Keeps b post) :
    Keeps (if c then a else b) post :=
  Preserves.ite ha hb

theorem modifyWorld (f : World → α × World) :
    Keeps (MonadStateOf.modifyGet f : Action α) fun _ => True :=
  fun _ he => ⟨⟨he.unlimited, he.genuine⟩, fun _ _ => trivial⟩

theorem getWorld : Keeps (getThe World : Action World) fun _ => True :=
  fun _ he => ⟨he, fun _ _ => trivial⟩

end Keeps

theorem Sound.insert {e : Engine} (he : e.Sound) {s : Script} (hs : s.Genuine) (name : String) :
    Sound { e with scripts := e.scripts.insert name s } :=
  ⟨he.unlimited, he.genuine.insert name hs⟩

theorem Sound.leave {e : Engine} (he : e.Sound) {s : Script} (hs : s.Genuine) : (e.leave s).Sound :=
  ⟨he.unlimited, he.genuine.insert s.name hs⟩

/-- A script that keeps no program keeps no other one's. -/
theorem genuine_of_unchecked {s : Script} (h : s.program = none) : s.Genuine := by
  intro p hp
  rw [h] at hp
  cases hp

theorem keeps_fail {α : Type} {post : α → Prop} (f : Failure) : Keeps (fail f : Action α) post :=
  .throw _

theorem keeps_note (level : Level) (part : Part) (text : String) :
    Keeps (note level part text) fun _ => True :=
  .modify fun _ he => ⟨he.unlimited, he.genuine⟩

theorem keeps_add {s : Script} (hs : s.Genuine) : Keeps (add s) fun _ => True := by
  have hinsert : Keeps (modifyThe Engine fun e => { e with scripts := e.scripts.insert s.name s })
      fun _ => True := .modify fun e he => he.insert hs s.name
  exact .get fun e _ => .ite ((keeps_fail _).bind fun _ (_ : True) => hinsert) hinsert

theorem keeps_addAll {l : List Script} (h : ∀ s ∈ l, s.Genuine) :
    Keeps (addAll l) fun _ => True := by
  induction l with
  | nil => exact .pure trivial
  | cons s l ih =>
    refine (keeps_add (h s List.mem_cons_self)).bind fun _ _ => ?_
    exact ih fun s hs => h s (List.mem_cons_of_mem _ hs)

/-- Loading a script keeps an engine sound. -/
theorem keeps_load {s : Script} (hs : s.Genuine) : Keeps (load s) fun _ => True := by
  unfold load
  split
  · exact .throw _
  · refine (keeps_add hs).bind fun _ _ => (keeps_addAll fun s hs => ?_).bind fun _ _ => ?_
    · obtain ⟨inner, -, rfl⟩ := List.mem_map.mp hs
      exact genuine_of_unchecked rfl
    · exact .modify fun _ he => ⟨he.unlimited, he.genuine⟩

theorem keeps_demand {α : Type} (path : String) (a : FileAction α) :
    Keeps (FileAction.demand path a) fun _ => True := by
  refine (Keeps.modifyWorld _).bind fun r _ => ?_
  cases r with
  | ok x => exact .pure trivial
  | error e => exact .throw _

theorem keeps_asked (path : String) (f : FileTree → List String → String → Bool) :
    Keeps (FileAction.asked path f) fun _ => True :=
  (Keeps.modifyWorld _).bind fun _ _ => Keeps.getWorld.bind fun _ _ => .pure trivial

theorem keeps_loadFile (path : String) : Keeps (loadFile path) fun _ => True := by
  unfold loadFile
  split
  · exact keeps_fail _
  · refine (keeps_demand _ _).bind fun lines _ => ?_
    refine (keeps_load (genuine_of_unchecked rfl)).bind fun _ _ => ?_
    exact (keeps_note _ _ _).bind fun _ _ => .pure trivial

theorem keeps_firstFile? (paths : List String) : Keeps (firstFile? paths) fun _ => True := by
  induction paths with
  | nil => exact .pure trivial
  | cons path paths ih =>
    exact (keeps_asked _ _).bind fun _ _ => .ite (.pure trivial) ih

theorem keeps_resolve (site : CallSite) (name : String) : Keeps (resolve site name) fun _ => True := by
  refine .get fun e _ => .ite (.pure trivial) ?_
  split
  · exact .pure trivial
  · refine (keeps_firstFile? _).bind fun path _ => ?_
    cases path with
    | some path => exact keeps_loadFile path
    | none => exact keeps_fail _

theorem keeps_ensureIdle (name : String) : Keeps (ensureIdle name) fun _ => True :=
  .get fun _ _ => .ite (keeps_fail _) (.pure trivial)

theorem keeps_push (name : String) (line : Nat) : Keeps (push name line) fun _ => True :=
  (keeps_ensureIdle name).bind fun _ _ => .modify fun _ he => ⟨he.unlimited, he.genuine⟩

theorem keeps_pop : Keeps pop fun _ => True := by
  refine .get fun e he => ?_
  split
  · exact .pure trivial
  · refine Keeps.bind (Keeps.set ?_) fun _ _ => .pure trivial
    exact ⟨he.unlimited, he.genuine⟩

theorem keeps_takeOut (name : String) : Keeps (takeOut name) Script.Genuine := by
  refine .get fun e he => ?_
  split
  · exact keeps_fail _
  · rename_i s hs
    refine Keeps.bind (Keeps.set ?_) fun _ _ => .pure (he.genuine.get? hs)
    exact ⟨he.unlimited, he.genuine.erase name⟩

theorem keeps_checked {s : Script} (hs : s.Genuine) :
    Keeps (checked s) fun s => ∃ p, s.program = some p ∧ s.Genuine := by
  unfold checked
  split
  · rename_i hsome
    obtain ⟨p, hp⟩ := Option.isSome_iff_exists.mp hsome
    exact .pure ⟨p, hp, hs⟩
  · split
    · exact .throw _
    · rename_i p hp
      refine (keeps_note _ _ _).bind fun _ _ => .pure ⟨p, rfl, fun p' hp' => ?_⟩
      cases hp'
      exact hp

/-- What is known of a script that starts: it keeps the program that runs, which is its own, and is at its
first line. -/
structure Started (a : Activation) : Prop where
  program : a.script.program = some a.program
  genuine : a.script.Genuine
  index : a.script.index = 0

theorem keeps_activate {s : Script} (hs : s.Genuine) : Keeps (activate s) Started := by
  refine (keeps_checked hs).bind fun s hs => ?_
  obtain ⟨p, hp, hgenuine⟩ := hs
  rw [hp]
  exact (keeps_note _ _ _).bind fun _ _ => .pure ⟨hp, hgenuine, rfl⟩

theorem keeps_setVariable (name value : String) : Keeps (setVariable name value) fun _ => True := by
  have hset : Keeps (modifyThe Engine fun e => { e with bindings := e.bindings.insert name value })
      fun _ => True := .modify fun _ he => ⟨he.unlimited, he.genuine⟩
  have hglobal := Keeps.ite (c := (!isGlobalName name) = true)
    ((Keeps.throw (.ofFailure (.notGlobal name))).bind fun (_ : PUnit) (_ : True) => hset) hset
  exact .ite ((Keeps.throw _).bind fun _ (_ : True) => hglobal) hglobal

theorem handOver_global {name value : String} (h : isGlobalName name = true) (s : Script)
    (ps : List (String × String)) (e : Engine) :
    handOver s ((name, value) :: ps) e =
      match outcome (setVariable name value) e with
      | (.ok (), e') => handOver s ps e'
      | (.error err, e') => ((s, some err), e') := by
  have hbind {γ δ : Type} (m : StateM Engine γ) (f : γ → StateM Engine δ) :
      (m >>= f) e = f (m e).1 (m e).2 := rfl
  rw [handOver, if_pos h, hbind]
  cases ho : outcome (setVariable name value) e with
  | mk r e' =>
    have hrun : (setVariable name value).run e = (r, e') := ho
    rw [hrun]
    cases r <;> rfl

theorem handOver_local {name value : String} (h : ¬ isGlobalName name = true) (s : Script)
    (ps : List (String × String)) (e : Engine) :
    handOver s ((name, value) :: ps) e = handOver (s.setVariable name value) ps e := by
  rw [handOver, if_neg h]

/-- Parameters change the variables of a script only. -/
theorem sound_handOver {s : Script} (hs : s.Genuine) (ps : List (String × String)) {e : Engine}
    (he : e.Sound) : (handOver s ps e).2.Sound ∧ (handOver s ps e).1.1.Genuine := by
  induction ps generalizing s e with
  | nil => exact ⟨he, hs⟩
  | cons p ps ih =>
    obtain ⟨name, value⟩ := p
    by_cases hglobal : isGlobalName name = true
    · have hset := (keeps_setVariable name value e he).1
      rw [handOver_global hglobal]
      cases h : outcome (setVariable name value) e with
      | mk r e' =>
        rw [h] at hset
        cases r with
        | ok u => exact ih hs hset
        | error err => exact ⟨hset, hs⟩
    · rw [handOver_local hglobal]
      exact ih (s := s.setVariable name value) hs he

theorem keeps_handOver {s : Script} (hs : s.Genuine) (ps : List (String × String)) :
    Keeps (handOver s ps : StateM Engine _) fun r => r.1.Genuine := by
  intro e he
  obtain ⟨hsound, hgenuine⟩ := sound_handOver hs ps he
  refine ⟨hsound, fun r hr => ?_⟩
  cases hr
  exact hgenuine

/-- What is entered keeps its own program, and all loaded scripts still do. -/
theorem keeps_enter (site : CallSite) (name : String) (parameters : List (String × String)) :
    Keeps (enter site name parameters) Started := by
  have hundo : ∀ {α : Type} {post : α → Prop} (e : Error), Keeps (do
      discard pop
      throw e) post :=
    fun e => (keeps_pop.bind fun _ _ => .pure trivial).bind fun _ (_ : True) => .throw e
  refine (keeps_ensureIdle name).bind fun _ _ => (keeps_resolve site name).bind fun name _ => ?_
  refine (keeps_push name site.line).bind fun _ _ => ?_
  refine ((keeps_takeOut name).tryCatch hundo).bind fun s hs => ?_
  refine (keeps_handOver hs parameters).bind fun r hr => ?_
  obtain ⟨s, failure⟩ := r
  have hback : ∀ {post : Activation → Prop} (e : Error), Keeps (do
      modifyThe Engine (leave s)
      throw e) post :=
    fun e => (Keeps.modify fun _ he => he.leave hr).bind fun _ _ => .throw e
  cases failure with
  | some e => exact hback e
  | none => exact (keeps_activate hr).tryCatch hback

end Engine

end LineScript
