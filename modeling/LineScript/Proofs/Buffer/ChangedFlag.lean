import LineScript.Proofs.Buffer.CountLimit
import LineScript.Proofs.Buffer.Saved

/-! When a buffer counts as changed: after every edit, until its lines are read anew or written, or someone says that
they are not changed. What reports that nothing was done has done nothing. -/
namespace LineScript.LineBuffer

open Buffer (Position)
open Search (Matcher Flags)

/-- All that can be done with a buffer. -/
inductive Action where
  | operation (op : Operation)
  /-- A search for anything, with any flags. -/
  | look (m : Matcher) (f : Flags) (advance : Bool)
  | setChanged (changed : Bool)
  | setFile (path : String)

/-- A buffer and its surroundings after an action. -/
def Action.apply (s : LineBuffer × World) : Action → LineBuffer × World
  | operation op => op.apply s
  | look m f advance => ((s.1.search m f advance).1, s.2)
  | setChanged changed => (s.1.setChanged changed, s.2)
  | setFile path => (s.1.setFile path, s.2)

/-- A buffer and its surroundings after some actions. -/
def Action.run (actions : List Action) (s : LineBuffer × World) : LineBuffer × World :=
  actions.foldl Action.apply s

/-- Reading a file that can be read. -/
inductive Action.Loads (s : LineBuffer × World) : Action → Prop
  | read {path : String} {b : LineBuffer} {w : World} :
      outcome (s.1.readFrom path : ExceptT Error (StateM World) LineBuffer) s.2 = (.ok b, w) →
      Loads s (.operation (.readFrom path))

/-- What makes a buffer count as unchanged with the lines that it has: they are written, though not added to a file,
or someone says so. -/
inductive Action.Clears (s : LineBuffer × World) : Action → Prop
  | written {path : Option String} {force : Bool} {b : LineBuffer} {w : World} :
      outcome (s.1.storeTo path false force : ExceptT Error (StateM World) (LineBuffer × Bool)) s.2 =
        (.ok (b, true), w) →
      Clears s (.operation (.storeTo path false force))
  | told : Clears s (.setChanged false)

/-- The actions whose answer is that nothing was done. -/
inductive Action.ReportsNothing (s : LineBuffer × World) : Action → Prop
  | pop : s.1.pop.2 = none → ReportsNothing s (.operation .pop)
  | shift : s.1.shift.2 = none → ReportsNothing s (.operation .shift)
  | replace {m : Matcher} {replacement : String} {o : ReplaceOptions} :
      (s.1.replace m replacement o).2 = 0 → ReportsNothing s (.operation (.replace m replacement o))
  | insert {p : Position} : ReportsNothing s (.operation (.insert p [] false))
  | delete {p q : Position} : (s.1.delete p q).2 = false → ReportsNothing s (.operation (.delete p q))
  | adapt {pattern : Matcher} {replacement : String} {anchor : Option Matcher} {above : Bool} :
      (s.1.adapt pattern replacement anchor above).2 = .unchanged →
      ReportsNothing s (.operation (.adapt pattern replacement anchor above))
  | unread {path : String} {e : Error} {w : World} :
      outcome (s.1.readFrom path : ExceptT Error (StateM World) LineBuffer) s.2 = (.error e, w) →
      ReportsNothing s (.operation (.readFrom path))
  | unwanted {path : Option String} {extend force : Bool} {b : LineBuffer} {w : World} :
      outcome (s.1.storeTo path extend force : ExceptT Error (StateM World) (LineBuffer × Bool)) s.2 =
        (.ok (b, false), w) →
      ReportsNothing s (.operation (.storeTo path extend force))
  | unwritten {path : Option String} {extend force : Bool} {e : Error} {w : World} :
      outcome (s.1.storeTo path extend force : ExceptT Error (StateM World) (LineBuffer × Bool)) s.2 =
        (.error e, w) →
      ReportsNothing s (.operation (.storeTo path extend force))

/-- Whether a buffer counts as changed, or has the lines that it had and counts as it did. -/
def Marked (b b' : LineBuffer) : Prop :=
  b'.changed = true ∨ b'.changed = b.changed ∧ b'.lines = b.lines

section
variable {b b' : LineBuffer} {w w' : World}

theorem Marked.refl (b : LineBuffer) : Marked b b :=
  .inr ⟨rfl, rfl⟩

theorem Marked.changed_of_lines (h : Marked b b') (hlines : b'.lines ≠ b.lines) : b'.changed = true := by
  rcases h with htrue | ⟨-, hsame⟩
  · exact htrue
  · exact absurd hsame hlines

theorem Marked.changed_of_changed (h : Marked b b') (hchanged : b.changed = true) : b'.changed = true := by
  rcases h with htrue | ⟨hsame, -⟩
  · exact htrue
  · exact hsame.trans hchanged

theorem Marked.trans {b'' : LineBuffer} (h : Marked b b') (h' : Marked b' b'') : Marked b b'' := by
  rcases h' with htrue | ⟨hsame, hlines⟩
  · exact .inl htrue
  · rcases h with htrue | ⟨hsame', hlines'⟩
    · exact .inl (hsame.trans htrue)
    · exact .inr ⟨hsame.trans hsame', hlines.trans hlines'⟩

/-- What the answer of a write says of the buffer. -/
theorem storeTo_answer {path : Option String} {extend force answer : Bool}
    (h : outcome (b.storeTo path extend force : ExceptT Error (StateM World) (LineBuffer × Bool)) w =
      (.ok (b', answer), w')) : b' = if answer then b.stored extend else b := by
  rw [outcome_storeTo] at h
  split at h
  · cases h
    rfl
  · split at h
    · cases h
    · split at h
      · cases h
        rfl
      · cases h

theorem pop_of_none (h : b.pop.2 = none) : b.pop.1 = b := by
  unfold pop at h ⊢
  split at h
  · cases h
  · rfl

theorem shift_of_none (h : b.shift.2 = none) : b.shift.1 = b := by
  unfold shift at h ⊢
  split at h
  · rfl
  · cases h

theorem delete_of_false {p q : Position} (h : (b.delete p q).2 = false) : (b.delete p q).1 = b := by
  rw [delete_eq] at h ⊢
  split_ifs at h ⊢ with hsame
  · rfl

theorem adapt_of_unchanged {pattern : Matcher} {replacement : String} {anchor : Option Matcher} {above : Bool}
    (h : (b.adapt pattern replacement anchor above).2 = .unchanged) :
    (b.adapt pattern replacement anchor above).1 = b := by
  unfold adapt at h ⊢
  split at h
  · split_ifs at h ⊢
    · rfl
  · split at h
    · cases h
    · cases h

end

variable {s : LineBuffer × World} {r : Action}

/-- What reports that nothing was done leaves everything. -/
theorem Action.ReportsNothing.apply (h : r.ReportsNothing s) : (r.apply s).1 = s.1 := by
  cases h with
  | pop hanswer => exact pop_of_none hanswer
  | shift hanswer => exact shift_of_none hanswer
  | replace hanswer => exact replace_of_zero hanswer
  | insert => rfl
  | delete hanswer => exact delete_of_false hanswer
  | adapt hanswer => exact adapt_of_unchanged hanswer
  | @unread path e w hfailed =>
    show (settled s.1 id (outcome (s.1.readFrom path) s.2)).1 = s.1
    rw [hfailed]
    rfl
  | @unwanted path extend force b w hanswer =>
    show (settled s.1 (·.1) (outcome (s.1.storeTo path extend force) s.2)).1 = s.1
    rw [hanswer]
    exact storeTo_answer hanswer
  | @unwritten path extend force e w hfailed =>
    show (settled s.1 (·.1) (outcome (s.1.storeTo path extend force) s.2)).1 = s.1
    rw [hfailed]
    rfl

theorem Action.ReportsNothing.marked (h : r.ReportsNothing s) : Marked s.1 (r.apply s).1 := by
  rw [h.apply]
  exact .refl s.1

/-- An action reads a file, or it makes the buffer count as unchanged with its lines, or it marks every edit. -/
theorem Action.apply_cases (s : LineBuffer × World) (r : Action) :
    r.Loads s ∨ (r.Clears s ∧ (r.apply s).1.lines = s.1.lines) ∨ Marked s.1 (r.apply s).1 := by
  cases r with
  | look m f advance => exact .inr (.inr (Edited.search s.1 m f advance).2)
  | setFile path =>
    have hmarked : Marked s.1 (s.1.setFile path) := .inr ⟨rfl, rfl⟩
    exact .inr (.inr hmarked)
  | setChanged changed =>
    cases changed with
    | false => exact .inr (.inl ⟨.told, rfl⟩)
    | true => exact .inr (.inr (.inl rfl))
  | operation op =>
    rcases op.apply_cases s with ⟨hedited, -, -⟩ | ⟨path, rfl⟩ | ⟨path, extend, force, rfl⟩
    · exact .inr (.inr hedited.2)
    · cases hread : outcome (s.1.readFrom path : ExceptT Error (StateM World) LineBuffer) s.2 with
      | mk answer w =>
        cases answer with
        | ok b => exact .inl (.read hread)
        | error e => exact .inr (.inr (ReportsNothing.unread hread).marked)
    · cases hstore :
          outcome (s.1.storeTo path extend force : ExceptT Error (StateM World) (LineBuffer × Bool)) s.2 with
      | mk answer w =>
        match answer, hstore with
        | .error e, hstore => exact .inr (.inr (ReportsNothing.unwritten hstore).marked)
        | .ok (b, false), hstore => exact .inr (.inr (ReportsNothing.unwanted hstore).marked)
        | .ok (b, true), hstore =>
          have happly : (Action.apply s (.operation (.storeTo path extend force))).1 = s.1.stored extend := by
            show (settled s.1 (·.1) (outcome (s.1.storeTo path extend force) s.2)).1 = _
            rw [hstore]
            exact storeTo_answer hstore
          rw [happly]
          cases extend with
          | false => exact .inr (.inl ⟨.written hstore, stored_lines s.1 false⟩)
          | true => exact .inr (.inr (.refl s.1))

/-- Whoever does nothing that reads lines or makes the buffer count as unchanged finds its lines as they were if it
counts as unchanged. -/
theorem Action.run_marked (actions : List Action) (s : LineBuffer × World)
    (h : ∀ done r, done ++ [r] <+: actions → ¬ r.Loads (run done s) ∧ ¬ r.Clears (run done s)) :
    Marked s.1 (run actions s).1 := by
  induction actions using List.reverseRecOn with
  | nil => exact .refl s.1
  | append_singleton actions r ih =>
    have hactions : actions <+: actions ++ [r] := List.prefix_append actions [r]
    have hrun := ih fun done r' hdone => h done r' (hdone.trans hactions)
    obtain ⟨hloads, hclears⟩ := h actions r (List.prefix_refl _)
    have happly : run (actions ++ [r]) s = r.apply (run actions s) := by simp [run]
    rw [happly]
    rcases r.apply_cases (run actions s) with hread | ⟨hclear, -⟩ | hmarked
    · exact absurd hread hloads
    · exact absurd hclear hclears
    · exact hrun.trans hmarked

/-- A buffer with other lines counts as changed, except when they have just been read; it goes on to count as changed
until its lines are read, or written to a file of their own, or said to be unchanged; and it is the same buffer if
the answer is that nothing was done. -/
theorem changed_flag_honest (s : LineBuffer × World) (r : Action) :
    ((r.apply s).1.lines ≠ s.1.lines → ¬ r.Loads s → (r.apply s).1.changed = true) ∧
      (s.1.changed = true → (r.apply s).1.changed = false → r.Loads s ∨ r.Clears s) ∧
      (r.ReportsNothing s → (r.apply s).1 = s.1) := by
  refine ⟨?_, ?_, fun hnothing => hnothing.apply⟩
  · intro hlines hloads
    rcases r.apply_cases s with hread | ⟨-, hsame⟩ | hmarked
    · exact absurd hread hloads
    · exact absurd hsame hlines
    · exact hmarked.changed_of_lines hlines
  · intro hchanged hunchanged
    rcases r.apply_cases s with hread | ⟨hclears, -⟩ | hmarked
    · exact .inl hread
    · exact .inr hclears
    · have htrue := hmarked.changed_of_changed hchanged
      rw [hunchanged] at htrue
      cases htrue

/-- A changed buffer that is added to, that is written to its file, and that cannot be written into a directory that
is not there. -/
theorem changed_flag_honest_written :
    let b : LineBuffer := { lines := ["b"], changed := true, file := some "f" }
    let s : LineBuffer × World := (b, { files := ⟨[(["f"], .file (Files.content ["a"]))]⟩ })
    let added : Action := .operation (.append ["c"])
    let written : Action := .operation (.storeTo none false false)
    let refused : Action := .operation (.storeTo (some "d/f") false false)
    ((added.apply s).1.lines ≠ b.lines ∧ ¬ added.Loads s ∧ (added.apply s).1.changed = true) ∧
      (b.changed = true ∧ (written.apply s).1.changed = false ∧ (written.Loads s ∨ written.Clears s)) ∧
      refused.ReportsNothing s ∧ (refused.apply s).1 = b := by
  intro b s added written refused
  have hlines : (added.apply s).1.lines ≠ b.lines := by decide
  have hloads : ¬ Action.Loads s (.operation (.append ["c"])) := nofun
  have hunchanged : (written.apply s).1.changed = false := by cbv
  have hnothing : refused.ReportsNothing s := .unwritten (outcome_storeTo b (some "d/f") false false s.2)
  exact ⟨⟨hlines, hloads, (changed_flag_honest s added).1 hlines hloads⟩,
    ⟨rfl, hunchanged, (changed_flag_honest s written).2.1 rfl hunchanged⟩,
    hnothing, (changed_flag_honest s refused).2.2 hnothing⟩

end LineScript.LineBuffer
