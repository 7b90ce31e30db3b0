import LineScript.Proofs.Buffer.Reachable
import LineScript.Proofs.Files.Requests
import Mathlib

/-! Buffers and their files: an unchanged buffer has the lines of its file, until it is written to another
file while its own one lacks its lines, or added to its own file. -/
namespace LineScript.LineBuffer

open Files (Plain)
open Search (Matcher Flags)

/-- Whether an operation on a buffer is an edit, or none: the file stays the same, and the buffer counts as
changed if its lines are others. -/
def Edited (b b' : LineBuffer) : Prop :=
  b'.file = b.file ∧ (b'.changed = true ∨ b'.changed = b.changed ∧ b'.lines = b.lines)

namespace Edited

variable {b b' : LineBuffer}

theorem refl (b : LineBuffer) : Edited b b :=
  ⟨rfl, .inr ⟨rfl, rfl⟩⟩

theorem edit (b : LineBuffer) (lines : List String) : Edited b (b.edit lines) :=
  ⟨rfl, .inl rfl⟩

theorem setLines (b : LineBuffer) (lines : List String) : Edited b (b.setLines lines) :=
  ⟨rfl, .inl rfl⟩

theorem append (b : LineBuffer) (lines : List String) : Edited b (b.append lines) :=
  ⟨rfl, .inl rfl⟩

theorem pop (b : LineBuffer) : Edited b b.pop.1 := by
  unfold LineBuffer.pop
  split
  · exact edit b _
  · exact refl b

theorem shift (b : LineBuffer) : Edited b b.shift.1 := by
  unfold LineBuffer.shift
  split
  · exact refl b
  · exact ⟨rfl, .inl rfl⟩

theorem search (b : LineBuffer) (m : Matcher) (f : Flags) (advance : Bool) :
    Edited b (b.search m f advance).1 := by
  unfold LineBuffer.search
  dsimp only
  generalize (if f.backwards then _ else _ : Buffer.Hit) = hit
  split
  · split
    · exact ⟨rfl, .inr ⟨rfl, rfl⟩⟩
    · exact ⟨rfl, .inr ⟨rfl, rfl⟩⟩
  · exact ⟨rfl, .inr ⟨rfl, rfl⟩⟩

theorem replace (b : LineBuffer) (m : Matcher) (replacement : String) (o : ReplaceOptions) :
    Edited b (b.replace m replacement o).1 := by
  unfold LineBuffer.replace
  split
  · exact refl b
  · dsimp only
    generalize replaceLines (chosen m o.filter (b.replaceRange o)) _ 0 o.count b.lines = r
    split
    · exact refl b
    · exact edit b _

theorem insert (b : LineBuffer) (p : Buffer.Position) (lines : List String) (newline : Bool) :
    Edited b (b.insert p lines newline).1 := by
  unfold LineBuffer.insert
  dsimp only
  split
  · exact refl b
  split
  · exact ⟨rfl, .inl rfl⟩
  · exact edit b _

theorem delete (b : LineBuffer) (p q : Buffer.Position) : Edited b (b.delete p q).1 := by
  rw [delete_eq]
  split
  · exact refl b
  · exact ⟨rfl, .inl rfl⟩

theorem adapt (b : LineBuffer) (pattern : Matcher) (replacement : String) (anchor : Option Matcher)
    (above : Bool) : Edited b (b.adapt pattern replacement anchor above).1 := by
  unfold LineBuffer.adapt
  split
  · split
    · exact refl b
    · exact edit b _
  · split
    · exact ⟨rfl, .inl rfl⟩
    · exact append b _

end Edited

/-- An operation is an edit of the buffer alone, or it reads or writes a file. -/
theorem Operation.apply_cases (s : LineBuffer × World) (op : Operation) :
    (Edited s.1 (op.apply s).1 ∧ (op.apply s).2 = s.2 ∧ ∀ path extend force, op ≠ .storeTo path extend force) ∨
      (∃ path, op = .readFrom path) ∨ ∃ path extend force, op = .storeTo path extend force := by
  cases op with
  | setLines lines => exact .inl ⟨.setLines _ _, rfl, nofun⟩
  | append lines => exact .inl ⟨.append _ _, rfl, nofun⟩
  | pop => exact .inl ⟨.pop _, rfl, nofun⟩
  | shift => exact .inl ⟨.shift _, rfl, nofun⟩
  | clear => exact .inl ⟨.setLines _ _, rfl, nofun⟩
  | setCursor p => exact .inl ⟨.refl _, rfl, nofun⟩
  | setMark p => exact .inl ⟨.refl _, rfl, nofun⟩
  | search x made advance => exact .inl ⟨.search _ _ _ _, rfl, nofun⟩
  | replace m replacement o => exact .inl ⟨.replace _ _ _ _, rfl, nofun⟩
  | insert p lines newline => exact .inl ⟨.insert _ _ _ _, rfl, nofun⟩
  | delete p q => exact .inl ⟨.delete _ _ _, rfl, nofun⟩
  | adapt pattern replacement anchor above => exact .inl ⟨.adapt _ _ _ _ _, rfl, nofun⟩
  | readFrom path => exact .inr (.inl ⟨path, rfl⟩)
  | storeTo path extend force => exact .inr (.inr ⟨path, extend, force, rfl⟩)

/-- Whether the file of a buffer that counts as unchanged holds its lines. -/
def Saved (s : LineBuffer × World) : Prop :=
  s.1.changed = false → ∀ f, s.1.file = some f → s.2.Holds f s.1.lines

/-- Whether the file of a buffer is there. -/
def Anchored (s : LineBuffer × World) : Prop :=
  ∀ f, s.1.file = some f → ∃ p content, s.2.files.LeadsTo s.2.directory f p content

/-- Whether lines are written, where, and the files behind that. -/
structure Operation.Writes (s : LineBuffer × World) (path : Option String) (extend force : Bool)
    (target : String) (files : FileTree) : Prop where
  wanted : (force || extend || s.1.changed) = true
  leads : path.or s.1.file = some target
  written : s.2.files.write s.2.directory target (Files.content s.1.lines) extend = .ok files

/-- The operations behind which a buffer counts as unchanged though its file does not hold its lines: lines that
the file lacks are written to another file, or lines are added to the file that holds them. -/
inductive Operation.Strays (s : LineBuffer × World) : Operation → Prop
  | aside {f target : String} {path : Option String} {force : Bool} {files : FileTree} :
      s.1.file = some f → Writes s path false force target files →
      s.2.files.locate s.2.directory target ≠ s.2.files.locate s.2.directory f →
      ¬ s.2.Holds f s.1.lines → Strays s (.storeTo path false force)
  | again {f target : String} {path : Option String} {force : Bool} {files : FileTree} :
      s.1.file = some f → Writes s path true force target files →
      s.2.files.locate s.2.directory target = s.2.files.locate s.2.directory f →
      s.1.changed = false → s.1.lines ≠ [] → Strays s (.storeTo path true force)

section
variable {s s' : LineBuffer × World} {b : LineBuffer} {w : World}

theorem Saved.edited (h : Saved s) (hedit : Edited s.1 s'.1) (hworld : s'.2 = s.2) : Saved s' := by
  intro hchanged f hf
  obtain ⟨hfile, hedited⟩ := hedit
  rw [hworld]
  rcases hedited with htrue | ⟨hsame, hlines⟩
  · exact absurd (htrue.symm.trans hchanged) (by decide)
  · rw [hlines]
    exact h (hsame.symm.trans hchanged) f (hfile.symm.trans hf)

theorem Anchored.edited (h : Anchored s) (hedit : Edited s.1 s'.1) (hworld : s'.2 = s.2) : Anchored s' := by
  intro f hf
  rw [hworld]
  exact h f (hedit.1.symm.trans hf)

/-- What writing a buffer comes to. -/
theorem outcome_storeTo (b : LineBuffer) (path : Option String) (extend force : Bool) (w : World) :
    outcome (b.storeTo path extend force : ExceptT Error (StateM World) (LineBuffer × Bool)) w =
      if !(force || extend || b.changed) then (.ok (b, false), w)
      else
        match path.or b.file with
        | none => (.error (.ofFailure .noFileName), w)
        | some target =>
          match w.files.write w.directory target (Files.content b.lines) extend with
          | .ok files => (.ok (b.stored extend, true), { w.visit target with files })
          | .error e => (.error (.ofFile target e), w.visit target) := by
  unfold storeTo
  split
  · rfl
  · cases path.or b.file with
    | none => rfl
    | some target =>
      dsimp only
      rw [outcome_bind, FileAction.outcome_demand, FileAction.outcome_writeLines]
      cases w.files.write w.directory target (Files.content b.lines) extend <;> rfl

theorem outcome_readFrom (b : LineBuffer) (path : String) (w : World) :
    outcome (b.readFrom path : ExceptT Error (StateM World) LineBuffer) w =
      match (w.files.read w.directory path).bind Files.lines with
      | .ok lines => (.ok (b.loaded lines path), w.visit path)
      | .error e => (.error (.ofFile path e), w.visit path) := by
  rw [readFrom, outcome_bind, FileAction.outcome_demand, FileAction.outcome_readLines]
  cases (w.files.read w.directory path).bind Files.lines <;> rfl

theorem Operation.apply_storeTo (s : LineBuffer × World) (path : Option String) (extend force : Bool) :
    (∃ target files, Writes s path extend force target files ∧
      (storeTo path extend force).apply s = (s.1.stored extend, { s.2.visit target with files })) ∨
    (∀ target files, ¬ Writes s path extend force target files) ∧
      ((storeTo path extend force).apply s = s ∨
        ∃ target, (storeTo path extend force).apply s = (s.1, s.2.visit target)) := by
  have happly : (storeTo path extend force).apply s =
      settled s.1 (·.1) (outcome (s.1.storeTo path extend force) s.2) := rfl
  rw [happly, outcome_storeTo]
  cases hwanted : force || extend || s.1.changed with
  | false =>
    refine .inr ⟨fun _ _ h => ?_, .inl rfl⟩
    rw [h.wanted] at hwanted
    cases hwanted
  | true =>
    rw [Bool.not_true, if_neg Bool.false_ne_true]
    cases htarget : path.or s.1.file with
    | none =>
      refine .inr ⟨fun _ _ h => ?_, .inl rfl⟩
      rw [h.leads] at htarget
      cases htarget
    | some target =>
      dsimp only
      cases hwrite : s.2.files.write s.2.directory target (Files.content s.1.lines) extend with
      | ok files => exact .inl ⟨target, files, ⟨hwanted, htarget, hwrite⟩, rfl⟩
      | error e =>
        refine .inr ⟨fun target' _ h => ?_, .inr ⟨target, rfl⟩⟩
        obtain rfl : target = target' := Option.some.inj (htarget.symm.trans h.leads)
        rw [h.written] at hwrite
        cases hwrite

theorem Operation.apply_readFrom (s : LineBuffer × World) (path : String) :
    (∃ lines, s.2.Holds path lines ∧ (readFrom path).apply s = (s.1.loaded lines path, s.2.visit path)) ∨
      (readFrom path).apply s = (s.1, s.2.visit path) := by
  have happly : (readFrom path).apply s = settled s.1 id (outcome (s.1.readFrom path) s.2) := rfl
  rw [happly, outcome_readFrom]
  cases hread : (s.2.files.read s.2.directory path).bind Files.lines with
  | ok lines => exact .inl ⟨lines, World.holds_iff.mpr hread, rfl⟩
  | error e => exact .inr rfl

theorem Saved.visit (h : Saved (b, w)) (path : String) : Saved (b, w.visit path) := by
  intro hchanged f hf
  exact World.holds_visit.mpr (h hchanged f hf)

theorem Saved.loaded {lines : List String} {path : String} (h : w.Holds path lines) :
    Saved (b.loaded lines path, w) := by
  intro _ f hf
  cases hf
  exact h

@[simp] theorem stored_file (b : LineBuffer) (extend : Bool) : (b.stored extend).file = b.file := by
  cases extend <;> rfl

@[simp] theorem stored_lines (b : LineBuffer) (extend : Bool) : (b.stored extend).lines = b.lines := by
  cases extend <;> rfl

@[simp] theorem stored_changed (b : LineBuffer) (extend : Bool) :
    (b.stored extend).changed = (extend && b.changed) := by
  cases extend <;> rfl

theorem saved_stored_iff {f : String} (hfile : b.file = some f) (extend : Bool) :
    Saved (b.stored extend, w) ↔ ((extend && b.changed) = false → w.Holds f b.lines) := by
  unfold Saved
  rw [stored_changed, stored_file, stored_lines, hfile]
  constructor
  · intro h hunchanged
    exact h hunchanged f rfl
  · rintro h hunchanged _ ⟨⟩
    exact h hunchanged

section
variable {f target : String} {path : Option String} {extend force : Bool} {files : FileTree}

theorem Operation.strays_iff (hfile : s.1.file = some f) (hwrites : Writes s path extend force target files) :
    (storeTo path extend force).Strays s ↔
      (extend = false ∧ s.2.files.locate s.2.directory target ≠ s.2.files.locate s.2.directory f ∧
        ¬ s.2.Holds f s.1.lines) ∨
      (extend = true ∧ s.2.files.locate s.2.directory target = s.2.files.locate s.2.directory f ∧
        s.1.changed = false ∧ s.1.lines ≠ []) := by
  constructor
  · intro hstrays
    cases hstrays with
    | aside hf hw hother hlost =>
      obtain rfl : _ = target := Option.some.inj (hw.leads.symm.trans hwrites.leads)
      obtain rfl := Option.some.inj (hfile.symm.trans hf)
      exact .inl ⟨rfl, hother, hlost⟩
    | again hf hw hown hchanged hsome =>
      obtain rfl : _ = target := Option.some.inj (hw.leads.symm.trans hwrites.leads)
      obtain rfl := Option.some.inj (hfile.symm.trans hf)
      exact .inr ⟨rfl, hown, hchanged, hsome⟩
  · rintro (⟨rfl, hother, hlost⟩ | ⟨rfl, hown, hchanged, hsome⟩)
    · exact .aside hfile hwrites hother hlost
    · exact .again hfile hwrites hown hchanged hsome

/-- What the own file holds when lines have been written to it. -/
theorem Operation.holds_own (hplain : ∀ line ∈ s.1.lines, Plain line) (hanchored : Anchored s)
    (hfile : s.1.file = some f) (hwrites : Writes s path extend force target files)
    (hown : s.2.files.locate s.2.directory target = s.2.files.locate s.2.directory f) :
    (extend = false → World.Holds { s.2.visit target with files } f s.1.lines) ∧
      (extend = true → s.2.Holds f s.1.lines →
        (World.Holds { s.2.visit target with files } f s.1.lines ↔ s.1.lines = [])) := by
  obtain ⟨p, c, hleads⟩ := hanchored f hfile
  have hheld : s.2.Holds f s.1.lines ↔ _ := World.holds_iff_of_leadsTo hleads
  have hholds : World.Holds { s.2.visit target with files } f s.1.lines ↔ _ :=
    World.holds_iff_of_leadsTo (hleads.write_same hwrites.written hown)
  rw [hholds]
  constructor
  · rintro rfl
    exact Files.lines_content hplain
  · rintro rfl hold
    exact Files.lines_append_content_iff (hheld.mp hold) hplain

/-- The own file holds what it did when lines have been written to another one. -/
theorem Operation.holds_other (hanchored : Anchored s) (hfile : s.1.file = some f)
    (hwrites : Writes s path extend force target files)
    (hother : s.2.files.locate s.2.directory target ≠ s.2.files.locate s.2.directory f) :
    World.Holds { s.2.visit target with files } f s.1.lines ↔ s.2.Holds f s.1.lines := by
  obtain ⟨p, c, hleads⟩ := hanchored f hfile
  have hholds : World.Holds { s.2.visit target with files } f s.1.lines ↔ _ :=
    World.holds_iff_of_leadsTo (hleads.write_other hwrites.written hother)
  rw [hholds, World.holds_iff_of_leadsTo hleads]

theorem Operation.written_saved_iff (h : Saved s) (hanchored : Anchored s)
    (hplain : ∀ line ∈ s.1.lines, Plain line) (hwrites : Writes s path extend force target files) :
    Saved (s.1.stored extend, { s.2.visit target with files }) ↔
      ¬ (storeTo path extend force).Strays s := by
  cases hfile : s.1.file with
  | none =>
    refine iff_of_true (fun _ f hf => ?_) ?_
    · rw [stored_file, hfile] at hf
      cases hf
    · rintro (⟨hf, -, -, -⟩ | ⟨hf, -, -, -, -⟩) <;> exact Option.some_ne_none _ (hf.symm.trans hfile)
  | some f =>
    have hkept : s.1.changed = false → s.2.Holds f s.1.lines := fun hchanged => h hchanged f hfile
    rw [saved_stored_iff hfile, strays_iff hfile hwrites]
    by_cases hown : s.2.files.locate s.2.directory target = s.2.files.locate s.2.directory f
    · obtain ⟨hreplaced, hextended⟩ := holds_own hplain hanchored hfile hwrites hown
      cases extend with
      | false => simp [hreplaced rfl, hown]
      | true =>
        cases hchanged : s.1.changed with
        | false => simp [hextended rfl (hkept hchanged), hown]
        | true => simp
    · rw [holds_other hanchored hfile hwrites hown]
      cases extend with
      | false => simp [hown]
      | true => simpa [hown] using hkept

end

theorem Operation.storeTo_saved_iff (h : Saved s) (hanchored : Anchored s)
    (hplain : ∀ line ∈ s.1.lines, Plain line) (path : Option String) (extend force : Bool) :
    Saved ((storeTo path extend force).apply s) ↔ ¬ (storeTo path extend force).Strays s := by
  rcases apply_storeTo s path extend force with ⟨target, files, hwrites, happly⟩ | ⟨hnot, happly⟩
  · rw [happly]
    exact written_saved_iff h hanchored hplain hwrites
  · refine iff_of_true ?_ ?_
    · rcases happly with happly | ⟨target, happly⟩
      · rw [happly]
        exact h
      · rw [happly]
        exact Saved.visit h target
    · intro hstrays
      cases hstrays with
      | aside _ hwrites => exact hnot _ _ hwrites
      | again _ hwrites => exact hnot _ _ hwrites

/-- An operation leads to an unchanged buffer with other lines than its file exactly if it strays. -/
theorem Operation.apply_saved_iff (h : Saved s) (hanchored : Anchored s)
    (hplain : ∀ line ∈ s.1.lines, Plain line) (op : Operation) : Saved (op.apply s) ↔ ¬ op.Strays s := by
  rcases op.apply_cases s with ⟨hedit, hworld, hstore⟩ | ⟨path, rfl⟩ | ⟨path, extend, force, rfl⟩
  · refine iff_of_true (h.edited hedit hworld) fun hstrays => ?_
    cases hstrays with
    | aside => exact hstore _ _ _ rfl
    | again => exact hstore _ _ _ rfl
  · refine iff_of_true ?_ nofun
    rcases apply_readFrom s path with ⟨lines, hread, happly⟩ | happly
    · rw [happly]
      exact (Saved.loaded hread).visit path
    · rw [happly]
      exact Saved.visit h path
  · exact storeTo_saved_iff h hanchored hplain path extend force

theorem Operation.apply_anchored (h : Anchored s) (op : Operation) : Anchored (op.apply s) := by
  rcases op.apply_cases s with ⟨hedit, hworld, -⟩ | ⟨path, rfl⟩ | ⟨path, extend, force, rfl⟩
  · exact h.edited hedit hworld
  · rcases apply_readFrom s path with ⟨lines, hread, happly⟩ | happly
    · rw [happly]
      intro f hf
      cases hf
      exact hread.leadsTo
    · rw [happly]
      exact h
  · rcases apply_storeTo s path extend force with
      ⟨target, files, hwrites, happly⟩ | ⟨-, happly | ⟨_, happly⟩⟩
    · rw [happly]
      intro f hf
      obtain ⟨p, c, hleads⟩ := h f ((stored_file s.1 extend).symm.trans hf)
      by_cases hown : s.2.files.locate s.2.directory target = s.2.files.locate s.2.directory f
      · exact ⟨p, _, hleads.write_same hwrites.written hown⟩
      · exact ⟨p, c, hleads.write_other hwrites.written hown⟩
    · rw [happly]
      exact h
    · rw [happly]
      exact h

theorem run_anchored (ops : List Operation) (h : Anchored s) : Anchored (run ops s) := by
  induction ops generalizing s with
  | nil => exact h
  | cons op ops ih => exact ih (op.apply_anchored h)

/-- As long as no operation strays, the file of an unchanged buffer holds its lines. -/
theorem run_saved (ops : List Operation) (h : Saved s) (hanchored : Anchored s)
    (hplain : ∀ done, done <+: ops → ∀ line ∈ (run done s).1.lines, Plain line)
    (hops : ∀ done op, done ++ [op] <+: ops → ¬ op.Strays (run done s)) : Saved (run ops s) := by
  induction ops using List.reverseRecOn with
  | nil => exact h
  | append_singleton ops op ih =>
    have hprefix : ops <+: ops ++ [op] := List.prefix_append ops [op]
    have hrun := ih (fun done hd => hplain done (hd.trans hprefix))
      fun done op' hd => hops done op' (hd.trans hprefix)
    rw [run_append]
    exact (op.apply_saved_iff hrun (run_anchored ops hanchored) (hplain ops hprefix)).mpr
      (hops ops op (List.prefix_refl _))

/-- A buffer that is written back to its file, if it has been changed, is in its file afterwards. -/
theorem Saved.storeTo (h : Saved (b, w)) (hanchored : Anchored (b, w))
    (hplain : ∀ line ∈ b.lines, Plain line) {f : String} (hfile : b.file = some f) :
    ∃ w', outcome (b.storeTo none false false : ExceptT Error (StateM World) (LineBuffer × Bool)) w =
        (.ok ({ b with changed := false }, b.changed), w') ∧ w'.Holds f b.lines := by
  rw [outcome_storeTo]
  cases hchanged : b.changed with
  | false =>
    have hsame : { b with changed := false } = b := by rw [← hchanged]
    rw [hsame]
    exact ⟨w, rfl, h hchanged f hfile⟩
  | true =>
    obtain ⟨p, c, hleads⟩ := hanchored f hfile
    obtain ⟨files, hwrite⟩ := hleads.exists_write (Files.content b.lines) false
    have hwritten := hleads.write_same hwrite rfl
    refine ⟨{ w.visit f with files }, ?_, ?_⟩
    · have htarget : none.or b.file = some f := hfile
      rw [if_neg (by decide), htarget]
      dsimp only
      rw [hwrite]
      rfl
    · exact (World.holds_iff_of_leadsTo hwritten).mpr (Files.lines_content hplain)

end

/-- Whatever is done with a fresh buffer whose lines stay plain, its file holds its lines whenever it counts
as unchanged if and only if no operation strays. Then its file holds them when it has been written back. -/
theorem reachable_saved_iff (lines : List String) (w : World) (ops : List Operation)
    (hplain : ∀ done, done <+: ops → ∀ line ∈ (run done (ofLines lines, w)).1.lines, Plain line) :
    ((∀ done, done <+: ops → Saved (run done (ofLines lines, w))) ↔
      ∀ done op, done ++ [op] <+: ops → ¬ op.Strays (run done (ofLines lines, w))) ∧
    ((∀ done op, done ++ [op] <+: ops → ¬ op.Strays (run done (ofLines lines, w))) →
      ∀ b w₁ f, run ops (ofLines lines, w) = (b, w₁) → b.file = some f →
        ∃ w₂, outcome (b.storeTo none false false : ExceptT Error (StateM World) (LineBuffer × Bool)) w₁ =
          (.ok ({ b with changed := false }, b.changed), w₂) ∧ w₂.Holds f b.lines) := by
  have hfresh : Saved (ofLines lines, w) := fun _ _ hf => absurd hf nofun
  have hanchored : Anchored (ofLines lines, w) := fun _ hf => absurd hf nofun
  have hsaved (hops : ∀ done op, done ++ [op] <+: ops → ¬ op.Strays (run done (ofLines lines, w)))
      (done : List Operation) (hd : done <+: ops) : Saved (run done (ofLines lines, w)) :=
    run_saved done hfresh hanchored (fun done' hd' => hplain done' (hd'.trans hd))
      fun done' op hd' => hops done' op (hd'.trans hd)
  refine ⟨⟨fun h done op hd => ?_, hsaved⟩, fun hops b w₁ f hrun hfile => ?_⟩
  · have hprefix : done <+: ops := (List.prefix_append done [op]).trans hd
    have hop := h (done ++ [op]) hd
    rw [run_append] at hop
    exact (op.apply_saved_iff (h done hprefix) (run_anchored done hanchored) (hplain done hprefix)).mp hop
  · have hb := hsaved hops ops (List.prefix_refl ops)
    have ha := run_anchored ops hanchored
    have hp := hplain ops (List.prefix_refl ops)
    rw [hrun] at hb ha hp
    exact hb.storeTo ha hp hfile

/-- Lines that are read, edited and written back. -/
theorem reachable_saved_append :
    let w : World := { files := ⟨[(["f"], .file (Files.content ["a"]))]⟩ }
    let ops : List Operation := [.readFrom "f", .append ["b"]]
    let s := run ops (ofLines [], w)
    s.1.changed = true ∧ Saved s ∧
      ∃ w', outcome (s.1.storeTo none false false : ExceptT Error (StateM World) (LineBuffer × Bool)) s.2 =
        (.ok ({ s.1 with changed := false }, s.1.changed), w') ∧ w'.Holds "f" ["a", "b"] := by
  intro w ops s
  have hlines : s.1.lines = ["a", "b"] := by cbv
  have hread : (run [.readFrom "f"] (ofLines [], w)).1.lines = ["a"] := by cbv
  have hplain : ∀ done, done <+: ops → ∀ line ∈ (run done (ofLines [], w)).1.lines, Plain line := by
    intro done hd
    rcases List.prefix_cons_iff.mp hd with rfl | ⟨rest, rfl, hrest⟩
    · exact fun _ h => absurd h List.not_mem_nil
    rcases List.prefix_cons_iff.mp hrest with rfl | ⟨rest', rfl, hnil⟩
    · rw [hread]
      decide
    · rw [List.prefix_nil.mp hnil]
      change ∀ line ∈ s.1.lines, Plain line
      rw [hlines]
      decide
  have hstrays : ∀ done op, done ++ [op] <+: ops → ¬ op.Strays (run done (ofLines [], w)) := by
    intro done op hd hstrays
    have hop : op ∈ ops := hd.subset (List.mem_append_right _ (List.mem_singleton_self op))
    rcases List.mem_pair.mp hop with rfl | rfl <;> cases hstrays
  have hfile : s.1.file = some "f" := by cbv
  have hchanged : s.1.changed = true := by cbv
  obtain ⟨hsaved, hback⟩ := reachable_saved_iff [] w ops hplain
  refine ⟨hchanged, hsaved.mpr hstrays ops (List.prefix_refl ops), ?_⟩
  rw [← hlines]
  exact hback hstrays s.1 s.2 "f" rfl hfile

/-- Edited lines that are written to another file: the buffer counts as unchanged, and is not written back. -/
theorem saved_aside_lost :
    let w : World := { files := ⟨[(["f"], .file (Files.content ["a"]))]⟩ }
    let s := run [.readFrom "f", .setLines ["b"], .storeTo (some "g") false false] (ofLines [], w)
    s.1.lines = ["b"] ∧ s.2.Holds "f" ["a"] ∧ ¬ Saved s ∧
      outcome (s.1.storeTo none false false : ExceptT Error (StateM World) (LineBuffer × Bool)) s.2 =
        (.ok (s.1, false), s.2) := by
  intro w s
  have hlines : s.1.lines = ["b"] := by cbv
  have hholds : s.2.Holds "f" ["a"] := by cbv
  have hchanged : s.1.changed = false := by cbv
  have hfile : s.1.file = some "f" := by cbv
  refine ⟨hlines, hholds, fun hsaved => ?_, ?_⟩
  · have hother := hsaved hchanged "f" hfile
    rw [hlines] at hother
    have hsame : ["a"] = ["b"] := Except.ok.inj (hholds.symm.trans hother)
    exact absurd hsame (by decide)
  · rw [outcome_storeTo, hchanged]
    rfl

end LineScript.LineBuffer
