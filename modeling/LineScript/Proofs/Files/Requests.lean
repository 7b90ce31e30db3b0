import LineScript.Proofs.Files.Lines
import LineScript.Proofs.Files.Tree
import LineScript.Proofs.Outcome
import LineScript.World

/-! What reading and writing lines come to, and which lines a file holds. -/
namespace LineScript

namespace FileAction

variable {α : Type} {path : String} {w : World}

theorem outcome_demand (path : String) (a : FileAction α) (w : World) :
    LineScript.outcome (demand path a : ExceptT Error (StateM World) α) w =
      match LineScript.outcome a w with
      | (.ok x, w') => (.ok x, w')
      | (.error e, w') => (.error (.ofFile path e), w') := by
  have hasked : LineScript.outcome (FileAction.outcome a : ExceptT Error (StateM World) (Except FileError α)) w =
      (.ok (LineScript.outcome a w).1, (LineScript.outcome a w).2) := rfl
  unfold demand
  rw [outcome_bind, hasked]
  cases LineScript.outcome a w with
  | mk r w' => cases r <;> rfl

theorem outcome_ask (path : String) (f : FileTree → List String → Except FileError α) (w : World) :
    LineScript.outcome (ask path f) w = (f w.files w.directory, w.visit path) :=
  rfl

theorem outcome_readLines (path : String) (w : World) :
    LineScript.outcome (readLines path) w =
      ((w.files.read w.directory path).bind Files.lines, w.visit path) := by
  rw [readLines, outcome_bind, outcome_ask]
  cases w.files.read w.directory path <;> rfl

theorem outcome_writeLines (path : String) (lines : List String) (append : Bool) (w : World) :
    LineScript.outcome (writeLines path lines append) w =
      match w.files.write w.directory path (Files.content lines) append with
      | .ok files => (.ok (), { w.visit path with files })
      | .error e => (.error e, w.visit path) := by
  rw [writeLines, change, outcome_bind, outcome_ask]
  cases w.files.write w.directory path (Files.content lines) append <;> rfl

/-- Writes lines to a file in place of what it holds, and then more lines behind them, bit by bit. -/
def writeInTurn (path : String) (first : List String) (others : List (List String)) : FileAction Unit := do
  writeLines path first false
  others.forM (writeLines path · true)

variable {p lines : List String}

/-- What a path leads to is there, in the lines that were written so far and those that follow. -/
theorem appends_leadsTo (h : w.files.LeadsTo w.directory path p (Files.content lines))
    (others : List (List String)) :
    ∃ w', LineScript.outcome (others.forM (writeLines path · true)) w = (.ok (), w') ∧
      w'.files.LeadsTo w'.directory path p (Files.content (lines ++ others.flatten)) := by
  induction others generalizing w lines with
  | nil =>
    refine ⟨w, rfl, ?_⟩
    rw [List.flatten_nil, List.append_nil]
    exact h
  | cons next others ih =>
    obtain ⟨files, hwrite⟩ := h.exists_write (Files.content next) true
    have hnext := h.write_same hwrite rfl
    rw [if_pos rfl, Files.content_append] at hnext
    have hwritten : LineScript.outcome (writeLines path next true) w =
        (.ok (), { w.visit path with files }) := by
      rw [outcome_writeLines, hwrite]
    obtain ⟨w', hothers, hleads⟩ := ih (w := { w.visit path with files }) hnext
    refine ⟨w', ?_, ?_⟩
    · have hcons : (next :: others).forM (writeLines path · true) = (do
          writeLines path next true
          others.forM (writeLines path · true)) := rfl
      rw [hcons, outcome_bind, hwritten]
      exact hothers
    · rw [List.flatten_cons, ← List.append_assoc]
      exact hleads

/-- Everything that is written to a path that can be written to gets there. -/
theorem writeInTurn_leadsTo (h : w.files.IsWritable w.directory path) (first : List String)
    (others : List (List String)) :
    ∃ w' p, LineScript.outcome (writeInTurn path first others) w = (.ok (), w') ∧
      w'.files.LeadsTo w'.directory path p (Files.content (first ++ others.flatten)) := by
  obtain ⟨files, p, hwrite, hfirst⟩ := FileTree.LeadsTo.of_write h (Files.content first)
  have hwritten : LineScript.outcome (writeLines path first false) w =
      (.ok (), { w.visit path with files }) := by
    rw [outcome_writeLines, hwrite]
  obtain ⟨w', hothers, hleads⟩ := appends_leadsTo (w := { w.visit path with files }) hfirst others
  refine ⟨w', p, ?_, hleads⟩
  rw [writeInTurn, outcome_bind, hwritten]
  exact hothers

/-- Plain lines that a path leads to are read. -/
theorem readLines_of_leadsTo (h : w.files.LeadsTo w.directory path p (Files.content lines))
    (hplain : ∀ line ∈ lines, Files.Plain line) :
    LineScript.outcome (readLines path) w = (.ok lines, w.visit path) := by
  have hlines : Files.lines (Files.content lines) = .ok lines := Files.lines_content hplain
  rw [outcome_readLines, h.read_eq]
  exact congrArg (·, w.visit path) hlines

/-- A path that cannot be written to refuses everything, and the files stay as they are. -/
theorem writeLines_refused (h : ¬ w.files.IsWritable w.directory path) (lines : List String)
    (append : Bool) :
    ∃ e, LineScript.outcome (writeLines path lines append) w = (.error e, w.visit path) := by
  rw [outcome_writeLines]
  cases hwrite : w.files.write w.directory path (Files.content lines) append with
  | error e => exact ⟨e, rfl⟩
  | ok files => exact absurd (FileTree.exists_write_iff.mp ⟨files, hwrite⟩) h

end FileAction

namespace World

/-- Whether reading a file gives some lines. -/
def Holds (w : World) (path : String) (lines : List String) : Prop :=
  (outcome (FileAction.readLines path) w).1 = .ok lines

variable {w : World} {path : String} {lines : List String} {p : List String} {content : ByteArray}

theorem holds_iff : w.Holds path lines ↔
    (w.files.read w.directory path).bind Files.lines = .ok lines := by
  rw [Holds, FileAction.outcome_readLines]

theorem holds_visit {other : String} : (w.visit other).Holds path lines ↔ w.Holds path lines := by
  rw [holds_iff, holds_iff]
  rfl

theorem holds_iff_of_leadsTo (h : w.files.LeadsTo w.directory path p content) :
    w.Holds path lines ↔ Files.lines content = .ok lines := by
  rw [holds_iff, h.read_eq]
  rfl

theorem Holds.leadsTo (h : w.Holds path lines) :
    ∃ p content, w.files.LeadsTo w.directory path p content := by
  rw [holds_iff] at h
  cases hread : w.files.read w.directory path with
  | error e =>
    rw [hread] at h
    cases h
  | ok content =>
    obtain ⟨p, hpath⟩ := FileTree.LeadsTo.of_read hread
    exact ⟨p, content, hpath⟩

end World

end LineScript
