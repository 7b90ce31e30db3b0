import LineScript.Proofs.Buffer.Saved

/-! Storing and loading: lines that are written to a file, all at once or bit by bit, are read back as they
are. -/
namespace LineScript

namespace LineBuffer

open Files (Plain)

/-- Writes a buffer to a file, whether it has been changed or not, and reads the file into another buffer. -/
def passOn (b c : LineBuffer) (path : String) :
    ExceptT Error (StateM World) ((LineBuffer × Bool) × LineBuffer) := do
  let stored ← b.storeTo (some path) false true
  let loaded ← c.readFrom path
  return (stored, loaded)

variable {w : World} {path : String}

theorem outcome_passOn (h : w.files.IsWritable w.directory path) {b : LineBuffer}
    (hplain : ∀ line ∈ b.lines, Plain line) (c : LineBuffer) :
    ∃ w', outcome (passOn b c path) w = (.ok ((b.stored false, true), c.loaded b.lines path), w') := by
  obtain ⟨files, p, hwrite, hleads⟩ := FileTree.LeadsTo.of_write h (Files.content b.lines)
  have hstored : outcome (b.storeTo (some path) false true :
      ExceptT Error (StateM World) (LineBuffer × Bool)) w =
        (.ok (b.stored false, true), { w.visit path with files }) := by
    rw [outcome_storeTo]
    simp [hwrite]
  have hread : (files.read w.directory path).bind Files.lines = .ok b.lines := by
    rw [hleads.read_eq]
    exact Files.lines_content hplain
  have hloaded : outcome (c.readFrom path : ExceptT Error (StateM World) LineBuffer)
      { w.visit path with files } =
        (.ok (c.loaded b.lines path), World.visit { w.visit path with files } path) := by
    have hsame : (World.visit w path).directory = w.directory := rfl
    rw [outcome_readFrom, hsame, hread]
  refine ⟨World.visit { w.visit path with files } path, ?_⟩
  rw [passOn, outcome_bind, hstored]
  dsimp only
  rw [outcome_bind, hloaded]
  rfl

/-- Plain lines that are written to a path, the first ones in place of what was there and others behind them,
are read back as they were, one list after the other. So a buffer that is stored can be loaded by any other one,
which then has its lines, counts as unchanged and stands at the start. All this holds of every path that can be
written to; every other one refuses to be written to at all. -/
theorem stored_lines_load (w : World) (path : String) :
    (w.files.IsWritable w.directory path →
      (∀ (first : List String) (others : List (List String)),
        (∀ lines ∈ first :: others, ∀ line ∈ lines, Plain line) →
          (outcome (do FileAction.writeInTurn path first others; FileAction.readLines path) w).1 =
            .ok (first ++ others.flatten)) ∧
      ∀ b c : LineBuffer, (∀ line ∈ b.lines, Plain line) →
        ∃ b' c' w', outcome (passOn b c path) w = (.ok ((b', true), c'), w') ∧
          c'.lines = b.lines ∧ c'.changed = false ∧ c'.cursor = {} ∧ c'.mark = {} ∧
          c'.file = some path) ∧
    (¬ w.files.IsWritable w.directory path →
      ∀ lines append, ∃ e, outcome (FileAction.writeLines path lines append) w = (.error e, w.visit path)) := by
  constructor
  case right => exact FileAction.writeLines_refused
  intro h
  constructor
  · intro first others hplain
    obtain ⟨hfirst, hothers⟩ := List.forall_mem_cons.mp hplain
    have hall : ∀ line ∈ first ++ others.flatten, Plain line := by
      intro line hline
      rcases List.mem_append.mp hline with hline | hline
      · exact hfirst line hline
      · obtain ⟨lines, hlines, hline⟩ := List.mem_flatten.mp hline
        exact hothers lines hlines line hline
    obtain ⟨w', p, hwritten, hleads⟩ := FileAction.writeInTurn_leadsTo h first others
    rw [outcome_bind, hwritten]
    exact congrArg Prod.fst (FileAction.readLines_of_leadsTo hleads hall)
  · intro b c hplain
    obtain ⟨w', hpassed⟩ := outcome_passOn h hplain c
    exact ⟨_, _, w', hpassed, rfl, rfl, rfl, rfl, rfl⟩

/-- Empty lines at the ends, and nothing between, in a file that is not there yet. -/
theorem stored_lines_load_fresh :
    let w : World := {}
    let b : LineBuffer := { lines := ["", "a", ""], cursor := ⟨1, 1⟩ }
    w.files.IsWritable w.directory "f" ∧ ¬ w.files.IsWritable w.directory "d/f" ∧
      (outcome (do FileAction.writeInTurn "f" ["", "a"] [[], ["", "b", ""]]; FileAction.readLines "f") w).1 =
        .ok ["", "a", "", "b", ""] ∧
      (∃ b' c' w', outcome (passOn b { lines := ["c"] } "f") w = (.ok ((b', true), c'), w') ∧
        c'.lines = ["", "a", ""] ∧ c'.changed = false ∧ c'.cursor = {} ∧ c'.mark = {} ∧
        c'.file = some "f") ∧
      ∃ e, outcome (FileAction.writeLines "d/f" ["a"] false) w = (.error e, w.visit "d/f") := by
  intro w b
  have hwritable : w.files.IsWritable w.directory "f" := by
    have hlocate : w.files.locate w.directory "f" = .ok ⟨["f"], none⟩ := by cbv
    have hempty : (none : Option FileEntry) ≠ some .directory := (Option.some_ne_none _).symm
    exact ⟨by decide, _, hlocate, hempty⟩
  have hrefused : ¬ w.files.IsWritable w.directory "d/f" := by
    rintro ⟨-, s, hlocate, -⟩
    have hnone : w.files.locate w.directory "d/f" = .error .notFound := by cbv
    rw [hnone] at hlocate
    cases hlocate
  have hplain : ∀ lines ∈ [["", "a"], [], ["", "b", ""]], ∀ line ∈ lines, Plain line := by decide
  obtain ⟨hread, hpassed⟩ := (stored_lines_load w "f").1 hwritable
  exact ⟨hwritable, hrefused, hread _ _ hplain, hpassed b _ (by decide),
    (stored_lines_load w "d/f").2 hrefused _ _⟩

end LineBuffer

end LineScript
