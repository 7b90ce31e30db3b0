import LineScript.Proofs.Function.Returning
import LineScript.Proofs.Run.WholeLines
import LineScript.Proofs.Text.Pieces

/-! The functions that take a text apart at a separator: the lines into which it is split are its pieces, and joined
again they are the text. -/
namespace LineScript

open Number (Spells twoTo)

variable {s : RunState} {name text separator t : String} {lines : List String} {n : Int}

/-- The line with a number, counted from one; empty if there is none. -/
def lineAt (lines : List String) (n : Int) : String :=
  if n < 1 then "" else (lines[(n - 1).toNat]?).getD ""

namespace Text

theorem join_pieces (text separator : String) : join separator (pieces text separator) = text := by
  apply String.toList_injective
  unfold join pieces
  rw [String.toList_intercalate, List.map_map]
  have hlists : String.toList ∘ String.ofList = id := funext fun cs => String.toList_ofList
  rw [hlists, List.map_id, intercalate_split]

theorem join_singletons (cs : List Char) : join "" (cs.map String.singleton) = String.ofList cs := by
  apply String.toList_injective
  unfold join
  rw [String.toList_intercalate, List.map_map, String.toList_ofList]
  induction cs with
  | nil => rfl
  | cons c cs ih =>
    cases cs with
    | nil => simp [List.intercalate]
    | cons d ds => simpa [List.intercalate] using ih

/-- The lines into which a text is split, joined again. -/
theorem join_splitLines (text separator : String) : join separator (splitLines text separator) = text := by
  unfold splitLines
  split
  · rename_i hempty
    rw [String.isEmpty_iff.mp hempty]
    rfl
  · split
    · rename_i hseparator
      rw [String.isEmpty_iff.mp hseparator, join_singletons, String.ofList_toList]
    · exact join_pieces text separator

theorem length_split_le (separator s : List Char) : (split separator s).length ≤ s.length + 1 := by
  fun_induction split separator s with
  | case1 s | case2 s _ _ => simp
  | case3 s hs head rest hcut ih =>
    have hlength := length_cut? hcut
    have hpos := List.length_pos_of_ne_nil hs
    rw [List.length_cons]
    omega

theorem length_pieces_le (text separator : String) : (pieces text separator).length ≤ text.length + 1 := by
  have h := length_split_le separator.toList text.toList
  rwa [String.length_toList, ← List.length_map (f := String.ofList)] at h

/-- A text without characters has no lines, and its only piece has no characters. -/
theorem getD_splitLines (hseparator : separator ≠ "") (i : Nat) :
    ((splitLines text separator)[i]?).getD "" = ((pieces text separator)[i]?).getD "" := by
  have hpresent : separator.isEmpty = false := by
    rw [Bool.eq_false_iff, Ne, String.isEmpty_iff]
    exact hseparator
  unfold splitLines
  split
  · rename_i hempty
    have hpieces : pieces text separator = [""] := by
      have hcut : cut? separator.toList [] = none := by
        rw [cut?_eq_none_iff, List.infix_nil, String.toList_eq_nil_iff]
        exact hseparator
      have hsplit : split separator.toList [] = [[]] := by
        rw [split, dif_neg (by simpa using hseparator)]
        split
        · rfl
        · rename_i hsome
          rw [hcut] at hsome
          cases hsome
      rw [String.isEmpty_iff.mp hempty, pieces, String.toList_empty, hsplit]
      rfl
    rw [hpieces]
    cases i <;> rfl
  · rw [hpresent]
    rfl

/-- No line has the separator in it. -/
theorem not_infix_of_mem_splitLines (hseparator : separator ≠ "") {line : String}
    (hline : line ∈ splitLines text separator) : ¬separator.toList <:+: line.toList := by
  have hne : separator.toList ≠ [] := by simpa using hseparator
  unfold splitLines at hline
  split at hline
  · cases hline
  · split at hline
    · rename_i hempty
      exact absurd (String.isEmpty_iff.mp hempty) hseparator
    · obtain ⟨piece, hpiece, rfl⟩ := List.mem_map.mp hline
      rw [String.toList_ofList]
      exact not_infix_of_mem_split hne hpiece

/-- The piece with a number is the line with that number. -/
theorem piece_eq_lineAt (hseparator : separator ≠ "") {x : Number.Double} (hx : x.Equals n)
    (htext : text.length < twoTo 63) : piece text separator x = lineAt (splitLines text separator) n := by
  have hsize := hx.toSize
  have hlength := length_pieces_le text separator
  have hlarge : twoTo 63 + 1 ≤ twoTo 64 - 2 := by decide
  unfold piece lineAt
  rw [getD_splitLines hseparator]
  split
  · rename_i hzero
    rw [if_pos (by omega)]
  · rename_i i hpos
    rw [if_neg (by omega)]
    by_cases hexact : i = (n - 1).toNat
    · rw [hexact]
    · rw [List.getElem?_eq_none (by omega), List.getElem?_eq_none (by omega)]

end Text

namespace Call

theorem stringPiece_returns (hseparator : separator ≠ "") (ht : Spells t n) (htext : text.length < twoTo 63) :
    (ofTexts .stringPiece [text, separator, t]).Returns (.text (lineAt (Text.splitLines text separator) n)) := by
  obtain ⟨x, hnumber, hx⟩ := number_of_spells (c := ofTexts .stringPiece [text, separator, t]) (i := 2) rfl ht
  have hpresent : ¬separator.isEmpty = true := by
    rw [String.isEmpty_iff]
    exact hseparator
  apply Returns.of_dispatch
  change Call.stringPiece _ = _
  unfold Call.stringPiece
  rw [text_of_text (s := text) rfl, text_of_text (s := separator) rfl, hnumber,
    ← Text.piece_eq_lineAt hseparator hx htext]
  simp only [pure_bind]
  rw [if_neg hpresent]

/-- A call that splits a text into a buffer. -/
def split (name text separator : String) : Call Run :=
  ⟨.bufferSplit, [.buffer name, .text (pure text), .text (pure separator)]⟩

/-- A call that joins the lines of a buffer. -/
def join (name separator : String) : Call Run :=
  ⟨.bufferJoin, [.buffer name, .text (pure separator)]⟩

theorem outcome_split (name text separator : String) (s : RunState) :
    ∃ s', outcome (split name text separator).run s =
        (.ok (.count (Text.splitLines text separator).length), s') ∧
      s.Updates name ((s.held name).setLines (Text.splitLines text separator)) s' := by
  obtain ⟨s₁, hbuffer, hsame⟩ := Run.outcome_held name ((split name text separator).noted s)
  have hnoted : s.SameBuffers ((split name text separator).noted s) := ⟨fun _ => rfl, rfl⟩
  refine ⟨s₁.setBuffer name ((s.held name).setLines (Text.splitLines text separator)), ?_, ?_⟩
  · rw [outcome_run]
    change outcome (Call.bufferSplit _) _ = _
    unfold Call.bufferSplit Call.buffer
    have hname : (split name text separator).bufferName 0 = pure name := rfl
    rw [text_of_text (s := text) rfl, text?_of_text (s := separator) rfl, hname]
    simp only [pure_bind, bind_assoc, Option.getD_some]
    rw [outcome_bind, hbuffer]
    rfl
  · exact (hnoted.trans hsame).updates (s₁.updates_setBuffer name _)

theorem outcome_join (name separator : String) (s : RunState) :
    ∃ s', outcome (join name separator).run s = (.ok (.text (Text.join separator (s.held name).lines)), s') ∧
      s.SameBuffers s' := by
  obtain ⟨s₁, hbuffer, hsame⟩ := Run.outcome_held name ((join name separator).noted s)
  have hnoted : s.SameBuffers ((join name separator).noted s) := ⟨fun _ => rfl, rfl⟩
  refine ⟨s₁, ?_, hnoted.trans hsame⟩
  rw [outcome_run]
  change outcome (Call.bufferJoin _) _ = _
  unfold Call.bufferJoin Call.buffer
  have hname : (join name separator).bufferName 0 = pure name := rfl
  rw [text?_of_text (s := separator) rfl, hname]
  simp only [pure_bind, bind_assoc, Option.getD_some]
  rw [outcome_bind, hbuffer]
  rfl

end Call

/-- Splitting, joining and picking pieces agree: the lines of a text are left in the buffer and counted, joined again
they are the text, and for a separator that is not empty they are the pieces and do not have it in them. -/
theorem split_join_agree (s : RunState) (name text separator : String) (htext : text.length < twoTo 63) :
    ∃ s' lines, outcome (Call.split name text separator).run s = (.ok (.count lines.length), s') ∧
      s.Updates name ((s.held name).setLines lines) s' ∧ (s'.held name).lines = lines ∧
      (∃ s'', outcome (Call.join name separator).run s' = (.ok (.text text), s'') ∧ s'.SameBuffers s'') ∧
      (separator ≠ "" →
        (∀ t n, Spells t n → (Call.ofTexts .stringPiece [text, separator, t]).Returns (.text (lineAt lines n))) ∧
        ∀ line ∈ lines, ¬separator.toList <:+: line.toList) := by
  obtain ⟨s', hsplit, hupdates⟩ := Call.outcome_split name text separator s
  have hlines : (s'.held name).lines = Text.splitLines text separator := congrArg LineBuffer.lines hupdates.held
  obtain ⟨s'', hjoin, hsame⟩ := Call.outcome_join name separator s'
  rw [hlines, Text.join_splitLines] at hjoin
  refine ⟨s', _, hsplit, hupdates, hlines, ⟨s'', hjoin, hsame⟩, ?_⟩
  intro hseparator
  constructor
  · intro t n ht
    exact Call.stringPiece_returns hseparator ht htext
  · intro line hline
    exact Text.not_infix_of_mem_splitLines hseparator hline

/-- A separator that overlaps itself counts from the left. -/
theorem split_join_agree_overlapping :
    let s : RunState := ⟨{ script := { name := "s", lines := [] }, program := {} }, {}⟩
    "baaab".length < twoTo 63 ∧ "aa" ≠ "" ∧ Spells "2" 2 ∧
      ∃ s' s'', outcome (Call.split "b" "baaab" "aa").run s = (.ok (.count 2), s') ∧ (s'.held "b").lines = ["b", "ab"] ∧
        outcome (Call.join "b" "aa").run s' = (.ok (.text "baaab"), s'') ∧
        (Call.ofTexts .stringPiece ["baaab", "aa", "2"]).Returns (.text "ab") := by
  intro s
  have htext : "baaab".length < twoTo 63 := by decide
  have hspells : Spells "2" 2 := Number.spells_toString (n := 2) (by decide)
  obtain ⟨s', lines, hsplit, hupdates, hlines, ⟨s'', hjoin, -⟩, hpieces⟩ := split_join_agree s "b" "baaab" "aa" htext
  obtain ⟨hpiece, -⟩ := hpieces (by decide)
  have hexact : ["b", "ab"] = lines := by
    obtain ⟨s₁, hagain, hheld⟩ := Call.outcome_split "b" "baaab" "aa" s
    have hstate : s₁ = s' := congrArg Prod.snd (hagain.symm.trans hsplit)
    rw [← hlines, ← hstate, hheld.held]
    decide +kernel
  subst hexact
  exact ⟨htext, by decide, hspells, s', s'', hsplit, hlines, hjoin, hpiece "2" 2 hspells⟩

end LineScript
