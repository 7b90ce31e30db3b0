import LineScript.Function.Buffers
import LineScript.Proofs.Files.Lines
import LineScript.Proofs.Text.Bytes

/-! Texts without a line break, and lines that are stored and loaded again: they are as many as before
exactly if they are such texts. -/
namespace LineScript

namespace Text

/-- A text without a line break. -/
def Unbroken (s : String) : Prop :=
  '\n' ∉ s.toList

instance : DecidablePred Unbroken :=
  fun _ => inferInstanceAs (Decidable (_ ∉ _))

@[simp] theorem unbroken_append {s t : String} : Unbroken (s ++ t) ↔ Unbroken s ∧ Unbroken t := by
  simp [Unbroken]

@[simp] theorem unbroken_empty : Unbroken "" :=
  List.not_mem_nil

theorem Unbroken.of_subset {s t : String} (h : Unbroken t) (hs : s.toList ⊆ t.toList) : Unbroken s :=
  fun hmem => h (hs hmem)

theorem take_subset (cs : List Char) (n : Nat) : take cs n ⊆ cs := by
  have h := take_append_drop cs n
  exact fun c hc => h ▸ List.mem_append_left _ hc

theorem drop_subset (cs : List Char) (n : Nat) : drop cs n ⊆ cs := by
  have h := take_append_drop cs n
  exact fun c hc => h ▸ List.mem_append_right _ hc

theorem slice_subset (cs : List Char) (m n : Nat) : slice cs m n ⊆ cs :=
  List.Subset.trans (drop_subset _ m) (take_subset cs n)

section
variable {s : String} (h : Unbroken s)
include h

theorem Unbroken.before (n : Nat) : Unbroken (Text.before s n) :=
  h.of_subset (by simpa using take_subset s.toList n)

theorem Unbroken.after (n : Nat) : Unbroken (Text.after s n) :=
  h.of_subset (by simpa using drop_subset s.toList n)

theorem Unbroken.between (m n : Nat) : Unbroken (Text.between s m n) :=
  h.of_subset (by simpa using slice_subset s.toList m n)

end

/-- A part of a text that is split has no characters but those of the text. -/
theorem split_subset {separator cs piece : List Char} (h : piece ∈ split separator cs) : piece ⊆ cs := by
  have hcut {cs head rest : List Char} (h : cut? separator cs = some (head, rest)) :
      head ⊆ cs ∧ rest ⊆ cs := by
    have hdrop {p s r : List Char} (h : dropStart? p s = some r) : r ⊆ s := by
      induction p generalizing s with
      | nil =>
        cases h
        exact List.Subset.refl _
      | cons a p ih =>
        cases s with
        | nil => cases h
        | cons b s =>
          unfold dropStart? at h
          split at h
          · exact List.subset_cons_of_subset b (ih h)
          · cases h
    induction cs generalizing head with
    | nil =>
      unfold cut? at h
      split at h
      · cases h
        exact ⟨List.Subset.refl _, List.Subset.refl _⟩
      · cases h
    | cons c cs ih =>
      unfold cut? at h
      split at h
      · next r hr =>
        cases h
        exact ⟨List.nil_subset _, hdrop hr⟩
      · obtain ⟨⟨head', rest'⟩, hcut', hpair⟩ := Option.map_eq_some_iff.mp h
        cases hpair
        obtain ⟨hhead, hrest⟩ := ih hcut'
        exact ⟨List.cons_subset_cons c hhead, List.subset_cons_of_subset c hrest⟩
  fun_induction split separator cs with
  | case1 cs => simp_all
  | case2 cs hs hnone => simp_all
  | case3 cs hs head rest hsome ih =>
    obtain ⟨hhead, hrest⟩ := hcut hsome
    rcases List.mem_cons.mp h with rfl | h
    · exact hhead
    · exact List.Subset.trans (ih h) hrest

theorem split_newline_unbroken {cs piece : List Char} (h : piece ∈ split ['\n'] cs) : '\n' ∉ piece := by
  induction cs using Files.lines_induction with
  | last cs hcs =>
    rw [split_eq_singleton hcs, List.mem_singleton] at h
    rwa [h]
  | more cs rest hcs ih =>
    rw [split_newline hcs, List.mem_cons] at h
    rcases h with rfl | h
    · exact hcs
    · exact ih h

/-- Texts without a line break are the lines of what they are joined to. -/
theorem lines_join {ss : List String} (hne : ss ≠ []) (h : ∀ s ∈ ss, Unbroken s) :
    lines (join "\n" ss) = ss := by
  induction ss with
  | nil => exact absurd rfl hne
  | cons s ss ih =>
    have hs : '\n' ∉ s.toList := h s List.mem_cons_self
    cases ss with
    | nil => simp [lines, join, split_eq_singleton hs]
    | cons t ss =>
      have hjoin : (join "\n" (s :: t :: ss)).toList = s.toList ++ '\n' :: (join "\n" (t :: ss)).toList := by
        simp [join]
      have hrest := ih (List.cons_ne_nil t ss) fun u hu => h u (List.mem_cons_of_mem s hu)
      rw [lines, hjoin, split_newline hs, List.map_cons, String.ofList_toList, ← lines, hrest]

theorem lines_unbroken {s line : String} (h : line ∈ lines s) : Unbroken line := by
  obtain ⟨piece, hpiece, rfl⟩ := List.mem_map.mp h
  rw [Unbroken, String.toList_ofList]
  exact split_newline_unbroken hpiece

/-- A text without a line break is split into such texts. -/
theorem Unbroken.splitLines {s line : String} (h : Unbroken s) {separator : String}
    (hline : line ∈ Text.splitLines s separator) : Unbroken line := by
  unfold Text.splitLines at hline
  split at hline
  · cases hline
  split at hline
  · obtain ⟨c, hc, rfl⟩ := List.mem_map.mp hline
    exact h.of_subset (by simpa using hc)
  · obtain ⟨piece, hpiece, rfl⟩ := List.mem_map.mp hline
    exact h.of_subset (by simpa using split_subset hpiece)

/-- At line breaks, any text is split into texts without one. -/
theorem splitLines_newline {s line : String} (h : line ∈ Text.splitLines s "\n") : Unbroken line := by
  unfold Text.splitLines at h
  split at h
  · cases h
  · exact lines_unbroken h

end Text

open Text (Unbroken)

namespace Files

theorem linesOfText_unbroken {cs : List Char} {line : String} (h : line ∈ linesOfText cs) :
    Unbroken line := by
  have hreturn (cs : List Char) : dropReturn cs ⊆ cs := by
    unfold dropReturn
    split
    · exact List.dropLast_subset cs
    · exact List.Subset.refl cs
  induction cs using lines_induction with
  | last cs hcs =>
    rw [linesOfText_last hcs] at h
    split at h
    · cases h
    · rw [List.mem_singleton] at h
      rwa [h, Unbroken, String.toList_ofList]
  | more cs rest hcs ih =>
    rw [linesOfText_newline hcs, List.mem_cons] at h
    rcases h with rfl | h
    · rw [Unbroken, String.toList_ofList]
      exact fun hmem => hcs (hreturn cs hmem)
    · exact ih h

theorem lines_unbroken {content : ByteArray} {lines : List String} (h : Files.lines content = .ok lines)
    {line : String} (hline : line ∈ lines) : Unbroken line := by
  unfold Files.lines at h
  split at h
  · cases h
    exact linesOfText_unbroken hline
  · cases h

/-- Lines that are stored and loaded again are as many as before exactly if none of them has a line
break. -/
theorem length_linesOfText_textOfLines (lines : List String) :
    (linesOfText (textOfLines lines).toList).length = lines.length ↔ ∀ line ∈ lines, Unbroken line := by
  have hcount (text rest : List Char) :
      (linesOfText (text ++ '\n' :: rest)).length = text.count '\n' + 1 + (linesOfText rest).length := by
    induction text using lines_induction with
    | last cs hcs =>
      rw [linesOfText_newline hcs, List.count_eq_zero_of_not_mem hcs, List.length_cons]
      omega
    | more cs more hcs ih =>
      rw [List.append_assoc, List.cons_append, linesOfText_newline hcs, List.length_cons, ih,
        List.count_append, List.count_eq_zero_of_not_mem hcs, List.count_cons_self]
      omega
  have hle (lines : List String) : lines.length ≤ (linesOfText (textOfLines lines).toList).length := by
    induction lines with
    | nil => exact Nat.zero_le _
    | cons line lines ih =>
      rw [toList_textOfLines_cons, hcount, List.length_cons]
      omega
  induction lines with
  | nil =>
    rw [show (textOfLines []).toList = [] from rfl, linesOfText_last List.not_mem_nil]
    simp
  | cons line lines ih =>
    have hrest := hle lines
    have hline : Unbroken line ↔ line.toList.count '\n' = 0 := List.count_eq_zero.symm
    rw [List.forall_mem_cons, ih.symm, hline, toList_textOfLines_cons, hcount, List.length_cons]
    omega

end Files

end LineScript
