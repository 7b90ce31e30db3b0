import LineScript.Files.Lines
import LineScript.Proofs.Text.Pieces

/-! Lines that are written to a file and read again. -/
namespace LineScript

namespace Text

theorem cut?_newline {cs : List Char} (h : '\n' ∉ cs) (rest : List Char) :
    cut? ['\n'] (cs ++ '\n' :: rest) = some (cs, rest) := by
  induction cs with
  | nil => rfl
  | cons c cs ih =>
    rw [List.mem_cons, not_or] at h
    have hdrop : dropStart? ['\n'] (c :: (cs ++ '\n' :: rest)) = none := by
      rw [dropStart?, if_neg h.1]
    rw [List.cons_append, cut?, hdrop, ih h.2]
    rfl

theorem cut?_eq_none {cs : List Char} (h : '\n' ∉ cs) : cut? ['\n'] cs = none := by
  induction cs with
  | nil => rfl
  | cons c cs ih =>
    rw [List.mem_cons, not_or] at h
    have hdrop : dropStart? ['\n'] (c :: cs) = none := by
      rw [dropStart?, if_neg h.1]
    rw [cut?, hdrop, ih h.2]
    rfl

theorem split_newline {cs : List Char} (h : '\n' ∉ cs) (rest : List Char) :
    split ['\n'] (cs ++ '\n' :: rest) = cs :: split ['\n'] rest := by
  rw [split, dif_neg (List.cons_ne_nil _ _)]
  split
  · next hcut =>
    rw [cut?_newline h] at hcut
    cases hcut
  · next hcut =>
    rw [cut?_newline h] at hcut
    cases hcut
    rfl

theorem split_eq_singleton {cs : List Char} (h : '\n' ∉ cs) : split ['\n'] cs = [cs] := by
  rw [split, dif_neg (List.cons_ne_nil _ _)]
  split
  · rfl
  · next hcut =>
    rw [cut?_eq_none h] at hcut
    cases hcut

end Text

namespace Files

/-- A line that a file can hold as it is. -/
def Plain (line : String) : Prop :=
  '\n' ∉ line.toList ∧ line.toList.getLast? ≠ some '\r'

instance : DecidablePred Plain :=
  fun _ => inferInstanceAs (Decidable (_ ∧ _))

variable {cs rest : List Char} {lines : List String} {line : String}

theorem Plain.dropReturn (h : Plain line) : Files.dropReturn line.toList = line.toList :=
  if_neg h.2

theorem linesOfText_newline (h : '\n' ∉ cs) (rest : List Char) :
    linesOfText (cs ++ '\n' :: rest) = String.ofList (dropReturn cs) :: linesOfText rest := by
  have hrest := Text.split_ne_nil ['\n'] rest
  rw [linesOfText, linesOfText, Text.split_newline h, List.dropLast_cons_of_ne_nil hrest, List.map_cons,
    List.cons_append, List.getLastD_cons, List.getLastD_eq_getLast?, List.getLastD_eq_getLast?,
    List.getLast?_eq_some_getLast hrest]
  rfl

theorem linesOfText_last (h : '\n' ∉ cs) :
    linesOfText cs = if cs.isEmpty then [] else [String.ofList cs] := by
  rw [linesOfText, Text.split_eq_singleton h]
  rfl

theorem toList_textOfLines_cons (line : String) (lines : List String) :
    (textOfLines (line :: lines)).toList = line.toList ++ '\n' :: (textOfLines lines).toList := by
  rw [textOfLines, List.foldr_cons, String.toList_append, String.toList_append, List.append_assoc]
  rfl

/-- Lines that are written can be read again. -/
theorem linesOfText_textOfLines (h : ∀ line ∈ lines, Plain line) :
    linesOfText (textOfLines lines).toList = lines := by
  induction lines with
  | nil => exact linesOfText_last List.not_mem_nil
  | cons line lines ih =>
    obtain ⟨hline, hlines⟩ := List.forall_mem_cons.mp h
    rw [toList_textOfLines_cons, linesOfText_newline hline.1, hline.dropReturn, ih hlines,
      String.ofList_toList]

/-- A text is a line without an end, or starts with a line and its end. -/
theorem lines_induction {P : List Char → Prop} (last : ∀ cs, '\n' ∉ cs → P cs)
    (more : ∀ cs rest, '\n' ∉ cs → P rest → P (cs ++ '\n' :: rest)) (text : List Char) : P text := by
  by_cases h : '\n' ∈ text
  · obtain ⟨cs, rest, htext, hcs⟩ := List.eq_append_cons_of_mem h
    rw [htext]
    exact more cs rest hcs (lines_induction last more rest)
  · exact last text h
  termination_by text.length
  decreasing_by
    rw [htext, List.length_append, List.length_cons]
    omega

theorem count_newline_le (text : List Char) : text.count '\n' ≤ (linesOfText text).length := by
  induction text using lines_induction with
  | last cs h =>
    rw [List.count_eq_zero_of_not_mem h]
    exact Nat.zero_le _
  | more cs rest h ih =>
    rw [linesOfText_newline h, List.count_append, List.count_eq_zero_of_not_mem h, List.count_cons_self,
      List.length_cons]
    omega

theorem count_newline_textOfLines (h : ∀ line ∈ lines, Plain line) :
    (textOfLines lines).toList.count '\n' = lines.length := by
  induction lines with
  | nil => rfl
  | cons line lines ih =>
    obtain ⟨hline, hlines⟩ := List.forall_mem_cons.mp h
    rw [toList_textOfLines_cons, List.count_append, List.count_eq_zero_of_not_mem hline.1,
      List.count_cons_self, ih hlines, List.length_cons]
    omega

/-- A text behind which its lines are written does not hold them any more, unless there are none. -/
theorem linesOfText_append_ne {text : List Char} (hlines : linesOfText text = lines)
    (hplain : ∀ line ∈ lines, Plain line) (hsome : lines ≠ []) :
    linesOfText (text ++ (textOfLines lines).toList) ≠ lines := by
  intro hsame
  have hcount := count_newline_le (text ++ (textOfLines lines).toList)
  rw [hsame, List.count_append, count_newline_textOfLines hplain] at hcount
  have htext : '\n' ∉ text := List.count_eq_zero.mp (by omega)
  rw [linesOfText_last htext] at hlines
  cases hempty : text.isEmpty with
  | true =>
    rw [hempty, if_pos rfl] at hlines
    exact hsome hlines.symm
  | false =>
    rw [hempty, if_neg Bool.false_ne_true] at hlines
    rw [← hlines, List.forall_mem_singleton] at hplain
    have htwice : '\n' ∉ text ++ text := fun h => (List.mem_append.mp h).elim htext htext
    have hreturn : (text ++ text).getLast? ≠ some '\r' := by
      have hlast := hplain.2
      rw [String.toList_ofList] at hlast
      rwa [List.getLast?_append, Option.or_self]
    -- The only line, which has no end, is continued.
    rw [← hlines, toList_textOfLines_cons, String.toList_ofList, ← List.append_assoc,
      linesOfText_newline htwice, dropReturn, if_neg hreturn] at hsame
    have hdouble : text ++ text = text := String.ofList_inj.mp (List.cons.inj hsame).1
    rw [List.append_right_eq_self.mp hdouble] at hempty
    cases hempty

theorem lines_toUTF8 (text : String) : Files.lines text.toUTF8 = .ok (linesOfText text.toList) := by
  have htext : String.fromUTF8? text.toUTF8 = some text := dif_pos text.isValidUTF8
  rw [Files.lines, htext]

theorem exists_text_of_lines_eq_ok {content : ByteArray} (h : Files.lines content = .ok lines) :
    ∃ text : String, content = text.toUTF8 ∧ linesOfText text.toList = lines := by
  rw [Files.lines] at h
  split at h
  · next text htext =>
    cases h
    rw [String.fromUTF8?] at htext
    split at htext
    · cases htext
      exact ⟨_, rfl, rfl⟩
    · cases htext
  · cases h

theorem lines_content (h : ∀ line ∈ lines, Plain line) : Files.lines (content lines) = .ok lines := by
  rw [content, lines_toUTF8, linesOfText_textOfLines h]

theorem textOfLines_append (lines lines' : List String) :
    textOfLines (lines ++ lines') = textOfLines lines ++ textOfLines lines' := by
  induction lines with
  | nil => simp [textOfLines]
  | cons line lines ih =>
    have hcons (lines : List String) : textOfLines (line :: lines) = line ++ "\n" ++ textOfLines lines :=
      rfl
    rw [List.cons_append, hcons, hcons, ih]
    simp only [String.append_assoc]

/-- Lines that are written one after the other are in the file one after the other. -/
theorem content_append (lines lines' : List String) :
    content lines ++ content lines' = content (lines ++ lines') := by
  unfold content
  rw [textOfLines_append]
  exact String.toByteArray_append.symm

/-- A file to which the lines that it holds are added does not hold them any more, unless there are
none. -/
theorem lines_append_content_iff {old : ByteArray} (hold : Files.lines old = .ok lines)
    (hplain : ∀ line ∈ lines, Plain line) :
    Files.lines (old ++ content lines) = .ok lines ↔ lines = [] := by
  obtain ⟨text, rfl, hlines⟩ := exists_text_of_lines_eq_ok hold
  have happend : text.toUTF8 ++ content lines = (text ++ textOfLines lines).toUTF8 :=
    String.toByteArray_append.symm
  rw [happend, lines_toUTF8, String.toList_append, Except.ok.injEq]
  constructor
  · intro hsame
    by_contra hsome
    exact linesOfText_append_ne hlines hplain hsome hsame
  · rintro rfl
    rw [show (textOfLines []).toList = [] from rfl, List.append_nil, hlines]

end Files

end LineScript
