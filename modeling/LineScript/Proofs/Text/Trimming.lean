import LineScript.Proofs.Script.Cuts

/-! Texts without white space at their ends. -/
namespace LineScript.Text

/-- Whether a text has no white space at its ends. -/
structure Tight (cs : List Char) : Prop where
  head : ∀ c ∈ cs.head?, isBlank c = false
  last : ∀ c ∈ cs.getLast?, isBlank c = false

theorem Tight.of_forall {cs : List Char} (h : ∀ c ∈ cs, isBlank c = false) : Tight cs where
  head c hc := h c (List.mem_of_mem_head? hc)
  last c hc := h c (List.mem_of_getLast? hc)

theorem Tight.trim {core before behind : List Char} (h : Tight core) (hbefore : Blank before)
    (hbehind : Blank behind) : Text.trim (before ++ core ++ behind) = core := by
  rw [List.append_assoc, hbefore.trim_append]
  cases core with
  | nil => exact hbehind.trim_eq_nil
  | cons c cs =>
    have hleft : trimLeft (c :: cs ++ behind) = c :: cs ++ behind := by
      unfold trimLeft
      rw [List.cons_append, List.dropWhile_cons, h.head c rfl]
      rfl
    have hright : (c :: cs).reverse.dropWhile isBlank = (c :: cs).reverse := by
      have hlast := h.last
      rw [← List.head?_reverse] at hlast
      cases hreverse : (c :: cs).reverse with
      | nil => rfl
      | cons d ds =>
        rw [hreverse] at hlast
        rw [List.dropWhile_cons, hlast d rfl]
        rfl
    unfold Text.trim trimRight
    rw [hleft, List.reverse_append, List.dropWhile_append_of_pos (fun d hd => hbehind d (List.mem_reverse.mp hd)),
      hright, List.reverse_reverse]

/-- A text is white space around what trimming leaves of it. -/
theorem exists_trim (cs : List Char) :
    ∃ before behind, Blank before ∧ Blank behind ∧ cs = before ++ (trim cs ++ behind) := by
  have hleft := List.takeWhile_append_dropWhile (p := isBlank) (l := cs)
  have hright := congrArg List.reverse (List.takeWhile_append_dropWhile (p := isBlank) (l := (trimLeft cs).reverse))
  rw [List.reverse_append, List.reverse_reverse] at hright
  refine ⟨cs.takeWhile isBlank, ((trimLeft cs).reverse.takeWhile isBlank).reverse, blank_takeWhile cs, ?_, ?_⟩
  · exact fun c hc => blank_takeWhile _ c (List.mem_reverse.mp hc)
  · exact hleft.symm.trans (congrArg (cs.takeWhile isBlank ++ ·) hright.symm)

theorem trim_subset (cs : List Char) : trim cs ⊆ cs := by
  obtain ⟨before, behind, -, -, htrim⟩ := exists_trim cs
  intro c hc
  rw [htrim]
  exact List.mem_append_right _ (List.mem_append_left _ hc)

/-- A character that is no white space keeps what stands in front of it from being trimmed. -/
theorem trimRight_append_cons {c : Char} (hc : isBlank c = false) (front behind : List Char) :
    trimRight (front ++ c :: behind) = front ++ c :: trimRight behind := by
  have hsplit : (front ++ c :: behind).reverse = behind.reverse ++ c :: front.reverse := by simp
  unfold trimRight
  rw [hsplit, List.dropWhile_append]
  split
  · rename_i hempty
    rw [List.isEmpty_iff.mp hempty, List.dropWhile_cons, hc]
    simp
  · simp

/-- A character that is no white space keeps what stands behind it from being trimmed. -/
theorem trimLeft_append_cons {c : Char} (hc : isBlank c = false) (front behind : List Char) :
    trimLeft (front ++ c :: behind) = trimLeft front ++ c :: behind := by
  unfold trimLeft
  rw [List.dropWhile_append]
  split
  · rename_i hempty
    rw [List.isEmpty_iff.mp hempty, List.dropWhile_cons, hc]
    rfl
  · rfl

end LineScript.Text
