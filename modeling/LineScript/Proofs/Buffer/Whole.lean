import LineScript.Buffer.File
import LineScript.Buffer.Replace
import LineScript.Proofs.Buffer.Removal
import LineScript.Proofs.Buffer.ReplaceAccess
import LineScript.Proofs.Text.Unbroken

/-! Which operations of a buffer leave no line break inside a line: all of them, but for lines that are
given with one, and for a text with one that is put in place of matches or of a line. -/
namespace LineScript.LineBuffer

open Buffer (Position)
open Regex (Match)
open Search (Matcher Flags)
open Text (Unbroken)

/-- Whether no line of a buffer has a line break. -/
def Whole (b : LineBuffer) : Prop :=
  ∀ line ∈ b.lines, Unbroken line

variable {b : LineBuffer}

theorem whole_empty : Whole {} := by
  simp [Whole]

theorem whole_setLines {lines : List String} (h : ∀ line ∈ lines, Unbroken line) :
    (b.setLines lines).Whole :=
  h

namespace Whole

/-- A line that may be missing counts as empty. -/
theorem getD (h : b.Whole) (i : Nat) : Unbroken ((b.lines[i]?).getD "") := by
  cases hi : b.lines[i]? with
  | none => exact Text.unbroken_empty
  | some line => exact h line (List.mem_of_getElem? hi)

theorem append (h : b.Whole) {lines : List String} (hlines : ∀ line ∈ lines, Unbroken line) :
    (b.append lines).Whole := by
  intro line hline
  rcases List.mem_append.mp hline with hline | hline
  · exact h line hline
  · exact hlines line hline

theorem pop (h : b.Whole) : b.pop.1.Whole := by
  unfold LineBuffer.pop
  split
  · exact fun line hline => h line (List.dropLast_subset _ hline)
  · exact h

theorem shift (h : b.Whole) : b.shift.1.Whole := by
  unfold LineBuffer.shift
  split
  · exact h
  · next first rest hlines =>
    exact fun line hline => h line (hlines ▸ List.mem_cons_of_mem first hline)

theorem setCursor (h : b.Whole) (p : Position) : (b.setCursor p).Whole :=
  h

theorem setMark (h : b.Whole) (p : Position) : (b.setMark p).Whole :=
  h

theorem stored (h : b.Whole) (append : Bool) : (b.stored append).Whole := by
  unfold LineBuffer.stored
  split
  · exact h
  · exact h

theorem search (h : b.Whole) (m : Matcher) (f : Flags) (advance : Bool) :
    (b.search m f advance).1.Whole := by
  have hlines := (search_searched b m f advance).lines
  unfold Whole
  rwa [hlines]

theorem splitAt (h : b.Whole) (p : Position) :
    Unbroken (b.splitAt p).1 ∧ Unbroken (b.splitAt p).2 :=
  ⟨(h.getD p.line).before p.column, (h.getD p.line).after p.column⟩

/-- A block of lines in place of others. -/
theorem edit_block (h : b.Whole) {block : List String} (hblock : ∀ line ∈ block, Unbroken line)
    (i j : Nat) : (b.edit (b.lines.take i ++ block ++ b.lines.drop j)).Whole := by
  intro line hline
  rw [edit_lines, List.append_assoc, List.mem_append, List.mem_append] at hline
  rcases hline with hline | hline | hline
  · exact h line (List.mem_of_mem_take hline)
  · exact hblock line hline
  · exact h line (List.mem_of_mem_drop hline)

/-- A line in place of another one, if there is one. -/
theorem set (h : b.Whole) {text : String} (htext : Unbroken text) (i : Nat) :
    ∀ line ∈ b.lines.set i text, Unbroken line := by
  intro line hline
  rcases List.mem_or_eq_of_mem_set hline with hline | rfl
  · exact h line hline
  · exact htext

theorem insert (h : b.Whole) (q : Position) {lines : List String}
    (hlines : ∀ line ∈ lines, Unbroken line) (newline : Bool) : (b.insert q lines newline).1.Whole := by
  generalize hp : q.clamp b.lines = p
  obtain ⟨hhead, htail⟩ := h.splitAt p
  have hfirst : Unbroken (lines.headD "") := by
    cases lines with
    | nil => exact Text.unbroken_empty
    | cons line lines => exact hlines line List.mem_cons_self
  have hopened : ∀ line ∈ opened (b.splitAt p).1 lines, Unbroken line := by
    intro line hline
    rcases List.mem_cons.mp hline with rfl | hline
    · exact Text.unbroken_append.mpr ⟨hhead, hfirst⟩
    · exact hlines line (List.mem_of_mem_drop hline)
  cases newline with
  | true =>
    rw [insert_newline b q hp]
    refine h.edit_block (fun line hline => ?_) _ _
    rcases List.mem_append.mp hline with hline | hline
    · exact hopened line hline
    · split at hline
      · rw [List.mem_singleton.mp hline]
        exact htail
      · cases hline
  | false =>
    by_cases hnothing : lines = []
    · subst hnothing
      rw [insert_nothing b q hp]
      exact h
    by_cases hone : lines.length = 1 ∧ p.line < b.lines.length
    · obtain ⟨hlength, hlt⟩ := hone
      obtain ⟨new, rfl⟩ := List.length_eq_one_iff.mp hlength
      rw [insert_one b q hp hlt]
      have hnew : Unbroken ((b.splitAt p).1 ++ new ++ (b.splitAt p).2) := by
        simp only [Text.unbroken_append]
        exact ⟨⟨hhead, hfirst⟩, htail⟩
      exact h.set hnew p.line
    · have hbehind : lines.length = 1 → b.lines.length ≤ p.line :=
        fun hlength => Nat.le_of_not_lt fun hlt => hone ⟨hlength, hlt⟩
      rw [insert_lines b q hp hnothing hbehind]
      refine h.edit_block (fun line hline => ?_) _ _
      have hlast : Unbroken ((opened (b.splitAt p).1 lines).getLastD "") := by
        rw [List.getLastD_eq_getLast?, List.getLast?_eq_some_getLast (opened_ne_nil _ _)]
        exact hopened _ (List.getLast_mem _)
      rcases List.mem_append.mp hline with hline | hline
      · exact hopened line (List.dropLast_subset _ hline)
      · rw [List.mem_singleton.mp hline]
        exact Text.unbroken_append.mpr ⟨hlast, htail⟩

theorem delete (h : b.Whole) (p q : Position) : (b.delete p q).1.Whole := by
  rw [delete_eq]
  split
  · exact h
  · obtain ⟨hhead, -⟩ := h.splitAt (b.ends p q).1
    obtain ⟨-, htail⟩ := h.splitAt (b.ends p q).2
    unfold without
    dsimp only
    split
    · intro line hline
      rcases List.mem_append.mp hline with hline | hline
      · exact h line (List.mem_of_mem_take hline)
      · split at hline
        · rw [List.mem_singleton.mp hline]
          exact hhead
        · cases hline
    · refine h.edit_block (fun line hline => ?_) _ _
      rw [List.mem_singleton.mp hline]
      exact Text.unbroken_append.mpr ⟨hhead, htail⟩

theorem extract (h : b.Whole) (p q : Position) (closed : Bool) :
    ∀ line ∈ b.extract p q closed, Unbroken line := by
  have hpieces (s e : Position) : ∀ line ∈ b.pieces s e, Unbroken line := by
    unfold pieces
    split
    · simp
    split
    · intro line hline
      rw [List.mem_singleton.mp hline]
      exact (h.getD s.line).between _ _
    · intro line hline
      rcases List.mem_cons.mp hline with rfl | hline
      · exact (h.splitAt s).2
      rcases List.mem_append.mp hline with hline | hline
      · exact h line (List.mem_of_mem_take (List.mem_of_mem_drop hline))
      · split at hline
        · rw [List.mem_singleton.mp hline]
          exact (h.splitAt e).1
        · cases hline
  exact hpieces _ _

end Whole

/-- Keeping a line up to date leaves no line break inside a line exactly if the new text has none. -/
theorem adapt_whole_iff (h : b.Whole) (pattern : Matcher) (replacement : String)
    (anchor : Option Matcher) (above : Bool) :
    (b.adapt pattern replacement anchor above).1.Whole ↔ Unbroken replacement := by
  unfold adapt
  split
  · next i hfound =>
    have hlt := findLine?_lt hfound
    split
    · next hsame => exact iff_of_true h (h _ (List.mem_of_getElem? hsame))
    · exact ⟨fun hwhole => hwhole _ (List.mem_set hlt _), fun htext => h.set htext i⟩
  · split
    · next i hanchor =>
      obtain ⟨m, -, hm⟩ := Option.bind_eq_some_iff.mp hanchor
      have hlt := findLine?_lt hm
      have hplace : (if above then i else i + 1) ≤ b.lines.length := by
        split <;> omega
      refine ⟨fun hwhole => hwhole _ ?_, fun htext line hline => ?_⟩
      · exact (List.mem_insertIdx hplace).mpr (.inl rfl)
      · rcases (List.mem_insertIdx hplace).mp hline with rfl | hline
        · exact htext
        · exact h line hline
    · refine ⟨fun hwhole => hwhole _ ?_, fun htext => h.append (by simpa using htext)⟩
      exact List.mem_append_right _ (List.mem_singleton_self _)

/-- Whether the groups of the matches of a matcher are parts of the text. -/
def Quotes (m : Matcher) : Prop :=
  ∀ text n w t, m.find? text n = some w → some t ∈ w.groups → t.toList ⊆ text.toList

theorem quotes_matcher (x : Search.Expression) : Quotes x.matcher := by
  intro text n w t hw ht
  dsimp only [Search.Expression.matcher] at hw
  split at hw
  · cases hw
  · obtain ⟨thread, -, rfl⟩ := Option.map_eq_some_iff.mp hw
    obtain ⟨i, -, hspan⟩ := List.mem_map.mp ht
    obtain ⟨ends, -, rfl⟩ := Option.map_eq_some_iff.mp hspan
    rw [String.toList_ofList]
    exact Text.slice_subset _ _ _

/-- A group without a line break brings none into a text, and none of the text is lost. -/
theorem mem_expandGroups_iff {groups : List (Option String)}
    (hgroups : ∀ t, some t ∈ groups → Unbroken t) (cs : List Char) :
    '\n' ∈ expandGroups groups cs ↔ '\n' ∈ cs := by
  have hname (i : Option (Option String)) (hi : ∀ g, i = some g → g ∈ groups) :
      '\n' ∉ (i.join.getD "").toList := by
    match i with
    | none | some none => exact List.not_mem_nil
    | some (some t) => exact hgroups t (hi _ rfl)
  fun_induction expandGroups groups cs with
  | case1 => rfl
  | case2 d rest hd name ih =>
    have hdigit : d ≠ '\n' := by
      rintro rfl
      exact absurd hd (by decide)
    have htext : '\n' ∉ (name.join.getD "").toList := by
      refine hname name fun g hg => ?_
      dsimp only [name] at hg
      split at hg
      · exact List.mem_of_getElem? hg
      · cases hg
    simp [htext, ih, hdigit.symm]
  | case3 d rest hd ih => simp [ih]
  | case4 c cs h ih => simp [ih]

section
variable {m : Matcher} {text : String}

theorem mem_occurrences {stop fuel pos : Nat} {previous : Option Nat} {w : Match}
    (hw : w ∈ occurrences m text stop fuel pos previous) : ∃ n, m.find? text n = some w := by
  induction fuel generalizing pos previous with
  | zero => cases hw
  | succ fuel ih =>
    unfold occurrences at hw
    by_cases hbehind : stop < pos
    · simp [hbehind] at hw
    cases hfind : m.find? text pos with
    | none => simp [hbehind, hfind] at hw
    | some v =>
      simp only [hbehind, if_false, hfind] at hw
      split at hw
      · cases hw
      split at hw
      · split at hw
        · split at hw
          · cases hw
          · exact ih hw
        · rcases List.mem_cons.mp hw with rfl | hw
          · exact ⟨pos, hfind⟩
          · split at hw
            · cases hw
            · exact ih hw
      · rcases List.mem_cons.mp hw with rfl | hw
        · exact ⟨pos, hfind⟩
        · exact ih hw

theorem mem_chosen {filter : Option Matcher} {range : Position × Position} {index : Nat} {w : Match}
    (hw : w ∈ chosen m filter range index text) : ∃ n, m.find? text n = some w := by
  by_cases hbefore : index < range.1.line
  · simp [chosen_before filter hbefore] at hw
  by_cases hbehind : range.2.line < index
  · simp [chosen_behind filter hbehind] at hw
  rw [chosen_within filter (Nat.le_of_not_lt hbefore) (Nat.le_of_not_lt hbehind)] at hw
  split at hw
  · cases hw
  · exact mem_occurrences hw

end

/-- What is put in place of a match. -/
def newText (replacement : String) (o : ReplaceOptions) (w : Match) : String :=
  if o.groups then String.ofList (expandGroups w.groups replacement.toList) else replacement

/-- What is put in place of matches in a text without a line break has one exactly if the replacement
has. -/
theorem newText_unbroken_iff {m : Matcher} (hm : Quotes m) {text : String} (htext : Unbroken text)
    {n : Nat} {w : Match} (hw : m.find? text n = some w) (replacement : String) (o : ReplaceOptions) :
    Unbroken (newText replacement o w) ↔ Unbroken replacement := by
  unfold newText
  split
  · have hgroups : ∀ t, some t ∈ w.groups → Unbroken t :=
      fun t ht => htext.of_subset (hm text n w t hw ht)
    rw [Unbroken, String.toList_ofList, mem_expandGroups_iff hgroups]
    rfl
  · rfl

theorem splice_unbroken {text : String} (htext : Unbroken text) {new : Match → String} {last : Nat}
    {ws : List Match} :
    Unbroken (splice text new last ws) ↔ ∀ w ∈ ws, Unbroken (new w) := by
  induction ws generalizing last with
  | nil => exact iff_of_true (htext.after last) (by simp)
  | cons w ws ih =>
    have hbefore := htext.between last w.start
    simp [splice, hbefore, ih]

/-- Replaced lines have a line break exactly if a new text has one. -/
theorem replaceLines_unbroken {choose : Nat → String → List Match} {new : Match → String}
    {broken : Prop} (hnew : ∀ i text, Unbroken text → ∀ w ∈ choose i text, Unbroken (new w) ↔ ¬broken)
    {lines : List String} (hlines : ∀ line ∈ lines, Unbroken line) (index : Nat) (left : Option Nat) :
    (∀ line ∈ (replaceLines choose new index left lines).1, Unbroken line) ↔
      (replaceLines choose new index left lines).2 = 0 ∨ ¬broken := by
  induction lines generalizing index left with
  | nil => simp [replaceLines]
  | cons text rest ih =>
    obtain ⟨htext, hrest⟩ := List.forall_mem_cons.mp hlines
    have hws : ∀ w ∈ limited left (choose index text), Unbroken (new w) ↔ ¬broken := by
      intro w hw
      refine hnew index text htext w ?_
      cases left with
      | none => exact hw
      | some n => exact List.mem_of_mem_take hw
    rw [replaceLines_cons, List.forall_mem_cons, splice_unbroken htext, ih hrest]
    generalize limited left (choose index text) = ws at hws ⊢
    have hfirst : (∀ w ∈ ws, Unbroken (new w)) ↔ ws.length = 0 ∨ ¬broken := by
      cases ws with
      | nil => simp
      | cons w ws =>
        refine ⟨fun h => .inr ((hws w List.mem_cons_self).mp (h w List.mem_cons_self)), ?_⟩
        rintro (hnone | h)
        · cases hnone
        · exact fun w hw => (hws w hw).mpr h
    rw [hfirst]
    by_cases hbroken : broken <;> simp [hbroken]

/-- Replacing leaves no line break inside a line exactly if the replacement has none, or nothing is
replaced. -/
theorem replace_whole_iff (h : b.Whole) {m : Matcher} (hm : Quotes m) (replacement : String)
    (o : ReplaceOptions) :
    (b.replace m replacement o).1.Whole ↔ (b.replace m replacement o).2 = 0 ∨ Unbroken replacement := by
  have hnew : ∀ i text, Unbroken text → ∀ w ∈ chosen m o.filter (b.replaceRange o) i text,
      Unbroken (newText replacement o w) ↔ ¬¬Unbroken replacement := by
    intro i text htext w hw
    obtain ⟨n, hn⟩ := mem_chosen hw
    rw [Classical.not_not, newText_unbroken_iff hm htext hn]
  have hlines := replaceLines_unbroken hnew h 0 o.count
  unfold replace
  split
  · simp [h]
  · dsimp only
    rw [Classical.not_not] at hlines
    unfold newText at hlines
    generalize replaceLines (chosen m o.filter (b.replaceRange o)) _ 0 o.count b.lines = r at hlines ⊢
    split
    · simp [h]
    · exact hlines

end LineScript.LineBuffer
