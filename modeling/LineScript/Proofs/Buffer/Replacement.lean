import LineScript.Proofs.Buffer.InRange
import LineScript.Proofs.Buffer.Iteration
import LineScript.Proofs.Buffer.Repetition

/-! What replacing without a count does to each line of a buffer: in the portion of the line that is in range, the
matches that are met one after the other make room for their new texts, and all else stays. -/
namespace LineScript.LineBuffer

open Buffer (Position)
open Regex (Match)
open Search (Matcher)

/-- Whether a text is another one with the texts of groups in place of the references to them: of a dollar sign and
a digit. What a group brings in is not looked at again. -/
inductive Expands (groups : List (Option String)) : List Char → List Char → Prop
  | done : Expands groups [] []
  | group {d : Char} {cs out : List Char} : d.isDigit = true → Expands groups cs out →
      Expands groups ('$' :: d :: cs) ((groups[d.toNat - '0'.toNat]?.join.getD "").toList ++ out)
  /-- Digits that are not of ASCII name no group. -/
  | nameless {d : Char} {cs out : List Char} : d.isDigit = false → Unicode.isDigit d = true →
      Expands groups cs out → Expands groups ('$' :: d :: cs) out
  | plain {c : Char} {cs out : List Char} : (c = '$' → ∀ d ∈ cs.head?, Unicode.isDigit d = false) →
      Expands groups cs out → Expands groups (c :: cs) (c :: out)

/-- Whether a text is what has to be put in place of a match: the replacement, with the groups of the match in it if
these are asked for. -/
inductive NewText (replacement : String) (o : ReplaceOptions) (w : Match) : List Char → Prop
  | verbatim : o.groups = false → NewText replacement o w replacement.toList
  | expanded {out : List Char} : o.groups = true → Expands w.groups replacement.toList out →
      NewText replacement o w out

/-- Whether a text is another one, given from a byte offset on, with new texts in place of some matches and
everything between them as it was. -/
inductive Rewritten (new : Match → List Char → Prop) : Nat → List Char → List Match → List Char → Prop
  | done {n : Nat} {rest : List Char} : Rewritten new n rest [] rest
  | replaced {n : Nat} {gap hit rest text out : List Char} {w : Match} {ws : List Match} :
      w.start = n + Text.size gap → w.stop = w.start + Text.size hit → new w text →
      Rewritten new w.stop rest ws out →
      Rewritten new n (gap ++ hit ++ rest) (w :: ws) (gap ++ text ++ out)

/-- The portion of a line in which to replace, as a start and an end. -/
inductive Portion (b : LineBuffer) (o : ReplaceOptions) : Nat → String → Nat → Nat → Prop
  | whole {i : Nat} {text : String} : o.start = none → o.stop = none → o.inLine = false →
      Portion b o i text 0 (Text.length text)
  /-- Only the line of the cursor, or the last one if the cursor is behind it. -/
  | cursor {text : String} : o.start = none → o.stop = none → o.inLine = true →
      Portion b o (min b.cursor.line (b.lines.length - 1)) text 0 (Text.length text)
  /-- The lines between two positions, moved into the buffer and put in order, of which the first and the last one
  are cut. -/
  | range {i : Nat} {text : String} {s e : Position} : (o.start ≠ none ∨ o.stop ≠ none) → s ≤ e →
      ((s, e) = ((o.start.getD {}).clamp b.lines, (o.stop.getD b.endPosition).clamp b.lines) ∨
        (e, s) = ((o.start.getD {}).clamp b.lines, (o.stop.getD b.endPosition).clamp b.lines)) →
      s.line ≤ i → i ≤ e.line →
      Portion b o i text (if i = s.line then s.column else 0)
        (if i = e.line then e.column else Text.length text)

/-- What has to become of a line: it stays if it is out of range or the filter does not match it as it was.
Otherwise those matches in it are replaced that are met one after the other from the start of its portion on, up to
the first one that ends behind the portion. -/
inductive Substituted (b : LineBuffer) (m : Matcher) (replacement : String) (o : ReplaceOptions) (i : Nat)
    (text : String) : String → Prop
  | outside : (∀ low high, ¬Portion b o i text low high) → Substituted b m replacement o i text text
  | filtered : o.filter.all (·.matches text) = false → Substituted b m replacement o i text text
  | rewritten {low high : Nat} {front part back out : List Char} {all ws : List Match} :
      Portion b o i text low high → o.filter.all (·.matches text) = true →
      text.toList = front ++ part ++ back → Text.size front = low → Text.size (front ++ part) = high →
      Iterated m text low none all → ws = all.takeWhile (·.stop ≤ high) →
      (high = Text.length text → ws = all) → Rewritten (NewText replacement o) low part ws out →
      Substituted b m replacement o i text (String.ofList (front ++ out ++ back))

theorem expands_expandGroups (groups : List (Option String)) (cs : List Char) :
    Expands groups cs (expandGroups groups cs) := by
  fun_induction expandGroups groups cs with
  | case1 => exact .done
  | case2 d rest hd name ih =>
    by_cases hascii : d.isDigit = true
    · have hname : name = groups[d.toNat - '0'.toNat]? := if_pos hascii
      rw [hname]
      exact .group hascii ih
    · have hname : name = none := if_neg hascii
      rw [hname]
      exact .nameless (by simpa using hascii) hd ih
  | case3 d rest hd ih =>
    have hplain : '$' = '$' → ∀ e ∈ (d :: rest).head?, Unicode.isDigit e = false := by
      intro _ e he
      obtain rfl : d = e := by simpa using he
      simpa using hd
    exact .plain hplain ih
  | case4 c cs h ih =>
    have hplain : c = '$' → ∀ d ∈ cs.head?, Unicode.isDigit d = false := by
      intro hc d hd
      obtain ⟨rest, rfl⟩ : ∃ rest, cs = d :: rest := by
        cases cs with
        | nil => cases hd
        | cons e rest => exact ⟨rest, by simpa using hd⟩
      exact absurd rfl (h d rest hc)
    exact .plain hplain ih

theorem newText_newText (replacement : String) (o : ReplaceOptions) (w : Match) :
    NewText replacement o w (newText replacement o w).toList := by
  unfold newText
  by_cases hgroups : o.groups = true
  · rw [if_pos hgroups, String.toList_ofList]
    exact .expanded hgroups (expands_expandGroups _ _)
  · rw [if_neg hgroups]
    exact .verbatim (by simpa using hgroups)

section
variable {m : Matcher} {text : String}

/-- Putting new texts in place of the matches in a portion leaves what stands behind the portion. -/
theorem Iterated.rewritten (hm : m.Sound) {start : Nat} {barred : Option Nat} {all : List Match}
    (h : Iterated m text start barred all) {new : Match → List Char → Prop} {put : Match → String}
    (hput : ∀ w, new w (put w).toList) (hstart : Text.IsBoundary text.toList start) {high : Nat}
    (hhigh : Text.IsBoundary text.toList high) (hle : start ≤ high) :
    ∃ out, Rewritten new start (Text.slice text.toList start high) (all.takeWhile (·.stop ≤ high)) out ∧
      (splice text put start (all.takeWhile (·.stop ≤ high))).toList =
        out ++ Text.drop text.toList high := by
  have hnothing : ∀ start, start ≤ high → (splice text put start []).toList =
      Text.slice text.toList start high ++ Text.drop text.toList high := by
    intro start hle
    rw [Text.slice_append_drop hhigh hle, splice, Text.toList_after]
  induction h with
  | done => exact ⟨_, .done, hnothing _ hle⟩
  | @next start barred w ws hw _ _ ih =>
    obtain ⟨-, hspan, hfirst, hlast⟩ := hm _ _ _ hw.found
    by_cases hin : w.stop ≤ high
    · obtain ⟨out, hrewritten, hsplice⟩ := ih hlast hin
      have hparts : Text.slice text.toList start high = Text.slice text.toList start w.start ++
          Text.slice text.toList w.start w.stop ++ Text.slice text.toList w.stop high := by
        rw [Text.slice_append_slice hfirst hw.le hspan,
          Text.slice_append_slice hlast (Nat.le_trans hw.le hspan) hin]
      have htake : (w :: ws).takeWhile (·.stop ≤ high) = w :: ws.takeWhile (·.stop ≤ high) := by
        simp [hin]
      rw [htake, hparts]
      refine ⟨_, .replaced (Text.size_slice hstart hfirst hw.le).symm
        (Text.size_slice hfirst hlast hspan).symm (hput w) hrewritten, ?_⟩
      rw [splice, String.toList_append, String.toList_append, hsplice, Text.toList_between]
      simp
    · have htake : (w :: ws).takeWhile (·.stop ≤ high) = [] := by simp [hin]
      rw [htake]
      exact ⟨_, .done, hnothing _ hle⟩

/-- No match ends behind the text. -/
theorem Iterated.takeWhile_length (hm : m.Sound) {start : Nat} {barred : Option Nat} {all : List Match}
    (h : Iterated m text start barred all) :
    all.takeWhile (·.stop ≤ Text.length text) = all := by
  induction h with
  | done => rfl
  | next hw _ _ ih =>
    obtain ⟨-, -, -, hstop⟩ := hm _ _ _ hw.found
    have hsize := hstop.le_size
    rw [← Text.length_eq_size] at hsize
    simp [hsize, ih]

/-- With new texts in place of the matches in a portion of a text, the portion is rewritten, and what stands around it
stays. -/
theorem splice_occurrences (hm : m.Sound) (hleft : m.Leftmost text) {new : Match → List Char → Prop}
    {put : Match → String} (hput : ∀ w, new w (put w).toList) {low high : Nat}
    (hlow : Text.IsBoundary text.toList low) (hhigh : Text.IsBoundary text.toList high) (hle : low ≤ high) :
    ∃ front part back all out, text.toList = front ++ part ++ back ∧ Text.size front = low ∧
      Text.size (front ++ part) = high ∧ Iterated m text low none all ∧
      (high = Text.length text → all.takeWhile (·.stop ≤ high) = all) ∧
      Rewritten new low part (all.takeWhile (·.stop ≤ high)) out ∧
      splice text put 0 (occurrences m text high (Text.length text + 2) low none) =
        String.ofList (front ++ out ++ back) := by
  have hsize := hhigh.le_size
  rw [← Text.length_eq_size] at hsize
  have hall := iterated_occurrences hm hleft hlow
    (by omega : Text.length text < Text.length text + 2 + low) none
  have hws : ∀ w ∈ (occurrences m text high (Text.length text + 2) low none).head?, low ≤ w.start :=
    fun w hw => le_of_occurrences hm hlow hw
  rw [← before_append_splice hws, occurrences_eq_takeWhile hm hsize hlow]
  generalize occurrences m text (Text.length text) (Text.length text + 2) low none = all at hall
  obtain ⟨out, hrewritten, hsplice⟩ := hall.rewritten hm hput hlow hhigh hle
  have htext : text.toList =
      Text.take text.toList low ++ Text.slice text.toList low high ++ Text.drop text.toList high := by
    rw [Text.take_append_slice _ hle, Text.take_append_drop]
  have hstop : Text.size (Text.take text.toList low ++ Text.slice text.toList low high) = high := by
    rw [Text.take_append_slice _ hle, hhigh.size_take]
  have hfull : high = Text.length text → all.takeWhile (·.stop ≤ high) = all := by
    rintro rfl
    exact hall.takeWhile_length hm
  have hresult : Text.before text low ++ splice text put low (all.takeWhile (·.stop ≤ high)) =
      String.ofList (Text.take text.toList low ++ out ++ Text.drop text.toList high) := by
    apply String.toList_injective
    rw [String.toList_append, hsplice, Text.toList_before, String.toList_ofList, List.append_assoc]
  exact ⟨_, _, _, all, out, htext, hlow.size_take, hstop, hall, hfull, hrewritten, hresult⟩

end

/-- Replacing in some lines is to replace in each of them, as far as the count is not used up in front of it. -/
theorem getElem?_replaceLines (choose : Nat → String → List Match) (new : Match → String) (index : Nat)
    (left : Option Nat) (lines : List String) (i : Nat) :
    (replaceLines choose new index left lines).1[i]? = (lines[i]?).map fun text =>
      splice text new 0 (limited (left.map (· - (replaceLines choose new index left (lines.take i)).2))
        (choose (index + i) text)) := by
  induction lines generalizing index left i with
  | nil => simp [replaceLines]
  | cons text rest ih =>
    rw [replaceLines_cons]
    cases i with
    | zero =>
      have hleft : left.map (· - (replaceLines choose new index left []).2) = left := by
        cases left <;> rfl
      simp [hleft]
    | succ i =>
      rw [List.getElem?_cons_succ, List.getElem?_cons_succ, ih, List.take_succ_cons, replaceLines_cons]
      have hleft (a n : Nat) : (left.map (· - a)).map (· - n) = left.map (· - (a + n)) := by
        cases left with
        | none => rfl
        | some k => exact congrArg some (Nat.sub_sub k a n)
      dsimp only
      rw [hleft, Nat.add_right_comm, Nat.add_assoc]

theorem length_replaceLines (choose : Nat → String → List Match) (new : Match → String) (index : Nat)
    (left : Option Nat) (lines : List String) :
    (replaceLines choose new index left lines).1.length = lines.length := by
  induction lines generalizing index left with
  | nil => rfl
  | cons text rest ih => rw [replaceLines_cons, List.length_cons, ih, List.length_cons]

section
variable {b : LineBuffer} {o : ReplaceOptions} {i : Nat} {text : String} {low high : Nat}

/-- With a start or an end given, the portions are those of the range between the two. -/
theorem portion_iff_given (hgiven : o.start ≠ none ∨ o.stop ≠ none) :
    Portion b o i text low high ↔ (b.replaceRange o).1.line ≤ i ∧ i ≤ (b.replaceRange o).2.line ∧
      portion (b.replaceRange o) i text = (low, high) := by
  generalize hp : (o.start.getD {}).clamp b.lines = p
  generalize hq : (o.stop.getD b.endPosition).clamp b.lines = q
  have hrange : b.replaceRange o = Position.ordered p q := by
    rw [← hp, ← hq]
    unfold replaceRange
    split
    · next hstart hstop _ => exact absurd hgiven (by simp [hstart, hstop])
    · rfl
  obtain ⟨hcases, hle⟩ := Position.ordered_cases p q
  rw [hrange]
  constructor
  · intro h
    cases h with
    | whole hstart hstop => exact absurd hgiven (by simp [hstart, hstop])
    | cursor hstart hstop => exact absurd hgiven (by simp [hstart, hstop])
    | @range _ _ s e _ hse hends hi hi' =>
      rw [hp, hq] at hends
      have hordered : Position.ordered p q = (s, e) := by
        rcases hends with hends | hends
        · cases hends
          exact if_pos hse
        · cases hends
          unfold Position.ordered
          split
          · next hes => rw [Position.le_antisymm hse hes]
          · rfl
      rw [hordered]
      exact ⟨hi, hi', rfl⟩
  · rintro ⟨hi, hi', hportion⟩
    obtain ⟨rfl, rfl⟩ := Prod.mk.inj hportion
    have hends : ((Position.ordered p q).1, (Position.ordered p q).2) = (p, q) ∨
        ((Position.ordered p q).2, (Position.ordered p q).1) = (p, q) := by
      rcases hcases with h | h
      · exact .inl h
      · exact .inr (by rw [h])
    generalize Position.ordered p q = ends at *
    rw [← hp, ← hq] at hends
    exact .range hgiven hle hends hi hi'

section
variable (hstart : o.start = none) (hstop : o.stop = none)
include hstart hstop

/-- Without a range, the portions are all the lines. -/
theorem portion_iff_whole (hline : o.inLine = false) (hget : b.lines[i]? = some text) :
    Portion b o i text low high ↔ (b.replaceRange o).1.line ≤ i ∧ i ≤ (b.replaceRange o).2.line ∧
      portion (b.replaceRange o) i text = (low, high) := by
  obtain ⟨hle, hportion⟩ := portion_whole hget
  rw [replaceRange_whole b o hstart hstop hline, hportion]
  constructor
  · intro h
    cases h with
    | whole => exact ⟨Nat.zero_le _, hle, rfl⟩
    | cursor _ _ hother => rw [hline] at hother; cases hother
    | range hgiven => exact absurd hgiven (by simp [hstart, hstop])
  · rintro ⟨-, -, hends⟩
    obtain ⟨rfl, rfl⟩ := Prod.mk.inj hends
    exact .whole hstart hstop hline

/-- Without a range, the only portion for an expression of one line is the line of the cursor. -/
theorem portion_iff_cursor (hline : o.inLine = true) (hget : b.lines[i]? = some text) :
    Portion b o i text low high ↔ (b.replaceRange o).1.line ≤ i ∧ i ≤ (b.replaceRange o).2.line ∧
      portion (b.replaceRange o) i text = (low, high) := by
  generalize hcursor : min b.cursor.line (b.lines.length - 1) = line
  have hrange : b.replaceRange o = (⟨line, 0⟩, ⟨line, (b.lines[line]?).elim 0 Text.length⟩) := by
    simp only [replaceRange, hstart, hstop, hline, hcursor]
  have hportion : i = line → portion (b.replaceRange o) i text = (0, Text.length text) := by
    rintro rfl
    rw [hrange]
    simp [portion, hget]
  constructor
  · intro h
    cases h with
    | whole _ _ hother => rw [hline] at hother; cases hother
    | cursor =>
      rw [hportion hcursor, hrange]
      exact ⟨Nat.le_of_eq hcursor.symm, Nat.le_of_eq hcursor, rfl⟩
    | range hgiven => exact absurd hgiven (by simp [hstart, hstop])
  · rintro ⟨hi, hi', hends⟩
    rw [hrange] at hi hi'
    obtain rfl : i = line := Nat.le_antisymm hi' hi
    rw [hportion rfl] at hends
    obtain ⟨rfl, rfl⟩ := Prod.mk.inj hends
    rw [← hcursor]
    exact .cursor hstart hstop hline

end

/-- The portions of the lines are those of the range of the replacement. -/
theorem portion_iff (hget : b.lines[i]? = some text) :
    Portion b o i text low high ↔ (b.replaceRange o).1.line ≤ i ∧ i ≤ (b.replaceRange o).2.line ∧
      portion (b.replaceRange o) i text = (low, high) := by
  by_cases hgiven : o.start ≠ none ∨ o.stop ≠ none
  · exact portion_iff_given hgiven
  · obtain ⟨hstart, hstop⟩ : o.start = none ∧ o.stop = none := by simpa using hgiven
    cases hline : o.inLine with
    | false => exact portion_iff_whole hstart hstop hline hget
    | true => exact portion_iff_cursor hstart hstop hline hget

theorem replaceRange_stop_clamped (hb : b.lines ≠ []) (o : ReplaceOptions) :
    (b.replaceRange o).2.Clamped b.lines := by
  have hpos : 1 ≤ b.lines.length := List.length_pos_iff.mpr hb
  unfold replaceRange
  split
  · have hlt : min b.cursor.line (b.lines.length - 1) < b.lines.length := by omega
    refine (Position.clamped_on (List.getElem?_eq_getElem hlt)).mpr ?_
    dsimp only
    rw [List.getElem?_eq_getElem hlt]
    exact Access.isBoundary_length _
  · rcases (Position.ordered_cases ((o.start.getD {}).clamp b.lines)
      ((o.stop.getD b.endPosition).clamp b.lines)).1 with h | h
    · rw [h]
      exact Position.clamp_clamped _ _
    · rw [h]
      exact Position.clamp_clamped _ _

/-- A portion is a part of its line. -/
theorem portion_bounds (hget : b.lines[i]? = some text) :
    let columns := portion (b.replaceRange o) i text
    Text.IsBoundary text.toList columns.1 ∧ Text.IsBoundary text.toList columns.2 ∧
      columns.1 ≤ columns.2 := by
  have hb : b.lines ≠ [] := by
    intro hnone
    rw [hnone] at hget
    cases hget
  have hstart := replaceRange_clamped hb o
  have hstop := replaceRange_stop_clamped hb o
  have hle := Position.le_iff.mp (replaceRange_le b o)
  have hlow := portion_boundary (fun _ => hstart) hget
  generalize b.replaceRange o = range at *
  have hhigh : Text.IsBoundary text.toList (portion range i text).2 := by
    dsimp only [portion]
    split
    · next heq =>
      rw [heq] at hget
      exact (Position.clamped_on hget).mp hstop
    · exact Access.isBoundary_length text
  refine ⟨hlow, hhigh, ?_⟩
  have hsize := hlow.le_size
  rw [← Text.length_eq_size] at hsize
  dsimp only [portion] at hsize ⊢
  split_ifs at hsize ⊢ <;> omega

/-- With the chosen matches replaced, a line is what it has to become. -/
theorem substituted_chosen {m : Matcher} (hm : m.Sound) (hleft : m.Leftmost text)
    (hget : b.lines[i]? = some text) (replacement : String) :
    Substituted b m replacement o i text
      (splice text (newText replacement o) 0 (chosen m o.filter (b.replaceRange o) i text)) := by
  have hportion (low high : Nat) : Portion b o i text low high ↔ _ := portion_iff hget
  by_cases hbefore : i < (b.replaceRange o).1.line
  · rw [chosen_before _ hbefore, splice_nil]
    apply Substituted.outside
    intro low high h
    obtain ⟨hle, -⟩ := (hportion low high).mp h
    omega
  by_cases hbehind : (b.replaceRange o).2.line < i
  · rw [chosen_behind _ hbehind, splice_nil]
    apply Substituted.outside
    intro low high h
    obtain ⟨-, hle, -⟩ := (hportion low high).mp h
    omega
  rw [chosen_within o.filter (Nat.le_of_not_lt hbefore) (Nat.le_of_not_lt hbehind)]
  by_cases hfilter : o.filter.all (·.matches text) = true
  · obtain ⟨hlow, hhigh, hle⟩ := portion_bounds (o := o) hget
    have hinside : Portion b o i text (portion (b.replaceRange o) i text).1
        (portion (b.replaceRange o) i text).2 :=
      (hportion _ _).mpr ⟨Nat.le_of_not_lt hbefore, Nat.le_of_not_lt hbehind, rfl⟩
    generalize portion (b.replaceRange o) i text = columns at *
    obtain ⟨low, high⟩ := columns
    dsimp only at hlow hhigh hle hinside ⊢
    have hordered : ¬ high < low := Nat.not_lt.mpr hle
    simp only [hfilter, hordered, Bool.not_true, decide_false, Bool.or_self, Bool.false_eq_true,
      if_false]
    obtain ⟨front, part, back, all, out, htext, hfront, hpart, hall, hfull, hrewritten, hresult⟩ :=
      splice_occurrences hm hleft (newText_newText replacement o) hlow hhigh hle
    rw [hresult]
    exact .rewritten hinside hfilter htext hfront hpart hall rfl hfull hrewritten
  · simp only [hfilter, Bool.not_false, Bool.true_or, if_true, splice_nil]
    exact .filtered (by simpa using hfilter)

end

/-- Replacing without a count replaces, in each line that is in range and passes the filter, the matches that are
met one after the other in its portion, and nothing else. -/
theorem replace_substitutes (b : LineBuffer) (m : Matcher) (replacement : String) (o : ReplaceOptions)
    (hm : m.Sound) (hleft : ∀ text ∈ b.lines, m.Leftmost text) (hcount : o.count = none) :
    (b.replace m replacement o).1.lines.length = b.lines.length ∧
      ∀ i text, b.lines[i]? = some text → ∃ text',
        (b.replace m replacement o).1.lines[i]? = some text' ∧
          Substituted b m replacement o i text text' := by
  obtain ⟨hlines, -⟩ := replace_eq_replaceLines b m replacement o
  rw [hlines]
  constructor
  · exact length_replaceLines _ _ _ _ _
  · intro i text hget
    have hline := substituted_chosen (o := o) hm (hleft text (List.mem_of_getElem? hget)) hget replacement
    rw [getElem?_replaceLines, hget, hcount]
    refine ⟨_, rfl, ?_⟩
    rw [Nat.zero_add]
    exact hline

theorem character_leftmost (text : String) : character.Leftmost text := by
  have hfound (n : Nat) (w : Match) (h : character.find? text n = some w) : w.start = n := by
    unfold character at h
    dsimp only at h
    split at h
    · cases h
      rfl
    · cases h
  constructor
  · intro n w _ h
    obtain rfl := hfound n w h
    exact ⟨h, fun v _ hv => hv⟩
  · intro n hn h
    simp [character, hn] at h

/-- From the second character of the first line on. The empty match at the end of a line is passed over, unless
the line is empty. -/
theorem replace_substitutes_characters :
    let b := ofLines ["aé", "b", ""]
    let o : ReplaceOptions := { start := some ⟨0, 1⟩ }
    o.count = none ∧ character.Sound ∧ (∀ text ∈ b.lines, character.Leftmost text) ∧
      (b.replace character "-" o).1.lines = ["a-", "-", "-"] ∧
      ∀ i text, b.lines[i]? = some text → ∃ text',
        (b.replace character "-" o).1.lines[i]? = some text' ∧
          Substituted b character "-" o i text text' := by
  intro b o
  have hleft : ∀ text ∈ b.lines, character.Leftmost text := fun text _ => character_leftmost text
  obtain ⟨-, hall⟩ := replace_substitutes b character "-" o character_sound hleft rfl
  exact ⟨rfl, character_sound, hleft, by decide, hall⟩

end LineScript.LineBuffer
