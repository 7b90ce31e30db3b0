import Mathlib.Data.List.Basic
import LineScript.Proofs.Buffer.EditAccess
import LineScript.Proofs.Text.Bytes

/-! Cutting a part out of a buffer and putting it back. Deleting and inserting undo each other, line by line,
and what an insertion brings in is what is found between its ends; among others blocks of whole lines, between the start
of a line and the start of another one or behind the last line. -/
namespace LineScript.LineBuffer

open Buffer (Position)

/-- A part of some lines between two different positions, as lines, and the lines without it. -/
inductive Excerpt : List String → Position → Position → List String → List String → Prop
  | inside (pre : List String) (head part tail : String) (post : List String) : part ≠ "" →
      Excerpt (pre ++ (head ++ part ++ tail) :: post) ⟨pre.length, Text.length head⟩
        ⟨pre.length, Text.length (head ++ part)⟩ [part] (pre ++ (head ++ tail) :: post)
  | across (pre : List String) (head first : String) (middle : List String) (last tail : String)
      (post : List String) :
      Excerpt (pre ++ (head ++ first) :: (middle ++ (last ++ tail) :: post))
        ⟨pre.length, Text.length head⟩ ⟨pre.length + middle.length + 1, Text.length last⟩
        (first :: (middle ++ [last])) (pre ++ (head ++ tail) :: post)
  /-- To behind the last line. A line of which nothing is left goes too. -/
  | toEnd (pre : List String) (head first : String) (rest : List String) :
      Excerpt (pre ++ (head ++ first) :: rest) ⟨pre.length, Text.length head⟩
        ⟨pre.length + rest.length + 1, 0⟩ (first :: rest) (pre ++ if head = "" then [] else [head])

section
variable {lines rest piece : List String} {p q : Position}

/-- A position on a line parts the lines and the line. -/
theorem exists_parts (hp : p.Clamped lines) (hl : p.line < lines.length) :
    ∃ pre head tail post, lines = pre ++ (head ++ tail) :: post ∧ p = ⟨pre.length, Text.length head⟩ := by
  obtain ⟨line, hline, hcolumn⟩ := hp.exists_line hl
  obtain ⟨head, tail, rfl, hhead⟩ := Text.exists_parts hcolumn
  obtain ⟨_, hget⟩ := List.getElem?_eq_some_iff.mp hline
  refine ⟨lines.take p.line, head, tail, lines.drop (p.line + 1), ?_, ?_⟩
  · rw [← hget, ← List.drop_eq_getElem_cons hl, List.take_append_drop]
  · rw [List.length_take_of_le (Nat.le_of_lt hl), ← hhead]

theorem clamped_parts (pre : List String) (head tail : String) (post : List String) :
    Position.Clamped ⟨pre.length, Text.length head⟩ (pre ++ (head ++ tail) :: post) := by
  have hline : (pre ++ (head ++ tail) :: post)[pre.length]? = some (head ++ tail) := by simp
  apply (Position.clamped_on hline).mpr
  rw [String.toList_append, Text.length_eq_size]
  exact Text.isBoundary_size _ _

/-- Between two positions there is a part. The later position is looked at first: the earlier one is then in
what stands in front of it. -/
theorem exists_excerpt (hp : p.Clamped lines) (hq : q.Clamped lines) (hle : p ≤ q) (hne : p ≠ q) :
    ∃ piece rest, Excerpt lines p q piece rest := by
  have horder := Position.le_iff.mp hle
  rcases Nat.lt_or_ge q.line lines.length with hl | hl
  · obtain ⟨pre, text, tail, post, rfl, rfl⟩ := exists_parts hq hl
    dsimp only at horder
    rcases Nat.lt_or_ge p.line pre.length with hbefore | hsame
    · have hpre : p.Clamped pre := (Position.clamped_append_left hbefore _).mp hp
      obtain ⟨pre, head, first, middle, rfl, rfl⟩ := exists_parts hpre hbefore
      have hlines : pre ++ (head ++ first) :: middle ++ (text ++ tail) :: post =
          pre ++ (head ++ first) :: (middle ++ (text ++ tail) :: post) := by simp
      have hlength : (pre ++ (head ++ first) :: middle).length = pre.length + middle.length + 1 := by
        simp [Nat.add_assoc]
      rw [hlines, hlength]
      exact ⟨_, _, .across pre head first middle text tail post⟩
    · obtain ⟨line, column⟩ := p
      obtain rfl : line = pre.length := by dsimp only at horder hsame; omega
      have hline : (pre ++ (text ++ tail) :: post)[pre.length]? = some (text ++ tail) := by simp
      have hcolumn := (Position.clamped_on hline).mp hp
      have hwithin : column ≤ Text.size text.toList := by
        rw [← Text.length_eq_size]
        dsimp only at horder
        omega
      rw [String.toList_append, Text.isBoundary_append_of_le hwithin] at hcolumn
      obtain ⟨head, part, rfl, rfl⟩ := Text.exists_parts hcolumn
      have hpart : part ≠ "" := by
        rintro rfl
        simp at hne
      exact ⟨_, _, .inside pre head part tail post hpart⟩
  · obtain rfl := hq.eq_behind hl
    have hlt : p.line < lines.length := by
      rcases Nat.lt_or_ge p.line lines.length with hlt | hge
      · exact hlt
      · exact absurd (hp.eq_behind hge) hne
    obtain ⟨pre, head, first, rest, rfl, rfl⟩ := exists_parts hp hlt
    have hlength : (pre ++ (head ++ first) :: rest).length = pre.length + rest.length + 1 := by
      simp [Nat.add_assoc]
    rw [hlength]
    exact ⟨_, _, .toEnd pre head first rest⟩

theorem Excerpt.ends (h : Excerpt lines p q piece rest) :
    p.Clamped lines ∧ q.Clamped lines ∧ p ≤ q ∧ p ≠ q := by
  cases h with
  | inside pre head part tail post hpart =>
    have hstart := clamped_parts pre head (part ++ tail) post
    rw [← String.append_assoc] at hstart
    have hsize : Text.length part ≠ 0 := fun hzero => hpart (Text.length_eq_zero_iff.mp hzero)
    refine ⟨hstart, clamped_parts pre (head ++ part) tail post, ?_, ?_⟩
    · apply Position.le_iff.mpr
      simp [Text.length_append]
    · simpa [Text.length_append] using hsize
  | across pre head first middle last tail post =>
    have hstop := clamped_parts (pre ++ (head ++ first) :: middle) last tail post
    rw [List.append_assoc, List.length_append, List.length_cons, ← Nat.add_assoc] at hstop
    refine ⟨clamped_parts pre head first _, hstop, ?_, ?_⟩
    · apply Position.le_iff.mpr
      dsimp only
      omega
    · simp
      omega
  | toEnd pre head first rest =>
    have hstop := Position.clamped_behind (pre ++ (head ++ first) :: rest)
    rw [List.length_append, List.length_cons, ← Nat.add_assoc] at hstop
    refine ⟨clamped_parts pre head first _, hstop, ?_, ?_⟩
    · apply Position.le_iff.mpr
      dsimp only
      omega
    · simp
      omega

end

section
variable {b : LineBuffer} {pre post : List String} {head tail : String}

theorem splitAt_parts (hb : b.lines = pre ++ (head ++ tail) :: post) :
    b.splitAt ⟨pre.length, Text.length head⟩ = (head, tail) := by
  simp [splitAt, hb]

/-- What is found between the ends of a part, and what is left without it. -/
theorem Excerpt.pieces_without {lines piece rest : List String} {p q : Position}
    (h : Excerpt lines p q piece rest) (hb : b.lines = lines) :
    b.pieces p q = piece ∧ b.without p q = rest := by
  have hne := h.ends.2.2.2
  unfold pieces without
  rw [if_neg hne]
  cases h with
  | inside pre head part tail post hpart =>
    have hstart : b.splitAt ⟨pre.length, Text.length head⟩ = (head, part ++ tail) :=
      splitAt_parts (by rw [hb, String.append_assoc])
    have hstop : b.splitAt ⟨pre.length, Text.length (head ++ part)⟩ = (head ++ part, tail) :=
      splitAt_parts hb
    have hline : ¬ b.lines.length ≤ pre.length := by simp [hb]
    rw [hstart, hstop, if_neg hline]
    simp [hb]
  | across pre head first middle last tail post =>
    have hfront : b.lines = (pre ++ (head ++ first) :: middle) ++ (last ++ tail) :: post := by simp [hb]
    have hlength : pre.length + middle.length + 1 = (pre ++ (head ++ first) :: middle).length := by
      simp [Nat.add_assoc]
    have hstart : b.splitAt ⟨pre.length, Text.length head⟩ = (head, first) := splitAt_parts hb
    have hstop : b.splitAt ⟨pre.length + middle.length + 1, Text.length last⟩ = (last, tail) := by
      rw [hlength]
      exact splitAt_parts hfront
    have hline : ¬ pre.length = pre.length + middle.length + 1 := by omega
    have hlt : pre.length + middle.length + 1 < b.lines.length := by simp [hlength, hfront]
    have hmiddle : (b.lines.take (pre.length + middle.length + 1)).drop (pre.length + 1) = middle := by
      rw [hfront, hlength, List.take_left]
      simp
    have hpost : b.lines.drop (pre.length + middle.length + 1 + 1) = post := by
      rw [hfront, hlength, List.drop_length_add_append]
      rfl
    rw [hstart, hstop, if_neg hline, if_pos hlt, if_neg (Nat.not_le_of_lt hlt), hmiddle, hpost]
    simp [hb]
  | toEnd pre head first rest =>
    have hstart : b.splitAt ⟨pre.length, Text.length head⟩ = (head, first) := splitAt_parts hb
    have hline : ¬ pre.length = pre.length + rest.length + 1 := by omega
    have hend : pre.length + rest.length + 1 = b.lines.length := by simp [hb, Nat.add_assoc]
    have hhead : 0 < Text.length head ↔ ¬ head = "" := by
      rw [← Text.length_eq_zero_iff]
      exact Nat.pos_iff_ne_zero
    rw [hstart, if_neg hline, hend, List.take_length, if_neg (Nat.lt_irrefl _), if_pos (Nat.le_refl _)]
    simp [hb, hhead]

/-- Putting one text into a line. -/
theorem insert_part (hb : b.lines = pre ++ (head ++ tail) :: post) (part : String) :
    let result := b.insert ⟨pre.length, Text.length head⟩ [part] false
    result.1.lines = pre ++ (head ++ part ++ tail) :: post ∧
      result.2 = ⟨pre.length, Text.length (head ++ part)⟩ := by
  have hp : Position.clamp ⟨pre.length, Text.length head⟩ b.lines = ⟨pre.length, Text.length head⟩ := by
    rw [hb]
    exact clamped_parts pre head tail post
  have hl : pre.length < b.lines.length := by simp [hb]
  rw [insert_one b _ hp hl]
  constructor
  · simp [inlined, splitAt_parts hb, hb]
  · simp [Text.length_append]

/-- Putting several lines into a line. -/
theorem insert_block (hb : b.lines = pre ++ (head ++ tail) :: post) (first : String) (middle : List String)
    (last : String) :
    let result := b.insert ⟨pre.length, Text.length head⟩ (first :: (middle ++ [last])) false
    result.1.lines = pre ++ (head ++ first) :: (middle ++ (last ++ tail) :: post) ∧
      result.2 = ⟨pre.length + middle.length + 1, Text.length last⟩ := by
  have hp : Position.clamp ⟨pre.length, Text.length head⟩ b.lines = ⟨pre.length, Text.length head⟩ := by
    rw [hb]
    exact clamped_parts pre head tail post
  have hopened : opened head (first :: (middle ++ [last])) = (head ++ first) :: middle ++ [last] := rfl
  have hlast : ((head ++ first) :: middle ++ [last]).getLastD "" = last := by
    rw [List.getLastD_eq_getLast?, List.getLast?_concat, Option.getD_some]
  rw [insert_lines b _ hp (List.cons_ne_nil _ _) (by simp), splitAt_parts hb, hopened, hlast,
    List.dropLast_concat]
  constructor
  · simp [hb]
  · simp [Nat.add_assoc]

theorem lines_cases {lines : List String} (h : lines ≠ []) :
    (∃ part, lines = [part]) ∨ ∃ first middle last, lines = first :: (middle ++ [last]) := by
  cases lines with
  | nil => exact absurd rfl h
  | cons first rest =>
    rcases List.eq_nil_or_concat' rest with rfl | ⟨middle, last, rfl⟩
    · exact .inl ⟨first, rfl⟩
    · exact .inr ⟨first, middle, last, by simp⟩

end

section
variable {b : LineBuffer} {lines rest piece : List String} {p q : Position}

theorem endPosition_congr {c : LineBuffer} (h : c.lines = lines) :
    c.endPosition = (ofLines lines).endPosition := by
  rw [← h]
  rfl

theorem endPosition_concat (lines : List String) (last : String) :
    (ofLines (lines ++ [last])).endPosition = ⟨lines.length, Text.length last⟩ := by
  simp [endPosition, ofLines]

/-- A part is what has to be put into the lines that are left to get them all. -/
theorem Excerpt.insert (h : Excerpt lines p q piece rest) (hb : b.lines = rest) :
    let result := b.insert p piece false
    result.1.lines = lines ∧
      result.2 = if q.line < lines.length then q else (ofLines lines).endPosition := by
  dsimp only
  cases h with
  | inside pre head part tail post hpart =>
    obtain ⟨hlines, hposition⟩ := insert_part hb part
    have hline : pre.length < (pre ++ (head ++ part ++ tail) :: post).length := by simp
    rw [if_pos hline]
    exact ⟨hlines, hposition⟩
  | across pre head first middle last tail post =>
    obtain ⟨hlines, hposition⟩ := insert_block hb first middle last
    have hline : pre.length + middle.length + 1 <
        (pre ++ (head ++ first) :: (middle ++ (last ++ tail) :: post)).length := by
      simp
      omega
    rw [if_pos hline]
    exact ⟨hlines, hposition⟩
  | toEnd pre head first rest =>
    have hline : ¬ pre.length + rest.length + 1 < (pre ++ (head ++ first) :: rest).length := by
      simp
      omega
    rw [if_neg hline]
    by_cases hhead : head = ""
    · subst hhead
      have hpre : b.lines = pre := by simpa using hb
      have hp : Position.clamp ⟨pre.length, Text.length ""⟩ b.lines = ⟨pre.length, Text.length ""⟩ := by
        rw [hpre]
        exact Position.clamped_behind pre
      obtain ⟨hlines, hposition⟩ := insert_behind b _ hp (Nat.le_of_eq (congrArg List.length hpre))
        (first :: rest) false (.inl (List.cons_ne_nil _ _))
      have hall : pre ++ ("" ++ first) :: rest = b.lines ++ first :: rest := by simp [hpre]
      rw [if_neg (List.cons_ne_nil _ _)] at hlines
      rw [if_neg Bool.false_ne_true, endPosition_congr hlines] at hposition
      rw [hall]
      exact ⟨hlines, hposition⟩
    · have hlast : b.lines = pre ++ (head ++ "") :: [] := by simpa [hhead] using hb
      rcases List.eq_nil_or_concat' rest with rfl | ⟨middle, last, rfl⟩
      · obtain ⟨hlines, hposition⟩ := insert_part hlast first
        rw [String.append_empty] at hlines
        rw [hposition, endPosition_concat]
        exact ⟨hlines, rfl⟩
      · obtain ⟨hlines, hposition⟩ := insert_block hlast first middle last
        have hend : pre ++ (head ++ first) :: (middle ++ [last]) =
            (pre ++ (head ++ first) :: middle) ++ [last] := by simp
        have hlength : (pre ++ (head ++ first) :: middle).length = pre.length + middle.length + 1 := by
          simp [Nat.add_assoc]
        rw [String.append_empty, hend] at hlines
        rw [hposition, hend, endPosition_concat, hlength]
        exact ⟨hlines, rfl⟩

variable (h : Excerpt lines p q piece rest) (hb : b.lines = lines)
include h hb

theorem Excerpt.ends_eq : b.ends p q = (p, q) := by
  obtain ⟨hp, hq, hle, -⟩ := h.ends
  rw [← hb] at hp hq
  unfold LineBuffer.ends
  rw [show p.clamp b.lines = p from hp, show q.clamp b.lines = q from hq, Position.ordered, if_pos hle]

theorem Excerpt.extract : b.extract p q false = piece := by
  rw [extract_eq, h.ends_eq hb]
  exact (h.pieces_without hb).1

theorem Excerpt.delete : (b.delete p q).1.lines = rest := by
  rw [delete_eq, h.ends_eq hb, if_neg h.ends.2.2.2]
  exact (h.pieces_without hb).2

end

/-- What is put into a line of a buffer is the part between the place where it is put and the place that the
insertion returns, and without it the buffer has its lines again. -/
theorem excerpt_insert {b : LineBuffer} {p : Position} (hp : p.Clamped b.lines)
    (hl : p.line < b.lines.length) {lines : List String} (hlines : lines ≠ []) (hne : lines ≠ [""]) :
    let result := b.insert p lines false
    Excerpt result.1.lines p result.2 lines b.lines := by
  obtain ⟨pre, head, tail, post, hb, rfl⟩ := exists_parts hp hl
  rcases lines_cases hlines with ⟨part, rfl⟩ | ⟨first, middle, last, rfl⟩
  · obtain ⟨hresult, hposition⟩ := insert_part hb part
    have hpart : part ≠ "" := by
      rintro rfl
      exact hne rfl
    dsimp only
    rw [hresult, hposition, hb]
    exact .inside pre head part tail post hpart
  · obtain ⟨hresult, hposition⟩ := insert_block hb first middle last
    dsimp only
    rw [hresult, hposition, hb]
    exact .across pre head first middle last tail post

/-- Nothing is found and nothing goes between a position and itself. -/
theorem extract_delete_self (b : LineBuffer) (p : Position) :
    b.extract p p false = [] ∧ b.delete p p = (b, false) := by
  have hends : (b.ends p p).1 = (b.ends p p).2 := by
    unfold ends Position.ordered
    split <;> rfl
  constructor
  · rw [extract_eq, hends]
    exact pieces_self b _
  · rw [delete_eq, if_pos hends]

/-- Putting an empty text into a line leaves the lines and comes back to the same place. -/
theorem insert_empty {b : LineBuffer} {p : Position} (hp : p.Clamped b.lines) (hl : p.line < b.lines.length) :
    (b.insert p [""] false).1.lines = b.lines ∧ (b.insert p [""] false).2 = p := by
  obtain ⟨pre, head, tail, post, hb, rfl⟩ := exists_parts hp hl
  obtain ⟨hlines, hposition⟩ := insert_part hb ""
  rw [String.append_empty] at hlines hposition
  exact ⟨hlines.trans hb.symm, hposition⟩

/-- What is cut out of a buffer and put back at the same place gives the lines that were there, and the place
behind it is the later end of what was cut out. What is put into a line is found between its ends, and
deleting it gives the lines that were there. -/
theorem cut_and_paste (b : LineBuffer) :
    (∀ p q : Position, p.Clamped b.lines → q.Clamped b.lines → p ≤ q →
      let piece := b.extract p q false
      let pasted := (b.delete p q).1.insert p piece false
      pasted.1.lines = b.lines ∧
        (piece ≠ [] → pasted.2 = if q.line < b.lines.length then q else b.endPosition)) ∧
    ∀ (p : Position) (lines : List String), p.Clamped b.lines → p.line < b.lines.length → lines ≠ [] →
      let pasted := b.insert p lines false
      pasted.1.extract p pasted.2 false = (if lines = [""] then [] else lines) ∧
        (pasted.1.delete p pasted.2).1.lines = b.lines := by
  constructor
  · intro p q hp hq hle
    dsimp only
    by_cases hne : p = q
    · subst hne
      obtain ⟨hextract, hdelete⟩ := extract_delete_self b p
      rw [hextract, hdelete, insert_nothing b p hp]
      simp
    · obtain ⟨piece, rest, h⟩ := exists_excerpt hp hq hle hne
      obtain ⟨hlines, hposition⟩ := h.insert (h.delete rfl)
      rw [h.extract rfl]
      exact ⟨hlines, fun _ => hposition⟩
  · intro p lines hp hl hlines
    dsimp only
    by_cases hempty : lines = [""]
    · subst hempty
      obtain ⟨hsame, hposition⟩ := insert_empty hp hl
      obtain ⟨hextract, hdelete⟩ := extract_delete_self (b.insert p [""] false).1 p
      rw [hposition, hextract, hdelete, if_pos rfl]
      exact ⟨rfl, hsame⟩
    · have h : Excerpt _ _ _ _ _ := excerpt_insert hp hl hlines hempty
      rw [if_neg hempty]
      exact ⟨h.extract rfl, h.delete rfl⟩

/-- Behind the last line, and with empty lines. -/
theorem cut_and_paste_lines :
    let b := ofLines ["aé", "", "b"]
    let p : Position := ⟨0, 1⟩
    let q : Position := ⟨3, 0⟩
    let lines := ["x", "", "y"]
    let pasted := b.insert p lines false
    p.Clamped b.lines ∧ q.Clamped b.lines ∧ p ≤ q ∧ p.line < b.lines.length ∧ lines ≠ [] ∧
      b.extract p q false = ["é", "", "b"] ∧ (b.delete p q).1.lines = ["a"] ∧
      ((b.delete p q).1.insert p (b.extract p q false) false).1.lines = b.lines ∧
      ((b.delete p q).1.insert p (b.extract p q false) false).2 = b.endPosition ∧
      pasted.1.lines = ["ax", "", "yé", "", "b"] ∧ pasted.1.extract p pasted.2 false = lines ∧
      (pasted.1.delete p pasted.2).1.lines = b.lines := by
  intro b p q lines pasted
  have hp : p.Clamped b.lines := by decide
  have hq : q.Clamped b.lines := by decide
  have hle : p ≤ q := by decide
  obtain ⟨hcut, hpaste⟩ := cut_and_paste b
  obtain ⟨hback, hplace⟩ := hcut p q hp hq hle
  have hend := hplace (by decide)
  have hundone := hpaste p lines hp (by decide) (by decide)
  exact ⟨hp, hq, hle, by decide, by decide, by decide, by decide, hback, hend, by decide, hundone⟩

section WholeLines

variable {b : LineBuffer} {pre block post : List String}

@[simp] theorem setCursor_lines (b : LineBuffer) (p : Position) : (b.setCursor p).lines = b.lines :=
  rfl

theorem cursor_setCursor_lineStart (b : LineBuffer) (i : Nat) :
    (b.setCursor ⟨i, 0⟩).cursor = ⟨min i b.lines.length, 0⟩ :=
  Position.clamp_lineStart b.lines i

/-- A block of whole lines as a part. If lines follow, the start of the first one belongs to it. -/
theorem excerpt_block (pre post : List String) (hblock : block ≠ []) :
    Excerpt (pre ++ (block ++ post)) ⟨pre.length, 0⟩ ⟨pre.length + block.length, 0⟩
      (block ++ if post = [] then [] else [""]) (pre ++ post) := by
  have hempty : Text.length "" = 0 := Text.length_eq_zero_iff.mpr rfl
  cases block with
  | nil => exact absurd rfl hblock
  | cons first rest =>
    cases post with
    | nil =>
      have h := Excerpt.toEnd pre "" first rest
      simpa [Nat.add_assoc, hempty] using h
    | cons line post =>
      have h := Excerpt.across pre "" first rest "" line post
      simpa [Nat.add_assoc, hempty] using h

/-- The three parts into which a block of some lines parts all lines. -/
theorem block_parts (lines : List String) (l k : Nat) :
    lines = lines.take l ++ ((lines.drop l).take k ++ lines.drop (l + k)) := by
  rw [← List.drop_drop, List.take_append_drop, List.take_append_drop]

/-- What is found from the start of a line on to the start of another one are the lines between, and the empty text
in front of the latter if it is there. It is these lines that go. -/
theorem extract_delete_block (b : LineBuffer) (l k : Nat) :
    let block := (b.lines.drop l).take k
    let found := b.extract ⟨l, 0⟩ ⟨l + k, 0⟩ false
    (if l + k < b.lines.length then found.dropLast else found) = block ∧
      (b.delete ⟨l, 0⟩ ⟨l + k, 0⟩).1.lines = b.lines.take l ++ b.lines.drop (l + k) := by
  dsimp only
  have hparts := block_parts b.lines l k
  -- The later end is as many lines away as there are lines in the block.
  have hstop : min (l + k) b.lines.length = min (l + ((b.lines.drop l).take k).length) b.lines.length := by
    rw [List.length_take, List.length_drop]
    omega
  have hends : b.ends ⟨l, 0⟩ ⟨l + k, 0⟩ = b.ends ⟨l, 0⟩ ⟨l + ((b.lines.drop l).take k).length, 0⟩ := by
    rw [ends, ends, Position.clamp_lineStart _ (l + k), hstop, ← Position.clamp_lineStart]
  rw [extract_eq, delete_eq, hends, ← extract_eq, ← delete_eq]
  by_cases hblock : (b.lines.drop l).take k = []
  · obtain ⟨hextract, hdelete⟩ := extract_delete_self b ⟨l, 0⟩
    rw [hblock, List.nil_append] at hparts
    rw [hblock, List.length_nil, Nat.add_zero, hextract, hdelete]
    exact ⟨by simp, hparts⟩
  · have hl : l < b.lines.length := by
      by_contra hge
      simp [List.drop_eq_nil_of_le (Nat.le_of_not_lt hge)] at hblock
    have hexcerpt := excerpt_block (b.lines.take l) (b.lines.drop (l + k)) hblock
    rw [← hparts, List.length_take_of_le (Nat.le_of_lt hl)] at hexcerpt
    rw [hexcerpt.extract rfl]
    refine ⟨?_, hexcerpt.delete rfl⟩
    by_cases hpost : l + k < b.lines.length
    · have hne : b.lines.drop (l + k) ≠ [] := by simpa using hpost
      rw [if_pos hpost, if_neg hne, List.dropLast_concat]
    · have hnil : b.lines.drop (l + k) = [] := by simpa using hpost
      rw [if_neg hpost, if_pos hnil, List.append_nil]

/-- Lines are put in between lines, and the place behind them is the start of the next one. -/
theorem insert_block_between (hb : b.lines = pre ++ post) (hblock : block ≠ []) :
    let result := b.insert ⟨pre.length, 0⟩ block true
    result.1.lines = pre ++ block ++ post ∧ result.2 = ⟨pre.length + block.length, 0⟩ := by
  have hp : Position.clamp ⟨pre.length, 0⟩ b.lines = ⟨pre.length, 0⟩ := by
    rw [Position.clamp_lineStart, hb, List.length_append, Nat.min_eq_left (Nat.le_add_right _ _)]
  obtain ⟨first, rest, rfl⟩ := List.exists_cons_of_ne_nil hblock
  have hopened : opened "" (first :: rest) = first :: rest := by simp [opened]
  rw [insert_newline b _ hp]
  cases post with
  | nil =>
    have hsplit : b.splitAt ⟨pre.length, 0⟩ = ("", "") := by
      simp [splitAt, hb]
      decide
    rw [hsplit, hopened]
    simp [hb]
  | cons line post =>
    have hsplit : b.splitAt ⟨pre.length, Text.length ""⟩ = ("", line) := splitAt_parts (by simpa using hb)
    rw [show b.splitAt ⟨pre.length, 0⟩ = ("", line) from hsplit, hopened]
    simp [hb]

end WholeLines

end LineScript.LineBuffer
