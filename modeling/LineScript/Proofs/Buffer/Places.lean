import LineScript.Proofs.Buffer.Clamping
import LineScript.Proofs.Buffer.CutAndPaste
import LineScript.Proofs.Buffer.Splices

/-! Where a deletion leaves the positions of a buffer. One in front of the deleted text stays, one inside it goes
to its start, and one behind it goes with the text that it stands at. -/
namespace LineScript

namespace Buffer

section
variable (pre : List String) (head tail : String) (post : List String) (n : Nat)

theorem Position.clamped_in_line : Position.Clamped ⟨pre.length, Text.length head + n⟩
    (pre ++ (head ++ tail) :: post) ↔ Text.IsBoundary tail.toList n := by
  have hline : (pre ++ (head ++ tail) :: post)[pre.length]? = some (head ++ tail) := by simp
  rw [Position.clamped_on hline, String.toList_append, Text.length_eq_size]
  exact Text.isBoundary_append_add _ _ n

theorem back_in_line : back (pre ++ (head ++ tail) :: post) ⟨pre.length, Text.length head + n⟩ =
    Text.drop tail.toList n ++ led post := by
  have hline : (pre ++ (head ++ tail) :: post)[pre.length]? = some (head ++ tail) := by simp
  have hdrop : (pre ++ (head ++ tail) :: post).drop (pre.length + 1) = post := by simp [List.drop_append]
  rw [back, hline, hdrop, Option.getD_some, String.toList_append, Text.length_eq_size, Text.drop_size_add]

end

/-- The text of some lines from a position to the end. -/
def textFrom (lines : List String) (p : Position) : String :=
  Text.after (Text.join "\n" lines) (offset lines p)

theorem toList_textFrom {lines : List String} {p : Position} (hp : p.Clamped lines) :
    (textFrom lines p).toList = back lines p := by
  have htext : (textFrom lines p).toList = Text.drop (joined lines) (offset lines p) := Text.toList_after _ _
  rw [htext]
  rcases Nat.lt_or_ge p.line lines.length with hl | hl
  · exact (hp.cut hl).drop_offset
  · rw [hp.eq_behind hl, back_behind, Text.drop_of_size_le (size_joined_le_offset lines)]

end Buffer

namespace LineBuffer

open Buffer

section
variable {s e p : Position}

theorem afterDelete_before (h : p ≤ s) : afterDelete s e p = p := by
  rw [afterDelete, if_pos h]

theorem afterDelete_within (hs : s < p) (he : p < e) : afterDelete s e p = s := by
  rw [afterDelete, if_neg (Position.not_le.mpr hs), if_pos he]

/-- What stands behind the deleted text moves up with the line in which that ends, or to the left in it. -/
theorem afterDelete_behind (hse : s < e) (he : e ≤ p) : afterDelete s e p =
    if p.line = e.line then ⟨s.line, s.column + (p.column - e.column)⟩
    else ⟨p.line - (e.line - s.line), p.column⟩ := by
  have hs : s < p := by
    rw [Position.lt_iff] at *
    rw [Position.le_iff] at he
    omega
  have hnot : ¬ p < e := by
    rw [Position.lt_iff]
    rw [Position.le_iff] at he
    omega
  rw [afterDelete, if_neg (Position.not_le.mpr hs), if_neg hnot]

end

section
variable {lines rest piece : List String} {s e p : Position}

/-- What follows a part of a line does not matter for the positions up to the end of that part. -/
theorem clamped_before {pre post : List String} {head tail : String}
    (hp : p.Clamped (pre ++ (head ++ tail) :: post)) (hle : p ≤ ⟨pre.length, Text.length head⟩)
    (tail' : String) (post' : List String) : p.Clamped (pre ++ (head ++ tail') :: post') := by
  rcases Position.le_iff.mp hle with hlt | ⟨hline, hcolumn⟩
  · rw [Position.clamped_append_left hlt _] at hp ⊢
    exact hp
  · obtain ⟨line, column⟩ := p
    obtain rfl : line = pre.length := hline
    dsimp only at hcolumn
    rw [Text.length_eq_size] at hcolumn
    have hold : (pre ++ (head ++ tail) :: post)[pre.length]? = some (head ++ tail) := by simp
    have hnew : (pre ++ (head ++ tail') :: post')[pre.length]? = some (head ++ tail') := by simp
    rw [Position.clamped_on hold, String.toList_append, Text.isBoundary_append_of_le hcolumn] at hp
    rw [Position.clamped_on hnew, String.toList_append, Text.isBoundary_append_of_le hcolumn]
    exact hp

/-- A position in front of a part stays one. -/
theorem Excerpt.clamped_before (h : Excerpt lines s e piece rest) (hp : p.Clamped lines) (hle : p ≤ s) :
    p.Clamped rest := by
  cases h with
  | inside pre head part tail post hpart =>
    rw [String.append_assoc] at hp
    exact LineBuffer.clamped_before hp hle _ _
  | across pre head first middle last tail post => exact LineBuffer.clamped_before hp hle _ _
  | toEnd pre head first rest =>
    by_cases hhead : head = ""
    · subst hhead
      rw [if_pos rfl, List.append_nil]
      rcases Position.le_iff.mp hle with hlt | ⟨hline, hcolumn⟩
      · exact (Position.clamped_append_left hlt _).mp hp
      · have hstart : p = ⟨pre.length, 0⟩ := by
          obtain ⟨line, column⟩ := p
          rw [Position.mk.injEq]
          exact ⟨hline, Nat.le_zero.mp hcolumn⟩
        rw [hstart]
        exact Position.clamped_behind pre
    · have hkept : p.Clamped (pre ++ (head ++ "") :: []) := LineBuffer.clamped_before hp hle _ _
      rw [String.append_empty] at hkept
      rw [if_neg hhead]
      exact hkept

/-- Where two parts of lines are joined, what is behind the join keeps its text. -/
theorem afterDelete_joined {pre above : List String} {head text tail : String} {post : List String}
    (hse : (⟨pre.length, Text.length head⟩ : Position) < ⟨above.length, Text.length text⟩)
    (hp : p.Clamped (above ++ (text ++ tail) :: post)) (hle : ⟨above.length, Text.length text⟩ ≤ p) :
    let p' := afterDelete ⟨pre.length, Text.length head⟩ ⟨above.length, Text.length text⟩ p
    p'.Clamped (pre ++ (head ++ tail) :: post) ∧
      back (pre ++ (head ++ tail) :: post) p' = back (above ++ (text ++ tail) :: post) p := by
  rw [afterDelete_behind hse hle]
  obtain ⟨line, column⟩ := p
  have hpre : pre.length ≤ above.length := by
    rw [Position.lt_iff] at hse
    dsimp only at hse
    omega
  rw [Position.le_iff] at hle
  dsimp only at hle ⊢
  by_cases hline : line = above.length
  · -- in the line in which the deleted text ends
    obtain ⟨n, rfl⟩ : ∃ n, column = Text.length text + n := Nat.exists_eq_add_of_le (by omega)
    subst hline
    rw [Position.clamped_in_line] at hp
    rw [if_pos rfl, Nat.add_sub_cancel_left, back_in_line, back_in_line, Position.clamped_in_line]
    exact ⟨hp, rfl⟩
  · -- in a line below that one
    obtain ⟨i, rfl⟩ : ∃ i, line = (above ++ [text ++ tail]).length + i :=
      Nat.exists_eq_add_of_le (by simp; omega)
    have hold : above ++ (text ++ tail) :: post = (above ++ [text ++ tail]) ++ post := by simp
    have hnew : pre ++ (head ++ tail) :: post = (pre ++ [head ++ tail]) ++ post := by simp
    have hmoved : (above ++ [text ++ tail]).length + i - (above.length - pre.length) =
        (pre ++ [head ++ tail]).length + i := by
      simp
      omega
    rw [hold, Position.clamped_append_right] at hp
    rw [if_neg hline, hmoved, hold, hnew, back_append_right, back_append_right,
      Position.clamped_append_right]
    exact ⟨hp, rfl⟩

/-- A position behind a part, with the text that it stands at. -/
theorem Excerpt.behind (h : Excerpt lines s e piece rest) (hp : p.Clamped lines) (hle : e ≤ p) :
    (afterDelete s e p).Clamped rest ∧ back rest (afterDelete s e p) = back lines p := by
  obtain ⟨-, -, hse, hne⟩ := h.ends
  have hlt : s < e := Position.lt_of_le_of_ne hse hne
  cases h with
  | inside pre head part tail post hpart => exact afterDelete_joined hlt hp hle
  | across pre head first middle last tail post =>
    have hlines : pre ++ (head ++ first) :: (middle ++ (last ++ tail) :: post) =
        (pre ++ (head ++ first) :: middle) ++ (last ++ tail) :: post := by simp
    have hlength : pre.length + middle.length + 1 = (pre ++ (head ++ first) :: middle).length := by
      simp [Nat.add_assoc]
    rw [hlines] at hp ⊢
    rw [hlength] at hlt hle ⊢
    exact afterDelete_joined hlt hp hle
  | toEnd pre head first rest =>
    have hend : (pre ++ (head ++ first) :: rest).length = pre.length + rest.length + 1 := by
      simp [Nat.add_assoc]
    have hp_eq : p = ⟨pre.length + rest.length + 1, 0⟩ := by
      rw [← hend]
      refine hp.eq_behind ?_
      rw [Position.le_iff] at hle
      dsimp only at hle
      omega
    subst hp_eq
    rw [afterDelete_behind hlt hle, if_pos rfl, Nat.sub_self, Nat.add_zero, ← hend, back_behind]
    by_cases hhead : head = ""
    · subst hhead
      rw [if_pos rfl, List.append_nil]
      exact ⟨Position.clamped_behind pre, back_behind pre⟩
    · have hclamped := Position.clamped_in_line pre head "" [] 0
      have hback := back_in_line pre head "" [] 0
      rw [String.append_empty, Nat.add_zero] at hclamped hback
      rw [if_neg hhead, hclamped, hback]
      exact ⟨Text.isBoundary_zero _, rfl⟩

end

/-- What has to become of a position `p` of some lines, for which there is `p'` afterwards, when the text from `s`
to `e` is deleted. Behind the deleted text, `p'` is the one position with the same text, if there is any. -/
structure Follows (lines lines' : List String) (s e p p' : Position) : Prop where
  clamped : p'.Clamped lines'
  before : p ≤ s → p' = p
  within : s < p → p < e → p' = s
  behind : e ≤ p → textFrom lines' p' = textFrom lines p
  unique : e ≤ p → textFrom lines p ≠ "" →
    ∀ q, q.Clamped lines' → textFrom lines' q = textFrom lines p → q = p'

theorem Excerpt.follows {lines rest piece : List String} {s e p : Position}
    (h : Excerpt lines s e piece rest) (hp : p.Clamped lines) :
    Follows lines rest s e p (afterDelete s e p) := by
  have hclamped : (afterDelete s e p).Clamped rest := by
    by_cases hs : p ≤ s
    · rw [afterDelete_before hs]
      exact h.clamped_before hp hs
    · by_cases he : p < e
      · rw [afterDelete_within (Position.not_le.mp hs) he]
        exact h.clamped_before h.ends.1 (Position.le_iff.mpr (.inr ⟨rfl, Nat.le_refl _⟩))
      · exact (h.behind hp (Position.not_lt.mp he)).1
  have htext (he : e ≤ p) : textFrom rest (afterDelete s e p) = textFrom lines p := by
    apply String.toList_inj.mp
    rw [toList_textFrom hclamped, toList_textFrom hp]
    exact (h.behind hp he).2
  refine ⟨hclamped, afterDelete_before, afterDelete_within, htext, fun he hsome q hq hsame => ?_⟩
  have hback : back rest q = back rest (afterDelete s e p) := by
    rw [← toList_textFrom hq, ← toList_textFrom hclamped, hsame, htext he]
  refine hq.eq_of_back hclamped hback fun hnil => hsome ?_
  rw [← toList_textFrom hq, hsame] at hnil
  exact String.toList_inj.mp hnil

/-- A deletion leaves the cursor and the mark at their text. It puts them at positions of the buffer right away,
so that nothing is left to be moved into it. -/
theorem delete_keeps_places {b : LineBuffer} (hb : b.Placed Position.Clamped) {p q : Position}
    (hdeleted : (b.delete p q).2 = true) :
    let s := (b.ends p q).1
    let e := (b.ends p q).2
    let b' := (b.delete p q).1
    s < e ∧ Follows b.lines b'.lines s e b.cursor b'.cursor ∧ Follows b.lines b'.lines s e b.mark b'.mark ∧
      b' = { b with
        lines := b.without s e
        cursor := afterDelete s e b.cursor
        mark := afterDelete s e b.mark
        changed := true } := by
  dsimp only
  obtain ⟨hs, he, hle, -⟩ := areEnds_ends b p q
  rw [delete_eq] at *
  generalize (b.ends p q).1 = s at *
  generalize (b.ends p q).2 = e at *
  have hne : s ≠ e := by
    rintro rfl
    simp at hdeleted
  obtain ⟨piece, rest, hpart⟩ := exists_excerpt hs he hle hne
  obtain rfl : b.without s e = rest := (hpart.pieces_without rfl).2
  have hcursor := hpart.follows hb.cursor
  have hmark := hpart.follows hb.mark
  have hplaced : Placed Position.Clamped { b with
      lines := b.without s e
      cursor := afterDelete s e b.cursor
      mark := afterDelete s e b.mark
      changed := true } := ⟨hcursor.clamped, hmark.clamped⟩
  rw [if_neg hne, edit, hplaced.normalize_eq]
  exact ⟨Position.lt_of_le_of_ne hle hne, hcursor, hmark, rfl⟩

/-- Over the ends of lines: the cursor stands behind the deleted text, and the mark inside it. -/
theorem delete_keeps_places_joined :
    let b : LineBuffer := { lines := ["aé", "b", "cde"], cursor := ⟨2, 2⟩, mark := ⟨1, 1⟩ }
    let b' := (b.delete ⟨2, 1⟩ ⟨0, 1⟩).1
    b.Placed Position.Clamped ∧ (b.delete ⟨2, 1⟩ ⟨0, 1⟩).2 = true ∧ b'.lines = ["ade"] ∧
      b'.cursor = ⟨0, 2⟩ ∧ textFrom b'.lines b'.cursor = "e" ∧ b'.mark = ⟨0, 1⟩ ∧
      Follows b.lines b'.lines ⟨0, 1⟩ ⟨2, 1⟩ b.cursor b'.cursor ∧
      Follows b.lines b'.lines ⟨0, 1⟩ ⟨2, 1⟩ b.mark b'.mark := by
  intro b b'
  have hb : b.Placed Position.Clamped := ⟨by decide, by decide⟩
  have hdeleted : (b.delete ⟨2, 1⟩ ⟨0, 1⟩).2 = true := by decide
  obtain ⟨-, hcursor, hmark, -⟩ := delete_keeps_places hb hdeleted
  exact ⟨hb, hdeleted, by decide, by decide, by decide, by decide, hcursor, hmark⟩

end LineBuffer

end LineScript
