import LineScript.Proofs.Buffer.Replacement

/-! A count cuts a replacement short: the replacements that are made are the first ones of those that are made
without a count, in the order of reading, and what stands behind the last of them stays as it was. -/
namespace LineScript.LineBuffer

open Regex (Match)
open Search (Matcher)

/-- Whether some lines are other ones, given from the one with an index on, with new texts in place of some
matches in them. The matches are given from the first to the last, each with the index of its line. -/
inductive Substitutes (new : Match → List Char → Prop) :
    Nat → List String → List (Nat × Match) → List String → Prop
  | done {index : Nat} : Substitutes new index [] [] []
  | line {index : Nat} {text : String} {rest rest' : List String} {ws : List Match} {below : List (Nat × Match)}
      {out : List Char} : Rewritten new 0 text.toList ws out → Substitutes new (index + 1) rest below rest' →
      Substitutes new index (text :: rest) (ws.map (index, ·) ++ below) (String.ofList out :: rest')

/-- The matches that are chosen in some lines, from the first line to the last, each with the index of its
line. -/
def choices (choose : Nat → String → List Match) : Nat → List String → List (Nat × Match)
  | _, [] => []
  | index, text :: rest => (choose index text).map (index, ·) ++ choices choose (index + 1) rest

/-- The matches that a replacement without a count replaces. -/
def substitutions (b : LineBuffer) (m : Matcher) (o : ReplaceOptions) : List (Nat × Match) :=
  choices (chosen m o.filter (b.replaceRange o)) 0 b.lines

/-- Matches in a text, of which each one starts where the one before ends or behind that. -/
inductive InOrder (text : String) : Nat → List Match → Prop
  | nil {n : Nat} : InOrder text n []
  | cons {n : Nat} {w : Match} {ws : List Match} : w.Bounded text.toList n → InOrder text w.stop ws →
      InOrder text n (w :: ws)

section
variable {m : Matcher} {text : String}

theorem InOrder.mono {n n' : Nat} {ws : List Match} (h : InOrder text n ws) (hle : n' ≤ n) :
    InOrder text n' ws := by
  cases h with
  | nil => exact .nil
  | cons hw hws =>
    obtain ⟨hlow, hspan, hstart, hstop⟩ := hw
    exact .cons ⟨Nat.le_trans hle hlow, hspan, hstart, hstop⟩ hws

theorem InOrder.take {n : Nat} {ws : List Match} (h : InOrder text n ws) (k : Nat) :
    InOrder text n (ws.take k) := by
  induction h generalizing k with
  | nil =>
    rw [List.take_nil]
    exact .nil
  | cons hw _ ih =>
    cases k with
    | zero => exact .nil
    | succ k => exact .cons hw (ih k)

/-- The matches that are met in a portion of a line are in order. -/
theorem inOrder_occurrences (hm : m.Sound) {stop fuel pos : Nat} (hpos : Text.IsBoundary text.toList pos)
    (previous : Option Nat) : InOrder text pos (occurrences m text stop fuel pos previous) := by
  induction fuel generalizing pos previous with
  | zero => exact .nil
  | succ fuel ih =>
    unfold occurrences
    by_cases hbehind : stop < pos
    · rw [if_pos hbehind]
      exact .nil
    rw [if_neg hbehind]
    cases hw : m.find? text pos with
    | none => exact .nil
    | some w =>
      obtain ⟨hlow, -, hstart, hstop⟩ := hm _ _ _ hw
      -- What comes behind an empty match, whether or not it is passed over.
      have hbeyond (previous : Option Nat) : InOrder text w.start
          (if Text.length text ≤ w.start then []
            else occurrences m text stop fuel (Text.next text.toList w.start) previous) := by
        split
        · exact .nil
        · exact (ih (Text.isBoundary_next hstart) previous).mono hstart.le_next
      dsimp only
      split
      · exact .nil
      · split
        · next hempty =>
          split
          · exact (hbeyond previous).mono hlow
          · apply InOrder.cons (hm _ _ _ hw)
            rw [← hempty]
            exact hbeyond _
        · exact .cons (hm _ _ _ hw) (ih hstop (some w.stop))

/-- New texts in place of matches that are in order. -/
theorem InOrder.rewritten {new : Match → List Char → Prop} {put : Match → String}
    (hput : ∀ w, new w (put w).toList) {n : Nat} {ws : List Match} (h : InOrder text n ws)
    (hn : Text.IsBoundary text.toList n) :
    Rewritten new n (Text.drop text.toList n) ws (splice text put n ws).toList := by
  induction h with
  | nil =>
    rw [splice, Text.toList_after]
    exact .done
  | @cons n w ws hw _ ih =>
    obtain ⟨hlow, hspan, hstart, hstop⟩ := hw
    have hparts : Text.drop text.toList n = Text.slice text.toList n w.start ++
        Text.slice text.toList w.start w.stop ++ Text.drop text.toList w.stop := by
      rw [List.append_assoc, Text.slice_append_drop hstop hspan, Text.slice_append_drop hstart hlow]
    have hgap := Text.size_slice hn hstart hlow
    have hhit := Text.size_slice hstart hstop hspan
    rw [hparts, splice, String.toList_append, String.toList_append, Text.toList_between]
    exact .replaced hgap.symm hhit.symm (hput w) (ih hstop)

/-- A line with new texts in place of some matches is the same up to the end of one of them, whatever is
replaced behind it. -/
theorem exists_splice_front (text : String) (put : Match → String) (last : Nat) (ws : List Match) (w : Match) :
    ∃ front, ∀ behind, splice text put last (ws ++ w :: behind) = front ++ splice text put w.stop behind := by
  induction ws generalizing last with
  | nil => exact ⟨Text.between text last w.start ++ put w, fun behind => rfl⟩
  | cons v ws ih =>
    obtain ⟨front, hfront⟩ := ih v.stop
    refine ⟨Text.between text last v.start ++ put v ++ front, fun behind => ?_⟩
    rw [List.cons_append, splice, hfront, ← String.append_assoc]

end

section
variable {choose : Nat → String → List Match} {put : Match → String} {index k : Nat} {text : String}
  {lines rest : List String}

theorem choices_cons_take : (choices choose index (text :: rest)).take k =
    ((choose index text).take k).map (index, ·) ++
      (choices choose (index + 1) rest).take (k - (choose index text).length) := by
  rw [choices, List.take_append, List.length_map, List.map_take]

/-- A count that is not used up in a line is left for those below. -/
theorem replaceLines_cons_some (put : Match → String) (rest : List String) :
    let ws := choose index text
    let below := replaceLines choose put (index + 1) (some (k - ws.length)) rest
    replaceLines choose put index (some k) (text :: rest) =
      (splice text put 0 (ws.take k) :: below.1, min k ws.length + below.2) := by
  intro ws below
  have hused : (limited (some k) ws).length = min k ws.length := List.length_take
  have hleft : k - min k ws.length = k - ws.length := by omega
  rw [replaceLines_cons, hused, Option.map_some, hleft]
  rfl

/-- As many matches are replaced as are chosen, up to the count. -/
theorem replaceLines_count (choose : Nat → String → List Match) (put : Match → String) (index k : Nat)
    (lines : List String) : (replaceLines choose put index (some k) lines).2 =
      ((choices choose index lines).take k).length := by
  induction lines generalizing index k with
  | nil => simp [choices, replaceLines]
  | cons text rest ih =>
    rw [choices_cons_take, replaceLines_cons_some, List.length_append, List.length_map, List.length_take, ← ih]

/-- A count that is large enough is none. -/
theorem replaceLines_enough (put : Match → String) (h : (choices choose index lines).length ≤ k) :
    replaceLines choose put index (some k) lines = replaceLines choose put index none lines := by
  induction lines generalizing index k with
  | nil => rfl
  | cons text rest ih =>
    rw [choices, List.length_append, List.length_map] at h
    have hall : (choose index text).take k = choose index text := List.take_of_length_le (by omega)
    have hused : min k (choose index text).length = (choose index text).length := by omega
    rw [replaceLines_cons_some, hall, hused, ih (by omega), replaceLines_cons]
    rfl

/-- With a count, the first of the matches that are chosen without one are replaced. -/
theorem replaceLines_substitutes {new : Match → List Char → Prop} (hput : ∀ w, new w (put w).toList) (k : Nat)
    (hchoose : ∀ i text, lines[i]? = some text → InOrder text 0 (choose (index + i) text)) :
    Substitutes new index lines ((choices choose index lines).take k)
      (replaceLines choose put index (some k) lines).1 := by
  induction lines generalizing index k with
  | nil => simpa [choices, replaceLines] using .done
  | cons text rest ih =>
    have hbelow : ∀ i line, rest[i]? = some line → InOrder line 0 (choose (index + 1 + i) line) := by
      intro i line hline
      rw [Nat.add_right_comm]
      exact hchoose (i + 1) line hline
    have htext : InOrder text 0 (choose index text) := hchoose 0 text rfl
    have hrest := ih (k - (choose index text).length) hbelow
    have hline := (htext.take k).rewritten hput (Text.isBoundary_zero _)
    rw [Text.drop_zero] at hline
    have hsubstitutes := Substitutes.line hline hrest
    rw [String.ofList_toList, ← choices_cons_take] at hsubstitutes
    rwa [replaceLines_cons_some]

/-- Up to the end of the last match that is replaced with a count, lines with and without the count are the
same. What stands behind it in its line, and all lines below, are as they were. -/
theorem replaceLines_last {i : Nat} {w : Match}
    (hlast : ((choices choose index lines).take k).getLast? = some (i, w)) :
    ∃ n text front back, i = index + n ∧ lines[n]? = some text ∧
      (replaceLines choose put index none lines).1[n]? = some (front ++ back) ∧
      (replaceLines choose put index (some k) lines).1 =
        (replaceLines choose put index none lines).1.take n ++ (front ++ Text.after text w.stop) ::
          lines.drop (n + 1) := by
  induction lines generalizing index k with
  | nil => simp [choices] at hlast
  | cons text rest ih =>
    have hnone : (replaceLines choose put index none (text :: rest)).1 =
        splice text put 0 (choose index text) :: (replaceLines choose put (index + 1) none rest).1 := by
      rw [replaceLines_cons]
      rfl
    rw [choices_cons_take] at hlast
    rw [hnone, replaceLines_cons_some]
    -- The last match is in this line if the count leaves nothing for the lines below.
    by_cases hused : (choices choose (index + 1) rest).take (k - (choose index text).length) = []
    · rw [hused, List.append_nil, List.getLast?_map, Option.map_eq_some_iff] at hlast
      obtain ⟨v, hv, hpair⟩ := hlast
      obtain ⟨rfl, rfl⟩ := Prod.mk.inj hpair
      obtain ⟨front, hfront⟩ := List.getLast?_eq_some_iff.mp hv
      obtain ⟨before, hbefore⟩ := exists_splice_front text put 0 front v
      have hbelow :
          (replaceLines choose put (index + 1) (some (k - (choose index text).length)) rest).1 = rest := by
        apply replaceLines_of_zero
        rw [replaceLines_count, hused, List.length_nil]
      have hall : choose index text = front ++ v :: (choose index text).drop k := by
        rw [← List.singleton_append, ← List.append_assoc, ← hfront, List.take_append_drop]
      refine ⟨0, text, before, splice text put v.stop ((choose index text).drop k), rfl, rfl, ?_, ?_⟩
      · rw [← hbefore, ← hall]
        rfl
      · rw [hbelow, hfront, hbefore]
        rfl
    · rw [List.getLast?_append_of_ne_nil _ hused] at hlast
      obtain ⟨n, line, front, back, rfl, hline, hall, hcut⟩ := ih hlast
      have hwhole : (choose index text).take k = choose index text := by
        apply List.take_of_length_le
        apply Nat.le_of_not_lt
        intro hlt
        have hzero : k - (choose index text).length = 0 := by omega
        rw [hzero, List.take_zero] at hused
        exact hused rfl
      refine ⟨n + 1, line, front, back, by omega, hline, hall, ?_⟩
      rw [hcut, hwhole]
      rfl

end

/-- The matches that a replacement chooses in a line are in order. -/
theorem inOrder_chosen {m : Matcher} (hm : m.Sound) {b : LineBuffer} (o : ReplaceOptions) {i : Nat}
    {text : String} (hget : b.lines[i]? = some text) :
    InOrder text 0 (chosen m o.filter (b.replaceRange o) i text) := by
  obtain ⟨hlow, -, -⟩ := portion_bounds (o := o) hget
  by_cases hbefore : i < (b.replaceRange o).1.line
  · rw [chosen_before _ hbefore]
    exact .nil
  by_cases hbehind : (b.replaceRange o).2.line < i
  · rw [chosen_behind _ hbehind]
    exact .nil
  rw [chosen_within o.filter (Nat.le_of_not_lt hbefore) (Nat.le_of_not_lt hbehind)]
  split
  · exact .nil
  · exact (inOrder_occurrences hm hlow none).mono (Nat.zero_le _)

/-- A replacement that replaces nothing leaves all as it was. -/
theorem replace_of_zero {m : Matcher} {b : LineBuffer} {replacement : String} {o : ReplaceOptions}
    (h : (b.replace m replacement o).2 = 0) : (b.replace m replacement o).1 = b := by
  have hreplace :
      let r := replaceLines (chosen m o.filter (b.replaceRange o)) (newText replacement o) 0 o.count b.lines
      b.replace m replacement o =
        if b.lines.isEmpty then (b, 0) else if r.2 = 0 then (b, 0) else (b.edit r.1, r.2) := rfl
  rw [hreplace] at h ⊢
  split_ifs at h ⊢
  · rfl
  · rfl
  · contradiction

/-- What a count of `k` has to leave of a replacement, given the matches that are replaced without a count and
what the replacement comes to without and with it. -/
structure CutShort (b : LineBuffer) (new : Match → List Char → Prop) (subs : List (Nat × Match)) (k : Nat)
    (whole cut : LineBuffer × Nat) : Prop where
  length : subs.length = whole.2
  unlimited : Substitutes new 0 b.lines subs whole.1.lines
  count : cut.2 = min k whole.2
  limited : Substitutes new 0 b.lines (subs.take (min k whole.2)) cut.1.lines
  nothing : min k whole.2 = 0 → cut.1 = b
  last : ∀ i w, (subs.take (min k whole.2)).getLast? = some (i, w) → ∃ text front back,
    b.lines[i]? = some text ∧ whole.1.lines[i]? = some (front ++ back) ∧
      cut.1.lines = whole.1.lines.take i ++ (front ++ Text.after text w.stop) :: b.lines.drop (i + 1)

/-- A count cuts the same replacement short. Of the `n` matches that are replaced without a count, a count of
`k` leaves the first `min k n` in the order of reading: up to the end of the last of them both results are the
same, and what stands behind it in its line and all lines below are as they were. To look at the count before
every match, line by line, comes to the same. -/
theorem count_cuts_short {m : Matcher} (hm : m.Sound) (b : LineBuffer) (replacement : String)
    (o : ReplaceOptions) (k : Nat) :
    let replaced (count : Option Nat) := b.replace m replacement { o with count }
    CutShort b (NewText replacement o) (b.substitutions m o) k (replaced none) (replaced (some k)) ∧
      ∀ count, b.replace? m replacement { o with count } = some (replaced count) := by
  intro replaced
  have hreplaced (count : Option Nat) : (replaced count).1.lines =
        (replaceLines (chosen m o.filter (b.replaceRange o)) (newText replacement o) 0 count b.lines).1 ∧
      (replaced count).2 =
        (replaceLines (chosen m o.filter (b.replaceRange o)) (newText replacement o) 0 count b.lines).2 :=
    replace_eq_replaceLines b m replacement { o with count }
  have hchosen : ∀ i text, b.lines[i]? = some text →
      InOrder text 0 (chosen m o.filter (b.replaceRange o) (0 + i) text) := by
    intro i text hget
    rw [Nat.zero_add]
    exact inOrder_chosen hm o hget
  have henough := replaceLines_enough (newText replacement o) (Nat.le_refl (b.substitutions m o).length)
  have hlimited (k : Nat) : Substitutes (NewText replacement o) 0 b.lines ((b.substitutions m o).take k)
      (replaceLines (chosen m o.filter (b.replaceRange o)) (newText replacement o) 0 (some k) b.lines).1 :=
    replaceLines_substitutes (newText_newText replacement o) k hchosen
  have hlength : (b.substitutions m o).length = (replaced none).2 := by
    rw [(hreplaced none).2, ← henough, replaceLines_count, substitutions, List.take_length]
  have hmade : (b.substitutions m o).take (min k (replaced none).2) = (b.substitutions m o).take k := by
    rw [← hlength, List.take_eq_take_iff]
    omega
  have hcount : (replaced (some k)).2 = min k (replaced none).2 := by
    rw [(hreplaced (some k)).2, replaceLines_count, List.length_take, ← hlength, substitutions]
  constructor
  · constructor
    case length => exact hlength
    case unlimited =>
      have hall := hlimited (b.substitutions m o).length
      rwa [List.take_length, henough, ← (hreplaced none).1] at hall
    case count => exact hcount
    case limited =>
      rw [hmade, (hreplaced (some k)).1]
      exact hlimited k
    case nothing =>
      intro hzero
      exact replace_of_zero (hcount.trans hzero)
    case last =>
      intro i w hlast
      rw [hmade] at hlast
      obtain ⟨n, text, front, back, rfl, hget, hwhole, hcut⟩ := replaceLines_last hlast
      rw [Nat.zero_add, (hreplaced none).1, (hreplaced (some k)).1]
      exact ⟨text, front, back, hget, hwhole, hcut⟩
  · intro count
    exact replace?_eq hm b replacement { o with count }

/-- The expression for a letter any number of times. -/
def repeated : Search.Expression where
  pattern := "a*"
  kind := .regex
  machine := .cat (.mark 0 0) (.cat (.loop 3 true (.set 2 (.range 97 97))) (.mark 1 1))

/-- Of five matches in two lines, the first four: three of the five are empty, and the line between does not
pass the filter. -/
theorem count_cuts_short_repeated :
    let b : LineBuffer := { lines := ["baab", "x", "ab"] }
    let o : ReplaceOptions := { filter := some pair.matcher }
    let replaced (count : Option Nat) := b.replace repeated.matcher "-" { o with count }
    Search.Expression.new "a*" .regex "" = .ok repeated ∧ repeated.matcher.Sound ∧
      (replaced none).1.lines = ["-b-b-", "x", "-b-"] ∧ (replaced none).2 = 5 ∧
      (replaced (some 4)).1.lines = ["-b-b-", "x", "-b"] ∧ (replaced (some 4)).2 = 4 ∧
      CutShort b (NewText "-" o) (b.substitutions repeated.matcher o) 4 (replaced none) (replaced (some 4)) ∧
      ∀ count, b.replace? repeated.matcher "-" { o with count } = some (replaced count) := by
  intro b o replaced
  have hnew : Search.Expression.new "a*" .regex "" = .ok repeated := by rfl
  have hsound : repeated.matcher.Sound := (Search.Expression.Made.new hnew).sound
  exact ⟨hnew, hsound, by decide +kernel, by decide +kernel, by decide +kernel, by decide +kernel,
    count_cuts_short hsound b "-" o 4⟩

end LineScript.LineBuffer
