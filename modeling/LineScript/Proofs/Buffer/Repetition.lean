import Mathlib.Data.List.Forall2
import LineScript.Proofs.Buffer.SearchAccess
import LineScript.Proofs.Buffer.Whole

/-! Searching a buffer again and again, and replacing in all of it, come to the same matches if no match is
empty: to those of each line, every one looked for behind the one before. -/
namespace LineScript

/-- Whether no flag tells a search where to start or which way to go. -/
structure Search.Flags.Plain (f : Search.Flags) : Prop where
  lineStart : f.lineStart = false
  backwards : f.backwards = false
  inLine : f.inLine = false
  startAt : f.startAt = none

namespace LineBuffer

open Buffer (Position Hit)
open Regex (Match)
open Search (Matcher Flags)

/-- The matches in a text from an offset on, each looked for where the one before ends. -/
inductive Successive (m : Matcher) (text : String) : Nat → List Match → Prop
  | done {pos : Nat} : m.find? text pos = none → Successive m text pos []
  | next {pos : Nat} {w : Match} {ws : List Match} : m.find? text pos = some w →
      Successive m text w.stop ws → Successive m text pos (w :: ws)

/-- Whether no match in a text is empty. -/
def NeverEmpty (m : Matcher) (text : String) : Prop :=
  ∀ pos w, m.find? text pos = some w → w.start ≠ w.stop

/-- The hit that a match in the line with an index is. -/
def hitOf (index : Nat) (w : Match) : Hit :=
  .of ⟨index, w.start⟩ (w.stop - w.start)

/-- The hits that the matches in some lines are, from the line with an index on. -/
def hitsOf : Nat → List (List Match) → List Hit
  | _, [] => []
  | index, ws :: rest => ws.map (hitOf index) ++ hitsOf (index + 1) rest

/-- Searches again and again, each time from behind the hit before, up to the first miss; none if the
searches do not suffice. -/
def searchAll (m : Matcher) (f : Flags) : Nat → LineBuffer → Option (List Hit)
  | 0, _ => none
  | fuel + 1, b =>
    let (b, hit) := b.search m f true
    if hit.found then (searchAll m f fuel b).map (hit :: ·) else some []

variable {m : Matcher} {f : Flags} {text : String}

/-- Where no match is empty, those that are replaced follow one another, to the end of the text. -/
theorem successive_occurrences (hm : m.Sound) (hne : NeverEmpty m text) {fuel pos : Nat}
    (hpos : Text.IsBoundary text.toList pos) (hfuel : Text.length text < fuel + pos)
    (previous : Option Nat) :
    Successive m text pos (occurrences m text (Text.length text) fuel pos previous) := by
  have hle := hpos.le_size
  rw [← Text.length_eq_size] at hle
  induction fuel generalizing pos previous with
  | zero => omega
  | succ fuel ih =>
    unfold occurrences
    rw [if_neg (Nat.not_lt.mpr hle)]
    cases hw : m.find? text pos with
    | none => exact .done hw
    | some w =>
      obtain ⟨hlow, hspan, -, hstop⟩ := hm _ _ _ hw
      have hend := hstop.le_size
      rw [← Text.length_eq_size] at hend
      have hfilled := hne pos w hw
      dsimp only
      rw [if_neg (Nat.not_lt.mpr hend), if_neg hfilled]
      exact .next hw (ih hstop (by omega) (some w.stop) hend)

/-- The matches in all of some lines. -/
theorem exists_successive (hm : m.Sound) {lines : List String}
    (hne : ∀ text ∈ lines, NeverEmpty m text) :
    ∃ found, List.Forall₂ (Successive m · 0) lines found := by
  induction lines with
  | nil => exact ⟨[], .nil⟩
  | cons text lines ih =>
    obtain ⟨htext, hlines⟩ := List.forall_mem_cons.mp hne
    obtain ⟨found, hfound⟩ := ih hlines
    have hws := successive_occurrences hm htext (Text.isBoundary_zero _)
      (Nat.lt_succ_of_le (Nat.le_refl (Text.length text))) none
    exact ⟨_ :: found, .cons hws hfound⟩

theorem Successive.eq {pos : Nat} {ws ws' : List Match} (h : Successive m text pos ws)
    (h' : Successive m text pos ws') : ws = ws' := by
  induction h generalizing ws' with
  | done hnone =>
    cases h' with
    | done => rfl
    | next hw => rw [hnone] at hw; cases hw
  | next hw _ ih =>
    cases h' with
    | done hnone => rw [hnone] at hw; cases hw
    | next hw' hrest =>
      rw [hw] at hw'
      cases hw'
      rw [ih hrest]

/-- Whether some matches are those that are left of some lines behind a position: in its line, and in the lines
below. -/
structure Ahead (m : Matcher) (lines : List String) (p : Position) (ws : List Match)
    (below : List (List Match)) : Prop where
  line : ∃ text, lines[p.line]? = some text ∧ Text.IsBoundary text.toList p.column ∧
    Successive m text p.column ws
  below : List.Forall₂ (Successive m · 0) (lines.drop (p.line + 1)) below

/-- A position in front of matches is one of the lines. -/
theorem Ahead.clamped {lines : List String} {p : Position} {ws : List Match} {below : List (List Match)}
    (h : Ahead m lines p ws below) : p.Clamped lines := by
  obtain ⟨text, hget, hboundary, -⟩ := h.line
  exact Position.clamped_iff.mpr (.inl ⟨text, hget, hboundary⟩)

/-- A line without a match is passed. -/
theorem Ahead.passed {lines : List String} {p : Position} {ws next : List Match} {below : List (List Match)}
    (h : Ahead m lines p ws (next :: below)) : Ahead m lines ⟨p.line + 1, 0⟩ next below := by
  obtain ⟨text, rest, htext, hrest, hdrop⟩ := List.forall₂_cons_right_iff.mp h.below
  have hget : lines[p.line + 1]? = some text := by
    rw [← List.head?_drop, hdrop, List.head?_cons]
  have htail : lines.drop (p.line + 1 + 1) = rest := by
    rw [← List.tail_drop, hdrop, List.tail_cons]
  exact ⟨⟨text, hget, Text.isBoundary_zero _, htext⟩, by rwa [htail]⟩

/-- In the line of a position, the first match behind it is the first one of those that are left. -/
theorem Ahead.firstHit_line (hm : m.Sound) {lines : List String} {p : Position} {ws : List Match}
    {below : List (List Match)} (h : Ahead m lines p ws below) :
    (ws = [] ∧ firstHit m p.line p.column (lines.drop p.line) =
        firstHit m (p.line + 1) 0 (lines.drop (p.line + 1))) ∨
      ∃ hit ws' below', firstHit m p.line p.column (lines.drop p.line) = hit ∧ hit.found = true ∧
        Ahead m lines hit.stop ws' below' ∧
        hitsOf p.line (ws :: below) = hit :: hitsOf hit.stop.line (ws' :: below') := by
  obtain ⟨⟨text, hget, -, hws⟩, hbelow⟩ := h
  obtain ⟨hlt, htext⟩ := List.getElem?_eq_some_iff.mp hget
  rw [List.drop_eq_getElem_cons hlt, htext, firstHit]
  cases hws with
  | done hnone => exact .inl ⟨rfl, by rw [hnone]⟩
  | @next _ w ws hw hrest =>
    obtain ⟨-, hspan, -, hstop⟩ := hm _ _ _ hw
    have hbehind : (hitOf p.line w).stop = ⟨p.line, w.stop⟩ := by
      simp [hitOf, Hit.of, Hit.stop, Nat.add_sub_cancel' hspan]
    refine .inr ⟨hitOf p.line w, ws, below, by rw [hw]; rfl, rfl, ?_, ?_⟩
    · rw [hbehind]
      exact ⟨⟨text, hget, hstop, hrest⟩, hbelow⟩
    · rw [hbehind]
      rfl

/-- The first match at or behind a position is the first one of those that are left, and the others are left
behind it. -/
theorem firstHit_ahead (hm : m.Sound) {lines : List String} {p : Position} {ws : List Match}
    {below : List (List Match)} (h : Ahead m lines p ws below) :
    (hitsOf p.line (ws :: below) = [] ∧ firstHit m p.line p.column (lines.drop p.line) = .miss) ∨
      ∃ hit ws' below', firstHit m p.line p.column (lines.drop p.line) = hit ∧ hit.found = true ∧
        Ahead m lines hit.stop ws' below' ∧
        hitsOf p.line (ws :: below) = hit :: hitsOf hit.stop.line (ws' :: below') := by
  -- Lines without a match are passed, one after the other.
  induction below generalizing p ws with
  | nil =>
    rcases h.firstHit_line hm with ⟨rfl, hpassed⟩ | hfound
    · refine .inl ⟨rfl, ?_⟩
      have hnone := h.below
      rw [List.forall₂_nil_right_iff] at hnone
      rw [hpassed, hnone, firstHit]
    · exact .inr hfound
  | cons next below ih =>
    rcases h.firstHit_line hm with ⟨rfl, hpassed⟩ | hfound
    · rw [hpassed]
      exact ih h.passed
    · exact .inr hfound

/-- A plain search goes forward from the cursor. -/
theorem sought_plain (hf : f.Plain) {b : LineBuffer} (hc : b.cursor.Clamped b.lines) :
    b.sought m f = firstHit m b.cursor.line b.cursor.column (b.lines.drop b.cursor.line) := by
  have hstart : b.searchStart f = b.cursor := by
    simp only [searchStart, hf.startAt, hf.lineStart, hf.backwards, Bool.false_and, Bool.and_false,
      Bool.false_eq_true, if_false]
    exact hc
  simp only [sought, hf.backwards, Bool.false_eq_true, if_false, searchForward, hf.inLine, hstart]

/-- A search that advances leaves the lines, and after a hit the cursor is behind it. -/
theorem search_advanced (hf : f.Plain) (b : LineBuffer) :
    (b.search m f true).2 = b.sought m f ∧ (b.search m f true).1.lines = b.lines ∧
      ((b.sought m f).found = true → (b.search m f true).1.cursor = (b.sought m f).stop) := by
  have hsearch : b.search m f true =
      let hit := b.sought m f
      let b := { b with lastSearch := hit }
      if hit.found then
        let b := { b with lastHit := b.hitText hit }
        ({ b with cursor := if f.backwards then hit.position else hit.stop }, hit)
      else ({ b with lastHit := "" }, hit) := rfl
  rw [hsearch]
  generalize b.sought m f = hit
  dsimp only
  split
  · exact ⟨rfl, rfl, fun _ => by simp [hf.backwards]⟩
  · next hmiss => exact ⟨rfl, rfl, fun hfound => absurd hfound hmiss⟩

/-- Searching again and again finds what is left behind the cursor. -/
theorem searchAll_ahead (hm : m.Sound) (hf : f.Plain) {b : LineBuffer} {ws : List Match}
    {below : List (List Match)} (h : Ahead m b.lines b.cursor ws below) {fuel : Nat}
    (hfuel : (hitsOf b.cursor.line (ws :: below)).length < fuel) :
    searchAll m f fuel b = some (hitsOf b.cursor.line (ws :: below)) := by
  induction fuel generalizing b ws below with
  | zero => omega
  | succ fuel ih =>
    obtain ⟨hhit, hlines, hcursor⟩ := search_advanced (m := m) hf b
    rw [sought_plain hf h.clamped] at hhit hcursor
    rw [searchAll]
    dsimp only
    rw [hhit]
    rcases firstHit_ahead hm h with ⟨hnone, hmiss⟩ | ⟨hit, ws', below', hfirst, hfound, hahead, hhits⟩
    · rw [hnone, hmiss]
      rfl
    · rw [hfirst] at hcursor ⊢
      rw [hhits, List.length_cons] at hfuel
      have hstop := hcursor hfound
      rw [← hstop] at hahead hfuel hhits
      rw [← hlines] at hahead
      rw [if_pos hfound, ih hahead (by omega), hhits]
      rfl

/-- Searching again and again from the start of a buffer finds what there is in its lines. -/
theorem searchAll_start (hm : m.Sound) (hf : f.Plain) {b : LineBuffer} (hcursor : b.cursor = {})
    {found : List (List Match)} (hfound : List.Forall₂ (Successive m · 0) b.lines found) {fuel : Nat}
    (hfuel : (hitsOf 0 found).length < fuel) : searchAll m f fuel b = some (hitsOf 0 found) := by
  cases found with
  | nil =>
    have hlines : b.lines = [] := List.forall₂_nil_right_iff.mp hfound
    have hclamped : b.cursor.Clamped b.lines := hcursor ▸ Position.start_clamped b.lines
    have hmiss : b.sought m f = .miss := by
      rw [sought_plain hf hclamped, hlines, List.drop_nil, firstHit]
    obtain ⟨fuel, rfl⟩ := Nat.exists_eq_add_one_of_ne_zero (Nat.ne_of_gt (Nat.zero_lt_of_lt hfuel))
    obtain ⟨hhit, -, -⟩ := search_advanced (m := m) hf b
    rw [searchAll]
    dsimp only
    rw [hhit, hmiss]
    rfl
  | cons ws below =>
    obtain ⟨text, rest, htext, hrest, hlines⟩ := List.forall₂_cons_right_iff.mp hfound
    have hahead : Ahead m b.lines b.cursor ws below := by
      rw [hcursor, hlines]
      exact ⟨⟨text, rfl, Text.isBoundary_zero _, htext⟩, hrest⟩
    have hall : (hitsOf b.cursor.line (ws :: below)).length < fuel →
        searchAll m f fuel b = some (hitsOf b.cursor.line (ws :: below)) := searchAll_ahead hm hf hahead
    rw [hcursor] at hall
    exact hall hfuel

/-- The range of a replacement with a start and an end of its own is the whole buffer. -/
theorem replaceRange_whole (b : LineBuffer) (o : ReplaceOptions) (hstart : o.start = none)
    (hstop : o.stop = none) (hline : o.inLine = false) : b.replaceRange o = ({}, b.endPosition) := by
  have hzero : Position.clamp {} b.lines = {} := Position.start_clamped b.lines
  have hend : b.endPosition.clamp b.lines = b.endPosition := b.endPosition_clamped
  have hle : ({} : Position) ≤ b.endPosition := by
    rw [Position.le_iff]
    dsimp only
    omega
  simp only [replaceRange, hstart, hstop, hline, Option.getD_none, hzero, hend, Position.ordered, hle,
    if_true]

/-- In the range of a whole buffer, every line is in it with all of its text. -/
theorem portion_whole {b : LineBuffer} {index : Nat} (hget : b.lines[index]? = some text) :
    index ≤ b.endPosition.line ∧ portion ({}, b.endPosition) index text = (0, Text.length text) := by
  obtain ⟨hlt, htext⟩ := List.getElem?_eq_some_iff.mp hget
  have hlast : b.lines.getLast? = some b.lines[b.lines.length - 1] := by
    rw [List.getLast?_eq_getElem?, List.getElem?_eq_getElem (by omega)]
  have hend : b.endPosition = ⟨b.lines.length - 1, Text.length b.lines[b.lines.length - 1]⟩ := by
    rw [endPosition, hlast]
  rw [portion, hend]
  refine ⟨by dsimp only; omega, Prod.ext (ite_self _) ?_⟩
  dsimp only
  split
  · next heq =>
    rw [← htext]
    simp only [heq]
  · rfl

/-- In a replacement in the whole buffer, all of every line is looked at. -/
theorem chosen_whole {b : LineBuffer} {index : Nat} (hget : b.lines[index]? = some text) :
    chosen m none ({}, b.endPosition) index text =
      occurrences m text (Text.length text) (Text.length text + 2) 0 none := by
  obtain ⟨hle, hportion⟩ := portion_whole hget
  rw [chosen_within none (Nat.zero_le _) hle, hportion]
  simp

/-- Replacing in lines one after the other, without a limit, is to replace in each of them. -/
theorem replaceLines_zipWith {choose : Nat → String → List Match} (new : Match → String) {index : Nat}
    {lines : List String} {found : List (List Match)} (hlength : found.length = lines.length)
    (hchoose : ∀ k text ws, lines[k]? = some text → found[k]? = some ws → choose (index + k) text = ws) :
    replaceLines choose new index none lines =
      (List.zipWith (fun text ws => splice text new 0 ws) lines found, (hitsOf index found).length) := by
  induction lines generalizing index found with
  | nil =>
    obtain rfl := List.length_eq_zero_iff.mp hlength
    rfl
  | cons text lines ih =>
    cases found with
    | nil => cases hlength
    | cons ws found =>
      have hfirst : limited none (choose index text) = ws := hchoose 0 text ws rfl rfl
      have hbelow : ∀ k text ws, lines[k]? = some text → found[k]? = some ws →
          choose (index + 1 + k) text = ws := by
        intro k text ws hk hws
        rw [Nat.add_right_comm]
        exact hchoose (k + 1) text ws hk hws
      have hrest := ih (Nat.succ.inj hlength) hbelow
      rw [replaceLines_cons, hfirst, Option.map_none, hrest, hitsOf, List.length_append, List.length_map]
      rfl

/-- Lines in which nothing is replaced stay. -/
theorem replaceLines_of_zero {choose : Nat → String → List Match} {new : Match → String} {index : Nat}
    {left : Option Nat} {lines : List String} (h : (replaceLines choose new index left lines).2 = 0) :
    (replaceLines choose new index left lines).1 = lines := by
  induction lines generalizing index left with
  | nil => rfl
  | cons text lines ih =>
    rw [replaceLines_cons] at h ⊢
    obtain ⟨hnone, hrest⟩ := Nat.add_eq_zero_iff.mp h
    rw [List.length_eq_zero_iff] at hnone
    rw [ih hrest, hnone, splice_nil]

/-- Replacing replaces the matches that are chosen in each line. -/
theorem replace_eq_replaceLines (b : LineBuffer) (m : Matcher) (replacement : String)
    (o : ReplaceOptions) :
    let r := replaceLines (chosen m o.filter (b.replaceRange o)) (newText replacement o) 0 o.count b.lines
    (b.replace m replacement o).1.lines = r.1 ∧ (b.replace m replacement o).2 = r.2 := by
  intro r
  have hzero : r.2 = 0 → r.1 = b.lines := replaceLines_of_zero
  have hreplace : b.replace m replacement o =
      if b.lines.isEmpty then (b, 0) else if r.2 = 0 then (b, 0) else (b.edit r.1, r.2) := rfl
  rw [hreplace]
  split
  · next hempty =>
    have hnothing : r.2 = 0 := by simp only [r, List.isEmpty_iff.mp hempty, replaceLines]
    exact ⟨(hzero hnothing).symm, hnothing.symm⟩
  · split
    · next hnothing => exact ⟨(hzero hnothing).symm, hnothing.symm⟩
    · exact ⟨rfl, rfl⟩

/-- Where no match is empty, a replacement in a whole buffer chooses all matches that follow one another in
a line. -/
theorem successive_chosen (hm : m.Sound) {b : LineBuffer} {o : ReplaceOptions} (hstart : o.start = none)
    (hstop : o.stop = none) (hline : o.inLine = false) (hfilter : o.filter = none) {index : Nat}
    (hget : b.lines[index]? = some text) (hne : NeverEmpty m text) :
    Successive m text 0 (chosen m o.filter (b.replaceRange o) index text) := by
  rw [replaceRange_whole b o hstart hstop hline, hfilter, chosen_whole hget]
  exact successive_occurrences hm hne (Text.isBoundary_zero _) (by omega) none

/-- Searching again and again from the start of a buffer, without flags that control the search, ends, and
its hits are the matches that replacing in the buffer replaces, one after the other: in each line those that
follow one another. No match in the lines may be empty. -/
theorem searchAll_eq_replaced {x : Search.Expression} (hx : x.Made) (hflags : x.flags.Plain)
    {b : LineBuffer} (hcursor : b.cursor = {}) (hne : ∀ text ∈ b.lines, NeverEmpty x.matcher text) :
    ∃ found : List (List Match),
      List.Forall₂ (Successive x.matcher · 0) b.lines found ∧
      (∀ fuel, (hitsOf 0 found).length < fuel →
        searchAll x.matcher x.flags fuel b = some (hitsOf 0 found)) ∧
      ∀ (replacement : String) (groups : Bool),
        let o : ReplaceOptions := { inLine := x.flags.inLine, groups }
        (∀ i text ws, b.lines[i]? = some text → found[i]? = some ws →
          chosen x.matcher o.filter (b.replaceRange o) i text = ws) ∧
        (b.replace x.matcher replacement o).1.lines =
          List.zipWith (fun text ws => splice text (newText replacement o) 0 ws) b.lines found ∧
        (b.replace x.matcher replacement o).2 = (hitsOf 0 found).length := by
  have hm := hx.sound
  obtain ⟨found, hfound⟩ := exists_successive hm hne
  have hlength := hfound.length_eq
  refine ⟨found, hfound, fun fuel hfuel => ?_, fun replacement groups => ?_⟩
  · exact searchAll_start hm hflags hcursor hfound hfuel
  · intro o
    have hchosen : ∀ i text ws, b.lines[i]? = some text → found[i]? = some ws →
        chosen x.matcher o.filter (b.replaceRange o) i text = ws := by
      intro i text ws hi hws
      have htext := hne text (List.mem_of_getElem? hi)
      have hall : Successive x.matcher text 0 (chosen x.matcher o.filter (b.replaceRange o) i text) :=
        successive_chosen hm rfl rfl hflags.inLine rfl hi htext
      obtain ⟨hlt, rfl⟩ := List.getElem?_eq_some_iff.mp hi
      obtain ⟨hlt', rfl⟩ := List.getElem?_eq_some_iff.mp hws
      exact hall.eq (hfound.get hlt hlt')
    obtain ⟨hlines, hcount⟩ := replace_eq_replaceLines b x.matcher replacement o
    have hfrom : ∀ k text ws, b.lines[k]? = some text → found[k]? = some ws →
        chosen x.matcher o.filter (b.replaceRange o) (0 + k) text = ws := by
      intro k text ws hk hws
      rw [Nat.zero_add]
      exact hchosen k text ws hk hws
    have hall := replaceLines_zipWith (newText replacement o) hlength.symm hfrom
    rw [show o.count = none from rfl, hall] at hlines hcount
    exact ⟨hchosen, hlines, hcount⟩

/-- Whether no match in a text that is looked for from an offset inside it is empty. -/
def neverEmpty (m : Matcher) (text : String) : Bool :=
  (List.range (Text.length text + 1)).all fun pos => (m.find? text pos).all fun w => w.start != w.stop

theorem neverEmpty_matcher {x : Search.Expression} (h : neverEmpty x.matcher text = true) :
    NeverEmpty x.matcher text := by
  intro pos w hw
  have hpos : pos < Text.length text + 1 := by
    by_cases hbehind : Text.length text < pos
    · simp [Search.Expression.matcher, hbehind] at hw
    · omega
  have hall := List.all_eq_true.mp h pos (List.mem_range.mpr hpos)
  rw [hw] at hall
  exact bne_iff_ne.mp hall

/-- The expression for a letter behind another one. -/
def pair : Search.Expression where
  pattern := "ab"
  kind := .literal
  machine :=
    .cat (.mark 0 0) (.cat (.cat (.set 2 (.range 97 97)) (.set 3 (.range 98 98))) (.mark 1 1))

theorem searchAll_eq_replaced_pairs :
    let b : LineBuffer := { lines := ["abab", "xab"] }
    pair.Made ∧ pair.flags.Plain ∧ (∀ text ∈ b.lines, NeverEmpty pair.matcher text) ∧
      searchAll pair.matcher pair.flags 4 b = some [.of ⟨0, 0⟩ 2, .of ⟨0, 2⟩ 2, .of ⟨1, 1⟩ 2] ∧
      (b.replace pair.matcher "-" {}).1.lines = ["--", "x-"] ∧
      ∃ found : List (List Match),
        List.Forall₂ (Successive pair.matcher · 0) b.lines found ∧
        (∀ fuel, (hitsOf 0 found).length < fuel →
          searchAll pair.matcher pair.flags fuel b = some (hitsOf 0 found)) ∧
        (b.replace pair.matcher "-" {}).2 = (hitsOf 0 found).length := by
  intro b
  have hnew : Search.Expression.new "ab" .literal "" = .ok pair := by rfl
  have hflags : pair.flags.Plain := ⟨rfl, rfl, rfl, rfl⟩
  have hne : ∀ text ∈ b.lines, NeverEmpty pair.matcher text := by
    have hall : ∀ text ∈ ["abab", "xab"], neverEmpty pair.matcher text = true := by decide +kernel
    exact fun text htext => neverEmpty_matcher (hall text htext)
  obtain ⟨found, hfound, hsearch, hreplace⟩ := searchAll_eq_replaced (.new hnew) hflags rfl hne
  exact ⟨.new hnew, hflags, hne, by decide +kernel, by decide +kernel, found, hfound, hsearch,
    (hreplace "-" false).2.2⟩

end LineBuffer

end LineScript
