import LineScript.Proofs.Buffer.Iteration
import LineScript.Proofs.Buffer.Seeking

/-! A search backwards finds the last match that ends at or before its limit. In a line the matches are met
from left to right, each behind the first character of the one before, so that none is passed over. -/
namespace LineScript.LineBuffer

open Buffer (Position Hit)
open Search (Matcher Flags)

/-- Whether a match, given by its ends, is the one that starts last of those that are admitted; there may be
none. -/
inductive Rightmost (admitted : Nat → Nat → Prop) : Option (Nat × Nat) → Prop
  | missed : (∀ start stop, ¬ admitted start stop) → Rightmost admitted none
  | found {start stop : Nat} : admitted start stop → (∀ start' stop', admitted start' stop' → start' ≤ start) →
      Rightmost admitted (some (start, stop))

/-- Whether a match of a text ends at or before a limit. -/
def Fits (m : Matcher) (text : String) (limit start stop : Nat) : Prop :=
  stop ≤ limit ∧ m.MatchAt text start stop

section
variable {m : Matcher} {text : String} {limit : Nat}

theorem Fits.bounds (hm : m.Sound) {start stop : Nat} (h : Fits m text limit start stop) :
    start ≤ limit ∧ start ≤ Text.length text := by
  have hlimit := h.1
  have hle := (h.2.bounds hm).1
  exact ⟨by omega, h.2.start_le hm⟩

theorem Rightmost.congr {A B : Nat → Nat → Prop} {best : Option (Nat × Nat)} (h : Rightmost A best)
    (hAB : ∀ start stop, A start stop ↔ B start stop) : Rightmost B best := by
  have heq : A = B := by
    funext start stop
    exact propext (hAB start stop)
  rwa [← heq]

/-- The last match in front of a place is the last one of all if all of them are in front of it. -/
theorem Rightmost.of_all {A : Nat → Nat → Prop} {B : Nat → Prop} {best : Option (Nat × Nat)}
    (h : Rightmost (fun start stop => B start ∧ A start stop) best)
    (hall : ∀ start stop, A start stop → B start) :
    Rightmost A best := by
  apply h.congr
  intro start stop
  constructor
  · exact And.right
  · intro hA
    exact ⟨hall _ _ hA, hA⟩

/-- The next match is the last one up to its start, if it fits. -/
theorem Rightmost.take {w : Regex.Match} {pos : Nat} {best : Option (Nat × Nat)}
    (hmatch : m.MatchAt text w.start w.stop) (hpos : pos ≤ w.start)
    (hfirst : ∀ start stop, m.MatchAt text start stop → pos ≤ start → w.start ≤ start)
    (h : Rightmost (fun start stop => start < pos ∧ Fits m text limit start stop) best) :
    Rightmost (fun start stop => start ≤ w.start ∧ Fits m text limit start stop)
      (if w.stop ≤ limit then some (w.start, w.stop) else best) := by
  by_cases hfits : w.stop ≤ limit
  · rw [if_pos hfits]
    exact .found ⟨Nat.le_refl _, hfits, hmatch⟩ fun start stop h => h.1
  · rw [if_neg hfits]
    apply h.congr
    intro start stop
    constructor
    · rintro ⟨hlt, hrest⟩
      exact ⟨by omega, hrest⟩
    · rintro ⟨hle, hstop, hat⟩
      refine ⟨?_, hstop, hat⟩
      apply Nat.lt_of_not_le
      intro hge
      obtain rfl : start = w.start := Nat.le_antisymm hle (hfirst _ _ hat hge)
      rw [hat.stop_eq hmatch] at hstop
      exact hfits hstop

/-- What the scan of a line keeps: it has the last of the matches that fit and start before the place where it
is. -/
theorem lastMatchFrom_rightmost (hm : m.Sound) (hleast : m.FindsLeast text) {fuel pos : Nat}
    {best : Option (Nat × Nat)} (hpos : Text.IsBoundary text.toList pos) (hfuel : Text.length text < fuel + pos)
    (hbest : Rightmost (fun start stop => start < pos ∧ Fits m text limit start stop) best) :
    Rightmost (Fits m text limit) (lastMatchFrom m text limit fuel pos best) := by
  induction fuel generalizing pos best with
  | zero =>
    have hle := hpos.le_length
    omega
  | succ fuel ih =>
    unfold lastMatchFrom
    by_cases hlimit : limit < pos
    · rw [if_pos hlimit]
      apply hbest.of_all
      intro start stop hfits
      have hstart := (hfits.bounds hm).1
      omega
    rw [if_neg hlimit]
    cases hw : m.find? text pos with
    | none =>
      apply hbest.of_all
      intro start stop hfits
      exact hleast.missed hpos hw _ _ hfits.2
    | some w =>
      obtain ⟨hmatch, hfirst⟩ := hleast.found hpos hw
      obtain ⟨hlow, -, hstart, -⟩ := hm _ _ _ hw
      have htaken := hbest.take hmatch hlow hfirst
      dsimp only
      by_cases hbehind : limit < w.start
      · rw [if_pos hbehind]
        apply hbest.of_all
        intro start stop hfits
        have hle := (hfits.bounds hm).1
        apply Nat.lt_of_not_le
        intro hge
        have hnext := hfirst _ _ hfits.2 hge
        omega
      rw [if_neg hbehind]
      by_cases hend : Text.length text ≤ w.start
      · rw [if_pos hend]
        apply htaken.of_all
        intro start stop hfits
        have hle := (hfits.bounds hm).2
        omega
      · rw [if_neg hend]
        have hnext := lt_next hstart (Nat.lt_of_not_le hend)
        apply ih (Text.isBoundary_next hstart) (by omega)
        apply htaken.congr
        intro start stop
        -- Between the start of a match and the next character there is no other start.
        have hstarts : Fits m text limit start stop →
            (start ≤ w.start ↔ start < Text.next text.toList w.start) := by
          intro hfits
          constructor
          · intro hle
            omega
          · intro hlt
            apply Nat.le_of_not_lt
            intro hgt
            have hle := Text.next_le_of_lt hstart (hfits.2.bounds hm).2.1 hgt
            omega
        exact and_congr_left hstarts

/-- In a line, the last match that ends at or before a column is found. -/
theorem lastMatchBefore_rightmost (hm : m.Sound) (hleast : m.FindsLeast text) {column : Nat}
    (hcolumn : Text.IsBoundary text.toList column) :
    Rightmost (Fits m text column) (lastMatchBefore m text column) := by
  have hfloor : Text.floor text.toList column = column := hcolumn
  unfold lastMatchBefore
  rw [hfloor]
  apply lastMatchFrom_rightmost hm hleast (Text.isBoundary_zero _) (by omega)
  apply Rightmost.missed
  rintro start stop ⟨hlt, -⟩
  omega

end

section
variable {m : Matcher} {lines : List String} {text : String}

/-- The last match of a line up to a column stands behind all those in the lines above. -/
theorem picks_line (index : Nat) (hm : m.Sound) (hleast : m.FindsLeast text) {column : Nat}
    (hcolumn : Text.IsBoundary text.toList column) {A : Position → Nat → Prop} {above : Hit}
    (hlines : ∀ p stop, A p stop → p.line < index) (habove : Picks A (fun p q => q ≤ p) above) :
    Picks (fun p stop => A p stop ∨ p.line = index ∧ Fits m text column p.column stop) (fun p q => q ≤ p)
      (match lastMatchBefore m text column with
        | some (first, stop) => .of ⟨index, first⟩ (stop - first)
        | none => above) := by
  have hlast := lastMatchBefore_rightmost hm hleast hcolumn
  generalize lastMatchBefore m text column = best at hlast
  cases hlast with
  | missed hnone =>
    apply habove.congr
    intro p stop
    constructor
    · exact .inl
    · rintro (hp | ⟨-, hfits⟩)
      · exact hp
      · exact absurd hfits (hnone _ _)
  | @found first stop hfits hlast =>
    have hle := (hfits.2.bounds hm).1
    apply picks_of hle (.inr ⟨rfl, hfits⟩)
    intro q stop' hq
    apply Position.le_iff.mpr
    rcases hq with hq | ⟨hline, hq⟩
    · exact .inl (hlines q stop' hq)
    · exact .inr ⟨hline, hlast _ _ hq⟩

/-- A match in a line, and what it means to end at or before the end of the line. -/
theorem matchIn_iff_fits {index : Nat} (hm : m.Sound) (hget : lines[index]? = some text) {p : Position}
    (hline : p.line = index) (stop : Nat) :
    MatchIn m lines p stop ↔ Fits m text (Text.length text) p.column stop := by
  constructor
  · rintro ⟨text', htext, hmatch⟩
    rw [hline, hget] at htext
    obtain rfl := Option.some.inj htext
    exact ⟨(hmatch.bounds hm).2.2.le_length, hmatch⟩
  · rintro ⟨-, hmatch⟩
    exact ⟨text, by rwa [hline], hmatch⟩

/-- Of the matches in the first lines, the last one is the hit. -/
theorem lastHit?_picks (hm : m.Sound) (hleast : ∀ text ∈ lines, m.FindsLeast text) {n : Nat}
    (hn : n ≤ lines.length) :
    Picks (fun p stop => MatchIn m lines p stop ∧ p.line < n) (fun p q => q ≤ p)
      ((lastHit? m (n - 1) (lines.take n).reverse).getD .miss) := by
  induction n with
  | zero =>
    apply picks_miss
    rintro p stop ⟨-, hlt⟩
    omega
  | succ n ih =>
    have hlt : n < lines.length := hn
    have hget : lines[n]? = some lines[n] := List.getElem?_eq_getElem hlt
    have hreverse : (lines.take (n + 1)).reverse = lines[n] :: (lines.take n).reverse := by
      rw [List.take_succ_eq_append_getElem hlt, List.reverse_append]
      rfl
    have hhit : (lastHit? m (n + 1 - 1) (lines.take (n + 1)).reverse).getD .miss =
        match lastMatchBefore m lines[n] (Text.length lines[n]) with
        | some (first, stop) => .of ⟨n, first⟩ (stop - first)
        | none => (lastHit? m (n - 1) (lines.take n).reverse).getD .miss := by
      rw [hreverse, lastHit?]
      cases lastMatchBefore m lines[n] (Text.length lines[n]) <;> rfl
    have hline := picks_line n hm (hleast _ (List.mem_of_getElem? hget)) (Access.isBoundary_length _)
      (fun p stop hp => hp.2) (ih (Nat.le_of_lt hlt))
    rw [hhit]
    apply hline.congr
    intro p stop
    constructor
    · rintro (⟨hmatch, hlt⟩ | ⟨hline, hfits⟩)
      · exact ⟨hmatch, by omega⟩
      · exact ⟨(matchIn_iff_fits hm hget hline stop).mpr hfits, by omega⟩
    · rintro ⟨hmatch, hlt⟩
      by_cases hline : p.line = n
      · exact .inr ⟨hline, (matchIn_iff_fits hm hget hline stop).mp hmatch⟩
      · exact .inl ⟨hmatch, by omega⟩

end

/-- Where the matches that a search backwards admits have to end: at the position where the search starts, and
at the end of the last line if that position is behind it. -/
def searchLimit (b : LineBuffer) (start : Position) : Position :=
  if b.lines.length ≤ start.line then b.endPosition else start

/-- Whether a match that a search backwards to a limit admits starts at a position and ends at a column. -/
def AdmitsBackward (b : LineBuffer) (m : Matcher) (inLine : Prop) (limit p : Position) (stop : Nat) : Prop :=
  MatchIn m b.lines p stop ∧ (⟨p.line, stop⟩ : Position) ≤ limit ∧ (inLine → p.line = limit.line)

section
variable {b : LineBuffer} {m : Matcher} {start : Position} {text : String}

/-- The limit of a search in a buffer that has lines is in one of them. -/
theorem exists_searchLimit_line (hb : b.lines ≠ []) (hstart : start.Clamped b.lines) :
    ∃ text, b.lines[(b.searchLimit start).line]? = some text ∧
      Text.IsBoundary text.toList (b.searchLimit start).column := by
  have hpos : 0 < b.lines.length := List.length_pos_iff.mpr hb
  unfold searchLimit
  split
  · apply b.endPosition_clamped.exists_line
    rw [endPosition, List.getLast?_eq_some_getLast hb]
    exact Nat.sub_one_lt (Nat.ne_of_gt hpos)
  · next hlt => exact hstart.exists_line (Nat.lt_of_not_le hlt)

/-- A search backwards looks at the line of its limit first, and at the lines above then. -/
theorem searchBackward_eq (inLine : Bool) (hget : b.lines[(b.searchLimit start).line]? = some text) :
    let limit := b.searchLimit start
    b.searchBackward m inLine start =
      match lastMatchBefore m text limit.column with
      | some (first, stop) => .of ⟨limit.line, first⟩ (stop - first)
      | none =>
        if inLine then .miss
        else (lastHit? m (limit.line - 1) (b.lines.take limit.line).reverse).getD .miss := by
  intro limit
  unfold searchBackward
  cases hlast : b.lines.getLast? with
  | none =>
    rw [List.getLast?_eq_none_iff.mp hlast] at hget
    cases hget
  | some last =>
    have hlimit : limit =
        if b.lines.length ≤ start.line then ⟨b.lines.length - 1, Text.length last⟩ else start := by
      simp only [limit, searchLimit, endPosition, hlast]
    have htext : (b.lines[limit.line]?).getD "" = text := by rw [hget, Option.getD_some]
    cases hbest : lastMatchBefore m text limit.column <;> simp only [← hlimit, htext, hbest]

theorem searchBackward_picks (hm : m.Sound) (hleast : ∀ text ∈ b.lines, m.FindsLeast text) (inLine : Bool)
    (hstart : start.Clamped b.lines) :
    Picks (AdmitsBackward b m (inLine = true) (b.searchLimit start)) (fun p q => q ≤ p)
      (b.searchBackward m inLine start) := by
  by_cases hb : b.lines = []
  · have hmiss : b.searchBackward m inLine start = .miss := by
      rw [searchBackward, hb, List.getLast?_nil]
    rw [hmiss]
    apply picks_miss
    rintro p stop ⟨⟨text, hget, -⟩, -⟩
    rw [hb] at hget
    cases hget
  obtain ⟨text, hget, hcolumn⟩ := exists_searchLimit_line hb hstart
  rw [searchBackward_eq inLine hget]
  generalize b.searchLimit start = limit at hget hcolumn ⊢
  have habove : Picks (fun p stop => (MatchIn m b.lines p stop ∧ p.line < limit.line) ∧ inLine = false)
      (fun p q => q ≤ p)
      (if inLine then .miss
        else (lastHit? m (limit.line - 1) (b.lines.take limit.line).reverse).getD .miss) := by
    cases inLine with
    | true =>
      apply picks_miss
      simp
    | false =>
      have hlt := (List.getElem?_eq_some_iff.mp hget).1
      apply (lastHit?_picks hm hleast (Nat.le_of_lt hlt)).congr
      simp
  have htext := hleast text (List.mem_of_getElem? hget)
  have hline := picks_line limit.line hm htext hcolumn (fun p stop hp => hp.1.2) habove
  apply hline.congr
  intro p stop
  rw [AdmitsBackward, Position.le_iff]
  constructor
  · rintro (⟨⟨hmatch, hlt⟩, hall⟩ | ⟨hline, hstop, hmatch⟩)
    · exact ⟨hmatch, .inl hlt, fun hin => by simp [hall] at hin⟩
    · exact ⟨⟨text, by rwa [hline], hmatch⟩, .inr ⟨hline, hstop⟩, fun _ => hline⟩
  · rintro ⟨hmatch, hlt | ⟨hline, hstop⟩, honly⟩
    · refine .inl ⟨⟨hmatch, hlt⟩, ?_⟩
      rw [Bool.eq_false_iff]
      intro hin
      have hline := honly hin
      dsimp only at hlt
      omega
    · have hfits := (matchIn_iff_fits (p := p) hm hget hline stop).mp hmatch
      exact .inr ⟨hline, hstop, hfits.2⟩

end

/-- A search backwards starts where its flags say, and its hit is the last match that ends there or before, in
the line where it starts only if it has to stay in the line of the cursor; it misses only if there is none. Of
matches that overlap each one counts, and so does an empty one. The scan of every line ends. The search
remembers the hit and its text, moves the cursor to the start of the hit if it is told to, and leaves all else
as it is. The matcher is any. -/
theorem search_finds_last {pattern flags : String} {kind : Search.Kind} {x : Search.Expression}
    (hx : Search.Expression.new pattern kind flags = .ok x) (hbackward : 'B' ∈ flags.toList) (b : LineBuffer)
    {m : Matcher} (hm : m.Sound) (hleast : ∀ text ∈ b.lines, m.FindsLeast text) (advance : Bool) :
    let result := b.search m x.flags advance
    ∃ start, (∀ p, SearchStart b flags.toList p ↔ p = start) ∧
      Picks (AdmitsBackward b m ('L' ∈ flags.toList) (b.searchLimit start)) (fun p q => q ≤ p) result.2 ∧
      (result.2.found = true → result.2.stop ≤ b.searchLimit start) ∧
      (∀ text column, lastMatchBefore? m text column = some (lastMatchBefore m text column)) ∧
      Leaves b true advance result := by
  intro result
  have hreads := Search.Expression.reads_of_new hx
  have hbackwards : x.flags.backwards = true := hreads.backwards_iff.mpr hbackward
  have hinLine : (x.flags.inLine = true) = ('L' ∈ flags.toList) := propext hreads.inLine_iff
  obtain ⟨hhit, hleaves⟩ := search_leaves hm b x.flags advance
  have hsought : b.sought m x.flags = b.searchBackward m x.flags.inLine (b.searchStart x.flags) := by
    rw [sought, hbackwards, if_pos rfl]
  have hpicks := searchBackward_picks hm hleast x.flags.inLine (b.searchStart_clamped x.flags)
  rw [← hsought, ← hhit, hinLine] at hpicks
  rw [hbackwards] at hleaves
  have hstop (hfound : result.2.found = true) : result.2.stop ≤ b.searchLimit (b.searchStart x.flags) :=
    (hpicks.first hfound).1.2.1
  exact ⟨_, searchStart_iff hreads b, hpicks, hstop, lastMatchBefore?_eq hm, hleaves⟩

/-- The expression for a letter behind the same letter, backwards. -/
def double : Search.Expression where
  pattern := "aa"
  kind := .literal
  flags := { backwards := true }
  machine :=
    .cat (.mark 0 0) (.cat (.cat (.set 2 (.range 97 97)) (.set 3 (.range 97 97))) (.mark 1 1))

/-- From behind the last line, the last of two matches that overlap in the line above the last one. -/
theorem search_finds_last_overlapping :
    let b : LineBuffer := { lines := ["aaa", "a"], cursor := ⟨7, 0⟩ }
    let result := b.search double.matcher double.flags true
    Search.Expression.new "aa" .literal "B" = .ok double ∧ 'B' ∈ "B".toList ∧ double.matcher.Sound ∧
      (∀ text ∈ b.lines, double.matcher.FindsLeast text) ∧
      result.2 = .of ⟨0, 1⟩ 2 ∧ result.1.cursor = ⟨0, 1⟩ ∧
      ∃ start, (∀ p, SearchStart b "B".toList p ↔ p = start) ∧
        Picks (AdmitsBackward b double.matcher ('L' ∈ "B".toList) (b.searchLimit start)) (fun p q => q ≤ p)
          result.2 ∧
        (result.2.found = true → result.2.stop ≤ b.searchLimit start) ∧
        (∀ text column, lastMatchBefore? double.matcher text column =
          some (lastMatchBefore double.matcher text column)) ∧
        Leaves b true true result := by
  intro b result
  have hnew : Search.Expression.new "aa" .literal "B" = .ok double := by rfl
  have hbackward : 'B' ∈ "B".toList := by decide
  have hsound : double.matcher.Sound := (Search.Expression.Made.new hnew).sound
  have hleast : ∀ text ∈ b.lines, double.matcher.FindsLeast text := by
    have hall : ∀ text ∈ b.lines, double.matcher.findsLeast text = true := by decide +kernel
    intro text htext
    exact Matcher.findsLeast_sound hsound (hall text htext)
  exact ⟨hnew, hbackward, hsound, hleast, by decide +kernel, by decide +kernel,
    search_finds_last hnew hbackward b hsound hleast true⟩

end LineScript.LineBuffer
