import LineScript.Proofs.Buffer.Repetition
import LineScript.Proofs.Buffer.Seeking

/-! A search forward finds the first match at or behind its start and leaves all else as it is. -/
namespace LineScript.LineBuffer

open Buffer (Position Hit)
open Search (Matcher Flags)

/-- Whether a match that a search forward from a position admits starts at a position and ends at a column. -/
def AdmitsForward (b : LineBuffer) (m : Matcher) (inLine : Prop) (start p : Position) (stop : Nat) : Prop :=
  MatchIn m b.lines p stop ∧ start ≤ p ∧ (inLine → p.line = start.line)

/-- Whether a match in some lines, given from the one with an index on, starts at a position and ends at a
column. In the first line a match may not start before a column. -/
def MatchBelow (m : Matcher) (index column : Nat) (lines : List String) (p : Position) (stop : Nat) : Prop :=
  ∃ k text, lines[k]? = some text ∧ p.line = index + k ∧ (k = 0 → column ≤ p.column) ∧
    m.MatchAt text p.column stop

section
variable {m : Matcher} {index column : Nat} {text : String} {rest : List String} {p : Position} {stop : Nat}

/-- In front of the lines below there is the first line, from the column on. -/
theorem matchBelow_cons_iff : MatchBelow m index column (text :: rest) p stop ↔
    (p.line = index ∧ column ≤ p.column ∧ m.MatchAt text p.column stop) ∨
      MatchBelow m (index + 1) 0 rest p stop := by
  constructor
  · rintro ⟨k, line, hget, hline, hcolumn, hmatch⟩
    cases k with
    | zero =>
      obtain rfl : text = line := by simpa using hget
      exact .inl ⟨hline, hcolumn rfl, hmatch⟩
    | succ k => exact .inr ⟨k, line, by simpa using hget, by omega, fun _ => Nat.zero_le _, hmatch⟩
  · rintro (⟨hline, hcolumn, hmatch⟩ | ⟨k, line, hget, hline, -, hmatch⟩)
    · exact ⟨0, text, rfl, by omega, fun _ => hcolumn, hmatch⟩
    · exact ⟨k + 1, line, by simpa using hget, by omega, fun h => by omega, hmatch⟩

end

/-- Of the matches in some lines, the first one is the hit. -/
theorem firstHit_picks {m : Matcher} (hm : m.Sound) (index column : Nat) {lines : List String}
    (hleast : ∀ text ∈ lines, m.FindsLeast text)
    (hcolumn : ∀ text ∈ lines.head?, Text.IsBoundary text.toList column) :
    Picks (MatchBelow m index column lines) (· ≤ ·) (firstHit m index column lines) := by
  induction lines generalizing index column with
  | nil =>
    apply picks_miss
    rintro p stop ⟨k, text, hget, -⟩
    cases hget
  | cons text rest ih =>
    obtain ⟨htext, hrest⟩ := List.forall_mem_cons.mp hleast
    have hboundary : Text.IsBoundary text.toList column := hcolumn text rfl
    unfold firstHit
    cases hw : m.find? text column with
    | none =>
      have hbelow := ih (index + 1) 0 hrest fun _ _ => Text.isBoundary_zero _
      apply hbelow.congr
      intro p stop
      rw [matchBelow_cons_iff]
      constructor
      · exact .inr
      · rintro (⟨-, hbehind, hmatch⟩ | h)
        · have hbefore := htext.missed hboundary hw _ _ hmatch
          omega
        · exact h
    | some w =>
      obtain ⟨hmatch, hfirst⟩ := htext.found hboundary hw
      have hbounds := hm _ _ _ hw
      apply picks_of hbounds.le
      · exact matchBelow_cons_iff.mpr (.inl ⟨rfl, hbounds.low_le, hmatch⟩)
      · intro q stop hq
        apply Position.le_iff.mpr
        rcases matchBelow_cons_iff.mp hq with ⟨hline, hbehind, hmatch'⟩ | ⟨k, line, -, hline, -⟩
        · exact .inr ⟨hline.symm, hfirst _ _ hmatch' hbehind⟩
        · left
          dsimp only
          omega

section
variable {b : LineBuffer} {m : Matcher} {start : Position}

/-- The lines that a search forward looks at. -/
def linesBelow (b : LineBuffer) (inLine : Bool) (start : Position) : List String :=
  if inLine then (b.lines.drop start.line).take 1 else b.lines.drop start.line

theorem getElem?_linesBelow {inLine : Bool} {k : Nat} {text : String} :
    (b.linesBelow inLine start)[k]? = some text ↔
      b.lines[start.line + k]? = some text ∧ (inLine = true → k = 0) := by
  unfold linesBelow
  cases inLine with
  | false => simp
  | true => simp [List.getElem?_take, and_comm]

/-- The matches below the start of a search are those that it admits. -/
theorem matchBelow_iff (inLine : Bool) (p : Position) (stop : Nat) :
    MatchBelow m start.line start.column (b.linesBelow inLine start) p stop ↔
      AdmitsForward b m (inLine = true) start p stop := by
  unfold AdmitsForward
  rw [Position.le_iff]
  constructor
  · rintro ⟨k, text, htext, hline, hcolumn, hmatch⟩
    obtain ⟨hlines, honly⟩ := getElem?_linesBelow.mp htext
    refine ⟨⟨text, by rwa [hline], hmatch⟩, ?_, ?_⟩
    · by_cases hk : k = 0
      · exact .inr ⟨by omega, hcolumn hk⟩
      · exact .inl (by omega)
    · intro h
      have hk := honly h
      omega
  · rintro ⟨⟨text, hlines, hmatch⟩, hle, honly⟩
    have hline : p.line = start.line + (p.line - start.line) := by omega
    refine ⟨p.line - start.line, text, getElem?_linesBelow.mpr ⟨by rwa [← hline], ?_⟩, hline, ?_, hmatch⟩
    · intro h
      have hp := honly h
      omega
    · intro h
      omega

theorem searchForward_picks (hm : m.Sound) (hleast : ∀ text ∈ b.lines, m.FindsLeast text) (inLine : Bool)
    (hstart : start.Clamped b.lines) :
    Picks (AdmitsForward b m (inLine = true) start) (· ≤ ·) (b.searchForward m inLine start) := by
  have hbelow : ∀ text ∈ b.linesBelow inLine start, m.FindsLeast text := by
    intro text htext
    obtain ⟨k, hk⟩ := List.mem_iff_getElem?.mp htext
    exact hleast text (List.mem_of_getElem? (getElem?_linesBelow.mp hk).1)
  have hcolumn : ∀ text ∈ (b.linesBelow inLine start).head?, Text.IsBoundary text.toList start.column := by
    intro text htext
    rw [List.head?_eq_getElem?] at htext
    exact (Position.clamped_on (getElem?_linesBelow.mp htext).1).mp hstart
  have hpicks : Picks _ _ (b.searchForward m inLine start) :=
    firstHit_picks hm start.line start.column hbelow hcolumn
  exact hpicks.congr (matchBelow_iff inLine)

end

/-- A search forward starts where its flags say, and its hit is the first match that starts there or behind,
in the line where it starts only if it has to stay in the line of the cursor; it misses only if there is none.
It remembers the hit and its text, moves the cursor behind the hit if it is told to, and leaves all else as it
is. Without flags no hit starts before the cursor. The matcher is any. -/
theorem search_finds_first {pattern flags : String} {kind : Search.Kind} {x : Search.Expression}
    (hx : Search.Expression.new pattern kind flags = .ok x) (hforward : 'B' ∉ flags.toList) (b : LineBuffer)
    {m : Matcher} (hm : m.Sound) (hleast : ∀ text ∈ b.lines, m.FindsLeast text) (advance : Bool) :
    let result := b.search m x.flags advance
    ∃ start, (∀ p, SearchStart b flags.toList p ↔ p = start) ∧
      Picks (AdmitsForward b m ('L' ∈ flags.toList) start) (· ≤ ·) result.2 ∧
      Leaves b false advance result ∧
      (flags = "" → result.2.found = true → b.cursor.clamp b.lines ≤ result.2.position) := by
  intro result
  have hreads := Search.Expression.reads_of_new hx
  have hbackwards : x.flags.backwards = false := by
    rw [Bool.eq_false_iff, ne_eq, hreads.backwards_iff]
    exact hforward
  have hinLine : (x.flags.inLine = true) = ('L' ∈ flags.toList) := propext hreads.inLine_iff
  obtain ⟨hhit, hleaves⟩ := search_leaves hm b x.flags advance
  have hsought : b.sought m x.flags = b.searchForward m x.flags.inLine (b.searchStart x.flags) := by
    rw [sought, hbackwards, if_neg Bool.false_ne_true]
  have hpicks := searchForward_picks hm hleast x.flags.inLine (b.searchStart_clamped x.flags)
  rw [← hsought, ← hhit, hinLine] at hpicks
  rw [hbackwards] at hleaves
  refine ⟨_, searchStart_iff hreads b, hpicks, hleaves, ?_⟩
  rintro rfl hfound
  have hcursor : b.cursor.clamp b.lines = b.searchStart x.flags :=
    (searchStart_iff hreads b _).mp (.cursor rfl (by simp) (by simp))
  rw [hcursor]
  exact (hpicks.first hfound).1.2.1

/-- The expression for a letter behind another one, in the line of the cursor from its start on. -/
def pairInLine : Search.Expression :=
  { pair with flags := { inLine := true, startAt := some .first } }

/-- The cursor is behind the last character of its line. From the start of this line on, the match in the line
above does not count, nor does the one in the line below; without flags, the one below is the hit. -/
theorem search_finds_first_pairs :
    let b : LineBuffer := { lines := ["ab", "xabab", "ab"], cursor := ⟨1, 9⟩ }
    Search.Expression.new "ab" .literal ">L<" = .ok pairInLine ∧ 'B' ∉ ">L<".toList ∧ pairInLine.matcher.Sound ∧
      (∀ text ∈ b.lines, pairInLine.matcher.FindsLeast text) ∧
      (b.search pairInLine.matcher pairInLine.flags true).2 = .of ⟨1, 1⟩ 2 ∧
      (let result := b.search pairInLine.matcher pairInLine.flags true
      ∃ start, (∀ p, SearchStart b ">L<".toList p ↔ p = start) ∧
        Picks (AdmitsForward b pairInLine.matcher ('L' ∈ ">L<".toList) start) (· ≤ ·) result.2 ∧
        Leaves b false true result ∧
        (">L<" = "" → result.2.found = true → b.cursor.clamp b.lines ≤ result.2.position)) ∧
      Search.Expression.new "ab" .literal "" = .ok pair ∧
      (b.search pairInLine.matcher pair.flags true).2 = .of ⟨2, 0⟩ 2 ∧
      b.cursor.clamp b.lines ≤ (b.search pairInLine.matcher pair.flags true).2.position := by
  intro b
  have hnew : Search.Expression.new "ab" .literal ">L<" = .ok pairInLine := by rfl
  have hplain : Search.Expression.new "ab" .literal "" = .ok pair := by rfl
  have hforward : 'B' ∉ ">L<".toList := by decide
  have hsound : pairInLine.matcher.Sound := (Search.Expression.Made.new hnew).sound
  have hleast : ∀ text ∈ b.lines, pairInLine.matcher.FindsLeast text := by
    have hall : ∀ text ∈ b.lines, pairInLine.matcher.findsLeast text = true := by decide +kernel
    intro text htext
    exact Matcher.findsLeast_sound hsound (hall text htext)
  have hbelow : (b.search pairInLine.matcher pair.flags true).2 = .of ⟨2, 0⟩ 2 := by decide +kernel
  have hfound : (b.search pairInLine.matcher pair.flags true).2.found = true := by
    rw [hbelow]
    rfl
  obtain ⟨-, -, -, -, hbehind⟩ := search_finds_first hplain (by decide) b hsound hleast true
  exact ⟨hnew, hforward, hsound, hleast, by decide +kernel,
    search_finds_first hnew hforward b hsound hleast true, hplain, hbelow, hbehind rfl hfound⟩

end LineScript.LineBuffer
