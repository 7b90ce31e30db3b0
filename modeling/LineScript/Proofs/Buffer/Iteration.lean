import LineScript.Proofs.Buffer.Whole

/-! The matches that are replaced in a portion of a line: those that a search for all matches comes to, one after
the other, up to the first one that ends behind the portion. -/
namespace LineScript

namespace Text

/-- Between a boundary and the next one there is no other. -/
theorem next_le_of_lt {cs : List Char} {m n : Nat} (hm : IsBoundary cs m) (hn : IsBoundary cs n)
    (h : m < n) : next cs m ≤ n := by
  obtain ⟨c, rest, hdrop⟩ := hm.exists_drop (Nat.lt_of_lt_of_le h hn.le_size)
  have hparts := slice_append_drop hn (Nat.le_of_lt h)
  have hsize := size_slice hm hn (Nat.le_of_lt h)
  rw [hdrop] at hparts
  rw [next_of_drop hdrop]
  cases hslice : slice cs m n with
  | nil =>
    rw [hslice, size_nil] at hsize
    omega
  | cons d ds =>
    rw [hslice, List.cons_append, List.cons.injEq] at hparts
    rw [hslice, size_cons, hparts.1] at hsize
    omega

end Text

namespace Search

/-- Whether a matcher finds, from every boundary of a text on, the leftmost of the matches in the text: of those that
it finds from their own start on. -/
structure Matcher.Leftmost (m : Matcher) (text : String) : Prop where
  found : ∀ {n w}, Text.IsBoundary text.toList n → m.find? text n = some w →
    m.find? text w.start = some w ∧ ∀ v, m.find? text v.start = some v → n ≤ v.start → w.start ≤ v.start
  missed : ∀ {n}, Text.IsBoundary text.toList n → m.find? text n = none →
    ∀ v, m.find? text v.start = some v → v.start < n

end Search

namespace LineBuffer

open Regex (Match)
open Search (Matcher)

/-- Whether a match is one of a text, does not start before an offset, and is not an empty one at the offset that
is barred. -/
structure Candidate (m : Matcher) (text : String) (start : Nat) (barred : Option Nat) (w : Match) : Prop where
  found : m.find? text w.start = some w
  le : start ≤ w.start
  allowed : w.start = w.stop → barred ≠ some w.start

/-- Matches in a text from an offset on as they are met from left to right: each is the leftmost one that does not
start before the end of the one before, and is not an empty one right behind it. -/
inductive Iterated (m : Matcher) (text : String) : Nat → Option Nat → List Match → Prop
  | done {start : Nat} {barred : Option Nat} : (∀ w, ¬Candidate m text start barred w) →
      Iterated m text start barred []
  | next {start : Nat} {barred : Option Nat} {w : Match} {ws : List Match} :
      Candidate m text start barred w → (∀ v, Candidate m text start barred v → w.start ≤ v.start) →
      Iterated m text w.stop (some w.stop) ws → Iterated m text start barred (w :: ws)

variable {m : Matcher} {text : String} {start : Nat} {barred : Option Nat} {ws : List Match} {v w : Match}

/-- Only the matches that can come next matter. -/
theorem Iterated.congr {start' : Nat} {barred' : Option Nat} (h : Iterated m text start barred ws)
    (hsame : ∀ w, Candidate m text start barred w ↔ Candidate m text start' barred' w) :
    Iterated m text start' barred' ws := by
  cases h with
  | done hnone => exact .done fun w hw => hnone w ((hsame w).mpr hw)
  | next hw hleast htail => exact .next ((hsame _).mp hw) (fun v hv => hleast v ((hsame v).mpr hv)) htail

/-- Two matches of a text that start at one offset are the same. -/
theorem Candidate.eq_of_start (hv : Candidate m text start barred v) (hw : m.find? text w.start = some w)
    (h : v.start = w.start) : v = w := by
  have hfound := hv.found
  rw [h, hw] at hfound
  exact (Option.some.inj hfound).symm

/-- There is one way to meet the matches of a text. -/
theorem Iterated.eq {ws' : List Match} (h : Iterated m text start barred ws)
    (h' : Iterated m text start barred ws') : ws = ws' := by
  induction h generalizing ws' with
  | done hnone =>
    cases h' with
    | done => rfl
    | next hw => exact absurd hw (hnone _)
  | next hw hleast _ ih =>
    cases h' with
    | done hnone => exact absurd hw (hnone _)
    | next hv hleast' htail =>
      obtain rfl := hw.eq_of_start hv.found (Nat.le_antisymm (hleast _ hv) (hleast' _ hw))
      rw [ih htail]

/-- Behind an empty match that is barred, a search goes on at the next character. -/
theorem candidate_next_iff (hm : m.Sound) (hw : m.find? text w.start = some w) (hempty : w.start = w.stop) :
    Candidate m text w.start (some w.start) v ↔
      Candidate m text (Text.next text.toList w.start) (some w.start) v := by
  obtain ⟨-, -, hstart, -⟩ := hm _ _ _ hw
  constructor
  · intro hv
    obtain ⟨-, -, hboundary, -⟩ := hm _ _ _ hv.found
    have hne : w.start ≠ v.start := by
      intro heq
      obtain rfl := hv.eq_of_start hw heq.symm
      exact hv.allowed hempty rfl
    exact ⟨hv.found, Text.next_le_of_lt hstart hboundary (Nat.lt_of_le_of_ne hv.le hne), hv.allowed⟩
  · intro hv
    exact ⟨hv.found, Nat.le_trans hstart.le_next hv.le, hv.allowed⟩

/-- Behind an empty match at the end of a text there is none. -/
theorem not_candidate_end (hm : m.Sound) (hw : m.find? text w.start = some w) (hempty : w.start = w.stop)
    (hend : Text.length text ≤ w.start) : ¬Candidate m text w.start (some w.start) v := by
  intro hv
  obtain ⟨-, -, hstart, -⟩ := hm _ _ _ hv.found
  have hle := hstart.le_size
  rw [← Text.length_eq_size] at hle
  obtain rfl := hv.eq_of_start hw (Nat.le_antisymm (Nat.le_trans hle hend) hv.le)
  exact hv.allowed hempty rfl

/-- In all of a text, the matches to be replaced are those that are met one after the other. -/
theorem iterated_occurrences (hm : m.Sound) (hleft : m.Leftmost text) {fuel pos : Nat}
    (hpos : Text.IsBoundary text.toList pos) (hfuel : Text.length text < fuel + pos)
    (previous : Option Nat) :
    Iterated m text pos previous (occurrences m text (Text.length text) fuel pos previous) := by
  have hle := hpos.le_size
  rw [← Text.length_eq_size] at hle
  induction fuel generalizing pos previous with
  | zero => omega
  | succ fuel ih =>
    unfold occurrences
    rw [if_neg (Nat.not_lt.mpr hle)]
    cases hw : m.find? text pos with
    | none =>
      apply Iterated.done
      intro v hv
      have hbefore := hleft.missed hpos hw v hv.found
      exact Nat.not_lt.mpr hv.le hbefore
    | some w =>
      obtain ⟨hlow, hspan, hstart, hstop⟩ := hm _ _ _ hw
      obtain ⟨hself, hleast⟩ := hleft.found hpos hw
      have hend := hstop.le_size
      rw [← Text.length_eq_size] at hend
      dsimp only
      rw [if_neg (Nat.not_lt.mpr hend)]
      by_cases hempty : w.start = w.stop
      · rw [if_pos hempty]
        -- What comes behind the empty match, whether or not it is passed over.
        have hbeyond : Iterated m text w.start (some w.start)
            (if Text.length text ≤ w.start then [] else occurrences m text (Text.length text) fuel
              (Text.next text.toList w.start) (some w.start)) := by
          split
          · next hlast => exact .done fun v => not_candidate_end hm hself hempty hlast
          · next hlast =>
            have hnext := lt_next hstart (Nat.lt_of_not_le hlast)
            have hboundary := Text.isBoundary_next hstart
            have hsize := hboundary.le_size
            rw [← Text.length_eq_size] at hsize
            have htail := ih hboundary (by omega) (some w.start) hsize
            exact htail.congr fun v => (candidate_next_iff hm hself hempty).symm
        split
        · next hbarred =>
          rw [hbarred]
          apply hbeyond.congr
          intro v
          constructor
          · exact fun hv => ⟨hv.found, Nat.le_trans hlow hv.le, hv.allowed⟩
          · exact fun hv => ⟨hv.found, hleast v hv.found hv.le, hv.allowed⟩
        · next hbarred =>
          rw [hempty] at hbeyond ⊢
          exact .next ⟨hself, hlow, fun _ => hbarred⟩ (fun v hv => hleast v hv.found hv.le) hbeyond
      · rw [if_neg hempty]
        have hrest := ih hstop (by omega) (some w.stop) hend
        exact .next ⟨hself, hlow, fun h => absurd h hempty⟩ (fun v hv => hleast v hv.found hv.le) hrest

/-- Matches that start behind an offset end behind it. -/
theorem takeWhile_occurrences_eq_nil (hm : m.Sound) {stop high fuel pos : Nat} {previous : Option Nat}
    (hpos : Text.IsBoundary text.toList pos) (h : stop < pos) :
    (occurrences m text high fuel pos previous).takeWhile (·.stop ≤ stop) = [] := by
  cases hws : occurrences m text high fuel pos previous with
  | nil => rfl
  | cons w ws =>
    have hfirst : pos ≤ w.start := le_of_occurrences hm hpos (by rw [hws]; rfl)
    have hmem : w ∈ occurrences m text high fuel pos previous := by
      rw [hws]
      exact List.mem_cons_self
    obtain ⟨n, hn⟩ := mem_occurrences hmem
    obtain ⟨-, hspan, -, -⟩ := hm _ _ _ hn
    have hbehind : ¬ w.stop ≤ stop := by omega
    simp [hbehind]

/-- In a portion of a text, they are those up to the first one that ends behind the portion. -/
theorem occurrences_eq_takeWhile (hm : m.Sound) {stop fuel pos : Nat} (hstop : stop ≤ Text.length text)
    (hpos : Text.IsBoundary text.toList pos) (previous : Option Nat) :
    occurrences m text stop fuel pos previous =
      (occurrences m text (Text.length text) fuel pos previous).takeWhile (·.stop ≤ stop) := by
  induction fuel generalizing pos previous with
  | zero => rfl
  | succ fuel ih =>
    by_cases hbehind : stop < pos
    · rw [takeWhile_occurrences_eq_nil hm hpos hbehind, occurrences, if_pos hbehind]
    have hinside : ¬ Text.length text < pos := by omega
    unfold occurrences
    rw [if_neg hbehind, if_neg hinside]
    cases hw : m.find? text pos with
    | none => rfl
    | some w =>
      obtain ⟨hlow, hspan, hstart, hend⟩ := hm _ _ _ hw
      have hsize := hend.le_size
      rw [← Text.length_eq_size] at hsize
      have hnext := Text.isBoundary_next hstart
      have hwithin : ¬ Text.length text < w.stop := by omega
      have hbeyond (previous : Option Nat) :
          (if Text.length text ≤ w.start then [] else
            occurrences m text stop fuel (Text.next text.toList w.start) previous) =
          (if Text.length text ≤ w.start then [] else
            occurrences m text (Text.length text) fuel (Text.next text.toList w.start)
              previous).takeWhile (·.stop ≤ stop) := by
        split
        · rfl
        · exact ih hnext previous
      dsimp only
      rw [if_neg hwithin]
      by_cases hcut : stop < w.stop
      · rw [if_pos hcut]
        have hout : ¬ w.stop ≤ stop := by omega
        split
        · next hempty =>
          split
          · split
            · rfl
            · have hpast := hstart.le_next
              rw [takeWhile_occurrences_eq_nil hm hnext (by omega)]
          · simp [hout]
        · simp [hout]
      · rw [if_neg hcut]
        have hin : w.stop ≤ stop := by omega
        split
        · split
          · exact hbeyond previous
          · simp [hin, hbeyond]
        · simp [hin, ih hend]

end LineBuffer

end LineScript
