import LineScript.Proofs.Regex.Reading
import LineScript.Proofs.Regex.Spans
import Mathlib.Computability.Language

/-! The language of a regular expression that has no conditions on the places between the characters: texts that are
read one behind the other match the products of their languages. -/
namespace LineScript.Regex

open Reader

/-- Whether an expression matches the texts of a language, wherever they stand. -/
def Syntax.HasWords (r : Syntax) (L : Language Char) : Prop :=
  ∀ p q, r.Matches p q ↔ ∃ ds ∈ L, p.Reads ds q

/-- Whether an expression matches all of a text. -/
def Syntax.Accepts (r : Syntax) (w : List Char) : Prop :=
  ∃ q, r.Matches ⟨none, w, 0⟩ q ∧ q.rest = []

/-- The texts that a regular expression, given as a text, matches as a whole. -/
def language (ignoreCase : Bool) (cs : List Char) : Language Char :=
  {w | ∃ r depth s, reading ignoreCase cs = some ((r, depth), s) ∧ s.rest = [] ∧ r.Accepts w}

variable {ignoreCase : Bool} {r : Syntax} {L M : Language Char} {set : CharSet} {p q : Place} {ds : List Char}
  {ps qs : List Piece}
  {a b : List Char}

theorem Syntax.HasWords.accepts_iff (h : r.HasWords L) : r.Accepts ds ↔ ds ∈ L := by
  constructor
  · rintro ⟨q, hq, hrest⟩
    obtain ⟨w, hw, hreads⟩ := (h _ q).mp hq
    have htext := hreads.rest_eq
    rw [hrest, List.append_nil] at htext
    change ds = w at htext
    exact htext ▸ hw
  · intro hds
    have hend : (⟨none, ds, 0⟩ : Place).rest = ds ++ [] := (List.append_nil ds).symm
    obtain ⟨q, hq⟩ := Place.exists_reads hend
    have htext : ds = ds ++ q.rest := hq.rest_eq
    exact ⟨q, (h _ q).mpr ⟨ds, hds, hq⟩, by simpa using htext⟩

/-- A search finds a text of the language if there is one. -/
theorem Syntax.HasWords.search_iff (h : r.HasWords L) (hr : r.WellFormed) (groupCount : Nat) (text : List Char) :
    (search? r.machine groupCount text 0).isSome = true ↔ ∃ part, part <:+: text ∧ part ∈ L := by
  rw [(search?_matches hr groupCount text 0).1, Place.seek_zero]
  constructor
  · rintro ⟨p, ⟨front, hp⟩, q, hq⟩
    obtain ⟨part, hpart, hreads⟩ := (h p q).mp hq
    have hfront : text = front ++ p.rest := hp.rest_eq
    exact ⟨part, ⟨front, q.rest, by rw [hfront, hreads.rest_eq, List.append_assoc]⟩, hpart⟩
  · rintro ⟨part, ⟨front, behind, rfl⟩, hpart⟩
    rw [List.append_assoc]
    obtain ⟨p, hp⟩ := Place.exists_reads (p := ⟨none, front ++ (part ++ behind), 0⟩) rfl
    have hrest : p.rest = part ++ behind := (List.append_cancel_left hp.rest_eq).symm
    obtain ⟨q, hq⟩ := Place.exists_reads hrest
    exact ⟨p, ⟨front, hp⟩, q, (h p q).mpr ⟨part, hpart, hq⟩⟩

theorem hasWords_set (set : CharSet) : (Syntax.set set).HasWords {w | ∃ c, set.holds c = true ∧ w = [c]} := by
  intro p q
  rw [Syntax.matches_set_iff]
  constructor
  · rintro ⟨c, hc, hreads⟩
    exact ⟨[c], ⟨c, hc, rfl⟩, hreads⟩
  · rintro ⟨_, ⟨c, hc, rfl⟩, hreads⟩
    exact ⟨c, hc, hreads⟩

/-- One character stands for itself. -/
theorem words_single (c : Char) :
    ({w | ∃ d, (CharSet.single c).holds d = true ∧ w = [d]} : Language Char) = {[c]} := by
  ext w
  constructor
  · rintro ⟨d, hd, rfl⟩
    rw [CharSet.holds_single_iff.mp hd]
    rfl
  · rintro rfl
    exact ⟨c, CharSet.holds_single_iff.mpr rfl, rfl⟩

theorem hasWords_repeated (set : CharSet) (greedy : Bool) :
    (Syntax.repeated (.set set) 0 none greedy).HasWords {w | ∀ c ∈ w, set.holds c = true} := by
  intro p q
  rw [Syntax.matches_repeated_set_iff]
  constructor
  · rintro ⟨ds, -, -, hds, hreads⟩
    exact ⟨ds, hds, hreads⟩
  · rintro ⟨ds, hds, hreads⟩
    exact ⟨ds, Nat.zero_le _, fun _ h => (Option.not_mem_none _ h).elim, hds, hreads⟩

/-- Whether pieces match the texts of a language, one behind the other. -/
inductive HaveWords : List Piece → Language Char → Prop
  | nil : HaveWords [] 1
  | cons {r : Syntax} {depth : Nat} {ps : List Piece} {L M : Language Char} : r.WellFormed → r.HasWords L →
      HaveWords ps M → HaveWords (⟨some r, depth⟩ :: ps) (L * M)

theorem HaveWords.append (h : HaveWords ps L) (h' : HaveWords qs M) : HaveWords (ps ++ qs) (L * M) := by
  induction h with
  | nil => rwa [one_mul]
  | cons hr hL _ ih =>
    rw [mul_assoc]
    exact .cons hr hL ih

theorem HaveWords.matchesAll_iff (h : HaveWords ps L) (p q : Place) :
    MatchesAll (ps.filterMap (·.syn)) p q ↔ ∃ ds ∈ L, p.Reads ds q := by
  induction h generalizing p with
  | nil =>
    constructor
    · rintro rfl
      exact ⟨[], Language.nil_mem_one, .nil⟩
    · rintro ⟨ds, hds, hreads⟩
      rw [(Language.mem_one ds).mp hds] at hreads
      cases hreads
      rfl
  | @cons r depth ps L M hr hL _ ih =>
    have hsplit : MatchesAll ((⟨some r, depth⟩ :: ps : List Piece).filterMap (·.syn)) p q ↔
        ∃ m, r.Matches p m ∧ MatchesAll (ps.filterMap (·.syn)) m q := Iff.rfl
    rw [hsplit]
    constructor
    · rintro ⟨m, hm, hrest⟩
      obtain ⟨ds, hds, hreads⟩ := (hL p m).mp hm
      obtain ⟨es, hes, hreads'⟩ := (ih m).mp hrest
      exact ⟨ds ++ es, Language.append_mem_mul hds hes, Place.reads_append.mpr ⟨m, hreads, hreads'⟩⟩
    · rintro ⟨w, hw, hreads⟩
      obtain ⟨ds, hds, es, hes, rfl⟩ := Language.mem_mul.mp hw
      obtain ⟨m, hreads, hreads'⟩ := Place.reads_append.mp hreads
      exact ⟨m, (hL p m).mpr ⟨ds, hds, hreads⟩, (ih m).mpr ⟨es, hes, hreads'⟩⟩

theorem HaveWords.wellFormed (h : HaveWords ps L) : ∀ r ∈ ps.filterMap (·.syn), r.WellFormed := by
  induction h with
  | nil => simp
  | cons hr _ _ ih =>
    intro r hmem
    rcases List.mem_cons.mp hmem with rfl | hmem
    · exact hr
    · exact ih r hmem

/-- The sequence of pieces, which are given from the last to the first. -/
theorem HaveWords.sequence (h : HaveWords ps.reverse L) :
    (Piece.sequence ps).1.WellFormed ∧ (Piece.sequence ps).1.HasWords L := by
  have hreverse : (ps.filterMap (·.syn)).reverse = ps.reverse.filterMap (·.syn) := List.filterMap_reverse.symm
  constructor
  · apply wellFormed_sequence
    intro r hr
    exact h.wellFormed r (by rw [← hreverse]; exact List.mem_reverse.mpr hr)
  · intro p q
    rw [matches_sequence, hreverse, h.matchesAll_iff]

/-- Whether a text is read as pieces, or refused, whatever stands behind it; but a question mark would belong to what
is in front of it. -/
def ReadsAs (ignoreCase : Bool) (cs : List Char) (o : Option (List Piece)) : Prop :=
  ∀ (s : ReadState) (behind : List Char) (fuel : Nat) (ps : List Piece), s.flags = { ignoreCase } →
    behind.head? ≠ some '?' →
    2 * (cs ++ behind).length + 1 ≤ fuel → ∃ fuel', 2 * behind.length + 1 ≤ fuel' ∧
      (branches fuel [] ps).run (s.on (cs ++ behind)) =
        o.bind fun qs => (branches fuel' [] (qs ++ ps)).run (s.on behind)

theorem ReadsAs.append {oa ob : Option (List Piece)} (ha : ReadsAs ignoreCase a oa) (hb : ReadsAs ignoreCase b ob)
    (hhead : b.head? ≠ some '?') : ReadsAs ignoreCase (a ++ b) (oa.bind fun ps => ob.map (· ++ ps)) := by
  intro s behind fuel ps h hbehind hfuel
  rw [List.append_assoc] at hfuel ⊢
  have hmiddle : (b ++ behind).head? ≠ some '?' := by
    cases b with
    | nil => exact hbehind
    | cons c b => exact hhead
  obtain ⟨fuel', hfuel', hrun⟩ := ha s (b ++ behind) fuel ps h hmiddle hfuel
  rw [hrun]
  cases oa with
  | none => exact ⟨2 * behind.length + 1, Nat.le_refl _, rfl⟩
  | some ps' =>
    obtain ⟨fuel'', hfuel'', hrun'⟩ := hb s behind fuel' (ps' ++ ps) h hbehind hfuel'
    refine ⟨fuel'', hfuel'', ?_⟩
    rw [Option.bind_some, Option.bind_some, hrun']
    cases ob with
    | none => rfl
    | some qs => rw [Option.map_some, Option.bind_some, Option.bind_some, List.append_assoc]

/-- Whether a text is read as pieces that match a language, or is refused and the language is empty. -/
def Means (ignoreCase : Bool) (cs : List Char) (L : Language Char) : Prop :=
  (ReadsAs ignoreCase cs none ∧ L = 0) ∨ ∃ qs, ReadsAs ignoreCase cs (some qs) ∧ HaveWords qs.reverse L

theorem means_nil : Means ignoreCase [] 1 := by
  refine .inr ⟨[], ?_, .nil⟩
  intro s behind fuel ps h hbehind hfuel
  exact ⟨fuel, hfuel, rfl⟩

theorem Means.append (ha : Means ignoreCase a L) (hb : Means ignoreCase b M) (hhead : b.head? ≠ some '?') :
    Means ignoreCase (a ++ b) (L * M) := by
  rcases ha with ⟨ha, rfl⟩ | ⟨ps, ha, hps⟩
  · refine .inl ⟨?_, zero_mul M⟩
    rcases hb with ⟨hb, -⟩ | ⟨qs, hb, -⟩
    · exact ha.append hb hhead
    · exact ha.append hb hhead
  · rcases hb with ⟨hb, rfl⟩ | ⟨qs, hb, hqs⟩
    · exact .inl ⟨ha.append hb hhead, mul_zero L⟩
    · refine .inr ⟨qs ++ ps, ha.append hb hhead, ?_⟩
      rw [List.reverse_append]
      exact hps.append hqs

/-- A piece that takes one step to read. -/
theorem means_piece (depth : Nat) (hr : r.WellFormed) (hL : r.HasWords L)
    (hstep : ∀ (s : ReadState) (behind : List Char) (fuel : Nat) (ps : List Piece), s.flags = { ignoreCase } →
      behind.head? ≠ some '?' → 2 * (a ++ behind).length ≤ fuel →
      ∃ fuel', 2 * behind.length + 1 ≤ fuel' ∧ (branches (fuel + 1) [] ps).run (s.on (a ++ behind)) =
        (branches fuel' [] (⟨some r, depth⟩ :: ps)).run (s.on behind)) : Means ignoreCase a L := by
  have hpieces : HaveWords [⟨some r, depth⟩] (L * 1) := .cons hr hL .nil
  rw [mul_one] at hpieces
  refine .inr ⟨[⟨some r, depth⟩], ?_, hpieces⟩
  intro s behind fuel ps h hbehind hfuel
  obtain ⟨fuel, rfl⟩ : ∃ f, fuel = f + 1 := ⟨fuel - 1, by omega⟩
  exact hstep s behind fuel ps h hbehind (by omega)

theorem ReadsAs.reading_eq {o : Option (List Piece)} (h : ReadsAs ignoreCase a o) : reading ignoreCase a =
    o.map fun qs => (Piece.sequence qs, ReadState.on { rest := [], flags := { ignoreCase } } []) := by
  obtain ⟨fuel, hfuel, hrun⟩ := h { rest := [], flags := { ignoreCase } } [] (2 * a.length + 2) [] rfl (by simp)
    (by simp)
  rw [List.append_nil] at hrun
  refine hrun.trans ?_
  cases o with
  | none => rfl
  | some qs =>
    obtain ⟨fuel, rfl⟩ : ∃ f, fuel = f + 1 := ⟨fuel - 1, by omega⟩
    rw [Option.bind_some, List.append_nil]
    exact branches_end rfl

/-- What a text that is read as pieces reads as. -/
theorem Means.hasWords (h : Means ignoreCase a L) {depth : Nat} {s : ReadState}
    (hread : reading ignoreCase a = some ((r, depth), s)) : r.WellFormed ∧ r.HasWords L := by
  rcases h with ⟨hnone, -⟩ | ⟨qs, hsome, hwords⟩
  · rw [hnone.reading_eq] at hread
    cases hread
  · rw [hsome.reading_eq] at hread
    cases hread
    exact hwords.sequence

/-- The language of a text that is read as pieces. -/
theorem Means.language_eq (h : Means ignoreCase a L) : language ignoreCase a = L := by
  ext w
  constructor
  · rintro ⟨r, depth, s, hread, -, haccepts⟩
    exact (h.hasWords hread).2.accepts_iff.mp haccepts
  · intro hw
    rcases h with ⟨-, rfl⟩ | ⟨qs, hsome, hwords⟩
    · exact absurd hw (Language.notMem_zero w)
    · exact ⟨_, _, _, hsome.reading_eq, rfl, hwords.sequence.2.accepts_iff.mpr hw⟩

/-- What a text that is read as pieces finds are the texts of its language. -/
theorem Means.search_iff (h : Means ignoreCase a L) (hread : read? ignoreCase a = some r) (groupCount : Nat)
    (text : List Char) :
    (search? r.machine groupCount text 0).isSome = true ↔ ∃ part, part <:+: text ∧ part ∈ L := by
  obtain ⟨depth, s, hreading, -⟩ := read?_eq_some_iff.mp hread
  obtain ⟨hr, hL⟩ := h.hasWords hreading
  exact hL.search_iff hr groupCount text

end LineScript.Regex
