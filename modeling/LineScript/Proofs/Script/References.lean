import LineScript.Proofs.Regex.Spans
import LineScript.Proofs.Script.Templates
import LineScript.Token.RegexClass

/-! References to variables: a template has exactly those that stand in its text, and the regular expression for them
describes the same ones. -/
namespace LineScript.Script

open Regex (CharSet Place Syntax Times)
open Template (IsName Occurs Refers reference reference? written)
open Token (isDigit_iff isLower_iff isUpper_iff)

/-- The references to variables, as a regular expression. -/
def variableClass : String :=
  "\\$\\(_\x7b0,2\x7d[A-Za-z][A-Za-z0-9_]*\\)"

/-- The letters of ASCII. -/
def letterSet : CharSet :=
  .ofRanges [('A', 'Z'), ('a', 'z')]

/-- What may go on with a name. -/
def partSet : CharSet :=
  .ofRanges [('A', 'Z'), ('a', 'z'), ('0', '9'), ('_', '_')]

/-- What the regular expression for references reads as. -/
def variableSyntax : Syntax :=
  .cat (.look .textStart) <| .cat (.set (.single '$')) <| .cat (.set (.single '(')) <|
    .cat (.repeated (.set (.single '_')) 0 (some 2) true) <| .cat (.set letterSet) <|
    .cat (.repeated (.set partSet) 0 none true) (.set (.single ')'))

theorem read?_variableClass :
    Regex.read? false ('^' :: "(?:".toList ++ variableClass.toList ++ [')']) = some variableSyntax := by
  decide +kernel

theorem variableSyntax_wellFormed : variableSyntax.WellFormed := by
  simp [variableSyntax, Syntax.WellFormed]

theorem holds_letterSet_iff {c : Char} : letterSet.holds c = true ↔ c.isAlpha = true := by
  have hset : letterSet.holds c = (false || (CharSet.range 'A'.toNat 'Z'.toNat).holds c ||
      (CharSet.range 'a'.toNat 'z'.toNat).holds c) := rfl
  have halpha : c.isAlpha = (c.isUpper || c.isLower) := rfl
  rw [hset, halpha, Bool.false_or, Bool.or_eq_true, Bool.or_eq_true, isUpper_iff, isLower_iff,
    CharSet.holds_range_iff, CharSet.holds_range_iff]

theorem holds_partSet_iff {c : Char} : partSet.holds c = true ↔ (c.isAlphanum || c == '_') = true := by
  have hset : partSet.holds c = (letterSet.holds c || (CharSet.range '0'.toNat '9'.toNat).holds c ||
      (CharSet.single '_').holds c) := rfl
  have halphanum : c.isAlphanum = (c.isAlpha || c.isDigit) := rfl
  rw [hset, halphanum, Bool.or_eq_true, Bool.or_eq_true, Bool.or_eq_true, Bool.or_eq_true, holds_letterSet_iff,
    isDigit_iff, CharSet.holds_range_iff, CharSet.holds_single_iff, beq_iff_eq]

/-- The regular expression matches the references at the start of a text. -/
theorem variableSyntax_matches_iff {p q : Place} : variableSyntax.Matches p q ↔
    p.prev = none ∧ ∃ name, IsName name ∧ p.Reads (reference name) q := by
  have hchar {c : Char} {p q : Place} : (Syntax.set (.single c)).Matches p q ↔ p.Reads [c] q := by
    simp [Syntax.matches_set_iff, CharSet.holds_single_iff]
  have hparts (marks tail : List Char) (c : Char) : reference (marks ++ c :: tail) =
      ['$'] ++ (['('] ++ (marks ++ ([c] ++ (tail ++ [')'])))) := by
    simp [reference]
  constructor
  · rintro ⟨_, ⟨hstart, rfl⟩, p₁, h₁, p₂, h₂, p₃, h₃, p₄, h₄, p₅, h₅, h₆⟩
    obtain ⟨marks, -, hlength, hmarks, h₃⟩ := Syntax.matches_repeated_set_iff.mp h₃
    obtain ⟨c, hc, h₄⟩ := Syntax.matches_set_iff.mp h₄
    obtain ⟨tail, -, -, htail, h₅⟩ := Syntax.matches_repeated_set_iff.mp h₅
    have hname : IsName (marks ++ c :: tail) :=
      ⟨marks, c, tail, rfl, hlength 2 rfl, fun m hm => CharSet.holds_single_iff.mp (hmarks m hm),
        holds_letterSet_iff.mp hc, fun d hd => holds_partSet_iff.mp (htail d hd)⟩
    refine ⟨Option.isNone_iff_eq_none.mp hstart, _, hname, ?_⟩
    rw [hparts]
    simp only [Place.reads_append]
    exact ⟨p₁, hchar.mp h₁, p₂, hchar.mp h₂, p₃, h₃, p₄, h₄, p₅, h₅, hchar.mp h₆⟩
  · rintro ⟨hstart, _, ⟨marks, c, tail, rfl, hlength, hmarks, hc, htail⟩, hreads⟩
    rw [hparts] at hreads
    simp only [Place.reads_append] at hreads
    obtain ⟨p₁, h₁, p₂, h₂, p₃, h₃, p₄, h₄, p₅, h₅, h₆⟩ := hreads
    have hlook : (Syntax.look .textStart).Matches p p := ⟨Option.isNone_iff_eq_none.mpr hstart, rfl⟩
    refine ⟨p, hlook, p₁, hchar.mpr h₁, p₂, hchar.mpr h₂, p₃, ?_, p₄, ?_, p₅, ?_, hchar.mpr h₆⟩
    · refine Syntax.matches_repeated_set_iff.mpr ⟨marks, Nat.zero_le _, ?_, ?_, h₃⟩
      · rintro m hm
        obtain rfl := Option.some.inj hm
        exact hlength
      · exact fun m hm => CharSet.holds_single_iff.mpr (hmarks m hm)
    · exact Syntax.matches_set_iff.mpr ⟨c, holds_letterSet_iff.mpr hc, h₄⟩
    · exact Syntax.matches_repeated_set_iff.mpr ⟨tail, Nat.zero_le _, fun _ h => (Option.not_mem_none _ h).elim,
        fun d hd => holds_partSet_iff.mpr (htail d hd), h₅⟩

/-- A search for the regular expression finds the reference at the start of a text, if there is one. -/
theorem search?_variableSyntax (groupCount : Nat) (cs : List Char) :
    (Regex.search? variableSyntax.machine groupCount cs 0).map (fun w => Text.take cs w.stop) =
      (reference? cs).map fun (name, _) => reference name := by
  have hsearch := Regex.search?_matches variableSyntax_wellFormed groupCount cs 0
  rw [Place.seek_zero] at hsearch
  have hread {p q : Place} (hp : Place.Ahead ⟨none, cs, 0⟩ p) (hq : variableSyntax.Matches p q) :
      ∃ name, reference? cs = some (name, q.rest) ∧ q.offset = Text.size (reference name) := by
    obtain ⟨ds, hds⟩ := hp
    obtain ⟨hprev, name, hname, hreads⟩ := variableSyntax_matches_iff.mp hq
    obtain ⟨-, rfl⟩ := hds.eq_of_prev hprev
    exact ⟨name, Template.reference?_eq_some_iff.mpr ⟨hreads.rest_eq, hname⟩, by simpa using hreads.offset_eq⟩
  cases hfound : Regex.search? variableSyntax.machine groupCount cs 0 with
  | some w =>
    obtain ⟨p, q, hp, hq, -, hstop⟩ := hsearch.2 w hfound
    obtain ⟨name, href, hoffset⟩ := hread hp hq
    rw [href, Option.map_some, Option.map_some, hstop, hoffset, (Template.reference?_eq_some_iff.mp href).1,
      Text.take_size]
  | none =>
    cases href : reference? cs with
    | none => rfl
    | some found =>
      obtain ⟨name, rest⟩ := found
      obtain ⟨hcs, hname⟩ := Template.reference?_eq_some_iff.mp href
      obtain ⟨q, hq⟩ := Place.exists_reads (p := ⟨none, cs, 0⟩) hcs
      have hsome := hsearch.1.mpr ⟨_, ⟨[], .nil⟩, q, variableSyntax_matches_iff.mpr ⟨rfl, name, hname, hq⟩⟩
      rw [hfound] at hsome
      cases hsome

/-- The regular expression describes the class of references. -/
theorem ofRegex_variableClass : TokenClass.ofRegex variableClass = .ok ⟨SpecialClass.variable.accept?⟩ := by
  have hlarge : variableSyntax.isTooLarge = false := by decide +kernel
  unfold TokenClass.ofRegex
  rw [read?_variableClass]
  simp only [hlarge, Bool.false_eq_true, if_false, search?_variableSyntax]
  rfl

theorem variableName_reference (name : List Char) (kind : TokenKind) (column : Nat) :
    variableName ⟨String.ofList (reference name), kind, column⟩ = String.ofList name := by
  simp [variableName, reference]

/-- Every text is a template, which is written as the text. The variables of the template are the references in the
text, each in its place and all of them, since none overlaps another; the texts are what stands between, so that none
is empty unless the whole text is. The token class of references, given as a regular expression, finds a reference
wherever the reader of templates does, with the same name. -/
theorem template_references :
    (∀ raw, ∃ ps, Template.ofText false raw = .ok ps ∧ written ps = raw ∧
      (∀ i name, Refers ps i name ↔ Occurs raw i name) ∧
      (∀ i name j name', Occurs raw i name → Occurs raw j name' → i ≤ j →
        i = j ∧ name = name' ∨ i + (reference name).length ≤ j) ∧
      (ps.Tidy ∨ raw = [] ∧ ps = [.text ""])) ∧
    ∃ k, TokenClass.ofRegex variableClass = .ok k ∧ k.accept? = SpecialClass.variable.accept? ∧
      (∀ cs, k.accept? cs = (reference? cs).map fun (name, _) => reference name) ∧
      ∀ name kind column, variableName ⟨String.ofList (reference name), kind, column⟩ = String.ofList name := by
  constructor
  · intro raw
    obtain ⟨ps, hps, hwritten, htidy, -⟩ := (Template.decoded_raw raw).ofText
    exact ⟨ps, hps, hwritten, fun _ _ => Template.refers_ofText hps, fun _ _ _ _ h h' => h.disjoint h', htidy⟩
  · exact ⟨_, ofRegex_variableClass, rfl, fun _ => rfl, variableName_reference⟩

theorem template_references_two :
    let raw := "$(a)$$(b)".toList
    Occurs raw 0 ['a'] ∧ Occurs raw 5 ['b'] ∧ 0 + (reference ['a']).length ≤ 5 ∧
      ∃ ps, Template.ofText false raw = .ok ps ∧ Refers ps 5 ['b'] := by
  intro raw
  have hname (c : Char) (hc : c.isAlpha = true) : IsName [c] :=
    ⟨[], c, [], rfl, Nat.zero_le 2, fun _ h => (nomatch h), hc, fun _ h => nomatch h⟩
  have ha : Occurs raw 0 ['a'] := ⟨[], "$$(b)".toList, by decide, rfl, hname 'a' (by decide)⟩
  have hb : Occurs raw 5 ['b'] := ⟨"$(a)$".toList, [], by decide, rfl, hname 'b' (by decide)⟩
  obtain ⟨ps, hps, -, hrefers, hdisjoint, -⟩ := template_references.1 raw
  have hapart := (hdisjoint 0 ['a'] 5 ['b'] ha hb (Nat.zero_le 5)).resolve_left fun h => absurd h.1 (by decide)
  exact ⟨ha, hb, hapart, ps, hps, (hrefers 5 ['b']).mpr hb⟩

example : Template.ofText false "cost: $5 $(9x) $(ok)".toList = .ok [.text "cost: $5 $(9x) ", .variable "ok"] := by
  decide +kernel

end LineScript.Script
