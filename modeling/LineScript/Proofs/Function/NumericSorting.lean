import LineScript.Proofs.Function.Sorting
import LineScript.Proofs.Number.Rounding

/-! Sorting by number. Lines are ordered by the decimals at their start, as far as doubles tell their values apart; but a
decimal with one more point directly behind it counts as zero. -/
namespace LineScript

namespace Number

/-- A decimal as it is written: a sign, digits and digits behind a point, each of which may be missing. -/
@[ext]
structure Decimal where
  /-- Whether the sign is a minus, if there is one. -/
  sign : Option Bool
  whole : List Char
  /-- The digits behind the point, if there is one. -/
  fraction : Option (List Char)
  isDigit_whole : ∀ c ∈ whole, c.isDigit = true
  isDigit_fraction : ∀ c ∈ fraction.getD [], c.isDigit = true
  deriving DecidableEq

namespace Decimal

variable {d other : Decimal} {c : Char} {cs rest : List Char}

/-- A sign as it is written. -/
def signText : Option Bool → List Char
  | none => []
  | some true => ['-']
  | some false => ['+']

/-- The digits behind the point with the point. -/
def pointText : Option (List Char) → List Char
  | none => []
  | some digits => '.' :: digits

/-- What is written behind the sign. -/
def body (d : Decimal) : List Char :=
  d.whole ++ pointText d.fraction

/-- The decimal as it is written. -/
def text (d : Decimal) : List Char :=
  signText d.sign ++ d.body

/-- All digits, without the point. -/
def digits (d : Decimal) : List Char :=
  d.whole ++ d.fraction.getD []

def isNegative (d : Decimal) : Bool :=
  d.sign.getD false

/-- The number of digits behind the point. -/
def places (d : Decimal) : Nat :=
  (d.fraction.getD []).length

/-- The exact value. -/
def value (d : Decimal) : ℚ :=
  Double.signed d.isNegative (Nat.ofDigitChars 10 d.digits 0 / 10 ^ d.places)

/-- Whether a decimal is the longest one at the start of a text. Without a digit there is no decimal. -/
structure Leads (d : Decimal) (cs : List Char) : Prop where
  digits : d.digits ≠ []
  starts : d.text <+: cs
  longest : ∀ other : Decimal, other.digits ≠ [] → other.text <+: cs → other.text.length ≤ d.text.length

/-- The sign at the start of a text. -/
def signOf : List Char → Option Bool
  | [] => none
  | c :: _ => if c = '-' then some true else if c = '+' then some false else none

/-- The digits behind the point at the start of a text. -/
def fractionOf : List Char → Option (List Char)
  | '.' :: cs => some (cs.takeWhile Char.isDigit)
  | _ => none

/-- What is left behind a point and the digits behind it. -/
def dropFraction : List Char → List Char
  | '.' :: cs => cs.dropWhile Char.isDigit
  | cs => cs

theorem isDigit_fractionOf (cs : List Char) : ∀ c ∈ (fractionOf cs).getD [], c.isDigit = true := by
  unfold fractionOf
  split
  · exact fun c hc => List.mem_takeWhile_imp hc
  · exact fun c hc => absurd hc List.not_mem_nil

/-- The decimal at the start of a text, possibly without a digit. -/
def leading (cs : List Char) : Decimal where
  sign := signOf cs
  whole := (takeSign cs).2.takeWhile Char.isDigit
  fraction := fractionOf ((takeSign cs).2.dropWhile Char.isDigit)
  isDigit_whole := fun _ hc => List.mem_takeWhile_imp hc
  isDigit_fraction := isDigit_fractionOf _

/-- What is behind the decimal at the start of a text. -/
def behind (cs : List Char) : List Char :=
  dropFraction ((takeSign cs).2.dropWhile Char.isDigit)

theorem takeSign_fst (cs : List Char) : (takeSign cs).1 = (signOf cs).getD false := by
  cases cs with
  | nil => rfl
  | cons c cs =>
    rw [takeSign_cons, signOf]
    split_ifs <;> rfl

theorem signText_append_takeSign (cs : List Char) : signText (signOf cs) ++ (takeSign cs).2 = cs := by
  cases cs with
  | nil => rfl
  | cons c cs =>
    rw [takeSign_cons, signOf]
    split_ifs with hminus hplus
    · rw [hminus]
      rfl
    · rw [hplus]
      rfl
    · rfl

theorem pointText_append_dropFraction (cs : List Char) : pointText (fractionOf cs) ++ dropFraction cs = cs := by
  unfold fractionOf dropFraction
  split
  · exact congrArg (List.cons '.') List.takeWhile_append_dropWhile
  · rfl

/-- Behind the sign are the digits and the rest. -/
theorem takeSign_eq (cs : List Char) : (takeSign cs).2 = (leading cs).body ++ behind cs := by
  rw [body, behind, List.append_assoc]
  change _ = List.takeWhile _ _ ++ (pointText (fractionOf _) ++ _)
  rw [pointText_append_dropFraction, List.takeWhile_append_dropWhile]

theorem text_append_behind (cs : List Char) : (leading cs).text ++ behind cs = cs := by
  rw [text, List.append_assoc, ← takeSign_eq]
  exact signText_append_takeSign cs

theorem not_isDigit_behind (hc : c ∈ (behind cs).head?) : c.isDigit = false := by
  have hdropped (l : List Char) (h : c ∈ (l.dropWhile Char.isDigit).head?) : c.isDigit = false := by
    have hnot := List.head?_dropWhile_not Char.isDigit l
    rw [h] at hnot
    simpa using hnot
  unfold behind dropFraction at hc
  split at hc
  · exact hdropped _ hc
  · exact hdropped _ hc

/-- A point directly behind a decimal is not its first one. -/
theorem fraction_ne_none_of_point (h : '.' ∈ (behind cs).head?) : (leading cs).fraction ≠ none := by
  unfold behind dropFraction at h
  change fractionOf _ ≠ none
  unfold fractionOf
  split
  · exact Option.some_ne_none _
  · next hpoint =>
    obtain ⟨l, hl⟩ : ∃ l, (takeSign cs).2.dropWhile Char.isDigit = '.' :: l := by
      split at h
      · next heq => exact ⟨_, heq⟩
      · exact List.head?_eq_some_iff.mp h
    exact absurd hl (hpoint l)

theorem takeWhile_isDigit_point (l : List Char) : ('.' :: l).takeWhile Char.isDigit = [] :=
  List.takeWhile_cons_of_neg (by decide)

theorem body_eq_cons (h : d.digits ≠ []) : ∃ c l, d.body = c :: l ∧ c ≠ '-' ∧ c ≠ '+' := by
  unfold digits at h
  unfold body
  cases hwhole : d.whole with
  | cons c l =>
    have hdigit : c.isDigit = true := d.isDigit_whole c (by simp [hwhole])
    refine ⟨c, _, rfl, ?_, ?_⟩
    all_goals
      rintro rfl
      exact absurd hdigit (by decide)
  | nil =>
    cases hfraction : d.fraction with
    | none => simp [hwhole, hfraction] at h
    | some l => exact ⟨'.', l, rfl, by decide, by decide⟩

theorem split_sign (h : d.digits ≠ []) (rest : List Char) :
    signOf (d.text ++ rest) = d.sign ∧ (takeSign (d.text ++ rest)).2 = d.body ++ rest := by
  obtain ⟨c, l, hbody, hminus, hplus⟩ := body_eq_cons h
  rw [text, hbody]
  cases d.sign with
  | some s => cases s <;> exact ⟨rfl, rfl⟩
  | none =>
    constructor
    · change (if _ then _ else _) = _
      rw [if_neg hminus, if_neg hplus]
    · change (takeSign (c :: _)).2 = _
      rw [takeSign_cons, if_neg hminus, if_neg hplus]
      rfl

/-- A decimal goes on as far as it can behind its text. -/
theorem leading_append (h : d.digits ≠ []) (rest : List Char) :
    (leading (d.text ++ rest)).sign = d.sign ∧
      (leading (d.text ++ rest)).whole = d.whole ++ (if d.fraction = none then rest.takeWhile Char.isDigit else []) ∧
      (leading (d.text ++ rest)).fraction = (match d.fraction with
        | none => fractionOf (rest.dropWhile Char.isDigit)
        | some l => some (l ++ rest.takeWhile Char.isDigit)) := by
  obtain ⟨hsign, hbody⟩ := split_sign h rest
  have hassoc : d.body ++ rest = d.whole ++ (pointText d.fraction ++ rest) := List.append_assoc _ _ _
  refine ⟨hsign, ?_, ?_⟩
  · change List.takeWhile _ _ = _
    rw [hbody, hassoc, List.takeWhile_append_of_pos d.isDigit_whole]
    cases d.fraction with
    | none => rfl
    | some l => exact congrArg _ (takeWhile_isDigit_point _)
  · change fractionOf (List.dropWhile _ _) = _
    rw [hbody, hassoc, List.dropWhile_append_of_pos d.isDigit_whole]
    have hdigits := d.isDigit_fraction
    cases hfraction : d.fraction with
    | none => rfl
    | some l =>
      rw [hfraction] at hdigits
      exact congrArg some (List.takeWhile_append_of_pos hdigits)

theorem leading_text (h : d.digits ≠ []) : leading d.text = d := by
  obtain ⟨hsign, hwhole, hfraction⟩ := leading_append h []
  rw [List.append_nil] at hsign hwhole hfraction
  ext1
  · exact hsign
  · rw [hwhole]
    simp
  · rw [hfraction]
    cases d.fraction with
    | none => rfl
    | some l => simp

/-- No decimal at the start of a text is longer. -/
theorem length_le_leading (h : other.digits ≠ []) (hstarts : other.text <+: cs) :
    (leading cs).digits ≠ [] ∧ other.text.length ≤ (leading cs).text.length := by
  obtain ⟨rest, rfl⟩ := hstarts
  obtain ⟨hsign, hwhole, hfraction⟩ := leading_append h rest
  generalize leading (other.text ++ rest) = d at hsign hwhole hfraction ⊢
  unfold digits at h ⊢
  unfold text body
  rw [hsign, hwhole, hfraction]
  cases hother : other.fraction with
  | none =>
    rw [hother] at h
    constructor
    · simp at h
      simp [h]
    · simp [pointText]
  | some l =>
    rw [hother] at h
    constructor
    · simp at h
      simp
      tauto
    · simp [pointText]

theorem leads_leading (h : (leading cs).digits ≠ []) : (leading cs).Leads cs :=
  ⟨h, ⟨_, text_append_behind cs⟩, fun _ hdigits hstarts => (length_le_leading hdigits hstarts).2⟩

/-- There is only one longest decimal at the start of a text. -/
theorem Leads.eq (h : d.Leads cs) : d = leading cs := by
  obtain ⟨hdigits, hle⟩ := length_le_leading h.digits h.starts
  have hleads := leads_leading hdigits
  have htext : d.text = (leading cs).text :=
    List.IsPrefix.eq_of_length (List.prefix_of_prefix_length_le h.starts hleads.starts hle)
      (Nat.le_antisymm hle (h.longest _ hleads.digits hleads.starts))
  rw [← leading_text h.digits, htext, leading_text hdigits]

theorem leads_iff : d.Leads cs ↔ d = leading cs ∧ d.digits ≠ [] := by
  constructor
  · intro h
    exact ⟨h.eq, h.digits⟩
  · rintro ⟨rfl, hdigits⟩
    exact leads_leading hdigits

instance : Decidable (d.Leads cs) :=
  decidable_of_iff' _ leads_iff

theorem isDecimal_body (hc : c ∈ d.body) : isDecimal c = true := by
  have hdigit (h : c.isDigit = true) : isDecimal c = true := Bool.or_eq_true_iff.mpr (.inl h)
  have hfraction := d.isDigit_fraction
  unfold body at hc
  rcases List.mem_append.mp hc with hc | hc
  · exact hdigit (d.isDigit_whole c hc)
  · cases h : d.fraction with
    | none =>
      rw [h] at hc
      exact absurd hc List.not_mem_nil
    | some l =>
      rw [h] at hc hfraction
      rcases List.mem_cons.mp hc with rfl | hc
      · rfl
      · exact hdigit (hfraction c hc)

theorem digitsValue_append (d : Decimal) :
    digitsValue (digitsValue 0 d.whole) (d.fraction.getD []) = Nat.ofDigitChars 10 d.digits 0 := by
  unfold digits
  rw [Nat.ofDigitChars_append]
  rfl

theorem span_digits {l : List Char} (hdigits : ∀ c ∈ l, c.isDigit = true)
    (hrest : ∀ c ∈ rest.head?, c.isDigit = false) :
    (l ++ rest).takeWhile Char.isDigit = l ∧ (l ++ rest).dropWhile Char.isDigit = rest := by
  rw [List.takeWhile_append_of_pos hdigits, List.dropWhile_append_of_pos hdigits]
  cases rest with
  | nil => exact ⟨List.append_nil l, rfl⟩
  | cons c rest =>
    have hc := Bool.eq_false_iff.mp (hrest c rfl)
    rw [List.takeWhile_cons_of_neg hc, List.dropWhile_cons_of_neg hc, List.append_nil]
    exact ⟨rfl, rfl⟩

theorem unsigned?_eq (neg : Bool) (cs : List Char) : unsigned? neg cs =
    if cs.takeWhile Char.isDigit ++ (fractionOf (cs.dropWhile Char.isDigit)).getD [] = [] then none
    else (exponent? (dropFraction (cs.dropWhile Char.isDigit))).map fun k =>
      .ofScaledDecimal neg
        (digitsValue (digitsValue 0 (cs.takeWhile Char.isDigit)) ((fractionOf (cs.dropWhile Char.isDigit)).getD []))
        (k - ((fractionOf (cs.dropWhile Char.isDigit)).getD []).length) := by
  unfold unsigned? fractionOf dropFraction
  dsimp only
  generalize cs.dropWhile Char.isDigit = rest
  split <;> simp

theorem fractionOf_append (d : Decimal) (hrest : ∀ c ∈ rest.head?, c.isDigit = false)
    (hpoint : '.' ∈ rest.head? → d.fraction ≠ none) :
    fractionOf (pointText d.fraction ++ rest) = d.fraction ∧ dropFraction (pointText d.fraction ++ rest) = rest := by
  have hdigits := d.isDigit_fraction
  cases hfraction : d.fraction with
  | some l =>
    rw [hfraction] at hdigits
    obtain ⟨hfirst, hlast⟩ := span_digits hdigits hrest
    exact ⟨congrArg some hfirst, hlast⟩
  | none =>
    rw [pointText, List.nil_append]
    unfold fractionOf dropFraction
    split
    · exact absurd hfraction (hpoint rfl)
    · exact ⟨rfl, rfl⟩

/-- What is behind a decimal is read as its exponent. -/
theorem unsigned?_body (neg : Bool) (hrest : ∀ c ∈ rest.head?, c.isDigit = false)
    (hpoint : '.' ∈ rest.head? → d.fraction ≠ none) : unsigned? neg (d.body ++ rest) =
      if d.digits = [] then none
      else (exponent? rest).map fun k =>
        .ofScaledDecimal neg (Nat.ofDigitChars 10 d.digits 0) (k - d.places) := by
  have hassoc : d.body ++ rest = d.whole ++ (pointText d.fraction ++ rest) := List.append_assoc _ _ _
  have hafter : ∀ c ∈ (pointText d.fraction ++ rest).head?, c.isDigit = false := by
    cases d.fraction with
    | none => exact hrest
    | some l =>
      rintro c ⟨⟩
      decide
  obtain ⟨hwhole, hleft⟩ := span_digits d.isDigit_whole hafter
  obtain ⟨hfraction, hlast⟩ := fractionOf_append d hrest hpoint
  rw [hassoc, unsigned?_eq, hwhole, hleft, hfraction, hlast, digitsValue_append]
  rfl

/-- The double that a decimal is read as. -/
def toDouble (d : Decimal) : Double :=
  .ofScaledDecimal d.isNegative (Nat.ofDigitChars 10 d.digits 0) (0 - d.places)

theorem rounds_toDouble (d : Decimal) : d.toDouble.Rounds d.value := by
  have hpow : (tenTo d.places : ℚ) = 10 ^ d.places := Nat.cast_pow 10 d.places
  unfold value
  rw [← hpow]
  exact Double.rounds_ofScaledDecimal _ _ _

/-- The decimal that is read at the start of a text. With one more point directly behind it, nothing is read. -/
def read? (cs : List Char) : Option Decimal :=
  if (leading cs).digits = [] ∨ '.' ∈ (behind cs).head? then none else some (leading cs)

theorem point_prefix_iff (cs : List Char) : (leading cs).text ++ ['.'] <+: cs ↔ '.' ∈ (behind cs).head? := by
  nth_rewrite 2 [← text_append_behind cs]
  rw [List.prefix_append_right_inj]
  cases behind cs with
  | nil => simp
  | cons c rest => simp [List.cons_prefix_cons, eq_comm]

theorem read?_eq_some_iff : read? cs = some d ↔ d.Leads cs ∧ ¬d.text ++ ['.'] <+: cs := by
  unfold read?
  constructor
  · intro h
    split_ifs at h with hnone
    obtain ⟨hdigits, hpoint⟩ := not_or.mp hnone
    cases h
    exact ⟨leads_leading hdigits, (point_prefix_iff cs).not.mpr hpoint⟩
  · rintro ⟨hleads, hpoint⟩
    obtain ⟨rfl, hdigits⟩ := leads_iff.mp hleads
    exact if_neg (not_or.mpr ⟨hdigits, (point_prefix_iff cs).not.mp hpoint⟩)

/-- What is read of digits and points ends with the decimal, or nothing is read. -/
theorem unsigned?_takeWhile (cs : List Char) :
    unsigned? (takeSign cs).1 ((takeSign cs).2.takeWhile isDecimal) = (read? cs).map toDouble := by
  have hbody : (takeSign cs).2.takeWhile isDecimal = (leading cs).body ++ (behind cs).takeWhile isDecimal := by
    rw [takeSign_eq, List.takeWhile_append_of_pos fun c hc => isDecimal_body hc]
  rw [hbody, takeSign_fst]
  unfold read?
  by_cases hpoint : '.' ∈ (behind cs).head?
  · obtain ⟨rest, hrest⟩ := List.head?_eq_some_iff.mp hpoint
    rw [if_pos (.inr hpoint), hrest, List.takeWhile_cons_of_pos rfl,
      unsigned?_body _ (by rintro c ⟨⟩; decide) fun _ => fraction_ne_none_of_point hpoint]
    split_ifs <;> rfl
  · have hnone : (behind cs).takeWhile isDecimal = [] := by
      cases hbehind : behind cs with
      | nil => rfl
      | cons c rest =>
        have hdigit : c.isDigit = false := not_isDigit_behind (by rw [hbehind]; rfl)
        have hother : c ≠ '.' := by
          rintro rfl
          exact hpoint (by rw [hbehind]; rfl)
        exact List.takeWhile_cons_of_neg (by simp [isDecimal, hdigit, hother])
    rw [hnone, unsigned?_body _ (by simp) (by simp)]
    simp only [hpoint, or_false]
    split_ifs <;> rfl

end Decimal

end Number

open Number (Decimal Double isDecimal takeSign unsigned?)

namespace SortFlags

variable {f : SortFlags} {line : String} {lines sorted : List String} {v : ℚ}

/-- What is at the start of a line, apart from white space. -/
def start (line : String) : List Char :=
  Text.trimLeft line.toList

theorem takeSign_numberText (line : String) : takeSign (numberText line) =
    ((takeSign (start line)).1, (takeSign (start line)).2.takeWhile isDecimal) := by
  have hsplit (c : Char) (hminus : c ≠ '-') (hplus : c ≠ '+') (cs : List Char) :
      takeSign (c :: cs) = (false, c :: cs) := by
    rw [Number.takeSign_cons, if_neg hminus, if_neg hplus]
  have hpart (c : Char) : (c.isDigit || c == '.') = isDecimal c := rfl
  unfold numberText start
  simp only [hpart]
  cases Text.trimLeft line.toList with
  | nil => rfl
  | cons c cs =>
    by_cases hminus : c = '-'
    · rw [hminus]
      rfl
    by_cases hplus : c = '+'
    · rw [hplus]
      rfl
    rw [hsplit c hminus hplus]
    by_cases hdecimal : isDecimal c = true
    · simp [hdecimal, hsplit c hminus hplus]
    · simp [hdecimal, hminus, hplus, Number.takeSign]

theorem leadingNumber_eq (line : String) :
    leadingNumber line = ((Decimal.read? (start line)).map Decimal.toDouble).getD (.zero false) := by
  have hdecimal : ∀ c ∈ (takeSign (numberText line)).2, isDecimal c = true := fun c => isDecimal_of_mem_numberText
  unfold leadingNumber
  rw [Number.ofText?_of_decimal hdecimal, takeSign_numberText, Decimal.unsigned?_takeWhile]

/-- The number by which a line is sorted: the value of the longest decimal at its start, or zero if there is none or if
one more point is directly behind it. -/
inductive Counts (line : String) : ℚ → Prop
  | decimal (d : Decimal) (leads : d.Leads (start line)) (ends : ¬d.text ++ ['.'] <+: start line) : Counts line d.value
  | pointed (d : Decimal) (leads : d.Leads (start line)) (goesOn : d.text ++ ['.'] <+: start line) : Counts line 0
  | missing (none : ∀ d : Decimal, ¬d.Leads (start line)) : Counts line 0

theorem counts_iff : Counts line v ↔ v = ((Decimal.read? (start line)).map Decimal.value).getD 0 := by
  have hnone (h : ∀ d : Decimal, d.Leads (start line) → d.text ++ ['.'] <+: start line) :
      Decimal.read? (start line) = none := by
    rw [Option.eq_none_iff_forall_not_mem]
    intro d hd
    obtain ⟨hleads, hends⟩ := Decimal.read?_eq_some_iff.mp hd
    exact hends (h d hleads)
  constructor
  · intro h
    cases h with
    | decimal d leads ends => rw [Decimal.read?_eq_some_iff.mpr ⟨leads, ends⟩]; rfl
    | pointed d leads goesOn =>
      rw [hnone fun other hother => by rwa [hother.eq, ← leads.eq]]
      rfl
    | missing none =>
      rw [hnone fun d leads => absurd leads (none d)]
      rfl
  · rintro rfl
    cases hread : Decimal.read? (start line) with
    | some d =>
      obtain ⟨leads, ends⟩ := Decimal.read?_eq_some_iff.mp hread
      exact .decimal d leads ends
    | none =>
      by_cases hleads : ∃ d : Decimal, d.Leads (start line)
      · obtain ⟨d, leads⟩ := hleads
        refine .pointed d leads ?_
        by_contra ends
        rw [Decimal.read?_eq_some_iff.mpr ⟨leads, ends⟩] at hread
        cases hread
      · exact .missing (not_exists.mp hleads)

theorem existsUnique_counts (line : String) : ∃! v, Counts line v :=
  ⟨_, counts_iff.mpr rfl, fun _ h => counts_iff.mp h⟩

theorem rounds_leadingNumber (h : Counts line v) : (leadingNumber line).Rounds v := by
  rw [counts_iff.mp h, leadingNumber_eq]
  cases Decimal.read? (start line) with
  | none => exact Double.rounds_zero false
  | some d => exact d.rounds_toDouble

theorem sorts_sort (hforward : f.reverse = false) (lines : List String) : f.Sorts lines (f.sort lines) := by
  rw [f.sort_eq, hforward, if_neg Bool.false_ne_true]
  exact f.sorts_ascending lines

/-- A line with a smaller number is in front of one with a greater number. -/
theorem Sorts.byNumber (h : f.Sorts lines sorted) (hnumeric : f.numeric = true) :
    sorted.Pairwise fun a b => ∀ v w, Counts a v → Counts b w → ¬Double.Apart w v := by
  refine h.ascending.imp fun {a b} hle v w hv hw hapart => ?_
  have hlt : (leadingNumber b).value < (leadingNumber a).value :=
    (rounds_leadingNumber hw).lt (rounds_leadingNumber hv) hapart
  have hnumber : f.byNumber a b = .gt := by
    unfold SortFlags.byNumber
    rw [if_pos hnumeric]
    exact compare_gt_iff_gt.mpr hlt
  rw [f.order_eq, hnumber] at hle
  cases hle

end SortFlags

open SortFlags (Counts start)

/-- Sorting by number, not in reverse, orders lines by the decimals at their start: no line is behind one of which doubles
tell that its number is greater. -/
theorem sort_orders_by_number (s : RunState) (name flags : String) (hnumeric : 'n' ∈ flags.toList)
    (hreverse : 'r' ∉ flags.toList) (hknown : ∀ c ∈ flags.toList, c ∈ SortFlags.letters) :
    (∀ line, ∃! v, Counts line v) ∧
      ∃ s' lines, outcome (Call.sort name (some flags)).run s = (.ok (.count lines.length), s') ∧
        (s'.held name).lines = lines ∧ lines ⊆ (s.held name).lines ∧
        ('u' ∉ flags.toList → lines.Perm (s.held name).lines) ∧
        lines.Pairwise fun a b => ∀ v w, Counts a v → Counts b w → ¬Double.Apart w v := by
  have hread : SortFlags.read {} ((some flags).getD "").toList = .ok (SortFlags.ofText flags) := by
    apply SortFlags.read_ofText
    simpa using hknown
  obtain ⟨s', hsort, hupdates⟩ := Call.outcome_sort hread name s
  have hforward : (SortFlags.ofText flags).reverse = false := by simpa [SortFlags.ofText] using hreverse
  have hsorts := SortFlags.sorts_sort hforward (s.held name).lines
  refine ⟨SortFlags.existsUnique_counts, s', _, hsort, ?_, hsorts.subset, fun hunique => ?_, hsorts.byNumber ?_⟩
  · rw [hupdates.held]
    rfl
  · exact hsorts.perm (by simpa [SortFlags.ofText] using hunique)
  · simpa [SortFlags.ofText] using hnumeric

/-- `-2` is in front of what counts as zero, and that is in front of `10`. -/
theorem sort_orders_by_number_mixed :
    let s : RunState := ⟨{ script := { name := "s", lines := [] }, program := {} }, {}⟩
    let old := ["10 a", "1.5.2", " -2,5"]
    let s₁ := s.setBuffer "b" (.ofLines old)
    ∃ s' lines, outcome (Call.sort "b" (some "ni")).run s₁ = (.ok (.count lines.length), s') ∧
      (s'.held "b").lines = lines ∧ lines.Perm old ∧
      ¬["10 a", "1.5.2"].Sublist lines ∧ ¬["1.5.2", " -2,5"].Sublist lines := by
  intro s old s₁
  have hheld : s₁.held "b" = .ofLines old := (s.updates_setBuffer "b" _).held
  obtain ⟨-, s', lines, hsort, hlines, -, hperm, hordered⟩ := sort_orders_by_number s₁ "b" "ni"
    (by decide +kernel) (by decide +kernel) (by simp [SortFlags.letters])
  rw [hheld] at hperm
  have hten : Counts "10 a" (10 : Int) := SortFlags.counts_iff.mpr (by decide +kernel)
  have hzero : Counts "1.5.2" (0 : Int) := SortFlags.counts_iff.mpr (by decide +kernel)
  have hminus : Counts " -2,5" (-2 : Int) := SortFlags.counts_iff.mpr (by decide +kernel)
  have hbehind {a b : String} {v w : Int} (hv : Counts a v) (hw : Counts b w)
      (h : v.natAbs < Number.twoTo 53 ∧ w.natAbs < Number.twoTo 53 ∧ w < v) : ¬[a, b].Sublist lines := by
    intro hsub
    obtain ⟨hfirst, -⟩ := List.pairwise_cons.mp (hordered.sublist hsub)
    have hapart : Double.Apart w v :=
      (Double.isValue_intCast h.2.1).apart (Double.isValue_intCast h.1) (by exact_mod_cast h.2.2)
    exact hfirst b List.mem_cons_self _ _ hv hw hapart
  exact ⟨s', lines, hsort, hlines, hperm (by decide +kernel), hbehind hten hzero (by decide),
    hbehind hzero hminus (by decide)⟩

/-- A decimal with one more point directly behind it is not sorted by its value. -/
theorem sort_passes_over_value :
    let s : RunState := ⟨{ script := { name := "s", lines := [] }, program := {} }, {}⟩
    let old := ["1.5.2", "1"]
    let s₁ := s.setBuffer "b" (.ofLines old)
    (∃ d e : Decimal, d.Leads (start "1.5.2") ∧ e.Leads (start "1") ∧ Double.Apart e.value d.value) ∧
      ∃ s', outcome (Call.sort "b" (some "n")).run s₁ = (.ok (.count 2), s') ∧ (s'.held "b").lines = old := by
  intro s old s₁
  constructor
  · have hone : Double.IsValue 1 := ⟨false, 1, 0, by decide, by decide, by decide, by decide +kernel⟩
    have hhalves : Double.IsValue (3 / 2) := ⟨false, 3, -1, by decide, by decide, by decide, by decide +kernel⟩
    have hlow : (Decimal.leading (start "1")).value = 1 := by decide +kernel
    have hhigh : (Decimal.leading (start "1.5.2")).value = 3 / 2 := by decide +kernel
    refine ⟨.leading (start "1.5.2"), .leading (start "1"), by decide +kernel, by decide +kernel, ?_⟩
    rw [hlow, hhigh]
    exact hone.apart hhalves (by decide +kernel)
  · have hread : SortFlags.read {} ((some "n").getD "").toList = .ok { numeric := true } :=
      SortFlags.read_ofText (by decide +kernel)
    obtain ⟨s', hsort, hupdates⟩ := Call.outcome_sort hread "b" s₁
    have hheld : s₁.held "b" = .ofLines old := (s.updates_setBuffer "b" _).held
    have hkept : SortFlags.Sorts { numeric := true } old old := by decide +kernel
    have hsorted : SortFlags.sort { numeric := true } old = old := (SortFlags.sorts_sort rfl old).unique hkept
    have hlines : (LineBuffer.ofLines old).lines = old := rfl
    rw [hheld, hlines, hsorted] at hsort hupdates
    refine ⟨s', hsort, ?_⟩
    rw [hupdates.held]
    rfl

end LineScript
