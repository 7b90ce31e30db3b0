import LineScript.Proofs.Script.Lossless

/-! Streams from which tokens have been taken one after another. What is looked at on the way takes nothing. -/
namespace LineScript.TokenStream

/-- Whether a stream reads a script, stands between two characters and looks ahead to nothing but its next token. -/
structure Regular (s : TokenStream) : Prop where
  lexicon : s.lexicon = Script.lexicon
  boundary : Text.IsBoundary s.text.toList s.offset
  pending : ∀ t, s.pending = some t → s.scan true = .ok t

/-- Whether taking some tokens leads from a stream to another. -/
inductive Takes : TokenStream → List Token → TokenStream → Prop
  | nothing {s : TokenStream} {pending : Option Token} : (∀ t, pending = some t → s.scan true = .ok t) →
      Takes s [] { s with pending }
  | token {s s' : TokenStream} {t : Token} {ts : List Token} : s.scan true = .ok t → t.kind ≠ .endOfInput →
      Takes (s.past t) ts s' → Takes s (t :: ts) s'

variable {s s' s'' : TokenStream} {t : Token} {ts us : List Token}

theorem regular_lineStream (script : String) (line : Nat) (text : String) :
    (Script.lineStream script line text).Regular :=
  ⟨rfl, Text.isBoundary_zero _, fun _ h => by cases h⟩

theorem Regular.past (h : s.Regular) (hscan : s.scan true = .ok t) (hkind : t.kind ≠ .endOfInput) :
    (s.past t).Regular := by
  obtain ⟨gap, behind, -, hrest, hcolumn, -⟩ := of_scan_token h.lexicon hscan hkind
  exact ⟨h.lexicon, (past_token h.boundary hrest hcolumn).1, fun _ ht => by cases ht⟩

/-- Where a token stands in a text that it is taken from. -/
structure Places (s : TokenStream) (t : Token) : Prop where
  behind : s.offset ≤ t.column
  boundary : Text.IsBoundary s.text.toList t.column
  le_stop : t.column ≤ t.stop
  slice : Text.slice s.text.toList t.column t.stop = t.text.toList

theorem Regular.places (h : s.Regular) (hscan : s.scan true = .ok t) (hkind : t.kind ≠ .endOfInput) : s.Places t := by
  obtain ⟨gap, behind, -, hrest, hcolumn, -⟩ := of_scan_token h.lexicon hscan hkind
  have htext : s.text.toList = Text.take s.text.toList s.offset ++ gap ++ t.text.toList ++ behind := by
    rw [List.append_assoc, List.append_assoc, ← List.append_assoc gap, ← hrest]
    exact (Text.take_append_drop _ _).symm
  have hstart : t.column = Text.size (Text.take s.text.toList s.offset ++ gap) := by
    rw [hcolumn, Text.size_append, h.boundary.size_take]
  have hstop : t.stop = Text.size (Text.take s.text.toList s.offset ++ gap ++ t.text.toList) := by
    rw [Token.stop, hstart, Text.length_eq_size, ← Text.size_append]
  generalize Text.take s.text.toList s.offset ++ gap = front at *
  refine ⟨by omega, ?_, Nat.le_add_right _ _, ?_⟩
  · rw [htext, hstart, List.append_assoc]
    exact Text.isBoundary_size _ _
  · rw [htext, hstart, hstop]
    exact Text.slice_size _ _ _

namespace Takes

theorem one (hscan : s.scan true = .ok t) (hkind : t.kind ≠ .endOfInput) : Takes s [t] (s.past t) := by
  have hpending : ∀ t', (s.past t).pending = some t' → (s.past t).scan true = .ok t' := fun _ ht => by cases ht
  exact .token hscan hkind (.nothing hpending)

/-- What has been looked at changes nothing about what can be taken. -/
theorem looked (h : Takes s ts s') (pending : Option Token) : Takes { s with pending } ts s' := by
  cases h with
  | nothing hpending => exact .nothing hpending
  | token hscan hkind htail => exact .token hscan hkind htail

theorem append (h : Takes s ts s') (h' : Takes s' us s'') : Takes s (ts ++ us) s'' := by
  induction h with
  | nothing => exact h'.looked _
  | token hscan hkind _ ih => exact .token hscan hkind (ih h')

theorem regular (h : Takes s ts s') (hs : s.Regular) : s'.Regular := by
  induction h with
  | nothing hpending => exact ⟨hs.lexicon, hs.boundary, hpending⟩
  | token hscan hkind _ ih => exact ih (hs.past hscan hkind)

theorem text (h : Takes s ts s') : s'.text = s.text := by
  induction h with
  | nothing => rfl
  | token _ _ _ ih => exact ih

/-- A stream stands behind the last token taken. -/
theorem offset (h : Takes s ts s') : s'.offset = ts.getLast?.elim s.offset Token.stop := by
  induction h with
  | nothing => rfl
  | @token s s' t ts _ _ _ ih =>
    rw [ih, List.getLast?_cons]
    cases ts.getLast? <;> rfl

theorem split (h : Takes s (ts ++ us) s'') : ∃ s', Takes s ts s' ∧ Takes s' us s'' := by
  induction ts generalizing s with
  | nil => exact ⟨{ s with pending := none }, .nothing fun _ h => (by cases h), h.looked none⟩
  | cons t ts ih =>
    cases h with
    | token hscan hkind htail =>
      obtain ⟨s', hts, hus⟩ := ih htail
      exact ⟨s', .token hscan hkind hts, hus⟩

theorem le (h : Takes s ts s') (hs : s.Regular) : s.offset ≤ s'.offset := by
  induction h with
  | nothing => exact Nat.le_refl _
  | token hscan hkind _ ih =>
    exact Nat.le_trans (hs.places hscan hkind).behind <|
      Nat.le_trans (hs.places hscan hkind).le_stop (ih (hs.past hscan hkind))

theorem first (h : Takes s (t :: ts) s') (hs : s.Regular) : s.Places t ∧ t.stop ≤ s'.offset := by
  cases h with
  | token hscan hkind htail => exact ⟨hs.places hscan hkind, htail.le (hs.past hscan hkind)⟩

/-- The tokens taken spell the text up to what is left of it. -/
theorem spells (h : Takes s ts s') (hs : s.Regular) : Token.Spells s.offset s.rest ts s'.rest := by
  induction h with
  | nothing => exact .done
  | @token s s' t ts hscan hkind _ ih =>
    obtain ⟨gap, behind, hblank, hrest, hcolumn, -⟩ := of_scan_token hs.lexicon hscan hkind
    have htail := ih (hs.past hscan hkind)
    rw [(past_token hs.boundary hrest hcolumn).2] at htail
    rw [hrest]
    exact .token hblank hcolumn htail

end Takes

open Reading

/-- Taking the token that has been looked at. -/
theorem outcome_discard_next (hscan : s.scan true = .ok t) :
    outcome (discard next) { s with pending := some t } = (.ok (), s.past t) := by
  have hmap : discard next = (fun _ => ()) <$> next := rfl
  have hpending : ∀ u, some t = some u → s.scan true = .ok u := by
    rintro u ⟨⟩
    exact hscan
  have hsame : { s with pending := some t : TokenStream }.scan true = .ok t := hscan
  rw [hmap, outcome_map, outcome_next _ hpending, hsame]
  rfl

namespace Regular

variable {b : Bool} {op : String}

/-- What has been looked at is still the next token. -/
theorem of_peek (h : s.Regular) (hpeek : outcome peek s = (.ok t, s')) : s'.scan true = .ok t ∧ Takes s [] s' := by
  rw [outcome_peek s h.pending] at hpeek
  split at hpeek
  · rename_i hscan
    cases hpeek
    refine ⟨hscan, .nothing fun u hu => ?_⟩
    cases hu
    exact hscan
  · cases hpeek

theorem of_next (h : s.Regular) (hnext : outcome next s = (.ok t, s')) : s.scan true = .ok t ∧ s' = s.past t := by
  rw [outcome_next s h.pending] at hnext
  split at hnext
  · rename_i hscan
    cases hnext
    exact ⟨hscan, rfl⟩
  · cases hnext

theorem of_discard_next (h : s.Regular) {u : Unit} (hnext : outcome (discard next) s = (.ok u, s')) :
    ∃ t, s.scan true = .ok t ∧ s' = s.past t := by
  have hmap : discard next = (fun _ => ()) <$> next := rfl
  rw [hmap, outcome_map] at hnext
  obtain ⟨hresult, rfl⟩ := Prod.mk.inj hnext
  cases hfound : outcome next s with
  | mk r s₁ =>
    rw [hfound] at hresult
    cases r with
    | error e => cases hresult
    | ok t =>
      obtain ⟨hscan, rfl⟩ := h.of_next hfound
      exact ⟨t, hscan, rfl⟩

theorem of_acceptOperator (h : s.Regular) (haccept : outcome (acceptOperator op) s = (.ok b, s')) :
    (b = true ∧ ∃ t, t.isOperator op = true ∧ Takes s [t] s') ∨ (b = false ∧ Takes s [] s') := by
  unfold acceptOperator at haccept
  obtain ⟨t, s₁, hpeek, hrest⟩ := outcome_bind_eq_ok.mp haccept
  obtain ⟨hscan, htakes⟩ := h.of_peek hpeek
  cases hfits : t.isOperator op with
  | false =>
    rw [hfits] at hrest
    cases hrest
    exact .inr ⟨rfl, htakes⟩
  | true =>
    rw [hfits] at hrest
    obtain ⟨u, s₂, hnext, hdone⟩ := outcome_bind_eq_ok.mp hrest
    cases hdone
    obtain ⟨t', hscan', rfl⟩ := (htakes.regular h).of_discard_next hnext
    rw [hscan] at hscan'
    cases hscan'
    exact .inl ⟨rfl, t, hfits, htakes.append (.one hscan (kind_ne_of_isOperator hfits))⟩

theorem of_expectOperator (h : s.Regular) {u : Unit} (hexpect : outcome (expectOperator op) s = (.ok u, s')) :
    ∃ t, t.isOperator op = true ∧ Takes s [t] s' := by
  unfold expectOperator at hexpect
  obtain ⟨t, s₁, hnext, hrest⟩ := outcome_bind_eq_ok.mp hexpect
  obtain ⟨hscan, rfl⟩ := h.of_next hnext
  cases hfits : t.isOperator op with
  | false =>
    rw [hfits] at hrest
    cases hrest
  | true =>
    rw [hfits] at hrest
    cases hrest
    exact ⟨t, hfits, .one hscan (kind_ne_of_isOperator hfits)⟩

section Outcomes

variable (h : s.Regular) (hscan : s.scan true = .ok t)
include h hscan

theorem outcome_next : outcome next s = (.ok t, s.past t) := by
  rw [Reading.outcome_next s h.pending, hscan]
  rfl

theorem outcome_peek : outcome peek s = (.ok t, { s with pending := some t }) := by
  rw [Reading.outcome_peek s h.pending, hscan]

theorem outcome_acceptOperator (op : String) : outcome (acceptOperator op) s =
    if t.isOperator op then (.ok true, s.past t) else (.ok false, { s with pending := some t }) := by
  unfold acceptOperator
  rw [outcome_bind, outcome_peek h hscan]
  cases hfits : t.isOperator op with
  | false => simp [hfits]
  | true =>
    simp only [hfits, if_true]
    rw [outcome_bind, outcome_discard_next hscan]
    rfl

theorem outcome_acceptWord (word : String) : outcome (acceptWord word) s =
    if t.isWord && t.text == word then (.ok true, s.past t) else (.ok false, { s with pending := some t }) := by
  unfold acceptWord
  rw [outcome_bind, outcome_peek h hscan]
  cases hfits : t.isWord && t.text == word with
  | false => simp [hfits]
  | true =>
    simp only [hfits, if_true]
    rw [outcome_bind, outcome_discard_next hscan]
    rfl

theorem outcome_expectEnd (hend : t.isEnd = true) : outcome expectEnd s = (.ok (), s.past t) := by
  unfold expectEnd
  rw [outcome_bind, outcome_next h hscan]
  simp [hend]

end Outcomes

end Regular

end LineScript.TokenStream
