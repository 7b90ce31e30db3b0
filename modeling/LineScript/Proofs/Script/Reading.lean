import LineScript.Proofs.Outcome
import LineScript.Proofs.Script.Tokens

/-! Reading that fails with mistakes only, which lie on the line that is read. What is left of the line is kept
track of on the way: every token that is taken leaves less. -/
namespace LineScript

/-- Whether an error is a mistake in a script. -/
def Error.IsMistake (e : Error) : Prop :=
  ∃ m, e.cause = .mistake m

theorem Error.isMistake_ofMistake (m : Mistake) : (Error.ofMistake m).IsMistake :=
  ⟨m, rfl⟩

theorem Error.IsMistake.located {e : Error} (h : e.IsMistake) (p : SourcePosition) :
    (e.located p).IsMistake :=
  h

/-- Whether a mistake shows at the end of a script only: something is not closed. -/
def Mistake.isUnclosed : Mistake → Bool
  | scriptNotClosed | blockNotClosed _ => true
  | _ => false

/-- Whether an error is that something is not closed. -/
def Error.isUnclosed (e : Error) : Bool :=
  match e.cause with
  | .mistake m => m.isUnclosed
  | _ => false

/-- Whether a place is on the line of a stream: at a character, or behind the last one. -/
structure SourcePosition.IsOn (p : SourcePosition) (s : TokenStream) : Prop where
  script : p.script = s.script
  line : p.line = s.line
  one_le : 1 ≤ p.column
  le_length : p.column ≤ s.text.length + 1

theorem TokenStream.isOn_positionAt (s : TokenStream) (column : Nat) : (s.positionAt column).IsOn s := by
  refine ⟨rfl, rfl, Nat.le_add_left 1 _, Nat.succ_le_succ ?_⟩
  have hlength := congrArg List.length (Text.take_append_drop s.text.toList column)
  rw [List.length_append, String.length_toList] at hlength
  omega

/-- Whether an error is one of the line of a stream, and its place, if it has one, is on the line. -/
structure Error.On (e : Error) (s : TokenStream) : Prop where
  closed : e.isUnclosed = false
  place : ∀ p ∈ e.position, p.IsOn s

theorem Error.on_of_none {e : Error} (hclosed : e.isUnclosed = false) (h : e.position = none) (s : TokenStream) :
    e.On s := by
  refine ⟨hclosed, fun p hp => ?_⟩
  rw [h] at hp
  cases hp

theorem Error.On.located {e : Error} {s : TokenStream} (h : e.On s) {p : SourcePosition} (hp : p.IsOn s) :
    (e.located p).On s := by
  obtain ⟨cause, position⟩ := e
  cases position with
  | none =>
    refine ⟨h.closed, fun p' hp' => ?_⟩
    cases hp'
    exact hp
  | some place => exact h

/-- A mistake at a place of a line is on the line. -/
theorem Error.on_positionAt {m : Mistake} (hm : m.isUnclosed = false) (s : TokenStream) (column : Nat) :
    ((Error.ofMistake m).located (s.positionAt column)).On s :=
  (on_of_none (e := .ofMistake m) hm rfl s).located (s.isOn_positionAt column)

/-- Whether two streams are on the same line of the same script. -/
structure TokenStream.SameLine (s s' : TokenStream) : Prop where
  script : s'.script = s.script
  line : s'.line = s.line
  text : s'.text = s.text

theorem TokenStream.SameLine.refl (s : TokenStream) : s.SameLine s :=
  ⟨rfl, rfl, rfl⟩

theorem TokenStream.SameLine.trans {s s' s'' : TokenStream} (h : s.SameLine s') (h' : s'.SameLine s'') :
    s.SameLine s'' :=
  ⟨h'.script.trans h.script, h'.line.trans h.line, h'.text.trans h.text⟩

theorem Error.On.of_sameLine {e : Error} {s s' : TokenStream} (h : s.SameLine s') (he : e.On s') :
    e.On s := by
  refine ⟨he.closed, fun p hp => ?_⟩
  obtain ⟨hscript, hline, hone, hlength⟩ := he.place p hp
  exact ⟨hscript.trans h.script, hline.trans h.line, hone, h.text ▸ hlength⟩

/-- Whether a stream reads a script and has at most so many bytes left. -/
structure TokenStream.Ready (n : Nat) (s : TokenStream) : Prop where
  lexicon : s.lexicon = Script.lexicon
  pending : ∀ t, s.pending = some t → s.scan true = .ok t
  left : Text.length s.text - s.offset ≤ n

namespace TokenStream

variable {n k : Nat} {s : TokenStream} {t : Token}

theorem Ready.mono (h : s.Ready k) (hk : k ≤ n) : s.Ready n :=
  ⟨h.lexicon, h.pending, Nat.le_trans h.left hk⟩

theorem ready_lineStream (script : String) (line : Nat) (text : String) :
    (Script.lineStream script line text).Ready (Text.length text) :=
  ⟨rfl, fun _ h => (by cases h), Nat.sub_le _ _⟩

/-- Taking a token other than the end of the line leaves less. -/
theorem Ready.taken (h : s.Ready n) (ht : s.scan true = .ok t) :
    Script.Wellformed t ∧ Ready n { s with token := t, offset := t.stop, pending := none } ∧
      (t.kind ≠ .endOfInput → ∃ k, n = k + 1 ∧
        Ready k { s with token := t, offset := t.stop, pending := none }) := by
  unfold TokenStream.scan at ht
  split at ht
  · rename_i t' hscan
    cases ht
    rw [h.lexicon] at hscan
    obtain ⟨hwell, hcolumn, htaken⟩ := Script.scan_eq_ok hscan
    have hleft := h.left
    have hstop : t.stop = t.column + Text.length t.text := rfl
    have hready : ∀ k, Text.length s.text - t.stop ≤ k →
        Ready k { s with token := t, offset := t.stop, pending := none } :=
      fun k hk => ⟨h.lexicon, fun _ h => (by cases h), hk⟩
    refine ⟨hwell, hready n (by omega), fun hkind => ?_⟩
    obtain ⟨htext, hrest⟩ := htaken.resolve_left hkind
    have hlength : 0 < Text.length t.text :=
      Nat.pos_of_ne_zero fun h => htext (String.utf8ByteSize_eq_zero_iff.mp h)
    have hoffset : s.offset < Text.length s.text := by
      by_contra hge
      rw [TokenStream.rest, Text.drop_of_size_le (by rw [← Text.length_eq_size]; omega)] at hrest
      exact Nat.lt_irrefl 0 hrest
    exact ⟨n - 1, by omega, hready _ (by omega)⟩
  · cases ht

end TokenStream

namespace Reading

open TokenStream

variable {α β : Type} {n k : Nat} {P : α → Prop} {Q : β → Prop}

/-- Whether work on the line of a stream fails with a mistake on it, or leaves at most so many bytes of it and
has a result of a kind. -/
inductive Sound (s₀ : TokenStream) (n : Nat) (P : α → Prop) : Except Error α × TokenStream → Prop
  | read {a : α} {s : TokenStream} : s.Ready n → s₀.SameLine s → P a → Sound s₀ n P (.ok a, s)
  | refused {e : Error} {s : TokenStream} : e.IsMistake → e.On s₀ → Sound s₀ n P (.error e, s)

/-- Whether work on streams of a kind fails with mistakes on their lines only and leaves at most so many bytes,
and what is true of its result. -/
def ReadsFrom (pre : TokenStream → Prop) (n : Nat) (m : Reading α) (P : α → Prop) : Prop :=
  ∀ s, pre s → Sound s n P (outcome m s)

/-- The same for all streams that have at most so many bytes left. -/
def Reads (n : Nat) (m : Reading α) (P : α → Prop) : Prop :=
  ReadsFrom (Ready n) n m P

/-- Whether a token comes next, which has been looked at. -/
structure Ahead (n : Nat) (t : Token) (s : TokenStream) : Prop where
  ready : s.Ready n
  pending : s.pending = some t

theorem Sound.imp {s₀ : TokenStream} {Q : α → Prop} {r : Except Error α × TokenStream}
    (h : Sound s₀ k P r) (hk : k ≤ n) (himp : ∀ a, P a → Q a) : Sound s₀ n Q r := by
  cases h with
  | read hready hline hpost => exact .read (hready.mono hk) hline (himp _ hpost)
  | refused he hon => exact .refused he hon

theorem Sound.of_sameLine {s₀ s₁ : TokenStream} {r : Except Error α × TokenStream}
    (hline : s₀.SameLine s₁) (h : Sound s₁ n P r) : Sound s₀ n P r := by
  cases h with
  | read hready hline' hpost => exact .read hready (hline.trans hline') hpost
  | refused he hon => exact .refused he (hon.of_sameLine hline)

theorem ReadsFrom.bind {pre : TokenStream → Prop} {m : Reading α} {f : α → Reading β}
    (hm : ReadsFrom pre n m P) (hf : ∀ a, P a → Reads n (f a) Q) : ReadsFrom pre n (m >>= f) Q := by
  intro s hs
  have hfirst := hm s hs
  rw [outcome_bind]
  generalize outcome m s = r at hfirst
  cases hfirst with
  | read hready hline hpost => exact (hf _ hpost _ hready).of_sameLine hline
  | refused he hon => exact .refused he hon

theorem ReadsFrom.weaken {pre pre' : TokenStream → Prop} {m : Reading α}
    (h : ReadsFrom pre n m P) (hpre : ∀ s, pre' s → pre s) : ReadsFrom pre' n m P :=
  fun s hs => h s (hpre s hs)

/-- Text that cannot be cut into tokens is a mistake. -/
theorem Sound.of_scan {s s' : TokenStream} {e : Error} {special : Bool} (h : s.scan special = .error e) :
    Sound s n P (.error e, s') := by
  unfold TokenStream.scan at h
  split at h
  · cases h
  · cases h
    exact .refused ((Error.isMistake_ofMistake _).located _) (Error.on_positionAt rfl s _)

namespace Reads

theorem pure {a : α} (h : P a) : Reads n (Pure.pure a) P :=
  fun s hs => .read hs (.refl s) h

theorem throw {e : Error} (h : e.IsMistake) (hplace : e.position = none)
    (hclosed : e.isUnclosed = false) : Reads n (MonadExcept.throw e : Reading α) P :=
  fun s _ => .refused h (Error.on_of_none hclosed hplace s)

theorem ahead {m : Reading α} {t : Token} (h : Reads n m P) : ReadsFrom (Ahead n t) n m P :=
  h.weaken fun _ hs => hs.ready

theorem of_eq {s : TokenStream} {m : Reading α} (h : Reads n m P) (hs : s.Ready n) :
    ReadsFrom (· = s) n m P := by
  rintro s' rfl
  exact h s' hs

/-- Less may be left than is allowed for. -/
theorem of_ready {s : TokenStream} {m : Reading α} (h : Reads k m P) (hs : s.Ready k)
    (hk : k ≤ n) : Sound s n P (outcome m s) :=
  (h s hs).imp hk fun _ ha => ha

theorem bind {m : Reading α} {f : α → Reading β} (hm : Reads n m P)
    (hf : ∀ a, P a → Reads n (f a) Q) : Reads n (m >>= f) Q :=
  ReadsFrom.bind hm hf

theorem map {m : Reading α} {f : α → β} (hm : Reads n m P) (hf : ∀ a, P a → Q (f a)) :
    Reads n (f <$> m) Q := by
  rw [map_eq_pure_bind]
  exact hm.bind fun a ha => .pure (hf a ha)

theorem ite {c : Prop} [Decidable c] {m m' : Reading α} (hm : c → Reads n m P)
    (hm' : ¬ c → Reads n m' P) : Reads n (if c then m else m') P := by
  split
  · exact hm ‹_›
  · exact hm' ‹_›

/-- Looking at the stream. -/
theorem get {f : TokenStream → Reading β} (hf : ∀ s, Reads n (f s) Q) :
    Reads n (MonadState.get >>= f) Q :=
  fun s hs => hf s s hs

/-- Looking at the stream, where it matters that the same stream is read on. -/
theorem look {f : TokenStream → Reading β} (hf : ∀ s, s.Ready n → ReadsFrom (· = s) n (f s) Q) :
    Reads n (MonadState.get >>= f) Q :=
  fun s hs => hf s hs s rfl

theorem refuse (m : Mistake) (hm : m.isUnclosed = false) : Reads n (Reading.refuse m : Reading α) P :=
  fun s _ => .refused ((Error.isMistake_ofMistake m).located _) (Error.on_positionAt hm s _)

theorem refuseAt (t : Token) (m : Mistake) (hm : m.isUnclosed = false) :
    Reads n (Reading.refuseAt t m : Reading α) P :=
  fun s _ => .refused ((Error.isMistake_ofMistake m).located _) (Error.on_positionAt hm s _)

end Reads

theorem Reads.refuse_bind (m : Mistake) {f : α → Reading β} (hm : m.isUnclosed = false) :
    Reads n (Reading.refuse m >>= f) Q :=
  (Reads.refuse (P := fun _ => False) m hm).bind fun _ h => h.elim

theorem Reads.refuseAt_bind (t : Token) (m : Mistake) {f : α → Reading β} (hm : m.isUnclosed = false) :
    Reads n (Reading.refuseAt t m >>= f) Q :=
  (Reads.refuseAt (P := fun _ => False) t m hm).bind fun _ h => h.elim

/-- The token that comes next, if the stream is sound. -/
theorem outcome_next (s : TokenStream) (hpending : ∀ t, s.pending = some t → s.scan true = .ok t) :
    outcome next s =
      match s.scan true with
      | .ok t => (.ok t, { s with token := t, offset := t.stop, pending := none })
      | .error e => (.error e, s) := by
  obtain ⟨lexicon, script, line, text, offset, token, pending⟩ := s
  unfold next take
  cases pending with
  | some t =>
    rw [hpending t rfl]
    rfl
  | none =>
    rw [outcome_bind, outcome_get]
    simp only [outcome_bind]
    cases TokenStream.scan _ true <;> rfl

theorem outcome_peek (s : TokenStream) (hpending : ∀ t, s.pending = some t → s.scan true = .ok t) :
    outcome peek s =
      match s.scan true with
      | .ok t => (.ok t, { s with pending := some t })
      | .error e => (.error e, s) := by
  obtain ⟨lexicon, script, line, text, offset, token, pending⟩ := s
  unfold peek
  cases pending with
  | some t =>
    rw [hpending t rfl]
    rfl
  | none =>
    rw [outcome_bind, outcome_get]
    simp only [outcome_bind]
    cases TokenStream.scan _ true <;> rfl

namespace Reads

/-- Taking a token. Unless it is the end of the line, less is left. -/
theorem next_bind {f : Token → Reading β}
    (hend : ∀ t, Script.Wellformed t → t.kind = .endOfInput → Reads n (f t) Q)
    (htoken : ∀ t k, Script.Wellformed t → n = k + 1 → Reads k (f t) Q) :
    Reads n (next >>= f) Q := by
  intro s hs
  rw [outcome_bind, outcome_next s hs.pending]
  cases hscan : s.scan true with
  | error e => exact .of_scan hscan
  | ok t =>
    obtain ⟨hwell, hready, hless⟩ := hs.taken hscan
    have hline : s.SameLine { s with token := t, offset := t.stop, pending := none } := ⟨rfl, rfl, rfl⟩
    refine .of_sameLine hline ?_
    by_cases hkind : t.kind = .endOfInput
    · exact hend t hwell hkind _ hready
    · obtain ⟨k, hk, hready⟩ := hless hkind
      exact (htoken t k hwell hk).of_ready hready (by omega)

theorem next : Reads n next Script.Wellformed := by
  intro s hs
  rw [outcome_next s hs.pending]
  cases hscan : s.scan true with
  | error e => exact .of_scan hscan
  | ok t =>
    obtain ⟨hwell, hready, -⟩ := hs.taken hscan
    exact .read hready ⟨rfl, rfl, rfl⟩ hwell

/-- Looking at a token: it comes next. -/
theorem peek_bind {f : Token → Reading β}
    (hf : ∀ t, Script.Wellformed t → ReadsFrom (Ahead n t) n (f t) Q) :
    Reads n (peek >>= f) Q := by
  intro s hs
  rw [outcome_bind, outcome_peek s hs.pending]
  cases hscan : s.scan true with
  | error e => exact .of_scan hscan
  | ok t =>
    obtain ⟨hwell, -, -⟩ := hs.taken hscan
    have hready : Ready n { s with pending := some t } := by
      refine ⟨hs.lexicon, fun t' ht' => ?_, hs.left⟩
      cases ht'
      exact hscan
    have hline : s.SameLine { s with pending := some t } := ⟨rfl, rfl, rfl⟩
    exact .of_sameLine hline (hf t hwell _ ⟨hready, rfl⟩)

theorem peek : Reads n peek Script.Wellformed := by
  have h : Reading.peek = Reading.peek >>= Pure.pure := (bind_pure _).symm
  rw [h]
  exact .peek_bind fun t ht => (Reads.pure ht).ahead

end Reads

namespace ReadsFrom

variable {t : Token}

/-- Looking at the stream. -/
theorem get {pre : TokenStream → Prop} {f : TokenStream → Reading β}
    (hf : ∀ s, ReadsFrom pre n (f s) Q) : ReadsFrom pre n (MonadState.get >>= f) Q :=
  fun s hs => hf s s hs

/-- Taking the token that has been looked at leaves less, unless it is the end of the line. -/
theorem next_bind {f : Token → Reading β} (hkind : t.kind ≠ .endOfInput)
    (hf : ∀ k, n = k + 1 → Reads k (f t) Q) :
    ReadsFrom (Ahead n t) n (Reading.next >>= f) Q := by
  intro s hs
  have hscan := hs.ready.pending t hs.pending
  rw [outcome_bind, outcome_next s hs.ready.pending, hscan]
  obtain ⟨-, -, hless⟩ := hs.ready.taken hscan
  obtain ⟨k, hk, hready⟩ := hless hkind
  have hline : s.SameLine { s with token := t, offset := t.stop, pending := none } := ⟨rfl, rfl, rfl⟩
  exact .of_sameLine hline ((hf k hk).of_ready hready (by omega))

theorem discard_next_bind {f : Unit → Reading β} (hkind : t.kind ≠ .endOfInput)
    (hf : ∀ k, n = k + 1 → Reads k (f ()) Q) :
    ReadsFrom (Ahead n t) n (discard Reading.next >>= f) Q := by
  have hmap : discard Reading.next = (fun _ => ()) <$> Reading.next := rfl
  rw [hmap, bind_map_left]
  exact next_bind hkind hf

end ReadsFrom

namespace Reads

/-- A token that is accepted leaves less. -/
theorem accept_bind {f : Token → Bool} {g : Bool → Reading β}
    (hfits : ∀ t, f t = true → t.kind ≠ .endOfInput)
    (htrue : ∀ k, n = k + 1 → Reads k (g true) Q) (hfalse : Reads n (g false) Q) :
    Reads n ((do
      let t ← Reading.peek
      let b := f t
      if b then discard Reading.next
      return b) >>= g) Q := by
  rw [bind_assoc]
  refine .peek_bind fun t _ => ?_
  by_cases ht : f t = true
  · simp only [ht, if_true, bind_assoc, pure_bind]
    exact .discard_next_bind (hfits t ht) htrue
  · simp only [ht, Bool.false_eq_true, if_false, pure_bind]
    simpa [ht] using hfalse.ahead

end Reads

theorem kind_ne_of_isWord {t : Token} (h : t.isWord = true) : t.kind ≠ .endOfInput := by
  intro hkind
  rw [Token.isWord, hkind] at h
  cases h

theorem kind_ne_of_isOperator {t : Token} {op : String} (h : t.isOperator op = true) :
    t.kind ≠ .endOfInput := by
  intro hkind
  rw [Token.isOperator, hkind] at h
  cases h

namespace Reads

theorem acceptWord_bind {word : String} {f : Bool → Reading β}
    (htrue : ∀ k, n = k + 1 → Reads k (f true) Q) (hfalse : Reads n (f false) Q) :
    Reads n (acceptWord word >>= f) Q :=
  accept_bind (f := fun t => t.isWord && t.text == word)
    (fun _ h => kind_ne_of_isWord (Bool.and_eq_true_iff.mp h).1) htrue hfalse

theorem acceptOperator_bind {op : String} {f : Bool → Reading β}
    (htrue : ∀ k, n = k + 1 → Reads k (f true) Q) (hfalse : Reads n (f false) Q) :
    Reads n (acceptOperator op >>= f) Q :=
  accept_bind (f := fun t => t.isOperator op) (fun _ h => kind_ne_of_isOperator h) htrue hfalse

theorem acceptWord (word : String) : Reads n (Reading.acceptWord word) fun _ => True := by
  rw [← bind_pure (Reading.acceptWord word)]
  exact acceptWord_bind (fun _ _ => .pure trivial) (.pure trivial)

theorem acceptOperator (op : String) : Reads n (Reading.acceptOperator op) fun _ => True := by
  rw [← bind_pure (Reading.acceptOperator op)]
  exact acceptOperator_bind (fun _ _ => .pure trivial) (.pure trivial)

theorem expectOperator (op : String) : Reads n (Reading.expectOperator op) fun _ => True :=
  next.bind fun _ _ => .ite (fun _ => .refuse _ rfl) fun _ => .pure trivial

/-- An operator that has to come next leaves less. -/
theorem expectOperator_bind {op : String} {f : Unit → Reading β}
    (hf : ∀ k, n = k + 1 → Reads k (f ()) Q) : Reads n (Reading.expectOperator op >>= f) Q := by
  unfold Reading.expectOperator
  rw [bind_assoc]
  refine next_bind (fun t _ hkind => ?_) fun t k _ hk => ?_
  · have hop : t.isOperator op = false := by
      by_contra h
      exact kind_ne_of_isOperator (by simpa using h) hkind
    simp only [hop]
    exact refuse_bind _ rfl
  · refine Reads.bind (P := fun _ => True) ?_ fun _ _ => hf k hk
    exact .ite (fun _ => .refuse _ rfl) fun _ => .pure trivial

theorem expectEnd : Reads n Reading.expectEnd fun _ => True :=
  next.bind fun _ _ => .ite (fun _ => .refuse _ rfl) fun _ => .pure trivial

theorem expectIdentifier (what : String) :
    Reads n (Reading.expectIdentifier what) fun _ => True :=
  next.bind fun _ _ => .ite (fun _ => .pure trivial) fun _ => .refuse _ rfl

theorem atEnd : Reads n Reading.atEnd fun _ => True :=
  peek.bind fun _ _ => .pure trivial

theorem restOfLine : Reads n Reading.restOfLine fun _ => True := by
  intro s hs
  refine .read ⟨hs.lexicon, fun _ h => (by cases h), ?_⟩ ⟨rfl, rfl, rfl⟩ trivial
  change Text.length s.text - Text.length s.text ≤ n
  omega

end Reads

end Reading

end LineScript
