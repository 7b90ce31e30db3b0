import LineScript.Proofs.Script.Cuts
import LineScript.Proofs.Script.Reading

/-! The tokens of a line. They spell the line, with white space between them, and looking at the next one in
advance changes neither the tokens nor the rest of the line. -/
namespace LineScript

/-- Whether a text from a byte offset on is made of tokens with white space in front of each, up to some rest. -/
inductive Token.Spells : Nat → List Char → List Token → List Char → Prop
  | done {n : Nat} {rest : List Char} : Token.Spells n rest [] rest
  | token {n : Nat} {gap cs rest : List Char} {t : Token} {ts : List Token} : Text.Blank gap →
      t.column = n + Text.size gap → Token.Spells t.stop cs ts rest →
      Token.Spells n (gap ++ t.text.toList ++ cs) (t :: ts) rest

namespace Token.Spells

variable {n : Nat} {cs rest : List Char} {t : Token} {ts : List Token}

/-- The text of a token is what stands in its place. -/
theorem slice (h : Token.Spells n cs ts rest) (front : List Char) (hn : Text.size front = n) (ht : t ∈ ts) :
    Text.slice (front ++ cs) t.column t.stop = t.text.toList := by
  induction h generalizing front with
  | done => cases ht
  | @token n gap cs rest t' ts hgap hcolumn _ ih =>
    have hstart : t'.column = Text.size (front ++ gap) := by
      rw [hcolumn, Text.size_append, hn]
    have hstop : t'.stop = Text.size (front ++ gap ++ t'.text.toList) := by
      rw [Token.stop, hstart, Text.length_eq_size, ← Text.size_append]
    have hfront : front ++ (gap ++ t'.text.toList ++ cs) = front ++ gap ++ t'.text.toList ++ cs := by
      simp
    rw [hfront]
    rcases List.mem_cons.mp ht with rfl | ht
    · rw [hstart, hstop]
      exact Text.slice_size _ _ _
    · exact ih _ hstop.symm ht

theorem le_column (h : Token.Spells n cs ts rest) (ht : t ∈ ts) : n ≤ t.column := by
  induction h with
  | done => cases ht
  | token _ hcolumn _ ih =>
    rcases List.mem_cons.mp ht with rfl | ht
    · omega
    · have := ih ht
      unfold Token.stop at this
      omega

/-- Tokens that are not empty stand one behind the other. -/
theorem ascending (h : Token.Spells n cs ts rest) (hne : ∀ t ∈ ts, t.text ≠ "") :
    (ts.map Token.column).Pairwise (· < ·) := by
  induction h with
  | done => exact .nil
  | @token n gap cs rest t ts _ _ htail ih =>
    have hlength : 0 < Text.length t.text :=
      Nat.pos_of_ne_zero fun h => hne t List.mem_cons_self (String.utf8ByteSize_eq_zero_iff.mp h)
    have hbehind : ∀ c ∈ ts.map Token.column, t.column < c := by
      intro c hc
      obtain ⟨u, hu, rfl⟩ := List.mem_map.mp hc
      have := htail.le_column hu
      unfold Token.stop at this
      omega
    exact .cons hbehind (ih fun u hu => hne u (List.mem_cons_of_mem _ hu))

theorem length_le (h : Token.Spells n cs ts rest) (hne : ∀ t ∈ ts, t.text ≠ "") :
    ts.length ≤ Text.size cs := by
  induction h with
  | done => exact Nat.zero_le _
  | @token n gap cs rest t ts _ _ _ ih =>
    have hlength : 0 < Text.length t.text :=
      Nat.pos_of_ne_zero fun h => hne t List.mem_cons_self (String.utf8ByteSize_eq_zero_iff.mp h)
    have htail := ih fun u hu => hne u (List.mem_cons_of_mem _ hu)
    rw [Text.length_eq_size] at hlength
    rw [Text.size_append, Text.size_append, List.length_cons]
    omega

end Token.Spells

namespace TokenStream

/-- The stream behind a token that has been taken. -/
def past (s : TokenStream) (t : Token) : TokenStream :=
  { s with token := t, offset := t.stop, pending := none }

/-- The tokens of a stream from its offset on, and what comes instead of a further one. -/
inductive Yields : TokenStream → List Token → Except Error Token → Prop
  | ended {s : TokenStream} {t : Token} : s.scan true = .ok t → t.kind = .endOfInput → Yields s [] (.ok t)
  | refused {s : TokenStream} {e : Error} : s.scan true = .error e → Yields s [] (.error e)
  | token {s : TokenStream} {t : Token} {ts : List Token} {ending : Except Error Token} :
      s.scan true = .ok t → t.kind ≠ .endOfInput → Yields (s.past t) ts ending →
      Yields s (t :: ts) ending

theorem Ready.yields {n : Nat} {s : TokenStream} (h : s.Ready n) : ∃ ts ending, Yields s ts ending := by
  induction n using Nat.strongRecOn generalizing s with
  | ind n ih =>
    cases hscan : s.scan true with
    | error e => exact ⟨[], _, .refused hscan⟩
    | ok t =>
      by_cases hkind : t.kind = .endOfInput
      · exact ⟨[], _, .ended hscan hkind⟩
      · obtain ⟨-, -, hless⟩ := h.taken hscan
        obtain ⟨k, hk, hready⟩ := hless hkind
        obtain ⟨ts, ending, hyields⟩ := ih k (by omega) hready
        exact ⟨t :: ts, ending, .token hscan hkind hyields⟩

/-- What is looked at changes nothing about the tokens. -/
theorem Yields.looked {s : TokenStream} {ts : List Token} {ending : Except Error Token}
    (h : Yields s ts ending) (pending : Option Token) : Yields { s with pending } ts ending := by
  cases h with
  | ended hscan hkind => exact .ended hscan hkind
  | refused hscan => exact .refused hscan
  | token hscan hkind htail => exact .token hscan hkind htail

section
variable {s : TokenStream} {t : Token} {gap behind : List Char}

/-- Behind a token stands what is left of the text. -/
theorem past_token (hb : Text.IsBoundary s.text.toList s.offset)
    (hrest : s.rest = gap ++ t.text.toList ++ behind) (hcolumn : t.column = s.offset + Text.size gap) :
    Text.IsBoundary (s.past t).text.toList (s.past t).offset ∧ (s.past t).rest = behind := by
  have htext : s.text.toList = Text.take s.text.toList s.offset ++ gap ++ t.text.toList ++ behind := by
    rw [List.append_assoc, List.append_assoc, ← List.append_assoc gap, ← hrest]
    exact (Text.take_append_drop _ _).symm
  have hoffset : (s.past t).offset =
      Text.size (Text.take s.text.toList s.offset ++ gap ++ t.text.toList) := by
    change t.column + Text.length t.text = _
    rw [Text.size_append, Text.size_append, hb.size_take, hcolumn, Text.length_eq_size]
  generalize Text.take s.text.toList s.offset ++ gap ++ t.text.toList = front at htext hoffset
  have hpast : (s.past t).text.toList = front ++ behind := htext
  constructor
  · rw [hpast, hoffset]
    exact Text.isBoundary_size front behind
  · unfold TokenStream.rest
    rw [hpast, hoffset, Text.drop_size]

/-- What a stream finds where it stands: the end of its text behind white space, a token behind white space, or a
quoted string behind white space that cannot be read. -/
inductive Finds (s : TokenStream) : Except Error Token → Prop
  | ended : Text.Blank s.rest → Finds s (.ok (.endAt (s.offset + Text.size s.rest)))
  | token {t : Token} {gap behind : List Char} : t.kind ≠ .endOfInput → t.text ≠ "" → Text.Blank gap →
      s.rest = gap ++ t.text.toList ++ behind → t.column = s.offset + Text.size gap → Finds s (.ok t)
  | refused {gap behind : List Char} {quote : Char} {cause : EscapeError} : Text.Blank gap →
      s.rest = gap ++ quote :: behind → (quote = '"' ∨ quote = '\'') →
      Token.quoted quote (behind.length + 1) behind = .error cause →
      Finds s (.error ((Error.ofMistake (.escape cause)).located
        (s.positionAt (s.offset + Text.size gap))))

/-- White space in front does not count for the rest of a line. -/
theorem trimmed_after_gap (hb : Text.IsBoundary s.text.toList s.offset) (hgap : Text.Blank gap)
    (hrest : s.rest = gap ++ behind) :
    Text.trimmed (Text.after s.text (s.offset + Text.size gap)) =
      Text.trimmed (Text.after s.text s.offset) := by
  have htext : s.text.toList = Text.take s.text.toList s.offset ++ gap ++ behind := by
    rw [List.append_assoc, ← hrest]
    exact (Text.take_append_drop _ _).symm
  have hdrop : Text.drop s.text.toList (s.offset + Text.size gap) = behind := by
    have hsize := Text.drop_size (Text.take s.text.toList s.offset ++ gap) behind
    rwa [← htext, Text.size_append, hb.size_take] at hsize
  have hfront : Text.drop s.text.toList s.offset = gap ++ behind := hrest
  unfold Text.trimmed
  rw [Text.toList_after, Text.toList_after, hdrop, hfront, hgap.trim_append]

variable (hlexicon : s.lexicon = Script.lexicon)
include hlexicon

theorem finds_scan : s.Finds (s.scan true) := by
  have hcut := Script.cut_scan true s.offset s.rest
  unfold TokenStream.scan
  rw [hlexicon]
  generalize hfound : Script.lexicon.scan true s.offset s.rest = found at *
  generalize hrest : s.rest = rest at *
  cases hcut with
  | ended hblank =>
    subst hrest
    exact .ended hblank
  | token hblank hne hkind =>
    have htext : String.ofList _ ≠ "" := fun h => hne (String.ofList_eq_empty_iff.mp h)
    exact .token hkind htext hblank (by simpa using hrest) rfl
  | refused hblank hquote hcause => exact .refused hblank hrest hquote hcause

/-- The end of the text is found where only white space is left. -/
theorem of_scan_ended (hscan : s.scan true = .ok t) (hkind : t.kind = .endOfInput) :
    Text.Blank s.rest ∧ t = .endAt (s.offset + Text.size s.rest) := by
  have hfinds := finds_scan hlexicon
  rw [hscan] at hfinds
  cases hfinds with
  | ended hblank => exact ⟨hblank, rfl⟩
  | token hother => exact absurd hkind hother

/-- Behind the end of the text the end is found again, and nothing but white space has been passed. -/
theorem past_ended (hb : Text.IsBoundary s.text.toList s.offset) (hscan : s.scan true = .ok t)
    (hkind : t.kind = .endOfInput) :
    Text.IsBoundary (s.past t).text.toList (s.past t).offset ∧ (s.past t).scan true = .ok t ∧
      Text.trimmed (Text.after s.text t.stop) = Text.trimmed (Text.after s.text s.offset) := by
  obtain ⟨hblank, ht⟩ := of_scan_ended hlexicon hscan hkind
  have hstop : t.stop = Text.size s.text.toList := by
    rw [ht, ← Text.take_append_drop s.text.toList s.offset, Text.size_append, hb.size_take]
    rfl
  constructor
  · have hsize := Text.isBoundary_size_self s.text.toList
    rwa [← hstop] at hsize
  constructor
  · have hrest : (s.past t).rest = [] := Text.drop_of_size_le (Nat.le_of_eq hstop.symm)
    unfold TokenStream.scan
    rw [hrest, ht]
    rfl
  · rw [ht]
    exact trimmed_after_gap hb hblank (List.append_nil _).symm

/-- A token is cut from the text behind white space. -/
theorem of_scan_token (hscan : s.scan true = .ok t) (hkind : t.kind ≠ .endOfInput) :
    ∃ gap behind, Text.Blank gap ∧ s.rest = gap ++ t.text.toList ++ behind ∧
      t.column = s.offset + Text.size gap ∧ t.text ≠ "" := by
  have hfinds := finds_scan hlexicon
  rw [hscan] at hfinds
  cases hfinds with
  | ended => exact absurd rfl hkind
  | token _ hne hblank hrest hcolumn => exact ⟨_, _, hblank, hrest, hcolumn, hne⟩

/-- The only mistake is a quoted string that cannot be read, and it is reported where the string begins. -/
theorem of_scan_error {e : Error} (hscan : s.scan true = .error e) :
    ∃ gap behind quote cause, Text.Blank gap ∧ s.rest = gap ++ quote :: behind ∧
      (quote = '"' ∨ quote = '\'') ∧ Token.quoted quote (behind.length + 1) behind = .error cause ∧
      e = (Error.ofMistake (.escape cause)).located (s.positionAt (s.offset + Text.size gap)) := by
  have hfinds := finds_scan hlexicon
  rw [hscan] at hfinds
  cases hfinds with
  | refused hblank hrest hquote hcause => exact ⟨_, _, _, _, hblank, hrest, hquote, hcause, rfl⟩

end

end TokenStream

/-- What comes behind the last token of a line, where `rest` is left: the end of the line, or the mistake at a
quoted string that cannot be read. -/
inductive Closes (script : String) (line : Nat) (text : String) : List Char → Except Error Token → Prop
  | ended {rest : List Char} : Text.Blank rest →
      Closes script line text rest (.ok (.endAt (Text.length text)))
  | refused {front gap behind : List Char} {quote : Char} {cause : EscapeError} :
      text.toList = front ++ gap ++ quote :: behind → Text.Blank gap → (quote = '"' ∨ quote = '\'') →
      Token.quoted quote (behind.length + 1) behind = .error cause →
      Closes script line text (gap ++ quote :: behind)
        (.error ((Error.ofMistake (.escape cause)).located ⟨script, line, (front ++ gap).length + 1⟩))

namespace TokenStream

/-- The tokens of a stream spell what is left of its text, up to its end or to a mistake. -/
theorem Yields.spells {s : TokenStream} {ts : List Token} {ending : Except Error Token}
    (h : Yields s ts ending) (hlexicon : s.lexicon = Script.lexicon)
    (hb : Text.IsBoundary s.text.toList s.offset) :
    (∃ rest, Token.Spells s.offset s.rest ts rest ∧ Closes s.script s.line s.text rest ending) ∧
      ∀ t ∈ ts, t.kind ≠ .endOfInput ∧ t.text ≠ "" := by
  have hsplit := Text.take_append_drop s.text.toList s.offset
  induction h with
  | @ended s t hscan hkind =>
    obtain ⟨hblank, rfl⟩ := of_scan_ended hlexicon hscan hkind
    have hlength : s.offset + Text.size s.rest = Text.length s.text := by
      rw [Text.length_eq_size, ← hsplit, Text.size_append, hb.size_take, TokenStream.rest]
    rw [hlength]
    exact ⟨⟨_, .done, .ended hblank⟩, fun _ h => by cases h⟩
  | @refused s e hscan =>
    obtain ⟨gap, behind, quote, cause, hblank, hrest, hquote, hcause, rfl⟩ := of_scan_error hlexicon hscan
    have htext : s.text.toList = Text.take s.text.toList s.offset ++ gap ++ quote :: behind := by
      rw [List.append_assoc, ← hrest]
      exact hsplit.symm
    have hplace : s.positionAt (s.offset + Text.size gap) =
        ⟨s.script, s.line, (Text.take s.text.toList s.offset ++ gap).length + 1⟩ := by
      have hfront := Text.take_size (Text.take s.text.toList s.offset ++ gap) (quote :: behind)
      rw [← htext, Text.size_append, hb.size_take] at hfront
      rw [TokenStream.positionAt, hfront]
    rw [hplace, hrest]
    exact ⟨⟨_, .done, .refused htext hblank hquote hcause⟩, fun _ h => by cases h⟩
  | @token s t ts ending hscan hkind _ ih =>
    obtain ⟨gap, behind, hblank, hrest, hcolumn, hne⟩ := of_scan_token hlexicon hscan hkind
    obtain ⟨hpast, hbehind⟩ := past_token hb hrest hcolumn
    obtain ⟨⟨rest, hspells, hcloses⟩, hall⟩ := ih hlexicon hpast (Text.take_append_drop _ _)
    rw [hbehind] at hspells
    constructor
    · rw [hrest]
      exact ⟨rest, .token hblank hcolumn hspells, hcloses⟩
    · intro u hu
      rcases List.mem_cons.mp hu with rfl | hu
      · exact ⟨hkind, hne⟩
      · exact hall u hu

/-- A stream from which `n` of the tokens of a text have been taken. -/
structure Reached (text : String) (ts : List Token) (ending : Except Error Token) (n : Nat)
    (s : TokenStream) : Prop where
  text : s.text = text
  lexicon : s.lexicon = Script.lexicon
  boundary : Text.IsBoundary s.text.toList s.offset
  pending : ∀ t, s.pending = some t → s.scan true = .ok t
  yields : Yields s (ts.drop n) ending
  /-- Up to white space, the rest of the text is what stands behind the last token taken. -/
  remainder : Text.trimmed (Text.after s.text s.offset) =
    Text.trimmed (Text.after s.text ((ts.take n).getLast?.elim 0 Token.stop))

namespace Reached

open Reading

variable {text : String} {ts : List Token} {ending : Except Error Token} {n : Nat} {s : TokenStream}

/-- The stream looks for the next of the tokens. -/
theorem scan (h : Reached text ts ending n s) : s.scan true = ts[n]?.elim ending .ok := by
  have hyields := h.yields
  cases hdrop : ts.drop n with
  | nil =>
    rw [List.getElem?_eq_none (List.drop_eq_nil_iff.mp hdrop)]
    rw [hdrop] at hyields
    cases hyields with
    | ended hscan _ => exact hscan
    | refused hscan => exact hscan
  | cons t us =>
    have hget : ts[n]? = some t := by rw [← List.head?_drop, hdrop, List.head?_cons]
    rw [hget]
    rw [hdrop] at hyields
    cases hyields with
    | token hscan _ _ => exact hscan

/-- Looking at the next token takes none. -/
theorem look (h : Reached text ts ending n s) :
    (outcome peek s).1 = ts[n]?.elim ending .ok ∧ Reached text ts ending n (outcome peek s).2 := by
  rw [outcome_peek s h.pending, h.scan]
  have hscan := h.scan
  generalize ts[n]?.elim ending .ok = found at *
  cases found with
  | error e => exact ⟨rfl, h⟩
  | ok t =>
    have hpending : ∀ t', some t = some t' → s.scan true = .ok t' := by
      intro t' ht'
      cases ht'
      exact hscan
    exact ⟨rfl, h.text, h.lexicon, h.boundary, hpending, h.yields.looked _, h.remainder⟩

/-- Taking the next token takes one of the tokens; at the end of the text or at a mistake none is left. -/
theorem take (h : Reached text ts ending n s) :
    (outcome next s).1 = ts[n]?.elim ending .ok ∧ Reached text ts ending (n + 1) (outcome next s).2 := by
  rw [outcome_next s h.pending, ← h.scan]
  have hyields := h.yields
  have hleft := h.remainder
  have hnothing (s : TokenStream) : ∀ t, none = some t → s.scan true = .ok t := by
    intro t ht
    cases ht
  cases hdrop : ts.drop n with
  | nil =>
    have hn : ts.length ≤ n := List.drop_eq_nil_iff.mp hdrop
    have hdrop' : ts.drop (n + 1) = [] := List.drop_eq_nil_iff.mpr (by omega)
    have htake : ts.take (n + 1) = ts.take n := by
      rw [List.take_of_length_le hn, List.take_of_length_le (by omega)]
    rw [hdrop] at hyields
    cases hyields with
    | @ended _ t hscan hkind =>
      rw [hscan]
      obtain ⟨hboundary, hagain, hremainder⟩ := past_ended h.lexicon h.boundary hscan hkind
      have hyields' : Yields (s.past t) (ts.drop (n + 1)) (.ok t) := by
        rw [hdrop']
        exact .ended hagain hkind
      rw [← htake] at hleft
      exact ⟨rfl, h.text, h.lexicon, hboundary, hnothing _, hyields', hremainder.trans hleft⟩
    | @refused _ e hscan =>
      rw [hscan]
      have hyields' : Yields s (ts.drop (n + 1)) (.error e) := by
        rw [hdrop']
        exact .refused hscan
      rw [← htake] at hleft
      exact ⟨rfl, h.text, h.lexicon, h.boundary, h.pending, hyields', hleft⟩
  | cons t us =>
    rw [hdrop] at hyields
    cases hyields with
    | token hscan hkind htail =>
      rw [hscan]
      obtain ⟨gap, behind, -, hrest, hcolumn, -⟩ := of_scan_token h.lexicon hscan hkind
      obtain ⟨hboundary, -⟩ := past_token h.boundary hrest hcolumn
      have hget : ts[n]? = some t := by rw [← List.head?_drop, hdrop, List.head?_cons]
      have hlast : (ts.take (n + 1)).getLast? = some t := by
        rw [List.take_add_one, hget, Option.toList_some, List.getLast?_concat]
      have hyields' : Yields (s.past t) (ts.drop (n + 1)) ending := by
        rw [← List.drop_drop, hdrop]
        exact htail
      have hremainder : Text.trimmed (Text.after s.text t.stop) =
          Text.trimmed (Text.after s.text ((ts.take (n + 1)).getLast?.elim 0 Token.stop)) := by
        rw [hlast]
        rfl
      exact ⟨rfl, h.text, h.lexicon, hboundary, hnothing _, hyields', hremainder⟩

/-- The rest of the line begins behind the last token taken, a token that has been looked at included. -/
theorem restOfLine (h : Reached text ts ending n s) :
    (outcome restOfLine s).1 =
      .ok (Text.trimmed (Text.after text ((ts.take n).getLast?.elim 0 Token.stop))) := by
  have hresult : (outcome Reading.restOfLine s).1 =
      .ok (Text.trimmed (Text.after s.text (s.pending.elim s.offset (·.column)))) := rfl
  rw [hresult, ← h.text, ← h.remainder]
  cases hpending : s.pending with
  | none => rfl
  | some t =>
    have hfinds := finds_scan h.lexicon
    rw [h.pending t hpending] at hfinds
    cases hfinds with
    | ended hblank =>
      exact congrArg Except.ok (trimmed_after_gap h.boundary hblank (List.append_nil _).symm)
    | token _ _ hblank hrest hcolumn =>
      rw [Option.elim_some, hcolumn]
      rw [List.append_assoc] at hrest
      exact congrArg Except.ok (trimmed_after_gap h.boundary hblank hrest)

end Reached

/-- A request for the next token: to look at it, or to take it. -/
inductive Request where
  | look
  | take
  deriving DecidableEq

/-- What a request reads. -/
def Request.reading : Request → Reading Token
  | .look => Reading.peek
  | .take => Reading.next

/-- The stream behind some requests, whether or not they were answered. -/
def behind (s : TokenStream) (rs : List Request) : TokenStream :=
  rs.foldl (fun s r => (outcome r.reading s).2) s

theorem Reached.behind {text : String} {ts : List Token} {ending : Except Error Token} {n : Nat}
    {s : TokenStream} (h : Reached text ts ending n s) (rs : List Request) :
    Reached text ts ending (n + rs.count .take) (s.behind rs) := by
  induction rs generalizing n s with
  | nil => exact h
  | cons r rs ih =>
    have hcons : s.behind (r :: rs) = (outcome r.reading s).2.behind rs := rfl
    rw [hcons]
    cases r with
    | look =>
      have hcount : (Request.look :: rs).count .take = rs.count .take := by simp
      rw [hcount]
      exact ih h.look.2
    | take =>
      have hcount : n + (Request.take :: rs).count .take = n + 1 + rs.count .take := by
        rw [List.count_cons_self]
        omega
      rw [hcount]
      exact ih h.take.2

end TokenStream

namespace Script

open TokenStream (Request)
open Reading

/-- The tokens of a line: they spell it, up to white space around them and up to what comes behind them, and each
is a part of it that is not empty. -/
structure Tokenized (script : String) (line : Nat) (text : String) (ts : List Token)
    (ending : Except Error Token) : Prop where
  spells : ∃ rest, Token.Spells 0 text.toList ts rest ∧ Closes script line text rest ending
  nonempty : ∀ t ∈ ts, t.kind ≠ .endOfInput ∧ t.text ≠ ""
  slice : ∀ t ∈ ts, Text.between text t.column t.stop = t.text
  ascending : (ts.map Token.column).Pairwise (· < ·)
  length_le : ts.length ≤ Text.length text

/-- A line is a list of tokens and an end, whatever is looked at in advance. Behind any requests, the next token
to be looked at or taken is the one at the number of the tokens taken so far; behind the last one it is the end of
the line or a mistake, which stays and changes nothing. The rest of the line is always what stands behind the last
token taken. -/
theorem tokens_lossless (script : String) (line : Nat) (text : String) :
    ∃ ts ending, Tokenized script line text ts ending ∧
      ∀ rs : List Request,
        let s := (lineStream script line text).behind rs
        let n := rs.count .take
        (outcome next s).1 = ts[n]?.elim ending .ok ∧
        (outcome peek s).1 = ts[n]?.elim ending .ok ∧
        (∀ e, ts[n]?.elim ending .ok = .error e → (outcome next s).2 = s ∧ (outcome peek s).2 = s) ∧
        (outcome restOfLine s).1 =
          .ok (Text.trimmed (Text.after text ((ts.take n).getLast?.elim 0 Token.stop))) := by
  obtain ⟨ts, ending, hyields⟩ := (TokenStream.ready_lineStream script line text).yields
  have hboundary : Text.IsBoundary text.toList 0 := Text.isBoundary_zero _
  have hrest : (lineStream script line text).rest = text.toList := Text.drop_zero _
  obtain ⟨⟨rest, hspells, hcloses⟩, hall⟩ := hyields.spells rfl hboundary
  rw [hrest] at hspells
  have hne : ∀ t ∈ ts, t.text ≠ "" := fun t ht => (hall t ht).2
  have hslice : ∀ t ∈ ts, Text.between text t.column t.stop = t.text := by
    intro t ht
    have hpart := hspells.slice [] rfl ht
    rw [List.nil_append] at hpart
    rw [Text.between, hpart, String.ofList_toList]
  have hlength : ts.length ≤ Text.length text := by
    rw [Text.length_eq_size]
    exact hspells.length_le hne
  refine ⟨ts, ending, ⟨⟨rest, hspells, hcloses⟩, hall, hslice, hspells.ascending hne, hlength⟩, ?_⟩
  intro rs s n
  have hstart : TokenStream.Reached text ts ending 0 (lineStream script line text) :=
    ⟨rfl, rfl, hboundary, fun _ h => (by cases h), hyields, rfl⟩
  have hreached := hstart.behind rs
  rw [Nat.zero_add] at hreached
  refine ⟨hreached.take.1, hreached.look.1, fun e he => ?_, hreached.restOfLine⟩
  rw [outcome_next _ hreached.pending, outcome_peek _ hreached.pending, hreached.scan, he]
  exact ⟨rfl, rfl⟩

end Script

end LineScript
