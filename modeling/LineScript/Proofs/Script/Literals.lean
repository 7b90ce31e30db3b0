import LineScript.Proofs.Outcome
import LineScript.Proofs.Script.Templates

/-! Quoted strings in a line: which ones are read, and what the values and the templates are that they stand for. -/
namespace LineScript

/-- The token of a quoted string. -/
def Token.literal (quote : Char) (items value : List Char) (column : Nat) : Token :=
  ⟨String.ofList (quote :: items ++ [quote]), .string (String.ofList value), column⟩

/-- Some characters as they are written between quotes. -/
def Token.escapedText (quote : Char) (value : List Char) : List Char :=
  value.flatMap fun c => if c = '\\' ∨ c = quote ∨ (quote = '"' ∧ c = '$') then ['\\', c] else [c]

/-- Whether no class of a lexicon has a member that starts with a quote. -/
def Lexicon.LeavesQuotes (x : Lexicon) : Prop :=
  ∀ k ∈ x.classes, ∀ quote cs c text, quote = '"' ∨ quote = '\'' → k.accept? (quote :: cs) ≠ some (c :: text)

/-- Whether a quote comes next in a stream, behind white space, where it starts a string. -/
structure TokenStream.AtQuote (s : TokenStream) (special : Bool) (front gap : List Char) (quote : Char)
    (cs : List Char) : Prop where
  text : s.text.toList = front ++ gap ++ quote :: cs
  offset : s.offset = Text.size front
  blank : Text.Blank gap
  quote : quote = '"' ∨ quote = '\''
  classes : special = true → s.lexicon.LeavesQuotes

section Lexicons

variable {x : Lexicon} {special : Bool} {offset : Nat} {quote : Char} {gap cs rest : List Char}

theorem Lexicon.classToken?_eq_none {classes : List TokenClass} {index : Nat}
    (h : ∀ k ∈ classes, ∀ c text, k.accept? cs ≠ some (c :: text)) :
    Lexicon.classToken? cs index classes = none := by
  induction classes generalizing index with
  | nil => rfl
  | cons k ks ih =>
    obtain ⟨hk, hks⟩ := List.forall_mem_cons.mp h
    unfold Lexicon.classToken?
    split
    · rename_i haccept
      exact absurd haccept (hk _ _)
    · exact ih hks

theorem ne_backslash_of_quote (hquote : quote = '"' ∨ quote = '\'') : quote ≠ '\\' := by
  rcases hquote with rfl | rfl <;> decide

theorem ne_hash_of_quote (hquote : quote = '"' ∨ quote = '\'') : quote ≠ '#' := by
  rcases hquote with rfl | rfl <;> decide

/-- A string is read exactly if it has the items of one up to the next quote. -/
theorem Lexicon.plainToken_eq_string_iff {v : String} {text : List Char} :
    x.plainToken quote cs = .ok (.string v, text) ↔ (quote = '"' ∨ quote = '\'') ∧ ∃ items value behind,
      cs = items ++ quote :: behind ∧ Token.Items quote true items value ∧ v = String.ofList value ∧
      text = quote :: items ++ [quote] := by
  have htake (items behind : List Char) : (items ++ quote :: behind).take
      ((items ++ quote :: behind).length - behind.length) = items ++ [quote] := by
    have hlength : (items ++ quote :: behind).length - behind.length = (items ++ [quote]).length := by
      simp only [List.length_append, List.length_cons, List.length_nil]
      omega
    have hsplit : items ++ quote :: behind = (items ++ [quote]) ++ behind := by simp
    rw [hlength, hsplit, List.take_left]
  constructor
  · intro h
    unfold Lexicon.plainToken at h
    split_ifs at h with hcomment hquote hdigit hword
    · cases h
    · split at h
      · cases h
      · rename_i value behind hread
        cases h
        obtain ⟨items, rfl, hitems⟩ := (Token.quoted_eq_ok_iff (ne_backslash_of_quote hquote)).mp hread
        exact ⟨hquote, items, value, behind, rfl, hitems, rfl, by rw [htake]; rfl⟩
    · cases h
    · dsimp only at h
      split at h <;> cases h
    · split at h <;> cases h
  · rintro ⟨hquote, items, value, behind, rfl, hitems, rfl, rfl⟩
    have hread : Token.quoted quote ((items ++ quote :: behind).length + 1) (items ++ quote :: behind) =
        .ok (value, behind) := (Token.quoted_eq_ok_iff (ne_backslash_of_quote hquote)).mpr ⟨items, rfl, hitems⟩
    unfold Lexicon.plainToken
    rw [if_neg (ne_hash_of_quote hquote), if_pos hquote, hread]
    dsimp only
    rw [htake]
    rfl

/-- What starts with a quote is a string or is refused. -/
theorem Lexicon.plainToken_quote (x : Lexicon) (hquote : quote = '"' ∨ quote = '\'') (cs : List Char) :
    (∃ v text, x.plainToken quote cs = .ok (.string v, text)) ∨ ∃ e, x.plainToken quote cs = .error e := by
  unfold Lexicon.plainToken
  rw [if_neg (ne_hash_of_quote hquote), if_pos hquote]
  cases Token.quoted quote (cs.length + 1) cs with
  | error e => exact .inr ⟨e, rfl⟩
  | ok r => exact .inl ⟨_, _, rfl⟩

/-- Whether no class of the language has a member that starts with a character. -/
def Script.StartsNoClass (c : Char) : Prop :=
  c ∉ "msr$~".toList ∧ ∀ f ∈ Builtin.all, f.name.toList.head? ≠ none ∧ f.name.toList.head? ≠ some c

instance (c : Char) : Decidable (Script.StartsNoClass c) :=
  inferInstanceAs (Decidable (_ ∧ _))

theorem Script.StartsNoClass.accept?_ne {c : Char} (h : Script.StartsNoClass c) (k : Script.SpecialClass)
    (cs : List Char) (d : Char) (text : List Char) : k.accept? (c :: cs) ≠ some (d :: text) := by
  obtain ⟨hletter, hname⟩ := h
  intro haccept
  match k with
  | .pattern =>
    change Script.patternToken? (c :: cs) = _ at haccept
    unfold Script.patternToken? at haccept
    split at haccept
    · rename_i heq
      obtain ⟨rfl, -⟩ := List.cons.inj heq
      rw [if_neg (by rintro ⟨rfl | rfl | rfl, -⟩ <;> exact hletter (by decide))] at haccept
      cases haccept
    · cases haccept
  | .variable =>
    change (Template.reference? (c :: cs)).map _ = _ at haccept
    rw [Template.reference?_of_ne (by rintro rfl; exact hletter (by decide))] at haccept
    cases haccept
  | .buffer =>
    change Script.bufferToken? (c :: cs) = _ at haccept
    unfold Script.bufferToken? at haccept
    split at haccept
    · rename_i heq
      obtain ⟨rfl, -⟩ := List.cons.inj heq
      exact hletter (by decide)
    · cases haccept
  | .function =>
    obtain ⟨f, hf, hfound⟩ := List.exists_of_findSome?_eq_some haccept
    obtain ⟨hnil, hother⟩ := hname f hf
    dsimp only at hfound
    split at hfound
    · rename_i rest hrest
      have hprefix := Text.append_of_dropStart? hrest
      obtain ⟨e, he⟩ := Option.ne_none_iff_exists'.mp hnil
      obtain ⟨name, hname⟩ := List.head?_eq_some_iff.mp he
      rw [hname] at hprefix hother
      obtain ⟨rfl, -⟩ := List.cons.inj hprefix
      exact hother rfl
    · cases hfound

theorem Script.StartsNoClass.classToken?_eq_none {c : Char} (h : Script.StartsNoClass c) (cs : List Char) :
    Lexicon.classToken? (c :: cs) 0 Script.lexicon.classes = none := by
  refine Lexicon.classToken?_eq_none fun k hk d text => ?_
  obtain ⟨k, -, rfl⟩ := List.mem_map.mp hk
  exact h.accept?_ne k cs d text

theorem Script.lexicon_leavesQuotes : Script.lexicon.LeavesQuotes := by
  intro k hk quote cs c text hquote
  obtain ⟨k, -, rfl⟩ := List.mem_map.mp hk
  have hnone : Script.StartsNoClass quote := by
    rcases hquote with rfl | rfl <;> decide
  exact hnone.accept?_ne k cs c text

/-- What comes behind white space and starts with a quote is cut off as a string. -/
theorem Lexicon.scan_quote (hclasses : special = true → x.LeavesQuotes) (hgap : Text.Blank gap)
    (hquote : quote = '"' ∨ quote = '\'') :
    x.scan special offset (gap ++ quote :: cs) =
      match x.plainToken quote cs with
      | .ok (kind, text) => .ok ⟨String.ofList text, kind, offset + Text.size gap⟩
      | .error e => .error (offset + Text.size gap, e) := by
  have hblank : Text.isBlank quote = false := by
    rcases hquote with rfl | rfl <;> rfl
  have hspecial : (if special then Lexicon.classToken? (quote :: cs) 0 x.classes else none) = none := by
    split
    · rename_i h
      exact classToken?_eq_none fun k hk c text => hclasses h k hk quote cs c text hquote
    · rfl
  have hscan := Lexicon.scan_gap x special offset hgap hblank cs
  rw [hspecial] at hscan
  exact hscan

/-- A token that is a string is a quoted one. -/
theorem Lexicon.literal_of_scan {t : Token} {v : String} (h : x.scan special offset rest = .ok t)
    (hkind : t.kind = .string v) : ∃ quote items value column, Token.Items quote true items value ∧
      v = String.ofList value ∧ t = Token.literal quote items value column := by
  unfold Lexicon.scan at h
  dsimp only at h
  split at h
  · cases h
    cases hkind
  · split at h
    · cases h
      cases hkind
    · split at h
      · rename_i kind text hplain
        cases h
        cases hkind
        obtain ⟨-, items, value, behind, -, hitems, rfl, rfl⟩ := plainToken_eq_string_iff.mp hplain
        exact ⟨_, items, value, _, hitems, rfl, rfl⟩
      · cases h

end Lexicons

namespace TokenStream.AtQuote

variable {s : TokenStream} {special : Bool} {front gap cs : List Char} {quote : Char}

theorem rest (h : s.AtQuote special front gap quote cs) : s.rest = gap ++ quote :: cs := by
  unfold TokenStream.rest
  rw [h.text, h.offset, List.append_assoc, Text.drop_size]

/-- The place of the quote. -/
theorem positionAt (h : s.AtQuote special front gap quote cs) :
    s.positionAt (s.offset + Text.size gap) = ⟨s.script, s.line, (front ++ gap).length + 1⟩ := by
  unfold TokenStream.positionAt
  rw [h.text, h.offset, ← Text.size_append, Text.take_size]

/-- What is found at a quote is a string or a mistake there. -/
theorem scan (h : s.AtQuote special front gap quote cs) :
    s.scan special =
      match s.lexicon.plainToken quote cs with
      | .ok (kind, text) => .ok ⟨String.ofList text, kind, s.offset + Text.size gap⟩
      | .error e => .error ((Error.ofMistake (.escape e)).located ⟨s.script, s.line, (front ++ gap).length + 1⟩) := by
  unfold TokenStream.scan
  rw [h.rest, Lexicon.scan_quote h.classes h.blank h.quote, ← h.positionAt]
  cases s.lexicon.plainToken quote cs <;> rfl

/-- The string at a quote is read exactly if it has the items of one up to the next quote. -/
theorem scan_eq_ok_iff (h : s.AtQuote special front gap quote cs) {t : Token} :
    s.scan special = .ok t ↔ ∃ items value behind, cs = items ++ quote :: behind ∧
      Token.Items quote true items value ∧ t = Token.literal quote items value (s.offset + Text.size gap) := by
  rw [h.scan]
  constructor
  · intro ht
    rcases s.lexicon.plainToken_quote h.quote cs with ⟨v, text, hplain⟩ | ⟨e, hplain⟩
    · rw [hplain] at ht
      cases ht
      obtain ⟨-, items, value, behind, rfl, hitems, rfl, rfl⟩ := Lexicon.plainToken_eq_string_iff.mp hplain
      exact ⟨items, value, behind, rfl, hitems, rfl⟩
    · rw [hplain] at ht
      cases ht
  · rintro ⟨items, value, behind, rfl, hitems, rfl⟩
    rw [Lexicon.plainToken_eq_string_iff.mpr ⟨h.quote, items, value, behind, rfl, hitems, rfl, rfl⟩]
    rfl

/-- Without the items of a string there is a mistake at the quote. -/
theorem scan_eq_error (h : s.AtQuote special front gap quote cs)
    (hitems : ¬∃ items value behind, cs = items ++ quote :: behind ∧ Token.Items quote true items value) :
    ∃ e, s.scan special =
      .error ((Error.ofMistake (.escape e)).located ⟨s.script, s.line, (front ++ gap).length + 1⟩) := by
  rcases s.lexicon.plainToken_quote h.quote cs with ⟨v, text, hplain⟩ | ⟨e, hplain⟩
  · obtain ⟨-, items, value, behind, hcs, hvalue, -⟩ := Lexicon.plainToken_eq_string_iff.mp hplain
    exact absurd ⟨items, value, behind, hcs, hvalue⟩ hitems
  · rw [h.scan, hplain]
    exact ⟨e, rfl⟩

/-- A line of a script that starts with a quote. -/
theorem start {script text : String} {line : Nat} (htext : text.toList = quote :: cs)
    (hquote : quote = '"' ∨ quote = '\'') : (Script.lineStream script line text).AtQuote special [] [] quote cs :=
  ⟨htext, rfl, List.forall_mem_nil _, hquote, fun _ => Script.lexicon_leavesQuotes⟩

end TokenStream.AtQuote

namespace Script

/-- What is found where a quote comes next is a string up to its closing quote, with the characters that its items
stand for, and otherwise a mistake at the opening quote. The items are those that are written down in the
documentation of the language, except that a plus sign may stand in front of the digits of a numeral. -/
theorem quotes_scanned {s : TokenStream} {special : Bool} {front gap cs : List Char} {quote : Char}
    (h : s.AtQuote special front gap quote cs) :
    (∀ t, s.scan special = .ok t ↔ ∃ items value behind, cs = items ++ quote :: behind ∧
      Token.Items quote true items value ∧ t = Token.literal quote items value (s.offset + Text.size gap)) ∧
    ((¬∃ items value behind, cs = items ++ quote :: behind ∧ Token.Items quote true items value) →
      ∃ e, s.scan special =
        .error ((Error.ofMistake (.escape e)).located ⟨s.script, s.line, (front ++ gap).length + 1⟩)) ∧
    ∀ items value, Token.Items quote false items value ↔
      Token.Items quote true items value ∧ ¬Token.Signed quote items :=
  ⟨fun _ => h.scan_eq_ok_iff, h.scan_eq_error, fun _ _ => Token.items_unsigned_iff⟩

theorem quotes_scanned_behind_word :
    let s : TokenStream := { lineStream "s" 1 "log \"a\\x41\"" with offset := 3 }
    s.AtQuote true "log".toList [' '] '"' "a\\x41\"".toList ∧
      s.scan true = .ok (Token.literal '"' "a\\x41".toList "aA".toList 4) := by
  intro s
  have h : s.AtQuote true "log".toList [' '] '"' "a\\x41\"".toList := by
    refine ⟨by decide, by decide, List.forall_mem_singleton.mpr rfl, .inl rfl, fun _ => lexicon_leavesQuotes⟩
  have hx : Token.Item '"' true "\\x41".toList 'A' :=
    .escaped (.numeral (by decide) (.digits (List.cons_ne_nil _ _) (List.all_eq_true.mp rfl)))
  refine ⟨h, ((quotes_scanned h).1 _).mpr ⟨_, _, [], rfl, ?_, rfl⟩⟩
  exact .cons (.plain (by decide) (by decide)) (.cons hx .nil)

/-- A plus sign is taken in place of a digit, although no escape of the documentation has one. -/
theorem sign_read_as_digit :
    let s := lineStream "s" 1 "\"\\x+5\""
    s.AtQuote true [] [] '"' "\\x+5\"".toList ∧
      s.scan true = .ok (Token.literal '"' "\\x+5".toList [Char.ofNat 5] 0) ∧
      ¬∃ items value behind, "\\x+5\"".toList = items ++ '"' :: behind ∧ Token.Items '"' false items value := by
  intro s
  have h : s.AtQuote true [] [] '"' "\\x+5\"".toList := .start (by decide) (.inl rfl)
  have hx : Token.Item '"' true "\\x+5".toList (Char.ofNat 5) :=
    .escaped (.numeral (by decide) (.plus rfl (List.cons_ne_nil _ _) (List.all_eq_true.mp rfl)))
  refine ⟨h, h.scan_eq_ok_iff.mpr ⟨_, _, [], rfl, .cons hx .nil, rfl⟩, ?_⟩
  rintro ⟨items, value, behind, hcs, hitems⟩
  cases hitems with
  | nil => exact absurd (List.cons.inj hcs).1 (by decide)
  | cons hitem _ =>
    rw [List.append_assoc] at hcs
    have hx : ('x', 2) ∈ Token.widths := by decide
    exact hitem.not_signed hx hcs.symm

end Script

section Templates

variable {quote : Char} {items value seen : List Char} {column fuel : Nat}

theorem Token.Items.decoded (h : Token.Items quote true items value) : Template.Decoded true items value := by
  induction h with
  | nil => exact .nil
  | cons hitem _ ih =>
    cases hitem with
    | plain _ hescape => exact .plain (by simp [hescape]) ih
    | escaped htext => exact .escaped rfl htext ih

@[simp] theorem Token.escapedText_nil : Token.escapedText quote [] = [] := rfl

theorem Token.escapedText_cons (c : Char) : Token.escapedText quote (c :: value) =
    (if c = '\\' ∨ c = quote ∨ (quote = '"' ∧ c = '$') then ['\\', c] else [c]) ++ Token.escapedText quote value :=
  rfl

/-- What is written between quotes stands for what was meant. -/
theorem Token.items_escapedText (hquote : quote = '"' ∨ quote = '\'') (value : List Char) :
    Token.Items quote true (Token.escapedText quote value) value := by
  induction value with
  | nil => exact .nil
  | cons c value ih =>
    rw [Token.escapedText_cons]
    split
    · rename_i hc
      have hletter : (c, c) ∈ Token.letters := by
        rcases hc with rfl | rfl | ⟨-, rfl⟩
        · decide
        · rcases hquote with rfl | rfl <;> decide
        · decide
      exact .cons (.escaped (.letter hletter)) ih
    · rename_i hc
      exact .cons (.plain (fun h => hc (.inr (.inl h))) (fun h => hc (.inl h))) ih

/-- Where every dollar sign is escaped there is no reference. -/
theorem Template.partsOf_escapedText (hfuel : (Token.escapedText '"' value).length < fuel) (seen : List Char) :
    Template.partsOf true fuel seen (Token.escapedText '"' value) =
      .ok (Template.textPart (value.reverse ++ seen)) := by
  induction value generalizing fuel seen with
  | nil =>
    obtain ⟨fuel, rfl⟩ := Nat.exists_eq_add_one_of_ne_zero (Nat.ne_of_gt hfuel)
    rfl
  | cons c value ih =>
    obtain ⟨fuel, rfl⟩ := Nat.exists_eq_add_one_of_ne_zero (Nat.ne_of_gt (Nat.zero_lt_of_lt hfuel))
    have hrest : (c :: value).reverse ++ seen = value.reverse ++ c :: seen := by simp
    rw [Token.escapedText_cons, List.length_append] at hfuel
    rw [hrest, Token.escapedText_cons]
    split at hfuel
    · rename_i hc
      have hletter : Token.escape (c :: Token.escapedText '"' value) = .ok (c, Token.escapedText '"' value) := by
        rcases hc with rfl | rfl | ⟨-, rfl⟩ <;> rfl
      simp only [List.length_cons, List.length_nil] at hfuel
      rw [if_pos hc]
      unfold Template.partsOf
      simp only [List.cons_append, List.nil_append, Template.reference?_of_ne (by decide : '\\' ≠ '$'), hletter]
      exact ih (by omega) (c :: seen)
    · rename_i hc
      have hdollar : c ≠ '$' := fun h => hc (.inr (.inr ⟨rfl, h⟩))
      have hescape : c ≠ '\\' := fun h => hc (.inl h)
      simp only [List.length_cons, List.length_nil] at hfuel
      rw [if_neg hc]
      unfold Template.partsOf
      simp only [List.cons_append, List.nil_append, Template.reference?_of_ne hdollar, Bool.true_and, beq_iff_eq,
        hescape, if_false]
      exact ih (by omega) (c :: seen)

theorem Template.ofText_escapedText (value : List Char) :
    Template.ofText true (Token.escapedText '"' value) = .ok [.text (String.ofList value)] := by
  unfold Template.ofText
  rw [Template.partsOf_escapedText (Nat.lt_succ_self _), List.append_nil]
  cases value with
  | nil => rfl
  | cons c value => simp [Except.map, Template.textPart]

namespace Script

/-- The fragment of a string between double quotes is the template of what is between them. -/
theorem outcome_fragment_literal {template : Template} (h : Template.ofText true items = .ok template) (fuel : Nat)
    (s : TokenStream) :
    outcome (fragment (fuel + 1) (Token.literal '"' items value column)) s = (.ok (.text template), s) := by
  have hquote : (Token.literal '"' items value column).text.toList.head? = some '"' := by simp [Token.literal]
  have hinner : ((Token.literal '"' items value column).text.toList.drop 1).dropLast = items := by
    simp [Token.literal]
  have hfragment : fragment (fuel + 1) (Token.literal '"' items value column) = pure (.text template) := by
    unfold fragment
    have hclass : classOf? (Token.literal '"' items value column) = none := rfl
    have hkind : (Token.literal '"' items value column).kind = .string (String.ofList value) := rfl
    simp only [hclass, hkind, hquote, hinner, h, if_true]
  rw [hfragment, outcome_pure]

/-- Strings round trip, and both ways of decoding them agree. A text that is written between quotes, with a backslash
where one is needed, is read as that text; between double quotes its template is the text. And the template of any
string between double quotes is written as the value of the string, so that it is the value if it has no variable. -/
theorem literals_roundtrip :
    (∀ (s : TokenStream) (special : Bool) (front gap : List Char) (quote : Char) (value behind : List Char),
      s.AtQuote special front gap quote (Token.escapedText quote value ++ quote :: behind) →
        let t := Token.literal quote (Token.escapedText quote value) value (s.offset + Text.size gap)
        s.scan special = .ok t ∧
          (quote = '"' → ∀ fuel s',
            outcome (fragment (fuel + 1) t) s' = (.ok (.text [.text (String.ofList value)]), s'))) ∧
    ∀ (s : TokenStream) (special : Bool) (t : Token) (value : String),
      s.scan special = .ok t → t.kind = .string value → t.text.toList.head? = some '"' →
        ∃ template, (∀ fuel s', outcome (fragment (fuel + 1) t) s' = (.ok (.text template), s')) ∧
          Template.written template = value.toList ∧
          ((∀ name, .variable name ∉ template) → template = [.text value]) := by
  constructor
  · intro s special front gap quote value behind h t
    refine ⟨h.scan_eq_ok_iff.mpr ⟨_, value, behind, rfl, Token.items_escapedText h.quote value, rfl⟩, ?_⟩
    rintro rfl fuel s'
    exact outcome_fragment_literal (Template.ofText_escapedText value) fuel s'
  · intro s special t v hscan hkind hquote
    have hfound : s.lexicon.scan special s.offset s.rest = .ok t := by
      unfold TokenStream.scan at hscan
      split at hscan
      · rename_i hfound
        cases hscan
        exact hfound
      · cases hscan
    obtain ⟨quote, items, value, column, hitems, rfl, rfl⟩ := Lexicon.literal_of_scan hfound hkind
    obtain rfl : quote = '"' := by simpa [Token.literal] using hquote
    obtain ⟨template, htemplate, hwritten, -, hplain⟩ := hitems.decoded.ofText
    refine ⟨template, outcome_fragment_literal htemplate, ?_, hplain⟩
    rw [hwritten, String.toList_ofList]

theorem literals_roundtrip_quote_and_reference :
    let s := lineStream "s" 1 "\"\\\"\\$\" x"
    let s' := lineStream "s" 1 "\"$(n)\\n\""
    let t' := Token.literal '"' "$(n)\\n".toList "$(n)\n".toList 0
    s.scan true = .ok (Token.literal '"' "\\\"\\$".toList "\"$".toList 0) ∧ s'.scan true = .ok t' ∧
      ∃ template, outcome (fragment 1 t') s' = (.ok (.text template), s') ∧
        Template.written template = "$(n)\n".toList := by
  intro s s' t'
  have h : s.AtQuote true [] [] '"' (Token.escapedText '"' "\"$".toList ++ '"' :: " x".toList) :=
    .start (by decide) (.inl rfl)
  have h' : s'.AtQuote true [] [] '"' "$(n)\\n\"".toList := .start (by decide) (.inl rfl)
  have hplain (c : Char) (hc : c ≠ '"' ∧ c ≠ '\\') : Token.Item '"' true [c] c := .plain hc.1 hc.2
  have hitems : Token.Items '"' true "$(n)\\n".toList "$(n)\n".toList :=
    .cons (hplain '$' (by decide)) <| .cons (hplain '(' (by decide)) <| .cons (hplain 'n' (by decide)) <|
      .cons (hplain ')' (by decide)) <| .cons (.escaped (.letter (l := 'n') (by decide))) .nil
  have hscan' : s'.scan true = .ok t' := h'.scan_eq_ok_iff.mpr ⟨_, _, [], rfl, hitems, rfl⟩
  obtain ⟨template, hfragment, hwritten, -⟩ := literals_roundtrip.2 s' true t' _ hscan' rfl (by decide)
  exact ⟨(literals_roundtrip.1 s true [] [] '"' _ _ h).1, hscan', template, hfragment 0 s', by simpa using hwritten⟩

end Script

end Templates

end LineScript
