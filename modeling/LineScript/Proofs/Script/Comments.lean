import Mathlib.Data.List.TakeWhile
import LineScript.Proofs.Script.Alone
import LineScript.Proofs.Script.PlainText

/-! Where comments begin: in an assignment at the first number sign at which a token can start, in a message only
where a word starts. -/
namespace LineScript.Script

open Reading
open Template (Occurs reference)

/-- Whether the first number sign of a text, if there is one, stands at its start or behind white space. -/
def CommentsAtWord (cs : List Char) : Prop :=
  ∀ front behind, cs = front ++ '#' :: behind → '#' ∉ front → ∀ c ∈ front.getLast?, Text.isBlank c = true

/-- A text up to its first number sign, without white space at its ends. -/
def beforeHash (t : String) : String :=
  String.ofList (Text.trim (t.toList.takeWhile (· != '#')))

section Messages

variable {cs front behind : List Char} {wordStart : Bool}

/-- What has no number sign, quote or backslash is passed over. -/
theorem beforeComment?_append (hhash : '#' ∉ front) (hquotes : ∀ c ∈ front, c ≠ '"' ∧ c ≠ '\'' ∧ c ≠ '\\')
    (wordStart : Bool) (cs : List Char) :
    beforeComment? none false wordStart (front ++ cs) =
      (beforeComment? none false (front.getLast?.elim wordStart Text.isBlank) cs).map (front ++ ·) := by
  induction front generalizing wordStart with
  | nil => simp
  | cons c front ih =>
    obtain ⟨hc, hfront⟩ := not_or.mp (mt List.mem_cons.mpr hhash)
    obtain ⟨⟨hdouble, hsingle, hescape⟩, hquotes⟩ := List.forall_mem_cons.mp hquotes
    have hlast : (c :: front).getLast?.elim wordStart Text.isBlank =
        front.getLast?.elim (Text.isBlank c) Text.isBlank := by
      rw [List.getLast?_cons]
      cases front.getLast? <;> rfl
    rw [hlast, List.cons_append, beforeComment?]
    simp only [hescape, hdouble, hsingle, Ne.symm hc, ih hfront hquotes, beq_iff_eq, Bool.false_eq_true, if_false,
      Bool.and_eq_true, or_self, Bool.or_eq_true, and_false, Option.map_map]
    rfl

theorem stripComment_of_not_mem (hhash : '#' ∉ cs) (hquotes : ∀ c ∈ cs, c ≠ '"' ∧ c ≠ '\'' ∧ c ≠ '\\') :
    stripComment cs = cs := by
  have hnone := beforeComment?_append hhash hquotes true []
  rw [List.append_nil] at hnone
  unfold stripComment
  rw [hnone]
  rfl

/-- A number sign at the start of a word begins a comment. -/
theorem stripComment_at_word (hhash : '#' ∉ front) (hquotes : ∀ c ∈ front, c ≠ '"' ∧ c ≠ '\'' ∧ c ≠ '\\')
    (hword : front.getLast?.elim true Text.isBlank = true) (behind : List Char) :
    stripComment (front ++ '#' :: behind) = Text.trimRight front := by
  unfold stripComment
  rw [beforeComment?_append hhash hquotes, hword, beforeComment?]
  simp

/-- A number sign inside of a word belongs to the message. -/
theorem hash_mem_stripComment (hhash : '#' ∉ front) (hquotes : ∀ c ∈ front, c ≠ '"' ∧ c ≠ '\'' ∧ c ≠ '\\')
    (hword : front.getLast?.elim true Text.isBlank = false) (behind : List Char) :
    '#' ∈ stripComment (front ++ '#' :: behind) := by
  unfold stripComment
  rw [beforeComment?_append hhash hquotes, hword, beforeComment?]
  cases hrest : beforeComment? none false (Text.isBlank '#') behind with
  | none => simp [hrest]
  | some rest =>
    have htrim := Text.trimRight_append_cons (c := '#') (by decide) front rest
    simp [hrest, htrim]

theorem hash_notMem_takeWhile (cs : List Char) : '#' ∉ cs.takeWhile (· != '#') :=
  fun h => absurd (List.all_eq_true.mp List.all_takeWhile '#' h) (by decide)

theorem takeWhile_hash (hfront : '#' ∉ front) (behind : List Char) :
    (front ++ '#' :: behind).takeWhile (· != '#') = front := by
  have hall : ∀ c ∈ front, (c != '#') = true := fun c hc => bne_iff_ne.mpr fun h => hfront (h ▸ hc)
  rw [List.takeWhile_append_of_pos hall]
  exact List.append_nil front

theorem commentsAtWord_iff (hfront : '#' ∉ front) (behind : List Char) :
    CommentsAtWord (front ++ '#' :: behind) ↔ (Text.trimLeft front).getLast?.elim true Text.isBlank = true := by
  have hlast : CommentsAtWord (front ++ '#' :: behind) ↔ ∀ c ∈ front.getLast?, Text.isBlank c = true := by
    constructor
    · exact fun h => h front behind rfl hfront
    · intro h front' behind' heq hfront'
      have htake := congrArg (List.takeWhile (· != '#')) heq
      rw [takeWhile_hash hfront, takeWhile_hash hfront'] at htake
      exact htake ▸ h
  have hsplit := List.takeWhile_append_dropWhile (p := Text.isBlank) (l := front)
  rw [hlast, Text.trimLeft]
  cases hdrop : front.dropWhile Text.isBlank with
  | nil =>
    rw [hdrop, List.append_nil] at hsplit
    refine iff_of_true (fun c hc => ?_) rfl
    rw [← hsplit] at hc
    exact Text.blank_takeWhile front c (List.mem_of_mem_getLast? hc)
  | cons c cs =>
    rw [hdrop] at hsplit
    rw [← hsplit, List.getLast?_append_of_ne_nil _ (List.cons_ne_nil c cs), List.getLast?_cons]
    simp

/-- The first number sign of a text, and how the text is cut there. -/
theorem stripComment_trim (hquotes : ∀ c ∈ cs, c ≠ '"' ∧ c ≠ '\'' ∧ c ≠ '\\') :
    (CommentsAtWord cs → stripComment (Text.trim cs) = Text.trim (cs.takeWhile (· != '#'))) ∧
      (¬CommentsAtWord cs → '#' ∈ stripComment (Text.trim cs)) := by
  have hquotes' {ds : List Char} (hsub : ds ⊆ cs) : ∀ c ∈ ds, c ≠ '"' ∧ c ≠ '\'' ∧ c ≠ '\\' :=
    fun c hc => hquotes c (hsub hc)
  by_cases hhash : '#' ∈ cs
  · obtain ⟨front, rest, rfl, hfront⟩ := List.eq_append_cons_of_mem hhash
    have hsub : Text.trimLeft front ⊆ front := (List.dropWhile_suffix _).subset
    have hleft : '#' ∉ Text.trimLeft front := fun h => hfront (hsub h)
    have hquotes'' := hquotes' fun _ h => List.mem_append_left ('#' :: rest) (hsub h)
    have hcore : Text.trim (front ++ '#' :: rest) = Text.trimLeft front ++ '#' :: Text.trimRight rest := by
      unfold Text.trim
      rw [Text.trimLeft_append_cons (by decide), Text.trimRight_append_cons (by decide)]
    rw [commentsAtWord_iff hfront, takeWhile_hash hfront, hcore, Bool.not_eq_true]
    exact ⟨fun h => stripComment_at_word hleft hquotes'' h _, fun h => hash_mem_stripComment hleft hquotes'' h _⟩
  · have htake : cs.takeWhile (· != '#') = cs := by
      rw [List.takeWhile_eq_self_iff]
      intro c hc
      rw [bne_iff_ne]
      rintro rfl
      exact hhash hc
    have hsub := Text.trim_subset cs
    rw [htake]
    refine ⟨fun _ => stripComment_of_not_mem (fun h => hhash (hsub h)) (hquotes' hsub), fun hnot => absurd ?_ hnot⟩
    rintro front rest rfl
    exact absurd (List.mem_append_right _ List.mem_cons_self) hhash

end Messages

section Statements

variable {script : String} {line : Nat} {name t : String} {ts : List Token} {e : Token} {s : TokenStream}

/-- What stands behind an equals sign is assigned. -/
theorem outcome_assign (hs : s.Regular) {column : Nat} (hscan : s.scan true = .ok ⟨"=", .operator, column⟩)
    (hintrinsic : isIntrinsicName name = false) {u : Token}
    (hscan' : (s.past ⟨"=", .operator, column⟩).scan true = .ok u)
    (hword : (u.isWord && u.text == "append") = false) :
    outcome (assign name) s = outcome (value [] >>= fun v => return .assign name false v)
      { s.past ⟨"=", .operator, column⟩ with pending := some u } := by
  have hs' := hs.past hscan (by simp)
  have hlooked : { s with pending := some ⟨"=", .operator, column⟩ : TokenStream }.Regular :=
    ⟨hs.lexicon, hs.boundary, fun _ h => by cases h; exact hscan⟩
  have hnumeric : (⟨"=", .operator, column⟩ : Token).isOperator ":=" = false := by
    simp [Token.isOperator]
  have hequals : (⟨"=", .operator, column⟩ : Token).isOperator "=" = true := by
    simp [Token.isOperator]
  unfold assign
  rw [outcome_bind, hs.outcome_acceptOperator hscan, hnumeric]
  simp only [Bool.false_eq_true, if_false, Bool.not_false, if_true]
  rw [outcome_bind, hlooked.outcome_acceptOperator hscan, hequals]
  simp only [if_true, Bool.not_true, Bool.false_eq_true, if_false, hintrinsic]
  change outcome (acceptWord "append" >>= _) (s.past _) = _
  rw [outcome_bind, hs'.outcome_acceptWord hscan', hword]
  rfl

/-- An assignment of plain tokens is read, and what is assigned comes to the text up to the first number sign. -/
theorem read_assignment (hname : IsWord name.toList) (hkeyword : name ∉ keywords)
    (hintrinsic : isIntrinsicName name = false) (htokens : (lineStream script line t).Yields ts (.ok e))
    (hplain : ∀ u ∈ ts, u.isPlain = true ∨ u.kind = .comment) (happend : ∀ u ∈ ts.head?, u.text ≠ "append") :
    ∃ v, (outcome Program.wholeStatement (lineStream script line (name ++ " = " ++ t))).1 =
        .ok (.assign name false v) ∧
      ∀ r, outcome (Run.valueText v) r = (.ok (beforeHash t), r) := by
  have hs : (lineStream script line (name ++ " = " ++ t)).Regular := TokenStream.regular_lineStream _ _ _
  have hrest : (lineStream script line (name ++ " = " ++ t)).rest = name.toList ++ ' ' :: '=' :: ' ' :: t.toList := by
    change Text.drop (name ++ " = " ++ t).toList 0 = _
    simp
  generalize lineStream script line (name ++ " = " ++ t) = s at hs hrest
  -- the name
  obtain ⟨w, hw, hscan⟩ : ∃ w, w = Token.mk name .identifier s.offset ∧ s.scan true = .ok w := by
    refine ⟨_, rfl, ?_⟩
    have hword := hname.scan endsWord_blank hs.lexicon hrest
    rwa [String.ofList_toList, keywordIndex?_eq_none_iff.mpr hkeyword] at hword
  have hkind : w.kind ≠ .endOfInput := by simp [hw]
  have hs₁ := hs.past hscan hkind
  have hnext : s.rest = [] ++ w.text.toList ++ ' ' :: '=' :: ' ' :: t.toList := by simp [hrest, hw]
  have hrest₁ : (s.past w).rest = ' ' :: '=' :: ' ' :: t.toList :=
    (TokenStream.past_token hs.boundary hnext (by simp [hw])).2
  -- the equals sign
  obtain ⟨column, hcolumn, hscan₁⟩ : ∃ column, column = (s.past w).offset + 1 ∧
      (s.past w).scan true = .ok ⟨"=", .operator, column⟩ := ⟨_, rfl, scan_equals hs₁.lexicon hrest₁⟩
  have hs₂ := hs₁.past hscan₁ (by simp)
  have hblank : Text.Blank [' '] := List.forall_mem_singleton.mpr rfl
  have hnext₁ : (s.past w).rest = [' '] ++ "=".toList ++ ' ' :: t.toList := by simp [hrest₁]
  have hrest₂ : ((s.past w).past ⟨"=", .operator, column⟩).rest = ' ' :: t.toList :=
    (TokenStream.past_token hs₁.boundary hnext₁ hcolumn).2
  -- what is assigned
  have htokens₂ : ((s.past w).past ⟨"=", .operator, column⟩).Yields (ts.map (Token.moved (column + 2)))
      (.ok (e.moved (column + 2))) := by
    refine htokens.moved rfl (TokenStream.regular_lineStream _ _ _) hs₂ hblank ?_ ?_
    · rw [hrest₂]
      exact congrArg (' ' :: ·) (Text.drop_zero _).symm
    · change column + 1 + 1 = 0 + (column + 2)
      omega
  have hplain₂ : ∀ u ∈ ts.map (Token.moved (column + 2)), u.isPlain = true ∨ u.kind = .comment := by
    intro u hu
    obtain ⟨u', hu', rfl⟩ := List.mem_map.mp hu
    exact hplain u' hu'
  obtain ⟨u, hscan₂, hword⟩ : ∃ u, ((s.past w).past ⟨"=", .operator, column⟩).scan true = .ok u ∧
      (u.isWord && u.text == "append") = false := by
    generalize hts : ts.map (Token.moved (column + 2)) = us at htokens₂
    cases htokens₂ with
    | ended hscan hkind => exact ⟨_, hscan, by simp [Token.isWord, hkind]⟩
    | @token _ u _ _ hscan _ _ =>
      cases ts with
      | nil => cases hts
      | cons u' ts =>
        cases hts
        have htext : (u'.moved (column + 2)).text ≠ "append" := happend u' rfl
        exact ⟨_, hscan, by simp [htext]⟩
  have hs₃ : { (s.past w).past ⟨"=", .operator, column⟩ with pending := some u : TokenStream }.Regular :=
    ⟨hs₂.lexicon, hs₂.boundary, fun _ h => by cases h; exact hscan₂⟩
  have htokens₃ := htokens₂.looked (some u)
  obtain ⟨v, s₄, stop, hvalue, hs₄, hscan₄, hstop, htext⟩ := value_of_plain htokens₃ hs₃ hplain₂
  refine ⟨v, ?_, fun r => ?_⟩
  · have hstatement : outcome (statement fun _ => pure ()) s = (.ok (.assign name false v), s₄) := by
      unfold statement
      rw [outcome_bind, hs.outcome_next hscan, hw]
      change outcome (assign name) _ = _
      rw [← hw, outcome_assign hs₁ hscan₁ hintrinsic hscan₂ hword, outcome_bind, hvalue]
      rfl
    unfold Program.wholeStatement
    rw [outcome_bind, hstatement]
    dsimp only
    rw [outcome_bind, hs₄.outcome_expectEnd hscan₄ hstop]
    rfl
  · rw [htext r]
    have hblank : Text.Blank [' '] := List.forall_mem_singleton.mpr rfl
    have hlooked : ({ (s.past w).past ⟨"=", .operator, column⟩ with pending := some u } : TokenStream).rest =
        ' ' :: t.toList := hrest₂
    rw [hlooked, List.takeWhile_cons, if_pos (by decide), ← List.singleton_append, hblank.trim_append]
    rfl

theorem outcome_log (allow : Nat → Reading Unit) (s : TokenStream) : outcome (keywordStatement allow "log") s =
    outcome (restOfLine >>= fun raw => match Template.ofText false (stripComment raw.toList) with
      | .ok template => return .log template
      | .error e => throw (.ofMistake (.escape e))) s := by
  unfold keywordStatement
  rw [outcome_bind, outcome_get]
  rfl

/-- What stands behind the word `log` is read as the template of a message. -/
theorem read_log {template : Template}
    (h : Template.ofText false (stripComment (Text.trim t.toList)) = .ok template) :
    (outcome Program.wholeStatement (lineStream script line ("log " ++ t))).1 = .ok (.log template) := by
  have hs : (lineStream script line ("log " ++ t)).Regular := TokenStream.regular_lineStream _ _ _
  have hrest : (lineStream script line ("log " ++ t)).rest = "log".toList ++ ' ' :: t.toList := by
    change Text.drop ("log " ++ t).toList 0 = _
    simp
  generalize lineStream script line ("log " ++ t) = s at hs hrest
  obtain ⟨index, hindex⟩ : ∃ index, lexicon.keywordIndex? "log" = some index :=
    Option.ne_none_iff_exists'.mp fun hnone => keywordIndex?_eq_none_iff.mp hnone (by simp [keywords])
  obtain ⟨w, hw, hscan⟩ : ∃ w, w = Token.mk "log" (.keyword index) s.offset ∧ s.scan true = .ok w := by
    have hword : IsWord "log".toList := ⟨'l', ['o', 'g'], by simp, by decide, List.all_eq_true.mp rfl⟩
    have hscan := hword.scan endsWord_blank hs.lexicon hrest
    rw [String.ofList_toList, hindex] at hscan
    exact ⟨_, rfl, hscan⟩
  have hnext : s.rest = [] ++ w.text.toList ++ ' ' :: t.toList := by simp [hrest, hw]
  have hrest₁ : (s.past w).rest = ' ' :: t.toList :=
    (TokenStream.past_token hs.boundary hnext (by simp [hw])).2
  have htrimmed : (Text.trimmed (Text.after (s.past w).text (s.past w).offset)).toList = Text.trim t.toList := by
    have hblank : Text.Blank [' '] := List.forall_mem_singleton.mpr rfl
    rw [Text.trimmed, String.toList_ofList, Text.after, String.toList_ofList]
    change Text.trim (s.past w).rest = _
    rw [hrest₁, ← List.singleton_append, hblank.trim_append]
  -- the whole line is taken
  let ended : TokenStream := { s.past w with
    token := .endAt (Text.length s.text), offset := Text.length s.text, pending := none }
  have hended : ended.Regular := by
    refine ⟨hs.lexicon, ?_, fun _ h => by cases h⟩
    change Text.IsBoundary s.text.toList (Text.length s.text)
    rw [Text.length_eq_size]
    exact Text.isBoundary_size_self _
  have hscan' : ended.scan true = .ok (.endAt (Text.length s.text)) := by
    have hnothing : ended.rest = [] := by
      change Text.drop s.text.toList (Text.length s.text) = []
      exact Text.drop_of_size_le (Nat.le_of_eq (Text.length_eq_size _).symm)
    unfold TokenStream.scan
    rw [hnothing]
    rfl
  have hstatement : outcome (statement fun _ => pure ()) s = (.ok (.log template), ended) := by
    unfold statement
    rw [outcome_bind, hs.outcome_next hscan, hw]
    change outcome (keywordStatement _ "log") _ = _
    rw [← hw]
    have hread : outcome restOfLine (s.past w) =
        (.ok (Text.trimmed (Text.after (s.past w).text (s.past w).offset)), ended) := rfl
    rw [outcome_log, outcome_bind, hread]
    dsimp only
    rw [htrimmed, h]
    rfl
  unfold Program.wholeStatement
  rw [outcome_bind, hstatement]
  dsimp only
  rw [outcome_bind, hended.outcome_expectEnd hscan' rfl]
  rfl

/-- No reference stands in front of the comment of a text of plain tokens. -/
theorem not_occurs_trim (h : s.Yields ts (.ok e)) (hs : s.Regular)
    (hplain : ∀ t ∈ ts, t.isPlain = true ∨ t.kind = .comment) (i : Nat) (name : List Char) :
    ¬Occurs (Text.trim (s.rest.takeWhile (· != '#'))) i name := by
  obtain ⟨kept, cut, hkept, hrest, hhash⟩ : ∃ kept cut, s.rest.takeWhile (· != '#') = kept ∧ s.rest = kept ++ cut ∧
      '#' ∉ kept :=
    ⟨_, _, rfl, List.takeWhile_append_dropWhile.symm, hash_notMem_takeWhile _⟩
  rw [hkept]
  rintro ⟨front, behind, hfront, -, hname⟩
  obtain ⟨before, after, -, -, rfl⟩ : ∃ before after, Text.Blank before ∧ Text.Blank after ∧
      kept = before ++ (front ++ (reference name ++ behind) ++ after) := hfront ▸ Text.exists_trim kept
  have hsplit : s.rest = (before ++ front) ++ (reference name ++ (behind ++ after ++ cut)) := by
    rw [hrest]
    simp
  have hfound := hash_before_reference h rfl hs hplain ⟨_, _, hsplit, rfl, hname⟩
  rw [hsplit, List.take_left] at hfound
  refine hhash ?_
  rw [List.append_assoc front, ← List.append_assoc before]
  exact List.mem_append_left _ hfound

end Statements

end LineScript.Script
