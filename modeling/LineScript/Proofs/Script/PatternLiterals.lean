import LineScript.Proofs.Script.Lossless
import LineScript.Proofs.Script.Templates

/-! Pattern literals. Every body can be written between delimiters, and what is written is read as one token, which
stands for that body. -/
namespace LineScript

/-- Whether some characters of a script come next in a stream, behind white space. -/
structure TokenStream.Faces (s : TokenStream) (front gap cs : List Char) : Prop where
  text : s.text.toList = front ++ gap ++ cs
  offset : s.offset = Text.size front
  blank : Text.Blank gap
  lexicon : s.lexicon = Script.lexicon
  pending : ∀ t, s.pending = some t → s.scan true = .ok t

namespace TokenStream.Faces

variable {s : TokenStream} {front gap cs : List Char}

theorem rest (h : s.Faces front gap cs) : s.rest = gap ++ cs := by
  unfold TokenStream.rest
  rw [h.text, h.offset, List.append_assoc, Text.drop_size]

/-- The place behind the white space. -/
theorem positionAt (h : s.Faces front gap cs) :
    s.positionAt (s.offset + Text.size gap) = ⟨s.script, s.line, (front ++ gap).length + 1⟩ := by
  unfold TokenStream.positionAt
  rw [h.text, h.offset, ← Text.size_append, Text.take_size]

end TokenStream.Faces

namespace Script

open Reading
open Template (Occurs)

/-- Whether some characters can be the body of a pattern: single ones that are no backslash, and backslashes that take
the next character along, which is not the delimiter. -/
inductive IsBody (delimiter : Char) : List Char → Prop
  | nil : IsBody delimiter []
  | single {c : Char} {body : List Char} : c ≠ '\\' → IsBody delimiter body → IsBody delimiter (c :: body)
  | pair {c : Char} {body : List Char} : c ≠ delimiter → IsBody delimiter body →
      IsBody delimiter ('\\' :: c :: body)

/-- A body as it is written between delimiters: with a backslash in front of every delimiter. What a backslash takes
along stays as it is. -/
def writtenBody (delimiter : Char) : List Char → List Char
  | [] => []
  | '\\' :: c :: cs => '\\' :: c :: writtenBody delimiter cs
  | c :: cs => (if c = delimiter then ['\\', c] else [c]) ++ writtenBody delimiter cs

/-- What a written body stands for: the body, but between bars a regular expression keeps its backslashes. -/
def meantBody (kind : Search.Kind) (delimiter : Char) (body : List Char) : List Char :=
  if kind = .regex ∧ delimiter = '|' then writtenBody delimiter body else body

section Bodies

variable {delimiter c : Char} {body cs rest name : List Char}

theorem writtenBody_single (hc : c ≠ '\\') :
    writtenBody delimiter (c :: cs) = (if c = delimiter then ['\\', c] else [c]) ++ writtenBody delimiter cs := by
  cases cs with
  | nil => simp [writtenBody]
  | cons d cs => simp [writtenBody, hc]

@[simp] theorem writtenBody_pair (c : Char) (cs : List Char) :
    writtenBody delimiter ('\\' :: c :: cs) = '\\' :: c :: writtenBody delimiter cs := by
  simp [writtenBody]

theorem delimiter_ne (hd : delimiter = '/' ∨ delimiter = '|' ∨ delimiter = '%') :
    delimiter ≠ '\\' ∧ delimiter ≠ '\n' ∧ delimiter ≠ '$' := by
  rcases hd with rfl | rfl | rfl <;> decide

theorem patternBody?_delimiter (cs : List Char) : patternBody? delimiter (delimiter :: cs) = some [delimiter] := by
  unfold patternBody?
  rw [if_pos rfl]

theorem patternBody?_single (hdelimiter : c ≠ delimiter) (hc : c ≠ '\\') :
    patternBody? delimiter (c :: cs) = (patternBody? delimiter cs).map (c :: ·) := by
  rw [patternBody?.eq_def]
  simp only [hdelimiter, hc, if_false]

theorem patternBody?_pair (hdelimiter : delimiter ≠ '\\') (hc : c ≠ '\n') :
    patternBody? delimiter ('\\' :: c :: cs) = (patternBody? delimiter cs).map ('\\' :: c :: ·) := by
  rw [patternBody?.eq_def]
  simp only [hdelimiter.symm, hc, if_false, if_true]

/-- A written body is taken up to the delimiter behind it. -/
theorem IsBody.patternBody? (h : IsBody delimiter body) (hd : delimiter ≠ '\\' ∧ delimiter ≠ '\n')
    (hbreak : '\n' ∉ body) (rest : List Char) :
    patternBody? delimiter (writtenBody delimiter body ++ delimiter :: rest) =
      some (writtenBody delimiter body ++ [delimiter]) := by
  induction h with
  | nil => exact patternBody?_delimiter rest
  | @single c body hc _ ih =>
    have hbody := (not_or.mp (mt List.mem_cons.mpr hbreak)).2
    rw [writtenBody_single hc]
    by_cases hdelimiter : c = delimiter
    · subst hdelimiter
      rw [if_pos rfl, List.append_assoc, List.cons_append, List.singleton_append, patternBody?_pair hd.1 hd.2, ih hbody]
      rfl
    · rw [if_neg hdelimiter, List.append_assoc, List.singleton_append, patternBody?_single hdelimiter hc, ih hbody]
      rfl
  | @pair c body hc _ ih =>
    simp only [List.mem_cons, not_or] at hbreak
    obtain ⟨-, hnewline, hbody⟩ := hbreak
    rw [writtenBody_pair, List.cons_append, List.cons_append, patternBody?_pair hd.1 (Ne.symm hnewline), ih hbody]
    rfl

theorem IsBody.splitBody (h : IsBody delimiter body) (hd : delimiter ≠ '\\') (flags : List Char) :
    splitBody delimiter false (writtenBody delimiter body ++ delimiter :: flags) =
      (writtenBody delimiter body, flags) := by
  induction h with
  | nil => simp [writtenBody, Script.splitBody, hd]
  | @single c body hc _ ih =>
    rw [writtenBody_single hc]
    by_cases hdelimiter : c = delimiter
    · subst hdelimiter
      simp [Script.splitBody, ih]
    · simp [Script.splitBody, hdelimiter, hc, ih]
  | pair _ _ ih => simp [Script.splitBody, ih]

/-- No written body starts with the delimiter. -/
theorem IsBody.head?_written (h : IsBody delimiter body) (hd : delimiter ≠ '\\') :
    (writtenBody delimiter body).head? ≠ some delimiter := by
  cases h with
  | nil => simp [writtenBody]
  | @single c body hc _ =>
    rw [writtenBody_single hc]
    by_cases hdelimiter : c = delimiter
    · simp [hdelimiter, hd.symm]
    · simp [hdelimiter]
  | pair => simp [hd.symm]

/-- A character stays that is no backslash in front of a delimiter. -/
theorem unescapeDelimiter_cons (h : c = '\\' → cs.head? ≠ some delimiter) :
    unescapeDelimiter delimiter (c :: cs) = c :: unescapeDelimiter delimiter cs := by
  cases cs with
  | nil => rfl
  | cons d cs =>
    rw [unescapeDelimiter, if_neg]
    rintro ⟨hc, rfl⟩
    exact h hc rfl

/-- Taking the backslashes from the delimiters leads back to the body. -/
theorem IsBody.unescapeDelimiter (h : IsBody delimiter body) (hd : delimiter ≠ '\\') :
    unescapeDelimiter delimiter (writtenBody delimiter body) = body := by
  induction h with
  | nil => rfl
  | @single c body hc hbody ih =>
    rw [writtenBody_single hc]
    by_cases hdelimiter : c = delimiter
    · subst hdelimiter
      simp [Script.unescapeDelimiter, ih]
    · rw [if_neg hdelimiter, List.singleton_append, unescapeDelimiter_cons (fun h => absurd h hc), ih]
  | @pair c body hc hbody ih =>
    have hhead : (c :: writtenBody delimiter body).head? ≠ some delimiter := by simpa using hc
    have hbehind := hbody.head?_written hd
    rw [writtenBody_pair, unescapeDelimiter_cons fun _ => hhead, unescapeDelimiter_cons fun _ => hbehind, ih]

/-- What starts a written body without a backslash starts the body. -/
theorem IsBody.of_written_append (h : IsBody delimiter body) {front : List Char} (hfront : '\\' ∉ front)
    (heq : writtenBody delimiter body = front ++ rest) : ∃ behind, body = front ++ behind := by
  induction front generalizing body with
  | nil => exact ⟨body, rfl⟩
  | cons x front ih =>
    obtain ⟨hx, hbehind⟩ := not_or.mp (mt List.mem_cons.mpr hfront)
    cases h with
    | nil => cases heq
    | @single c body hc hbody =>
      rw [writtenBody_single hc] at heq
      by_cases hdelimiter : c = delimiter
      · rw [if_pos hdelimiter] at heq
        exact absurd (List.cons.inj heq).1 hx
      · rw [if_neg hdelimiter] at heq
        obtain ⟨rfl, htail⟩ := List.cons.inj heq
        obtain ⟨behind, rfl⟩ := ih hbody hbehind htail
        exact ⟨behind, rfl⟩
    | pair =>
      rw [writtenBody_pair] at heq
      exact absurd (List.cons.inj heq).1 hx

/-- A reference in a written body is one of the body. -/
theorem IsBody.occurs (h : IsBody delimiter body) (hd : delimiter ≠ '$') {i : Nat}
    (hi : Occurs (writtenBody delimiter body) i name) : ∃ j, Occurs body j name := by
  have hbackslash {cs : List Char} {i : Nat} (h : Occurs ('\\' :: cs) i name) : ∃ j, Occurs cs j name := by
    obtain ⟨j, -, hj⟩ := (Template.occurs_cons (Template.reference?_of_ne (by decide))).mp h
    exact ⟨j, hj⟩
  have hbehind {cs : List Char} {c : Char} {j : Nat} (h : Occurs cs j name) : Occurs (c :: cs) (j + 1) name :=
    Template.occurs_succ.mpr h
  -- a reference at the start of a written body starts the body, one further on lies in what is behind
  have hsingle {c : Char} {body : List Char} {i : Nat} (hc : c ≠ '\\') (hdelimiter : c ≠ delimiter)
      (hbody : IsBody delimiter body) (hi : Occurs (c :: writtenBody delimiter body) i name)
      (ih : ∀ {i}, Occurs (writtenBody delimiter body) i name → ∃ j, Occurs body j name) :
      ∃ j, Occurs (c :: body) j name := by
    cases i with
    | zero =>
      obtain ⟨before, behind, heq, hbefore, hname⟩ := hi
      rw [List.length_eq_zero_iff.mp hbefore, List.nil_append] at heq
      have hwritten : writtenBody delimiter (c :: body) = Template.reference name ++ behind := by
        rw [writtenBody_single hc, if_neg hdelimiter, ← heq]
        rfl
      obtain ⟨rest, hrest⟩ := (IsBody.single hc hbody).of_written_append hname.no_backslash hwritten
      exact ⟨0, [], rest, hrest, rfl, hname⟩
    | succ i =>
      obtain ⟨j, hj⟩ := ih (Template.occurs_succ.mp hi)
      exact ⟨j + 1, hbehind hj⟩
  induction h generalizing i with
  | nil => exact absurd hi Template.not_occurs_nil
  | @single c body hc hbody ih =>
    rw [writtenBody_single hc] at hi
    by_cases hdelimiter : c = delimiter
    · rw [if_pos hdelimiter, hdelimiter] at hi
      obtain ⟨j, hj⟩ := hbackslash hi
      obtain ⟨k, -, hk⟩ := (Template.occurs_cons (Template.reference?_of_ne hd)).mp hj
      obtain ⟨m, hm⟩ := ih hk
      exact ⟨m + 1, hbehind hm⟩
    · rw [if_neg hdelimiter] at hi
      exact hsingle hc hdelimiter hbody hi ih
  | @pair c body hc hbody ih =>
    obtain ⟨j, hj⟩ := hbackslash hi
    by_cases hescape : c = '\\'
    · subst hescape
      obtain ⟨k, hk⟩ := hbackslash hj
      obtain ⟨m, hm⟩ := ih hk
      exact ⟨m + 2, hbehind (hbehind hm)⟩
    · obtain ⟨m, hm⟩ := hsingle hescape hc hbody hj ih
      exact ⟨m + 1, hbehind hm⟩

/-- The token of a pattern: its letter, the written body between delimiters and the flags. -/
def patternLiteral (letter delimiter : Char) (body flags : List Char) (column : Nat) : Token :=
  ⟨String.ofList (letter :: delimiter :: (writtenBody delimiter body ++ delimiter :: flags)), .special 0, column⟩

end Bodies

section Literals

variable {letter delimiter : Char} {kind : Search.Kind} {body flags behind front gap : List Char} {s : TokenStream}

theorem kindOf?_eq_some (h : kindOf? letter = some kind) : letter = 'm' ∨ letter = 's' ∨ letter = 'r' := by
  unfold kindOf? at h
  split at h
  · exact .inl rfl
  · exact .inr (.inl rfl)
  · exact .inr (.inr rfl)
  · cases h

theorem isPatternFlag_iff {c : Char} : isPatternFlag c = true ↔ c ∈ "iLBM^$<>".toList :=
  List.contains_iff_mem

theorem isPatternFlag_of_blank {c : Char} (hc : Text.isBlank c = true) : isPatternFlag c = false := by
  have hnone : "iLBM^$<>".toList.any Text.isBlank = false := by decide
  by_contra hflag
  rw [Bool.not_eq_false, isPatternFlag_iff] at hflag
  exact List.any_eq_false.mp hnone c hflag hc

/-- A written pattern is taken up to the white space behind its flags. -/
theorem IsBody.patternToken? (h : IsBody delimiter body) (hkind : kindOf? letter = some kind)
    (hd : delimiter = '/' ∨ delimiter = '|' ∨ delimiter = '%') (hbreak : '\n' ∉ body)
    (hflags : ∀ c ∈ flags, c ∈ "iLBM^$<>".toList) (hbehind : ∀ c ∈ behind.head?, Text.isBlank c = true) :
    patternToken? (letter :: delimiter :: (writtenBody delimiter body ++ delimiter :: flags ++ behind)) =
      some (letter :: delimiter :: (writtenBody delimiter body ++ delimiter :: flags)) := by
  obtain ⟨hbackslash, hnewline, -⟩ := delimiter_ne hd
  have htaken := h.patternBody? ⟨hbackslash, hnewline⟩ hbreak (flags ++ behind)
  have hrest : (flags ++ behind).takeWhile isPatternFlag = flags := by
    rw [List.takeWhile_append_of_pos fun c hc => isPatternFlag_iff.mpr (hflags c hc)]
    cases behind with
    | nil => exact List.append_nil flags
    | cons c cs =>
      rw [List.takeWhile_cons, isPatternFlag_of_blank (hbehind c rfl)]
      exact List.append_nil flags
  have hdrop : (writtenBody delimiter body ++ delimiter :: (flags ++ behind)).drop
      (writtenBody delimiter body ++ [delimiter]).length = flags ++ behind := by
    rw [List.append_cons (writtenBody delimiter body) delimiter (flags ++ behind), List.drop_left]
  unfold Script.patternToken?
  simp only [List.append_assoc, List.cons_append, htaken, kindOf?_eq_some hkind, hd, and_self, if_true,
    Option.map_some, hdrop, hrest, List.nil_append]

/-- The body and the flags of a written pattern, with the backslashes that the body is to have. -/
theorem IsBody.outcome_patternOf (h : IsBody delimiter body) (hkind : kindOf? letter = some kind)
    (hd : delimiter = '/' ∨ delimiter = '|' ∨ delimiter = '%') (hname : ∀ i name, ¬Occurs body i name)
    (flags : List Char) (column : Nat) (s : TokenStream) :
    outcome (patternOf (patternLiteral letter delimiter body flags column)) s =
      match Search.Expression.new (String.ofList (meantBody kind delimiter body)) kind (String.ofList flags) with
      | .ok x => (.ok ⟨kind, [.text (String.ofList (meantBody kind delimiter body))], String.ofList flags, some x⟩, s)
      | .error r => (.error ((Error.ofMistake (.pattern r)).located (s.positionAt column)), s) := by
  obtain ⟨hbackslash, -, hdollar⟩ := delimiter_ne hd
  have hmeant : (if (kind == .regex && delimiter == '|') = true then writtenBody delimiter body
      else Script.unescapeDelimiter delimiter (writtenBody delimiter body)) = meantBody kind delimiter body := by
    rw [h.unescapeDelimiter hbackslash]
    simp only [meantBody, Bool.and_eq_true, beq_iff_eq]
  have hnone : ∀ i name, ¬Occurs (meantBody kind delimiter body) i name := by
    intro i name hi
    unfold meantBody at hi
    split at hi
    · obtain ⟨j, hj⟩ := h.occurs hdollar hi
      exact hname j name hj
    · exact hname i name hi
  unfold patternOf
  simp only [patternLiteral, String.toList_ofList, hkind, h.splitBody hbackslash, hmeant,
    Template.ofText_of_not_occurs hnone, pure_bind, Template.asLiteral?, Option.map_some, String.append_empty]
  cases Search.Expression.new (String.ofList (meantBody kind delimiter body)) kind (String.ofList flags) with
  | ok x => exact outcome_pure _ _
  | error r => rfl

/-- Pattern literals carry every body. A body that is written between delimiters, with a backslash in front of every
delimiter, is read together with its letter and its flags as one token, a pattern. Where a pattern is expected it has
the kind of the letter, the flags and the body as it was before it was written, compiled, or else it is refused for the
reason that the body cannot be compiled, where the token begins. Only a regular expression between bars keeps the
backslashes in front of its bars. -/
theorem pattern_literals {t : Token}
    (hs : s.Faces front gap (letter :: delimiter :: (writtenBody delimiter body ++ delimiter :: flags) ++ behind))
    (hkind : kindOf? letter = some kind) (hd : delimiter = '/' ∨ delimiter = '|' ∨ delimiter = '%')
    (hbody : IsBody delimiter body) (hbreak : '\n' ∉ body) (hname : ∀ i name, ¬Occurs body i name)
    (hflags : ∀ c ∈ flags, c ∈ "iLBM^$<>".toList) (hbehind : ∀ c ∈ behind.head?, Text.isBlank c = true)
    (ht : t = patternLiteral letter delimiter body flags (s.offset + Text.size gap)) :
    s.scan true = .ok t ∧ classOf? t = some .pattern ∧ outcome expectPattern s =
      match Search.Expression.new (String.ofList (meantBody kind delimiter body)) kind (String.ofList flags) with
      | .ok x => (.ok ⟨kind, [.text (String.ofList (meantBody kind delimiter body))], String.ofList flags, some x⟩,
          s.past t)
      | .error r => (.error ((Error.ofMistake (.pattern r)).located ⟨s.script, s.line, (front ++ gap).length + 1⟩),
          s.past t) := by
  have htaken := hbody.patternToken? hkind hd hbreak hflags hbehind
  have hletter : Text.isBlank letter = false := by
    rcases kindOf?_eq_some hkind with rfl | rfl | rfl <;> rfl
  have hclass : Lexicon.classToken?
      (letter :: delimiter :: (writtenBody delimiter body ++ delimiter :: flags ++ behind)) 0 lexicon.classes =
        some (0, letter :: delimiter :: (writtenBody delimiter body ++ delimiter :: flags)) := by
    have hfirst : lexicon.classes = ⟨patternToken?⟩ :: lexicon.classes.tail := rfl
    rw [hfirst]
    simp only [Lexicon.classToken?, htaken]
  have hscan : s.scan true = .ok t := by
    unfold TokenStream.scan
    rw [hs.rest, List.cons_append, List.cons_append, hs.lexicon, Lexicon.scan_gap _ _ _ hs.blank hletter, if_pos rfl,
      hclass, ht]
    rfl
  have hpattern : classOf? t = some .pattern := by
    rw [ht]
    rfl
  refine ⟨hscan, hpattern, ?_⟩
  have hplace : (s.past t).positionAt (s.offset + Text.size gap) =
      ⟨s.script, s.line, (front ++ gap).length + 1⟩ := hs.positionAt
  have hread := hbody.outcome_patternOf hkind hd hname flags (s.offset + Text.size gap) (s.past t)
  rw [← ht, hplace] at hread
  have hnext : outcome next s = (.ok t, s.past t) := by
    rw [outcome_next s hs.pending, hscan]
    rfl
  unfold expectPattern
  rw [outcome_bind, hnext]
  simp only [hpattern, beq_self_eq_true, if_true, hread]

theorem pattern_literals_bar_and_backslashes :
    let s := lineStream "s" 1 "s|a\\|b\\\\|i"
    let t := patternLiteral 's' '|' "a|b\\\\".toList ['i'] 0
    t.text = "s|a\\|b\\\\|i" ∧ s.scan true = .ok t ∧
      ∃ x, outcome expectPattern s = (.ok ⟨.literal, [.text "a|b\\\\"], "i", some x⟩, s.past t) := by
  intro s t
  have hs : s.Faces [] [] ('s' :: '|' :: (writtenBody '|' "a|b\\\\".toList ++ '|' :: ['i']) ++ []) :=
    ⟨by decide, rfl, List.forall_mem_nil _, rfl, fun _ h => by cases h⟩
  have hbody : IsBody '|' "a|b\\\\".toList :=
    .single (by decide) (.single (by decide) (.single (by decide) (.pair (by decide) .nil)))
  have hname : ∀ i name, ¬Occurs "a|b\\\\".toList i name := by
    rintro i name ⟨before, behind, heq, -⟩
    have hdollar : '$' ∉ "a|b\\\\".toList := by decide
    exact hdollar (heq ▸ by simp [Template.reference])
  have hkind : kindOf? 's' = some .literal := rfl
  obtain ⟨hscan, -, hread⟩ := pattern_literals hs hkind (.inr (.inl rfl)) hbody (by decide) hname
    (List.forall_mem_singleton.mpr (by decide)) (fun _ h => by cases h) rfl
  have hcompiled : (Search.Expression.new (String.ofList (meantBody .literal '|' "a|b\\\\".toList)) .literal
      (String.ofList ['i'])).isOk = true := by
    decide +kernel
  cases hx : Search.Expression.new (String.ofList (meantBody .literal '|' "a|b\\\\".toList)) .literal
      (String.ofList ['i']) with
  | ok x =>
    rw [hx] at hread
    exact ⟨by decide, hscan, x, hread⟩
  | error r =>
    rw [hx] at hcompiled
    cases hcompiled

end Literals

end Script
end LineScript
