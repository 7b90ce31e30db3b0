import LineScript.Proofs.Script.Cuts
import LineScript.Proofs.Token.Quoted

/-! Templates are written as the texts that they are read from, and their variables are the references there. -/
namespace LineScript.Template

/-- Whether some characters are a name that a reference may hold: at most two underscores, a letter, and then letters,
digits and underscores. -/
def IsName (name : List Char) : Prop :=
  ∃ marks c tail, name = marks ++ c :: tail ∧ marks.length ≤ 2 ∧ (∀ m ∈ marks, m = '_') ∧ c.isAlpha = true ∧
    ∀ d ∈ tail, (d.isAlphanum || d == '_') = true

/-- A reference as it is written. -/
def reference (name : List Char) : List Char :=
  '$' :: '(' :: name ++ [')']

/-- Whether a reference to a name stands in a text behind some number of characters. -/
def Occurs (raw : List Char) (i : Nat) (name : List Char) : Prop :=
  ∃ before behind, raw = before ++ (reference name ++ behind) ∧ before.length = i ∧ IsName name

/-- A part as it is written. -/
def partText : TemplatePart → List Char
  | .text s => s.toList
  | .variable name => reference name.toList

/-- A template as it is written. -/
def written (ps : Template) : List Char :=
  ps.flatMap partText

/-- Whether a variable of a name is written behind some number of characters. -/
def Refers (ps : Template) (i : Nat) (name : List Char) : Prop :=
  ∃ before after, ps = before ++ .variable (String.ofList name) :: after ∧ (written before).length = i

/-- Whether no text of a template is empty, and none stands next to another. -/
structure Tidy (ps : Template) : Prop where
  nonempty : ∀ s, .text s ∈ ps → s ≠ ""
  apart : ∀ before s t after, ps ≠ before ++ .text s :: .text t :: after

/-- Whether a text stands for some characters: each for itself, but where there are escapes, a backslash and what is
behind it for the character of the escape. -/
inductive Decoded (escapes : Bool) : List Char → List Char → Prop
  | nil : Decoded escapes [] []
  | plain {c : Char} {cs value : List Char} : (escapes && c == '\\') = false → Decoded escapes cs value →
      Decoded escapes (c :: cs) (c :: value)
  | escaped {d : Char} {text cs value : List Char} : escapes = true → Token.Escaped true text d →
      Decoded escapes cs value → Decoded escapes ('\\' :: (text ++ cs)) (d :: value)

section Names

variable {name n cs rest raw front behind : List Char} {i j : Nat}

theorem IsName.parts (h : IsName name) : ∀ d ∈ name, (d.isAlphanum || d == '_') = true := by
  obtain ⟨marks, c, tail, rfl, -, hmarks, hc, htail⟩ := h
  intro d hd
  rcases List.mem_append.mp hd with hd | hd
  · simp [hmarks d hd]
  · rcases List.mem_cons.mp hd with rfl | hd
    · simp [Char.isAlphanum, hc]
    · exact htail d hd

theorem IsName.no_dollar (h : IsName name) : '$' ∉ name :=
  fun hmem => absurd (h.parts _ hmem) (by decide)

/-- What a reference is written with. -/
theorem IsName.of_mem_reference (h : IsName name) {d : Char} (hd : d ∈ reference name) :
    d = '$' ∨ d = '(' ∨ d = ')' ∨ (d.isAlphanum || d == '_') = true := by
  simp only [reference, List.cons_append, List.mem_cons, List.mem_append, List.not_mem_nil, or_false] at hd
  rcases hd with hd | hd | hd | hd
  · exact .inl hd
  · exact .inr (.inl hd)
  · exact .inr (.inr (.inr (h.parts d hd)))
  · exact .inr (.inr (.inl hd))

theorem isName_of_name? (h : name? cs = some (name, rest)) : IsName name := by
  unfold name? at h
  dsimp only at h
  split at h
  · rename_i c tail hdrop
    split at h
    · rename_i hc
      cases h
      have hlength : ((cs.take 2).takeWhile (· == '_')).length ≤ 2 :=
        Nat.le_trans (List.takeWhile_prefix _).length_le (List.length_take_le 2 cs)
      have hmarks : ∀ m ∈ (cs.take 2).takeWhile (· == '_'), m = '_' := fun m hm =>
        eq_of_beq (List.all_eq_true.mp List.all_takeWhile m hm)
      exact ⟨_, c, _, rfl, hlength, hmarks, hc, List.all_eq_true.mp List.all_takeWhile⟩
    · cases h
  · cases h

/-- A name is read up to what cannot go on with it. -/
theorem IsName.name? {c : Char} (h : IsName name) (hc : (c.isAlphanum || c == '_') = false) (cs : List Char) :
    name? (name ++ c :: cs) = some (name, c :: cs) := by
  obtain ⟨marks, d, tail, rfl, hlength, hmarks, hd, htail⟩ := h
  have hunderscore : (d == '_') = false := by
    rw [beq_eq_false_iff_ne]
    rintro rfl
    exact absurd hd (by decide)
  have htake : ((marks ++ d :: (tail ++ c :: cs)).take 2).takeWhile (· == '_') = marks := by
    match marks, hlength with
    | [], _ => simp [hunderscore]
    | [m], _ => simp [hunderscore, hmarks m List.mem_cons_self]
    | [m, m'], _ => simp [hmarks m (by simp), hmarks m' (by simp)]
  have hpart : (tail ++ c :: cs).takeWhile (fun c => c.isAlphanum || c == '_') = tail := by
    rw [List.takeWhile_append_of_pos htail, List.takeWhile_cons, hc]
    exact List.append_nil tail
  have hrest : (tail ++ c :: cs).dropWhile (fun c => c.isAlphanum || c == '_') = c :: cs := by
    rw [List.dropWhile_append_of_pos htail, List.dropWhile_cons, hc]
    rfl
  unfold Template.name?
  dsimp only
  rw [List.append_assoc, List.cons_append, htake, List.drop_left]
  dsimp only
  rw [if_pos hd, hpart, hrest]

theorem reference?_eq_some_iff : reference? cs = some (name, rest) ↔ cs = reference name ++ rest ∧ IsName name := by
  constructor
  · intro h
    unfold reference? at h
    split at h
    · split at h
      · rename_i hname
        cases h
        refine ⟨?_, isName_of_name? hname⟩
        rw [← Script.append_of_name? hname]
        simp [reference]
      · cases h
    · cases h
  · rintro ⟨rfl, hname⟩
    have hread : name? (name ++ ')' :: rest) = some (name, ')' :: rest) := hname.name? (by decide) rest
    have hcs : reference name ++ rest = '$' :: '(' :: (name ++ ')' :: rest) := by simp [reference]
    rw [hcs]
    simp only [reference?, hread]

theorem reference?_of_ne {c : Char} (hc : c ≠ '$') : reference? (c :: cs) = none := by
  unfold reference?
  split
  · rename_i heq
    exact absurd (List.cons.inj heq).1 hc
  · rfl

end Names

section Occurrences

variable {name n cs raw front behind : List Char} {i j : Nat}

theorem occurs_iff : Occurs raw i name ↔ ∃ behind, reference? (raw.drop i) = some (name, behind) := by
  constructor
  · rintro ⟨before, behind, rfl, rfl, hname⟩
    rw [List.drop_left]
    exact ⟨behind, reference?_eq_some_iff.mpr ⟨rfl, hname⟩⟩
  · rintro ⟨behind, h⟩
    obtain ⟨hdrop, hname⟩ := reference?_eq_some_iff.mp h
    have hi : i ≤ raw.length := by
      by_contra hi
      rw [List.drop_eq_nil_of_le (by omega)] at hdrop
      exact absurd hdrop.symm (by simp [reference])
    exact ⟨raw.take i, behind, by rw [← hdrop, List.take_append_drop], List.length_take_of_le hi, hname⟩

theorem not_occurs_nil : ¬Occurs [] i name := by
  rintro ⟨before, behind, h, -⟩
  exact absurd h.symm (by simp [reference])

theorem occurs_cons {c : Char} (h : reference? (c :: cs) = none) :
    Occurs (c :: cs) i name ↔ ∃ j, i = j + 1 ∧ Occurs cs j name := by
  cases i with
  | zero => simp [occurs_iff, h]
  | succ i => simp [occurs_iff]

theorem occurs_append (h : '$' ∉ front) :
    Occurs (front ++ cs) i name ↔ ∃ j, i = front.length + j ∧ Occurs cs j name := by
  induction front generalizing i with
  | nil => simp
  | cons c front ih =>
    obtain ⟨hc, hfront⟩ := not_or.mp (mt List.mem_cons.mpr h)
    rw [List.cons_append, occurs_cons (reference?_of_ne (Ne.symm hc)), List.length_cons]
    constructor
    · rintro ⟨j, rfl, hj⟩
      obtain ⟨k, rfl, hk⟩ := (ih hfront).mp hj
      exact ⟨k, by omega, hk⟩
    · rintro ⟨k, rfl, hk⟩
      exact ⟨front.length + k, by omega, (ih hfront).mpr ⟨k, rfl, hk⟩⟩

theorem occurs_succ {c : Char} : Occurs (c :: cs) (i + 1) name ↔ Occurs cs i name := by
  rw [occurs_iff, occurs_iff, List.drop_succ_cons]

/-- A reference is the only one that starts in it. -/
theorem occurs_reference (hn : IsName n) : Occurs (reference n ++ cs) i name ↔
    i = 0 ∧ name = n ∨ ∃ j, i = (reference n).length + j ∧ Occurs cs j name := by
  have hread : reference? (reference n ++ cs) = some (n, cs) := reference?_eq_some_iff.mpr ⟨rfl, hn⟩
  have hdollar : '$' ∉ '(' :: n ++ [')'] := by simp [hn.no_dollar]
  cases i with
  | zero =>
    have hzero : ¬∃ j, 0 = (reference n).length + j ∧ Occurs cs j name := by
      rintro ⟨j, hj, -⟩
      simp only [reference, List.length_append, List.length_cons] at hj
      omega
    rw [occurs_iff, List.drop_zero, hread, or_iff_left hzero]
    simp [eq_comm]
  | succ i =>
    have hdrop : Occurs (reference n ++ cs) (i + 1) name ↔ Occurs (('(' :: n ++ [')']) ++ cs) i name := by
      rw [occurs_iff, occurs_iff]
      rfl
    have hlength : (reference n).length = ('(' :: n ++ [')']).length + 1 := rfl
    rw [hdrop, occurs_append hdollar, hlength, or_iff_right (by simp)]
    constructor
    · rintro ⟨j, rfl, hj⟩
      exact ⟨j, by omega, hj⟩
    · rintro ⟨j, hi, hj⟩
      exact ⟨j, by omega, hj⟩

/-- No reference overlaps another. -/
theorem Occurs.disjoint (h : Occurs raw i n) (h' : Occurs raw j name) (hij : i ≤ j) :
    i = j ∧ n = name ∨ i + (reference n).length ≤ j := by
  obtain ⟨before, behind, rfl, rfl, hn⟩ := h
  obtain ⟨k, rfl⟩ := Nat.exists_eq_add_of_le hij
  have hk : Occurs (reference n ++ behind) k name := by
    rwa [occurs_iff, ← List.drop_drop, List.drop_left, ← occurs_iff] at h'
  rcases (occurs_reference hn).mp hk with ⟨rfl, rfl⟩ | ⟨m, rfl, -⟩
  · exact .inl ⟨rfl, rfl⟩
  · exact .inr (by omega)

end Occurrences

section Parts

variable {ps qs : Template} {name : List Char} {i : Nat}

@[simp] theorem written_nil : written [] = [] := rfl

@[simp] theorem written_cons (p : TemplatePart) (ps : Template) : written (p :: ps) = partText p ++ written ps := rfl

@[simp] theorem written_append (ps qs : Template) : written (ps ++ qs) = written ps ++ written qs :=
  List.flatMap_append

@[simp] theorem written_textPart (seen : List Char) : written (textPart seen) = seen.reverse := by
  unfold textPart
  split
  · rename_i h
    rw [List.isEmpty_iff.mp h]
    rfl
  · simp [written, partText]

theorem not_refers_nil : ¬Refers [] i name := by
  rintro ⟨before, after, h, -⟩
  cases before <;> cases h

theorem refers_cons {p : TemplatePart} : Refers (p :: ps) i name ↔
    i = 0 ∧ p = .variable (String.ofList name) ∨ ∃ j, i = (partText p).length + j ∧ Refers ps j name := by
  constructor
  · rintro ⟨before, after, h, rfl⟩
    cases before with
    | nil =>
      cases h
      exact .inl ⟨rfl, rfl⟩
    | cons q before =>
      cases h
      exact .inr ⟨(written before).length, by simp, before, after, rfl, rfl⟩
  · rintro (⟨rfl, rfl⟩ | ⟨j, rfl, before, after, rfl, rfl⟩)
    · exact ⟨[], ps, rfl, rfl⟩
    · exact ⟨p :: before, after, rfl, by simp⟩

theorem refers_textPart_append {seen : List Char} :
    Refers (textPart seen ++ ps) i name ↔ ∃ j, i = seen.length + j ∧ Refers ps j name := by
  unfold textPart
  split
  · rename_i h
    rw [List.isEmpty_iff.mp h]
    simp
  · simp [refers_cons, partText]

theorem Tidy.nil : Tidy [] :=
  ⟨fun _ h => (nomatch h), fun before _ _ _ h => by cases before <;> cases h⟩

theorem Tidy.variable {v : String} (h : Tidy ps) : Tidy (.variable v :: ps) := by
  constructor
  · intro s hs
    rcases List.mem_cons.mp hs with hs | hs
    · cases hs
    · exact h.nonempty s hs
  · intro before s t after heq
    cases before with
    | nil => cases heq
    | cons p before => exact h.apart before s t after (List.cons.inj heq).2

theorem Tidy.text {s : String} (h : Tidy ps) (hs : s ≠ "") (hhead : ∀ t, ps.head? ≠ some (.text t)) :
    Tidy (.text s :: ps) := by
  constructor
  · intro t ht
    rcases List.mem_cons.mp ht with ht | ht
    · cases ht
      exact hs
    · exact h.nonempty t ht
  · intro before t u after heq
    cases before with
    | nil =>
      cases heq
      exact hhead u rfl
    | cons p before => exact h.apart before t u after (List.cons.inj heq).2

theorem Tidy.textPart_append (h : Tidy ps) (seen : List Char) (hhead : ∀ t, ps.head? ≠ some (.text t)) :
    Tidy (textPart seen ++ ps) := by
  unfold textPart
  split
  · exact h
  · rename_i hseen
    refine h.text (fun hempty => hseen ?_) hhead
    rw [String.ofList_eq_empty_iff, List.reverse_eq_nil_iff] at hempty
    rw [hempty]
    rfl

theorem tidy_textPart (seen : List Char) : Tidy (textPart seen) := by
  have h := Tidy.nil.textPart_append seen (fun _ h => nomatch h)
  rwa [List.append_nil] at h

/-- A template without variables is one text. -/
theorem Tidy.eq_of_no_variable (h : Tidy ps) (hvariable : ∀ v, .variable v ∉ ps) (hne : ps ≠ []) :
    ps = [.text (String.ofList (written ps))] := by
  match ps with
  | [.text s] => simp [written, partText]
  | .text s :: .text t :: ps => exact absurd rfl (h.apart [] s t ps)
  | .text _ :: .variable v :: _ => exact absurd (by simp) (hvariable v)
  | .variable v :: _ => exact absurd List.mem_cons_self (hvariable v)

end Parts

section Reading

variable {escapes : Bool} {fuel : Nat} {seen cs raw value name : List Char}

theorem decoded_raw (raw : List Char) : Decoded false raw raw := by
  induction raw with
  | nil => exact .nil
  | cons c raw ih => exact .plain rfl ih

/-- What has no backslash stands for itself. -/
theorem Decoded.of_append (hcs : '\\' ∉ cs) (h : Decoded escapes (cs ++ raw) value) :
    ∃ rest, value = cs ++ rest ∧ Decoded escapes raw rest := by
  induction cs generalizing value with
  | nil => exact ⟨value, rfl, h⟩
  | cons c cs ih =>
    obtain ⟨hc, hcs⟩ := not_or.mp (mt List.mem_cons.mpr hcs)
    rw [List.cons_append] at h
    generalize htail : cs ++ raw = tail at h
    cases h with
    | plain _ h =>
      subst htail
      obtain ⟨rest, rfl, hrest⟩ := ih hcs h
      exact ⟨rest, rfl, hrest⟩
    | escaped => exact absurd rfl hc

theorem IsName.no_backslash (h : IsName name) : '\\' ∉ reference name :=
  fun hmem => absurd (h.of_mem_reference hmem) (by decide)

/-- What can be decoded is read as a tidy template, which is written as the decoded characters. -/
theorem Decoded.partsOf (h : Decoded escapes raw value) (hfuel : raw.length < fuel) (seen : List Char) :
    ∃ ps, partsOf escapes fuel seen raw = .ok ps ∧ written ps = seen.reverse ++ value ∧ Tidy ps := by
  induction fuel generalizing raw value seen with
  | zero => omega
  | succ fuel ih =>
    cases raw with
    | nil =>
      cases h
      exact ⟨textPart seen, rfl, by simp, tidy_textPart seen⟩
    | cons c cs =>
      rw [List.length_cons] at hfuel
      unfold Template.partsOf
      cases href : reference? (c :: cs) with
      | some found =>
        obtain ⟨name, rest⟩ := found
        obtain ⟨hraw, hname⟩ := reference?_eq_some_iff.mp href
        rw [hraw] at h
        obtain ⟨value, rfl, hrest⟩ := h.of_append hname.no_backslash
        have hlength := congrArg List.length hraw
        simp only [List.length_cons, List.length_append, reference] at hlength
        obtain ⟨ps, hps, hwritten, htidy⟩ := ih hrest (by omega) []
        refine ⟨_, congrArg (Except.map _) hps, ?_, ?_⟩
        · simp [hwritten, partText]
        · exact htidy.variable.textPart_append seen (fun _ h => nomatch h)
      | none =>
        dsimp only
        cases h with
        | plain hc hcs =>
          rw [hc]
          obtain ⟨ps, hps, hwritten, htidy⟩ := ih hcs (by omega) (c :: seen)
          exact ⟨ps, hps, by simp [hwritten], htidy⟩
        | @escaped d text cs value hescapes htext hcs =>
          have hread : Token.escape (text ++ cs) = .ok (d, cs) := Token.escape_eq_ok_iff.mpr ⟨text, rfl, htext⟩
          rw [List.length_append] at hfuel
          obtain ⟨ps, hps, hwritten, htidy⟩ := ih hcs (by omega) (d :: seen)
          rw [hescapes]
          simp only [beq_self_eq_true, Bool.and_self, if_true, hread]
          exact ⟨ps, hescapes ▸ hps, by simp [hwritten], htidy⟩

/-- The variables of a template are the references in the text, each where it stands. -/
theorem refers_partsOf {ps : Template} {i : Nat} (h : partsOf false fuel seen raw = .ok ps)
    (hfuel : raw.length < fuel) :
    Refers ps i name ↔ ∃ j, i = seen.length + j ∧ Occurs raw j name := by
  induction fuel generalizing raw seen ps i with
  | zero => omega
  | succ fuel ih =>
    cases raw with
    | nil =>
      cases h
      rw [← List.append_nil (textPart seen), refers_textPart_append]
      simp [not_refers_nil, not_occurs_nil]
    | cons c cs =>
      rw [List.length_cons] at hfuel
      unfold partsOf at h
      cases href : reference? (c :: cs) with
      | some found =>
        obtain ⟨n, rest⟩ := found
        rw [href] at h
        obtain ⟨hraw, hn⟩ := reference?_eq_some_iff.mp href
        have hlength := congrArg List.length hraw
        simp only [List.length_cons, List.length_append, reference] at hlength
        dsimp only at h
        cases hps : partsOf false fuel [] rest with
        | error e =>
          rw [hps] at h
          cases h
        | ok qs =>
          rw [hps] at h
          cases h
          have hqs {j : Nat} : Refers qs j name ↔ Occurs rest j name := by
            rw [ih hps (by omega)]
            simp
          rw [hraw, refers_textPart_append]
          simp only [refers_cons, occurs_reference hn, hqs, partText, String.toList_ofList,
            TemplatePart.variable.injEq, String.ofList_inj]
          simp [eq_comm]
      | none =>
        rw [href] at h
        simp only [Bool.false_and, Bool.false_eq_true, if_false] at h
        rw [ih h (by omega), List.length_cons]
        simp only [occurs_cons href]
        constructor
        · rintro ⟨j, rfl, hj⟩
          exact ⟨j + 1, by omega, j, rfl, hj⟩
        · rintro ⟨_, rfl, j, rfl, hj⟩
          exact ⟨j, by omega, hj⟩

/-- What can be decoded is a template that is written as the decoded characters. Only if there are none, it has an
empty text. -/
theorem Decoded.ofText (h : Decoded escapes raw value) : ∃ ps, ofText escapes raw = .ok ps ∧ written ps = value ∧
    (Tidy ps ∨ value = [] ∧ ps = [.text ""]) ∧ ((∀ v, .variable v ∉ ps) → ps = [.text (String.ofList value)]) := by
  obtain ⟨ps, hps, hwritten, htidy⟩ := h.partsOf (Nat.lt_succ_self _) []
  rw [List.reverse_nil, List.nil_append] at hwritten
  have hread : Template.ofText escapes raw = .ok (if ps.isEmpty then [.text ""] else ps) :=
    congrArg (Except.map _) hps
  cases ps with
  | nil =>
    subst hwritten
    exact ⟨_, hread, rfl, .inr ⟨rfl, rfl⟩, fun _ => rfl⟩
  | cons p ps =>
    refine ⟨_, hread, hwritten, .inl htidy, fun hvariable => ?_⟩
    rw [← hwritten]
    exact htidy.eq_of_no_variable hvariable (List.cons_ne_nil _ _)

/-- The variables of a template are the references in its text, each where it stands. -/
theorem refers_ofText {ps : Template} {i : Nat} (h : ofText false raw = .ok ps) :
    Refers ps i name ↔ Occurs raw i name := by
  unfold ofText at h
  cases hparts : partsOf false (raw.length + 1) [] raw with
  | error e =>
    rw [hparts] at h
    cases h
  | ok qs =>
    have hqs : Refers qs i name ↔ Occurs raw i name := by
      rw [refers_partsOf hparts (Nat.lt_succ_self _)]
      simp
    rw [hparts] at h
    cases h
    rw [← hqs]
    cases qs with
    | nil => simp [refers_cons, not_refers_nil]
    | cons => rfl

/-- A text without references is one part. -/
theorem ofText_of_not_occurs (h : ∀ i name, ¬Occurs raw i name) :
    ofText false raw = .ok [.text (String.ofList raw)] := by
  obtain ⟨ps, hps, -, -, hplain⟩ := (decoded_raw raw).ofText
  rw [hps, hplain]
  intro v hv
  obtain ⟨before, after, rfl⟩ := List.append_of_mem hv
  refine h _ v.toList ((refers_ofText hps).mp ⟨before, after, ?_, rfl⟩)
  rw [String.ofList_toList]

end Reading

end LineScript.Template
