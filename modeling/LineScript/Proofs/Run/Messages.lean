import LineScript.Proofs.Run.Books
import LineScript.Proofs.Script.Comments
import LineScript.Run.Statement

/-! What assignments give and what messages say. Both cut off a comment, but not in the same places. -/
namespace LineScript

theorem Template.IsName.no_hash {name : List Char} (h : IsName name) : '#' ∉ reference name :=
  fun hmem => absurd (h.of_mem_reference hmem) (by decide)

namespace Run

open Script

variable {template : Template} {s name value text : String} {r r' : RunState}

/-- Whether a variable has a value once a statement is done. -/
def Gives (text : String) (statement : Statement) (r : RunState) (name value : String) : Prop :=
  ∃ r', outcome (perform text statement) r = (.ok (), r') ∧ outcome (variableValue name) r' = (.ok value, r')

/-- Whether a statement is done and logs a message. -/
def Logs (text : String) (statement : Statement) (r : RunState) (message : String) : Prop :=
  ∃ r', outcome (perform text statement) r = (.ok (), r') ∧
    ∃ before, r'.engine.world.journal = .message .info message :: before

theorem Gives.eq {statement : Statement} {value' : String} (h : Gives text statement r name value)
    (h' : Gives text statement r name value') : value = value' := by
  obtain ⟨r₁, hdone, hvalue⟩ := h
  obtain ⟨r₂, hdone', hvalue'⟩ := h'
  obtain ⟨-, rfl⟩ := Prod.mk.inj (hdone.symm.trans hdone')
  cases hvalue.symm.trans hvalue'
  rfl

theorem outcome_variableValue (hintrinsic : isIntrinsicName name = false)
    (hfound : outcome (lookup? name) r = (.ok (some value), r)) :
    outcome (variableValue name) r = (.ok value, r) := by
  unfold variableValue
  rw [hintrinsic, if_neg Bool.false_ne_true, outcome_bind, hfound]
  rfl

theorem gives_assign {v : Value} (hintrinsic : isIntrinsicName name = false)
    (hvalue : outcome (valueText v) r = (.ok value, r)) (text : String) :
    Gives text (.assign name false v) r name value := by
  have hset : outcome (perform text (.assign name false v)) r = outcome (setVariable name value) r := by
    rw [perform, outcome_bind, hvalue]
    change outcome (setVariable name ("" ++ value)) r = _
    rw [String.empty_append]
  cases hglobal : isGlobalName name with
  | true =>
    refine ⟨{ r with engine := { r.engine with bindings := r.engine.bindings.insert name value } }, ?_, ?_⟩
    · rw [hset, setVariable, hglobal]
      unfold Engine.setVariable
      simp only [hintrinsic, hglobal]
      rfl
    · refine outcome_variableValue hintrinsic ?_
      unfold lookup?
      rw [hglobal]
      exact congrArg (fun found => (Except.ok found, _)) (Registry.get?_insert_self _ _ _)
  | false =>
    refine ⟨{ r with active := { r.active with script := r.active.script.setVariable name value } }, ?_, ?_⟩
    · rw [hset, setVariable, hglobal]
      rfl
    · refine outcome_variableValue hintrinsic ?_
      unfold lookup?
      rw [hglobal]
      exact congrArg (fun found => (Except.ok found, _)) (Registry.get?_insert_self _ _ _)

theorem logs_iff {message : String} : Logs text (.log template) r message ↔
    ∃ r', outcome (templateText template) r = (.ok message, r') := by
  unfold Logs
  rw [perform]
  constructor
  · rintro ⟨r', hdone, before, hjournal⟩
    obtain ⟨found, r₁, hfound, hrecord⟩ := outcome_bind_eq_ok.mp hdone
    cases hrecord
    cases hjournal
    exact ⟨r₁, hfound⟩
  · rintro ⟨r₁, hfound⟩
    refine ⟨{ r₁ with engine := r₁.engine.record (.message .info message) }, ?_, r₁.engine.world.journal, rfl⟩
    rw [outcome_bind, hfound]
    rfl

/-- Every text of a template is part of what the template comes to. -/
theorem subset_of_templateText (hs : .text s ∈ template)
    (h : outcome (templateText template) r = (.ok value, r')) : s.toList ⊆ value.toList := by
  induction template generalizing r value with
  | nil => cases hs
  | cons p ps ih =>
    cases p with
    | text s' =>
      obtain ⟨tail, r₁, htail, hvalue⟩ := outcome_bind_eq_ok.mp h
      cases hvalue
      rw [String.toList_append]
      rcases List.mem_cons.mp hs with hs | hs
      · cases hs
        exact List.subset_append_left _ _
      · exact List.subset_append_of_subset_right _ (ih hs htail)
    | «variable» name =>
      obtain ⟨v, r₁, -, hrest⟩ := outcome_bind_eq_ok.mp h
      obtain ⟨tail, r₂, htail, hvalue⟩ := outcome_bind_eq_ok.mp hrest
      cases hvalue
      rw [String.toList_append]
      rcases List.mem_cons.mp hs with hs | hs
      · cases hs
      · exact List.subset_append_of_subset_right _ (ih hs htail)

/-- A number sign in a template is also in what the template comes to. -/
theorem hash_mem_of_templateText {raw : List Char} (hread : Template.ofText false raw = .ok template)
    (hhash : '#' ∈ raw) (h : outcome (templateText template) r = (.ok value, r')) : '#' ∈ value.toList := by
  obtain ⟨ps, hps, hwritten, -, -⟩ := (Template.decoded_raw raw).ofText
  rw [hread] at hps
  cases hps
  rw [← hwritten, Template.written, List.mem_flatMap] at hhash
  obtain ⟨p, hp, hhash⟩ := hhash
  cases p with
  | text s => exact subset_of_templateText hp h hhash
  | «variable» name =>
    obtain ⟨before, after, rfl⟩ := List.append_of_mem hp
    have hrefers : Template.Refers (before ++ .variable name :: after) (Template.written before).length name.toList :=
      ⟨before, after, by rw [String.ofList_toList], rfl⟩
    obtain ⟨-, -, -, -, hname⟩ := (Template.refers_ofText hread).mp hrefers
    exact absurd hhash hname.no_hash

/-- A text of plain tokens is assigned as it is logged if and only if its first number sign, where it has one, begins
a word: the assignment ends there in any case, and the message only there. -/
theorem assigned_as_logged_iff {script : String} {line : Nat} {t : String} {ts : List Token} {e : Token}
    (hname : IsWord name.toList) (hkeyword : name ∉ keywords) (hintrinsic : isIntrinsicName name = false)
    (htokens : (lineStream script line t).Yields ts (.ok e)) (hplain : ∀ u ∈ ts, u.isPlain = true ∨ u.kind = .comment)
    (happend : ∀ u ∈ ts.head?, u.text ≠ "append")
    (hquotes : ∀ c ∈ t.toList, c ≠ '"' ∧ c ≠ '\'' ∧ c ≠ '\\') :
    ∃ v template,
      (outcome Program.wholeStatement (lineStream script line (name ++ " = " ++ t))).1 = .ok (.assign name false v) ∧
      (outcome Program.wholeStatement (lineStream script line ("log " ++ t))).1 = .ok (.log template) ∧
      ∀ text r, Gives text (.assign name false v) r name (beforeHash t) ∧
        (Logs text (.log template) r (beforeHash t) ↔ CommentsAtWord t.toList) := by
  have hs : (lineStream script line t).Regular := TokenStream.regular_lineStream _ _ _
  have hrest : (lineStream script line t).rest = t.toList := Text.drop_zero _
  obtain ⟨v, hassign, hvalue⟩ := read_assignment hname hkeyword hintrinsic htokens hplain happend
  obtain ⟨template, htemplate, -⟩ := (Template.decoded_raw (stripComment (Text.trim t.toList))).ofText
  refine ⟨v, template, hassign, read_log htemplate, fun text r => ⟨gives_assign hintrinsic (hvalue r) text, ?_⟩⟩
  rw [logs_iff]
  obtain ⟨hcut, hkept⟩ := stripComment_trim hquotes
  constructor
  · rintro ⟨r', hlogged⟩
    by_contra hinside
    have hhash := hash_mem_of_templateText htemplate (hkept hinside) hlogged
    rw [beforeHash, String.toList_ofList] at hhash
    exact hash_notMem_takeWhile _ (Text.trim_subset _ hhash)
  · intro hword
    rw [hcut hword, Template.ofText_of_not_occurs (hrest ▸ not_occurs_trim htokens hs hplain)] at htemplate
    cases htemplate
    refine ⟨r, ?_⟩
    change (Except.ok (beforeHash t ++ ""), r) = _
    rw [String.append_empty]

theorem assigned_as_logged_sum :
    ∃ v template,
      (outcome Program.wholeStatement (lineStream "s" 1 ("x" ++ " = " ++ "1 + 2 # sum"))).1 =
        .ok (.assign "x" false v) ∧
      (outcome Program.wholeStatement (lineStream "s" 1 ("log " ++ "1 + 2 # sum"))).1 = .ok (.log template) ∧
      ∀ text r, Gives text (.assign "x" false v) r "x" "1 + 2" ∧ Logs text (.log template) r "1 + 2" := by
  have htokens : (lineStream "s" 1 "1 + 2 # sum").Yields
      [⟨"1", .number, 0⟩, ⟨"+", .operator, 2⟩, ⟨"2", .number, 4⟩, ⟨"# sum", .comment, 6⟩] (.ok (.endAt 11)) :=
    .token rfl (by simp) (.token rfl (by simp) (.token rfl (by simp) (.token rfl (by simp) (.ended rfl rfl))))
  have hword : CommentsAtWord "1 + 2 # sum".toList := by
    have hfront : '#' ∉ "1 + 2 ".toList := by decide
    exact (commentsAtWord_iff hfront " sum".toList).mpr (by decide)
  have hname : IsWord "x".toList := ⟨'x', [], by simp, by decide, List.forall_mem_nil _⟩
  obtain ⟨v, template, hassign, hlog, hruns⟩ :=
    assigned_as_logged_iff hname (by simp [keywords]) (by decide) htokens (by simp [Token.isPlain]) (by simp) (by simp)
  refine ⟨v, template, hassign, hlog, fun text r => ?_⟩
  obtain ⟨hgives, hlogs⟩ := hruns text r
  exact ⟨hgives, hlogs.mpr hword⟩

/-- Inside of a word, a number sign ends what is assigned, but not what is logged. -/
theorem hash_inside_word_logged :
    ∃ v template,
      (outcome Program.wholeStatement (lineStream "s" 1 ("x" ++ " = " ++ "item#3"))).1 = .ok (.assign "x" false v) ∧
      (outcome Program.wholeStatement (lineStream "s" 1 ("log " ++ "item#3"))).1 = .ok (.log template) ∧
      ∀ text r, (∀ value, Gives text (.assign "x" false v) r "x" value ↔ value = "item") ∧
        ∀ message, Logs text (.log template) r message ↔ message = "item#3" := by
  have hscan : (lineStream "s" 1 "item#3").scan true = .ok ⟨"item", .identifier, 0⟩ := by
    have hitem : IsWord "item".toList := ⟨'i', "tem".toList, by simp, by decide, List.all_eq_true.mp rfl⟩
    have hstop : EndsWord '#' := ⟨rfl, by decide, by decide⟩
    have hrest : (lineStream "s" 1 "item#3").rest = "item".toList ++ '#' :: ['3'] := rfl
    have h := hitem.scan hstop rfl hrest
    rwa [String.ofList_toList, keywordIndex?_eq_none_iff.mpr (by simp [keywords])] at h
  have htokens : (lineStream "s" 1 "item#3").Yields [⟨"item", .identifier, 0⟩, ⟨"#3", .comment, 4⟩] (.ok (.endAt 6)) :=
    .token hscan (by simp) (.token rfl (by simp) (.ended rfl rfl))
  have hname : IsWord "x".toList := ⟨'x', [], by simp, by decide, List.forall_mem_nil _⟩
  obtain ⟨v, hassign, hvalue⟩ :=
    read_assignment hname (by simp [keywords]) (by decide) htokens (by simp [Token.isPlain]) (by simp)
  have htemplate : Template.ofText false (stripComment (Text.trim "item#3".toList)) = .ok [.text "item#3"] := rfl
  refine ⟨v, _, hassign, read_log htemplate, fun text r => ⟨fun value => ?_, fun message => ?_⟩⟩
  · have hgives : Gives text (.assign "x" false v) r "x" "item" := gives_assign (by decide) (hvalue r) text
    constructor
    · exact fun h => h.eq hgives
    · rintro rfl
      exact hgives
  · rw [logs_iff]
    constructor
    · rintro ⟨r', h⟩
      cases h
      rfl
    · rintro rfl
      exact ⟨r, rfl⟩

end Run

end LineScript
