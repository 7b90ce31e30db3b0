import LineScript.Proofs.Script.Acceptance

/-! The lines at which embedded scripts begin and end. The reader that looks for them only and the one that
checks whole statements take the same lines for them. -/
namespace LineScript.EmbeddedScript

open Reading Script

/-- What the two readings make of a line, in an embedded script or not. -/
inductive Marks : Bool → Boundary → Option Located → Prop
  | start {script : String} {l : Located} : l.statement = .script script →
      Marks false (.start script) (some l)
  | other {slot : Option Located} : slot.any (·.statement.isScript) = false → Marks false .other slot
  | stop {l : Located} : l.statement = .endScript → Marks true .stop (some l)
  | body : Marks true .other none

/-- Other statements than those behind the word `script` do not open an embedded script. -/
theorem restricts_assignBuffer (b : BufferRef) :
    Restricts (!·.isScript) (assignBuffer b) (assignBuffer b) := by
  unfold assignBuffer
  repeat'
    first
    | with_reducible refine .bind _ fun _ => ?_
    | with_reducible refine .ite ?_ ?_
    | with_reducible refine .pure ?_
    | rfl

theorem restricts_assign (name : String) : Restricts (!·.isScript) (assign name) (assign name) := by
  unfold assign
  repeat'
    first
    | with_reducible refine .bind _ fun _ => ?_
    | with_reducible refine .ite ?_ ?_
    | with_reducible refine .pure ?_
    | with_reducible refine .throw _
    | rfl

theorem restricts_otherKeyword (allow : Nat → Reading Unit) {word : String} (h : word ≠ "script") :
    Restricts (!·.isScript) (keywordStatement allow word) (keywordStatement allow word) := by
  unfold keywordStatement
  refine .bind _ fun s => ?_
  split
  case h_12 => exact absurd rfl h
  all_goals
    repeat'
      first
      | with_reducible refine .bind _ fun _ => ?_
      | with_reducible refine .ite ?_ ?_
      | with_reducible refine .pure ?_
      | with_reducible refine .throw _
      | split
  all_goals rfl

section Line

variable {s s₁ : TokenStream} {t : Token}

/-- A line that does not start with the word `script` does not open an embedded script. -/
theorem isScript_of_wholeStatement {s' : TokenStream} {statement : Statement}
    (hnext : outcome next s = (.ok t, s₁)) (hword : t.isKeyword = true → t.text ≠ "script")
    (h : outcome Program.wholeStatement s = (.ok statement, s')) : statement.isScript = false := by
  obtain ⟨statement', s₂, hread, h⟩ := outcome_bind_eq_ok.mp h
  obtain ⟨-, s₃, -, h⟩ := outcome_bind_eq_ok.mp h
  cases h
  rw [Script.statement, outcome_bind, hnext] at hread
  dsimp only at hread
  suffices hfits : (!statement.isScript) = true by simpa using hfits
  split at hread
  · exact ((restricts_assignBuffer _ _ _ _).mp hread).2
  · exact ((restricts_assign _ _ _ _).mp hread).2
  · rename_i i _ hkind
    have hkeyword : t.isKeyword = true := by rw [Token.isKeyword, hkind]
    exact ((restricts_otherKeyword _ (hword hkeyword) _ _ _).mp hread).2
  · cases hread

/-- A line that starts with the word `script` opens an embedded script of the name behind it. -/
theorem script_of_wholeStatement {s₂ s' : TokenStream} {statement : Statement} {script : String}
    (hnext : outcome next s = (.ok t, s₁)) (hkeyword : t.isKeyword = true) (hword : t.text = "script")
    (hname : outcome (expectIdentifier "a script name") s₁ = (.ok script, s₂))
    (h : outcome Program.wholeStatement s = (.ok statement, s')) : statement = .script script := by
  obtain ⟨statement', s₃, hread, h⟩ := outcome_bind_eq_ok.mp h
  obtain ⟨-, s₄, -, h⟩ := outcome_bind_eq_ok.mp h
  cases h
  rw [Script.statement, outcome_bind, hnext] at hread
  dsimp only at hread
  unfold Token.isKeyword at hkeyword
  split at hkeyword
  · rename_i i hkind
    have hclass : classOf? t = none := by rw [classOf?, hkind]
    have hscript : outcome (keywordStatement (fun _ => pure ()) "script") s₁ =
        outcome (expectIdentifier "a script name" >>= fun name => return .script name) s₁ := rfl
    simp only [hclass, hkind, hword] at hread
    rw [hscript, outcome_bind, hname] at hread
    cases hread
    rfl
  · cases hkeyword

/-- What the first token of a line makes of it. -/
inductive Begins (inside : Bool) (t : Token) (s₁ : TokenStream) : Boundary → Prop
  | start {script : String} {s₂ : TokenStream} : inside = false → t.isKeyword = true → t.text = "script" →
      outcome (expectIdentifier "a script name") s₁ = (.ok script, s₂) → Begins inside t s₁ (.start script)
  | stop : inside = true → t.isKeyword = true → t.text = "endscript" → Begins inside t s₁ .stop
  | other : (t.isKeyword = true → t.text ≠ if inside then "endscript" else "script") →
      Begins inside t s₁ .other

theorem begins_of_boundary {inside : Bool} (hnext : outcome next s = (.ok t, s₁)) {b : Boundary}
    (h : (outcome (boundary inside) s).1 = .ok b) : Begins inside t s₁ b := by
  rw [boundary, outcome_bind, hnext] at h
  dsimp only at h
  split at h
  · rename_i hkeyword
    cases h
    exact .other fun h => by simp [h] at hkeyword
  · rename_i hkeyword
    have hkeyword : t.isKeyword = true := by simpa using hkeyword
    split at h
    · rename_i hword
      obtain ⟨script, s₂, hname, h⟩ := outcome_bind_fst_eq_ok.mp h
      cases h
      exact .start rfl hkeyword hword hname
    · cases h
    · rename_i hword
      cases h
      exact .stop rfl hkeyword hword
    · rename_i hstart _ hstop
      cases h
      refine .other fun _ hword => ?_
      split at hword
      · exact hstop hword ‹_›
      · exact hstart hword (Bool.eq_false_iff.mpr ‹_›)

/-- Outside of embedded scripts, a line is a whole statement. -/
theorem wholeStatement_of_lineAlone {l : Located} (hpeek : outcome peek s = (.ok t, s₁))
    (h : (outcome (Program.lineAlone false) s).1 = .ok (some l)) :
    ∃ s₂, outcome Program.wholeStatement s₁ = (.ok l.statement, s₂) := by
  rw [Program.lineAlone, outcome_bind, hpeek] at h
  dsimp only at h
  split at h
  · cases h
  · obtain ⟨s', s₂, hget, h⟩ := outcome_bind_fst_eq_ok.mp h
    cases hget
    obtain ⟨statement, s₃, hread, h⟩ := outcome_bind_fst_eq_ok.mp h
    obtain ⟨whole, s₄, hwhole, hread⟩ := outcome_bind_eq_ok.mp hread
    cases hread
    cases h
    exact ⟨_, hwhole⟩

/-- In an embedded script, a line is its end or nothing, as its first token says. -/
theorem isSome_of_lineAlone {slot : Option Located} (hpeek : outcome peek s = (.ok t, s₁))
    (h : (outcome (Program.lineAlone true) s).1 = .ok slot) :
    slot.isSome = (t.isKeyword && t.text == "endscript") := by
  rw [Program.lineAlone, outcome_bind, hpeek] at h
  dsimp only at h
  split at h
  · rename_i hend
    cases h
    have hkeyword : t.isKeyword = false := by
      unfold Token.isEnd at hend
      unfold Token.isKeyword
      split at hend <;> simp_all
    rw [hkeyword]
    rfl
  · obtain ⟨s', s₂, hget, h⟩ := outcome_bind_fst_eq_ok.mp h
    obtain ⟨statement, s₃, hread, h⟩ := outcome_bind_fst_eq_ok.mp h
    simp only [if_true, Program.readBody] at hread
    split at hread
    · rename_i hstop
      obtain ⟨-, s₄, -, hread⟩ := outcome_bind_eq_ok.mp hread
      obtain ⟨-, s₅, -, hread⟩ := outcome_bind_eq_ok.mp hread
      cases hread
      cases h
      exact hstop.symm
    · rename_i hstop
      cases hread
      cases h
      exact (Bool.eq_false_iff.mpr hstop).symm

theorem not_isEnd_of_isKeyword (h : t.isKeyword = true) : t.isEnd = false := by
  unfold Token.isKeyword at h
  unfold Token.isEnd
  split at h <;> simp_all

/-- Both readers make the same of a line. -/
theorem marks_of_line {name line : String} {number : Nat} {inside : Bool} {b : Boundary}
    {slot : Option Located} (hboundary : (outcome (boundary inside) (lineStream name number line)).1 = .ok b)
    (hline : (outcome (Program.lineAlone inside) (lineStream name number line)).1 = .ok slot) :
    Marks inside b slot := by
  have hnone := Program.lineAlone_eq_none hline
  have hpending := (TokenStream.ready_lineStream name number line).pending
  unfold Program.IsBlankLine at hnone
  generalize lineStream name number line = s at *
  cases hscan : s.scan true with
  | error e =>
    rw [boundary, outcome_bind, outcome_next s hpending, hscan] at hboundary
    cases hboundary
  | ok t =>
    have hpeek : outcome peek s = (.ok t, { s with pending := some t }) := by
      rw [outcome_peek s hpending, hscan]
    have hnext : outcome next s = (.ok t, { s with token := t, offset := t.stop, pending := none }) := by
      rw [outcome_next s hpending, hscan]
    have hnext' : outcome next { s with pending := some t } =
        (.ok t, { s with token := t, offset := t.stop, pending := none }) := rfl
    have hbegins := begins_of_boundary hnext hboundary
    cases hbegins with
    | @start script s₂ hinside hkeyword hword hname =>
      cases hinside
      cases slot with
      | none =>
        rcases hnone.mp rfl with ⟨t', ht', hend⟩ | ⟨hinside, -⟩
        · rw [hpeek] at ht'
          cases ht'
          rw [not_isEnd_of_isKeyword hkeyword] at hend
          cases hend
        · cases hinside
      | some l =>
        obtain ⟨s₃, hwhole⟩ := wholeStatement_of_lineAlone hpeek hline
        exact .start (script_of_wholeStatement hnext' hkeyword hword hname hwhole)
    | stop hinside hkeyword hword =>
      cases hinside
      have hsome := isSome_of_lineAlone hpeek hline
      rw [hkeyword, hword] at hsome
      obtain ⟨l, rfl⟩ := Option.isSome_iff_exists.mp hsome
      exact .stop (Program.isEndScript_of_lineAlone hline)
    | other hword =>
      cases inside with
      | true =>
        have hsome := isSome_of_lineAlone hpeek hline
        have hnot : (t.isKeyword && t.text == "endscript") = false := by
          rw [Bool.and_eq_false_imp]
          intro hkeyword
          exact beq_eq_false_iff_ne.mpr (hword hkeyword)
        rw [hnot, Option.isSome_eq_false_iff, Option.isNone_iff_eq_none] at hsome
        exact hsome ▸ .body
      | false =>
        refine .other ?_
        cases slot with
        | none => rfl
        | some l =>
          obtain ⟨s₃, hwhole⟩ := wholeStatement_of_lineAlone hpeek hline
          exact isScript_of_wholeStatement hnext' hword hwhole

end Line

end LineScript.EmbeddedScript
