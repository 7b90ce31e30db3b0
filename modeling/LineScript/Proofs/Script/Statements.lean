import LineScript.Proofs.Script.Values
import LineScript.Script.Program

/-! Statements and scripts are read without broken promises, and the functions in them are called as their
signatures say. -/
namespace LineScript

open Script

namespace Reading.Reads

variable {n : Nat}

theorem test : Reads n Script.test Test.Callable := by
  refine (acceptWord "not").bind fun negated _ => (acceptWord "found").bind fun found _ => ?_
  refine .ite (fun _ => .pure trivial) fun _ => (acceptWord "search").bind fun search _ => ?_
  refine .ite (fun _ => expectPattern.bind fun _ _ => .pure trivial) fun _ => ?_
  refine (expectValue _ _).bind fun left hleft => peek.bind fun t _ => ?_
  split
  · refine (next.map (Q := fun _ => True) fun _ _ => trivial).bind fun _ _ => ?_
    exact (expectValue _ _).bind fun right hright => .pure ⟨hleft, hright⟩
  · exact .pure hleft

theorem range : Reads n Script.range Range.Callable := by
  refine next.bind fun t _ => ?_
  split
  · exact .pure trivial
  · exact .pure trivial
  · exact operand.bind fun _ ho => .pure ho
  · exact .pure trivial
  · exact .pure trivial
  · exact .refuse _ rfl

theorem moveTarget : Reads n Script.moveTarget MoveTarget.Callable := by
  refine acceptPattern.bind fun pattern _ => ?_
  cases pattern with
  | some p => exact .pure trivial
  | none =>
    refine (acceptWord "line").bind fun line _ => .ite (fun _ => ?_) fun _ => ?_
    · exact operand.bind fun _ hline => acceptOperand.bind fun _ hcolumn => .pure ⟨hline, hcolumn⟩
    refine (acceptWord "by").bind fun by' _ => .ite (fun _ => ?_) fun _ => ?_
    · exact operand.bind fun _ ho => .pure ho
    refine (acceptWord "mark").bind fun mark _ => .ite (fun _ => .pure trivial) fun _ => ?_
    refine next.bind fun t _ => ?_
    split
    · exact .pure trivial
    · exact .pure trivial
    · exact .pure trivial
    · exact .pure trivial
    · exact .refuse _ rfl

/-- Every parameter takes a token. -/
theorem pairs {fuel : Nat} (hn : n + 1 ≤ fuel) :
    Reads n (Script.pairs fuel) fun ps => ∀ p ∈ ps, valueCallable p.2 := by
  induction fuel generalizing n with
  | zero => omega
  | succ fuel ih =>
    rw [Script.pairs]
    refine atEnd.bind fun ended _ => .ite (fun _ => .pure (by simp)) fun _ => ?_
    unfold Reading.expectIdentifier
    rw [bind_assoc]
    refine .next_bind (fun t _ hkind => ?_) fun t k _ hk => ?_
    · rw [hkind]
      exact refuse_bind _ rfl
    · refine Reads.bind (P := fun _ => True) ?_ fun name _ => ?_
      · exact .ite (fun _ => .pure trivial) fun _ => .refuse _ rfl
      · refine (expectOperator "=").bind fun _ _ => (expectFragment _).bind fun v hv => ?_
        exact (ih (by omega)).bind fun ps hps => .pure (List.forall_mem_cons.mpr ⟨hv, hps⟩)

/-- Every option takes a token. -/
theorem storeOptions {fuel : Nat} (hn : n + 1 ≤ fuel) (append force : Bool) :
    Reads n (Script.storeOptions fuel append force) fun _ => True := by
  induction fuel generalizing n append force with
  | zero => omega
  | succ fuel ih =>
    rw [Script.storeOptions]
    refine .acceptWord_bind (fun k hk => ?_) ?_
    · exact ih (by omega) true force
    · refine .acceptWord_bind (fun k hk => ?_) (.pure trivial)
      exact ih (by omega) append true

/-- What is known of the clauses behind a replacement. -/
def ClausesCallable (c : Option Operand × Option Pattern × Option Range) : Prop :=
  (∀ o ∈ c.1, o.Callable) ∧ ∀ r ∈ c.2.2, r.Callable

/-- Every clause takes a token. -/
theorem replaceClauses {fuel : Nat} (hn : n + 1 ≤ fuel) {count : Option Operand}
    (filter : Option Pattern) {part : Option Range} (hcount : ∀ o ∈ count, o.Callable)
    (hpart : ∀ r ∈ part, r.Callable) :
    Reads n (Script.replaceClauses fuel count filter part) ClausesCallable := by
  induction fuel generalizing n count filter part with
  | zero => omega
  | succ fuel ih =>
    rw [Script.replaceClauses]
    have hwanted : ∀ {f : Bool → Reading (Option Operand × Option Pattern × Option Range)}
        (free : Bool) (word : String), (∀ k, n = k + 1 → Reads k (f true) ClausesCallable) →
        Reads n (f false) ClausesCallable →
        Reads n ((if free then Reading.acceptWord word else return false) >>= f) ClausesCallable := by
      intro f free word htrue hfalse
      cases free with
      | true => exact .acceptWord_bind htrue hfalse
      | false => exact hfalse
    refine hwanted _ _ (fun k hk => ?_) ?_
    · exact operand.bind fun o ho => ih (by omega) filter (by simpa using ho) hpart
    refine hwanted _ _ (fun k hk => ?_) ?_
    · exact expectPattern.bind fun p _ => ih (by omega) (some p) hcount hpart
    refine hwanted _ _ (fun k hk => ?_) (.pure ⟨hcount, hpart⟩)
    exact range.bind fun r hr => ih (by omega) filter hcount (by simpa using hr)

variable {allow : Nat → Reading Unit}

theorem levelsWithin (depth levels : Nat) : Reads n (Script.levelsWithin depth levels) fun _ => True :=
  .ite (fun _ => .throw (Error.isMistake_ofMistake _) rfl rfl) fun _ => .pure trivial

theorem leaveLevels (hallow : ∀ n levels, Reads n (allow levels) fun _ => True) :
    Reads n (Script.leaveLevels allow) fun _ => True := by
  have hallowed : ∀ k, Reads n (do
      allow k
      return k) fun _ => True := fun k => (hallow n k).bind fun _ _ => .pure trivial
  refine peek.bind fun t _ => ?_
  split
  · refine next.bind fun t _ => ?_
    split
    · exact hallowed _
    · exact refuse_bind _ rfl
  · exact hallowed 1

theorem assignBuffer (b : BufferRef) : Reads n (Script.assignBuffer b) Statement.Callable := by
  have hassign : Reads n (do
      Reading.expectOperator "="
      let append ← Reading.acceptWord "append"
      return .assignBuffer b.name append (← Script.value [])) Statement.Callable :=
    (expectOperator "=").bind fun _ _ => (acceptWord _).bind fun _ _ => (value _).bind fun _ hv =>
      .pure hv
  refine .ite (fun _ => ?_) fun _ => hassign
  exact refuse_bind _ rfl

theorem assign (name : String) : Reads n (Script.assign name) Statement.Callable := by
  have hvalue : ∀ numeric : Bool, Reads n (do
      if numeric then return .assignNumeric name (← Script.numExpr)
      let append ← Reading.acceptWord "append"
      return .assign name append (← Script.value [])) Statement.Callable := by
    intro numeric
    refine .ite (fun _ => ?_) fun _ => ?_
    · exact numExpr.bind fun _ he => .pure he
    · exact (acceptWord _).bind fun _ _ => (value _).bind fun _ hv => .pure hv
  have hname : ∀ numeric : Bool, Reads n (do
      if isIntrinsicName name then MonadExcept.throw (Error.ofMistake (.readOnly name))
      if numeric then return .assignNumeric name (← Script.numExpr)
      let append ← Reading.acceptWord "append"
      return .assign name append (← Script.value [])) Statement.Callable := by
    intro numeric
    refine .ite (fun _ => ?_) fun _ => hvalue numeric
    exact (throw (P := fun _ => False) (Error.isMistake_ofMistake _) rfl rfl).bind fun _ h => h.elim
  refine (acceptOperator ":=").bind fun numeric _ => .ite (fun _ => ?_) fun _ => hname numeric
  refine (acceptOperator "=").bind fun equals _ => .ite (fun _ => ?_) fun _ => hname numeric
  exact peek.bind fun t _ => refuseAt_bind t _ rfl

/-- Every keyword is followed by a statement or a mistake. -/
theorem keywordStatement (hallow : ∀ n levels, Reads n (allow levels) fun _ => True) {word : String}
    (hword : word ∈ keywords) :
    Reads n (Script.keywordStatement allow word) Statement.Callable := by
  refine lineFuel_bind fun s k _ hfuel => ?_
  dsimp only
  split
  -- adapt
  case h_1 =>
    refine expectPattern.bind fun _ _ => (value _).bind fun _ hv => (acceptWord _).bind fun _ _ => ?_
    refine .ite (fun _ => ?_) fun _ => .pure hv
    exact expectPattern.bind fun _ _ => (acceptWord _).bind fun _ _ => .pure hv
  -- assert
  case h_2 => exact test.bind fun _ ht => .pure ht
  -- call
  case h_3 =>
    refine (expectFragment _).bind fun script hscript => acceptBuffer.bind fun buffer _ => ?_
    cases buffer with
    | some b => exact .pure ⟨hscript, trivial⟩
    | none =>
      refine (pairs (by omega)).bind fun ps hps => .pure ⟨hscript, ?_⟩
      split
      · trivial
      · exact hps
  -- copy
  case h_4 =>
    exact range.bind fun _ hr => expectBufferName.bind fun _ _ => (acceptWord _).bind fun _ _ =>
      .pure hr
  -- delete
  case h_5 => exact range.bind fun _ hr => .pure hr
  -- if
  case h_6 => exact test.bind fun _ ht => .pure ht
  -- else
  case h_7 => exact .pure trivial
  -- endif
  case h_8 => exact .pure trivial
  -- while
  case h_9 => exact test.bind fun _ ht => .pure ht
  -- endwhile
  case h_10 => exact .pure trivial
  -- leave
  case h_11 =>
    refine (leaveLevels hallow).bind fun levels _ => (acceptWord "if").bind fun conditional _ => ?_
    refine .ite (fun _ => ?_) fun _ => .pure (by simp [Statement.Callable])
    exact test.bind fun t ht => .pure (by simpa [Statement.Callable] using ht)
  -- script
  case h_12 => exact (expectIdentifier _).bind fun _ _ => .pure trivial
  -- endscript
  case h_13 => exact .pure trivial
  -- exit
  case h_14 => exact (acceptWord _).bind fun _ _ => acceptOperand.bind fun _ ho => .pure ho
  -- stop
  case h_15 => exact acceptOperand.bind fun _ ho => .pure ho
  -- insert
  case h_16 => exact (acceptWord _).bind fun _ _ => (expectValue _ _).bind fun _ hv => .pure hv
  -- load
  case h_17 => exact acceptBuffer.bind fun _ _ => (expectValue _ _).bind fun _ hv => .pure hv
  -- store
  case h_18 =>
    refine acceptBuffer.bind fun buffer _ => (value _).bind fun file hfile => ?_
    refine (storeOptions (by omega) false false).bind fun options _ => .pure ?_
    intro v hv
    split at hv
    · cases hv
    · cases hv
      exact hfile
  -- log
  case h_19 =>
    refine restOfLine.bind fun raw _ => ?_
    split
    · exact .pure trivial
    · exact .throw (Error.isMistake_ofMistake _) rfl rfl
  -- mark
  case h_20 => exact .pure trivial
  -- move
  case h_21 => exact moveTarget.bind fun _ hm => .pure hm
  -- replace
  case h_22 =>
    refine expectPattern.bind fun _ _ => (value _).bind fun replacement hv => ?_
    refine (replaceClauses (by omega) none (by simp) (by simp)).bind fun clauses hc => ?_
    exact .pure ⟨hv, hc⟩
  -- select
  case h_23 =>
    refine (acceptWord _).bind fun _ _ => .ite (fun _ => ?_) fun _ => ?_
    · exact expectBufferName.bind fun _ _ => .pure trivial
    refine (acceptWord _).bind fun _ _ => .ite (fun _ => .pure trivial) fun _ => ?_
    exact expectBufferName.bind fun _ _ => .pure trivial
  -- no keyword is left
  case h_24 => simp_all [keywords]

theorem statement (hallow : ∀ n levels, Reads n (allow levels) fun _ => True) :
    Reads n (Script.statement allow) Statement.Callable := by
  refine next.bind fun t ht => ?_
  split
  · exact assignBuffer _
  · exact assign _
  · rename_i i _ hkind
    exact keywordStatement hallow (ht.keyword i hkind)
  · exact .throw (Error.isMistake_ofMistake _) rfl rfl

end Reading.Reads

namespace Program

open Reading

variable {n : Nat}

theorem reads_readBody (first : Token) : Reads n (readBody first) fun s => s ∈ [none, some .endScript] := by
  refine .ite (fun _ => ?_) fun _ => .pure (by simp)
  refine (Reads.next.map (Q := fun _ => True) fun _ _ => trivial).bind fun _ _ => ?_
  exact Reads.expectEnd.bind fun _ _ => .pure (by simp)

/-- A statement with its effect, whose errors have no place yet. -/
def readEffect (o : Outline) (i : Nat) (position : SourcePosition) : Reading (Statement × Outline) := do
  let statement ← statement (levelsWithin o.blocks.length)
  match o.advance i position statement with
  | .error m => throw (.ofMistake m)
  | .ok o =>
    expectEnd
    return (statement, o)

theorem outcome_readStatement (o : Outline) (i : Nat) (position : SourcePosition) (s : TokenStream) :
    outcome (readStatement o i position) s =
      ((outcome (readEffect o i position) s).1.mapError (·.located position),
        (outcome (readEffect o i position) s).2) :=
  rfl

theorem isUnclosed_of_advance {o : Outline} {i : Nat} {position : SourcePosition} {st : Statement} {m : Mistake}
    (h : o.advance i position st = .error m) : m.isUnclosed = false := by
  cases st with
  | elseWord | endWhile =>
    simp only [Outline.advance] at h
    split at h
    · split at h <;> cases h
      rfl
    · cases h
      rfl
  | endIf =>
    simp only [Outline.advance] at h
    split at h
    · split at h <;> cases h
      rfl
    · cases h
      rfl
  | script =>
    simp only [Outline.advance] at h
    split at h <;> cases h
    rfl
  | endScript =>
    cases h
    rfl
  | _ => cases h

theorem reads_readEffect (o : Outline) (index : Nat) (position : SourcePosition) :
    Reads n (readEffect o index position) fun r => r.1.Callable := by
  refine (Reads.statement fun _ _ => .levelsWithin _ _).bind fun statement hstatement => ?_
  split
  · rename_i m hadvance
    exact .throw (Error.isMistake_ofMistake m) rfl (isUnclosed_of_advance hadvance)
  · exact Reads.expectEnd.bind fun _ _ => .pure hstatement

theorem reads_readStatement (o : Outline) (index : Nat) (position : SourcePosition) :
    ReadsFrom (fun s => s.Ready n ∧ position.IsOn s) n
      (readStatement o index position) fun r => r.1.Callable := by
  rintro s ⟨hs, hplace⟩
  have h := reads_readEffect o index position s hs
  rw [outcome_readStatement]
  generalize outcome (readEffect o index position) s = r at h
  cases h with
  | read hready hline hcallable => exact .read hready hline hcallable
  | refused he hon => exact .refused (he.located position) (hon.located hplace)

/-- Whether the functions in a line are called as their signatures say. -/
def LineCallable (slot : Option Located) : Prop :=
  ∀ l ∈ slot, l.statement.Callable

theorem reads_readLine (o : Outline) (index : Nat) :
    Reads n (readLine o index) fun r => LineCallable r.1 := by
  refine Reads.peek.bind fun first _ => .ite (fun _ => .pure (by simp [LineCallable])) fun _ => ?_
  refine .look fun s hs => ?_
  dsimp only
  split
  · refine Reads.of_eq ((reads_readBody first).bind fun statement hstatement => ?_) hs
    cases statement with
    | none => exact .pure (by simp [LineCallable])
    | some statement =>
      obtain rfl : statement = .endScript := by simpa using hstatement
      exact .pure (by simp [LineCallable, located, Statement.Callable])
  · have hread := reads_readStatement (n := n) o index (s.positionAt first.column)
    refine (hread.weaken ?_).bind fun r hr => .pure ?_
    · rintro s' rfl
      exact ⟨hs, s'.isOn_positionAt _⟩
    · simpa [LineCallable, located] using hr

theorem readLines_sound (name : String) (offset : Nat) (o : Outline) (index : Nat)
    (lines : List String) :
    match readLines name offset o index lines with
    | .ok (slots, _) => ∀ slot ∈ slots, LineCallable slot
    | .error e => e.IsMistake := by
  induction lines generalizing o index with
  | nil => simp [readLines]
  | cons line lines ih =>
    rw [readLines]
    have hline : Sound _ _ _ ((readLine o index).run (lineStream name (offset + index + 1) line)) :=
      reads_readLine o index _ (TokenStream.ready_lineStream name (offset + index + 1) line)
    generalize (readLine o index).run (lineStream name (offset + index + 1) line) = r at hline
    cases hline with
    | refused he _ => exact he
    | @read a s _ _ hcallable =>
      have hrest := ih a.2 (index + 1)
      dsimp only
      cases hlines : readLines name offset a.2 (index + 1) lines with
      | error e =>
        rw [hlines] at hrest
        exact hrest
      | ok rest =>
        rw [hlines] at hrest
        exact List.forall_mem_cons.mpr ⟨hcallable, hrest⟩

/-- A script is only ever refused for a mistake in it. -/
theorem isMistake_of_check {name : String} {lines : List String} {offset : Nat} {e : Error}
    (h : check name lines offset = .error e) : e.IsMistake := by
  have hlines := readLines_sound name offset {} 0 lines
  unfold check at h
  cases hread : readLines name offset {} 0 lines with
  | error e' =>
    rw [hread] at h hlines
    cases h
    exact hlines
  | ok r =>
    rw [hread] at h
    dsimp only at h
    split at h
    · rename_i hopen
      cases h
      unfold Outline.leftOpen? at hopen
      split at hopen <;> cases hopen <;> exact ⟨_, rfl⟩
    · cases h

/-- The functions in an accepted script are called as their signatures say. -/
theorem callable_of_check {name : String} {lines : List String} {offset : Nat} {p : Program}
    (h : check name lines offset = .ok p) : p.Callable := by
  have hlines := readLines_sound name offset {} 0 lines
  unfold check at h
  cases hread : readLines name offset {} 0 lines with
  | error e' =>
    rw [hread] at h
    cases h
  | ok r =>
    rw [hread] at h hlines
    dsimp only at h
    split at h
    · cases h
    · cases h
      exact fun l hl => hlines _ hl l rfl

end Program

namespace EmbeddedScript

open Reading

theorem reads_boundary {n : Nat} (inside : Bool) : Reads n (boundary inside) fun _ => True := by
  refine Reads.next.bind fun t _ => .ite (fun _ => .pure trivial) fun _ => ?_
  split
  · exact (Reads.expectIdentifier _).bind fun _ _ => .pure trivial
  · exact .refuse _ rfl
  · exact .pure trivial
  · exact .pure trivial

theorem isMistake_of_collect {name : String} {index : Nat}
    {inner : Option (String × Nat × List String)} {lines : List String} {e : Error}
    (h : collect name index inner lines = .error e) : e.IsMistake := by
  induction lines generalizing index inner with
  | nil => cases h
  | cons line lines ih =>
    rw [collect] at h
    have hline : Sound _ _ _ ((boundary inner.isSome).run (lineStream name (index + 1) line)) :=
      reads_boundary inner.isSome _ (TokenStream.ready_lineStream name (index + 1) line)
    generalize (boundary inner.isSome).run (lineStream name (index + 1) line) = r at h hline
    cases hline with
    | refused he _ =>
      cases h
      exact he
    | @read b s =>
      dsimp only at h
      split at h
      · exact ih h
      · rename_i script first body
        cases hrest : collect name (index + 1) none lines with
        | error e' =>
          rw [hrest] at h
          cases h
          exact ih hrest
        | ok rest =>
          rw [hrest] at h
          cases h
      · exact ih h
      · exact ih h

theorem isMistake_of_ofLines {name : String} {lines : List String} {e : Error}
    (h : ofLines name lines = .error e) : e.IsMistake :=
  isMistake_of_collect h

end EmbeddedScript

end LineScript
