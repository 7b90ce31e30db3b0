import LineScript.Proofs.Script.Functions
import LineScript.Proofs.Script.Reading

/-! Values are read without broken promises: tokens have the form that their class says, a line is never too
long to be read, and functions are called as their signatures say. -/
namespace LineScript

open Script

namespace Reading

namespace Reads

variable {α β : Type} {n k : Nat} {P : α → Prop} {Q : β → Prop}

/-- The number of levels that a line allows for is enough for all of its bytes. -/
theorem lineFuel_bind {f : TokenStream → Reading β}
    (hf : ∀ s k, k ≤ n → 4 * (k + 2) ≤ lineFuel s → Reads k (f s) Q) :
    Reads n (MonadState.get >>= f) Q := by
  intro s hs
  have hleft := hs.left
  let k := Text.length s.text - s.offset
  have hk : s.Ready k := ⟨hs.lexicon, hs.pending, Nat.le_refl _⟩
  have hread := hf s k hleft (by unfold lineFuel; omega)
  exact hread.of_ready hk hleft

theorem patternOf {t : Token} (ht : Wellformed t) (hclass : classOf? t = some .pattern) :
    Reads n (Script.patternOf t) fun _ => True := by
  obtain ⟨letter, delimiter, cs, htext, hkind⟩ := ht.pattern hclass
  obtain ⟨kind, hkind⟩ := Option.isSome_iff_exists.mp hkind
  unfold Script.patternOf
  rw [htext]
  dsimp only
  rw [hkind]
  dsimp only
  split <;> refine Reads.bind (P := fun _ => True) ?_ fun body _ => ?_
  · exact .pure trivial
  · split
    · split
      · exact .pure trivial
      · exact .refuseAt _ _ rfl
    · split
      · exact .pure trivial
      · exact .refuseAt _ _ rfl
  · exact .refuseAt _ _ rfl
  · split
    · split
      · exact .pure trivial
      · exact .refuseAt _ _ rfl
    · split
      · exact .pure trivial
      · exact .refuseAt _ _ rfl

theorem expectPattern : Reads n Script.expectPattern fun _ => True :=
  next.bind fun _ ht => .ite (fun h => patternOf ht (beq_iff_eq.mp h)) fun _ => .refuse _ rfl

theorem acceptPattern : Reads n Script.acceptPattern fun _ => True := by
  refine peek.bind fun t ht => .ite (fun h => ?_) fun _ => .pure trivial
  refine (next.map (Q := fun _ => True) fun _ _ => trivial).bind fun _ _ => ?_
  exact (patternOf ht (beq_iff_eq.mp h)).bind fun _ _ => .pure trivial

theorem expectBuffer : Reads n Script.expectBuffer fun _ => True :=
  next.bind fun _ _ => .ite (fun _ => .pure trivial) fun _ => .refuse _ rfl

theorem acceptBuffer : Reads n Script.acceptBuffer fun _ => True := by
  refine peek.bind fun t _ => .ite (fun _ => ?_) fun _ => .pure trivial
  exact (next.map (Q := fun _ => True) fun _ _ => trivial).bind fun _ _ => .pure trivial

theorem expectBufferName : Reads n Script.expectBufferName fun _ => True :=
  expectBuffer.bind fun _ _ => .ite (fun _ => .pure trivial) fun _ => .refuse _ rfl

end Reads

theorem kind_ne_of_not_stopsValue {stops : List String} {t : Token}
    (h : ¬ stopsValue stops t = true) : t.kind ≠ .endOfInput := by
  intro hkind
  rw [stopsValue, hkind] at h
  exact h rfl

/-- Whether so many levels are enough to read values in streams that have few enough bytes left. A token is
taken on the way from a list of fragments to what is inside of a call. -/
structure Suffices (fuel : Nat) : Prop where
  fragments : ∀ {n : Nat} (stops : List String) (last : Option Nat), 4 * n + 1 ≤ fuel →
    Reads n (Script.fragments stops fuel last) valueCallable
  arguments : ∀ {n : Nat} (t : Token) (f : Builtin) (ps : List Parameter), 4 * n + 2 ≤ fuel →
    Reads n (Script.arguments fuel t f ps) argumentsCallable
  call : ∀ {n : Nat} {t : Token}, Wellformed t → classOf? t = some .function → 4 * n + 3 ≤ fuel →
    Reads n (Script.call fuel t) fun c => callMistake? c.1 c.2 = none ∧ argumentsCallable c.2
  fragment : ∀ {n : Nat} {t : Token}, Wellformed t → 4 * n + 4 ≤ fuel →
    Reads n (Script.fragment fuel t) Fragment.Callable

namespace Suffices

variable {n fuel : Nat} {t : Token}

theorem fragments_succ (h : Suffices fuel) (stops : List String) (last : Option Nat)
    (hn : 4 * n + 1 ≤ fuel + 1) : Reads n (Script.fragments stops (fuel + 1) last) valueCallable := by
  rw [Script.fragments]
  refine .peek_bind fun t ht => ?_
  by_cases hstop : stopsValue stops t = true
  · rw [if_pos hstop]
    exact (Reads.pure (by simp [valueCallable])).ahead
  rw [if_neg hstop]
  refine .get fun s => .discard_next_bind (kind_ne_of_not_stopsValue hstop) fun k hk => ?_
  refine (h.fragment ht (by omega)).bind fun f hf => .get fun s' => ?_
  refine (h.fragments stops _ (by omega)).bind fun rest hrest => .pure ?_
  have hgap : valueCallable (gap s.text last t) := by
    unfold gap
    split
    · simp [valueCallable]
    · dsimp only
      split <;> simp [valueCallable, Fragment.Callable]
  exact valueCallable_append.mpr ⟨hgap, hf, hrest⟩

theorem fragment_succ (h : Suffices fuel) (ht : Wellformed t) (hn : 4 * n + 4 ≤ fuel + 1) :
    Reads n (Script.fragment (fuel + 1) t) Fragment.Callable := by
  rw [Script.fragment]
  split
  · exact .pure (by simp [Fragment.Callable])
  · exact .pure (by simp [Fragment.Callable])
  · rename_i hclass
    refine (h.call ht hclass (by omega)).bind fun c hc => .pure ?_
    simpa only [Fragment.Callable] using hc
  · exact .refuseAt _ _ rfl
  · split
    · split
      · split
        · exact .pure (by simp [Fragment.Callable])
        · exact .refuseAt _ _ rfl
      · exact .pure (by simp [Fragment.Callable])
    · exact .pure (by simp [Fragment.Callable])

theorem isUnclosed_of_callMistake? {f : Builtin} {args : List Argument} {m : Mistake}
    (h : callMistake? f args = some m) : m.isUnclosed = false := by
  unfold callMistake? at h
  dsimp only at h
  split at h
  · cases h
    rfl
  · split at h
    · cases h
      rfl
    · obtain ⟨i, -, rfl⟩ := Option.map_eq_some_iff.mp h
      rfl

/-- A call is refused if the signature of its function does not fit. -/
theorem reads_fitting (t : Token) (f : Builtin) {args : List Argument} (h : argumentsCallable args) :
    Reads n (match callMistake? f args with
      | some m => refuseAt t m
      | none => return (f, args)) fun c => callMistake? c.1 c.2 = none ∧ argumentsCallable c.2 := by
  split
  · rename_i m hmistake
    exact .refuseAt t m (isUnclosed_of_callMistake? hmistake)
  · rename_i hnone
    exact .pure ⟨hnone, h⟩

theorem call_succ (h : Suffices fuel) (ht : Wellformed t) (hclass : classOf? t = some .function)
    (hn : 4 * n + 3 ≤ fuel + 1) :
    Reads n (Script.call (fuel + 1) t) fun c =>
      callMistake? c.1 c.2 = none ∧ argumentsCallable c.2 := by
  obtain ⟨f, hf⟩ := ht.function hclass
  rw [Script.call, hf]
  dsimp only
  refine (Reads.expectOperator "(").bind fun _ _ => (Reads.acceptOperator ")").bind fun closed _ => ?_
  cases closed with
  | true => exact reads_fitting t f (by simp [argumentsCallable])
  | false => exact (h.arguments t f _ (by omega)).bind fun _ hargs => reads_fitting t f hargs

theorem arguments_succ (h : Suffices fuel) (t : Token) (f : Builtin) (ps : List Parameter)
    (hn : 4 * n + 2 ≤ fuel + 1) :
    Reads n (Script.arguments (fuel + 1) t f ps) argumentsCallable := by
  cases ps with
  | nil => exact .refuseAt _ _ rfl
  | cons p ps =>
    have htext : Reads n (do
        let v ← Script.fragments [",", ")"] fuel none
        if v.isEmpty then
          let t ← peek
          refuseAt t (.expected "an argument" t.found)
        return Argument.value v) Argument.Callable := by
      refine (h.fragments _ none (by omega)).bind fun v hv => ?_
      have hvalue : Reads n (pure (Argument.value v)) Argument.Callable :=
        .pure (by simpa only [Argument.Callable] using hv)
      refine .ite (fun _ => ?_) fun _ => hvalue
      exact Reads.peek.bind fun t _ => Reads.refuseAt_bind t _ rfl
    have hrest : ∀ a : Argument, a.Callable → Reads n (do
        if ← acceptOperator ")" then return [a]
        expectOperator ","
        return a :: (← Script.arguments fuel t f ps)) argumentsCallable := by
      intro a ha
      refine (Reads.acceptOperator ")").bind fun closed _ => .ite (fun _ => ?_) fun _ => ?_
      · exact .pure (by simpa only [argumentsCallable, and_true] using ha)
      · refine .expectOperator_bind fun k hk => (h.arguments t f ps (by omega)).bind fun as has => ?_
        exact .pure ⟨ha, has⟩
    unfold Script.arguments
    cases p with
    | buffer =>
      refine Reads.expectBufferName.bind fun name _ => ?_
      exact hrest (.buffer name) (by simp only [Argument.Callable])
    | pattern =>
      refine Reads.acceptPattern.bind fun pattern _ => ?_
      cases pattern with
      | some p => exact hrest (.pattern p) (by simp only [Argument.Callable])
      | none => exact htext.bind hrest
    | text => exact htext.bind hrest

end Suffices

/-- Values are read if there are four levels for every byte that is left, and four more. -/
theorem suffices_all (fuel : Nat) : Suffices fuel := by
  induction fuel with
  | zero =>
    exact ⟨fun _ _ h => by omega, fun _ _ _ h => by omega, fun _ _ h => by omega,
      fun _ h => by omega⟩
  | succ fuel ih =>
    exact ⟨ih.fragments_succ, ih.arguments_succ, ih.call_succ, ih.fragment_succ⟩

namespace Reads

variable {n : Nat}

theorem value (stops : List String) : Reads n (Script.value stops) valueCallable :=
  lineFuel_bind fun _ _ _ hfuel => (suffices_all _).fragments stops none (by omega)

theorem expectValue (stops : List String) (what : String) :
    Reads n (Script.expectValue stops what) valueCallable := by
  refine (value stops).bind fun v hv => .ite (fun _ => ?_) fun _ => .pure hv
  exact peek.bind fun t _ => refuseAt_bind t _ rfl

theorem expectFragment (what : String) : Reads n (Script.expectFragment what) valueCallable := by
  have hfragment : ∀ t, Wellformed t → Reads n (do
      return [← Script.fragment (lineFuel (← MonadState.get)) t]) valueCallable :=
    fun t ht => lineFuel_bind fun s _ _ hfuel =>
      ((suffices_all _).fragment ht (by omega)).bind fun f hf =>
        .pure (by simpa only [valueCallable, and_true] using hf)
  refine next.bind fun t ht => .ite (fun _ => ?_) fun _ => hfragment t ht
  exact refuse_bind _ rfl

theorem operand : Reads n Script.operand Operand.Callable := by
  refine (acceptOperator "-").bind fun negative _ => next.bind fun t ht => ?_
  refine .ite (fun _ => .pure trivial) fun _ => ?_
  refine .ite (fun _ => refuse_bind _ rfl) fun _ => ?_
  split
  · exact .pure trivial
  · rename_i hclass
    refine lineFuel_bind fun s _ _ hfuel => ?_
    refine ((suffices_all _).call ht hclass (by omega)).bind fun c hc => ?_
    exact .ite (fun _ => .pure hc) fun _ => .refuseAt _ _ rfl
  · exact .refuse _ rfl
  · exact .ite (fun _ => .pure trivial) fun _ => .refuse _ rfl

theorem acceptOperand : Reads n Script.acceptOperand fun o => ∀ x ∈ o, x.Callable := by
  refine atEnd.bind fun ended _ => .ite (fun _ => .pure (by simp)) fun _ => ?_
  exact operand.bind fun o ho => .pure (by simpa using ho)

theorem term : Reads n Script.term fun t => t.operand.Callable :=
  (acceptOperator "-").bind fun _ _ => operand.bind fun _ ho => .pure ho

theorem kind_ne_of_arithOp? {t : Token} {op : ArithOp} (h : arithOp? t = some op) :
    t.kind ≠ .endOfInput := by
  intro hkind
  rw [arithOp?, hkind] at h
  cases h

/-- Every operation takes a token, so there are no more of them than bytes. -/
theorem terms {fuel : Nat} (hn : n + 1 ≤ fuel) (additive : Option Bool) :
    Reads n (Script.terms fuel additive) fun l => ∀ x ∈ l, x.2.operand.Callable := by
  induction fuel generalizing n additive with
  | zero => omega
  | succ fuel ih =>
    rw [Script.terms]
    refine .peek_bind fun t _ => ?_
    split
    · exact (Reads.pure (by simp)).ahead
    · rename_i op hop
      refine .discard_next_bind (kind_ne_of_arithOp? hop) fun k hk => ?_
      have hrest : Reads k (do
          let t ← Script.term
          return (op, t) :: (← Script.terms fuel (additive.or (some op.isAdditive))))
          fun l => ∀ x ∈ l, x.2.operand.Callable :=
        term.bind fun t ht => (ih (by omega) _).bind fun rest hrest =>
          .pure (List.forall_mem_cons.mpr ⟨ht, hrest⟩)
      refine .ite (fun _ => ?_) fun _ => hrest
      exact refuse_bind _ rfl

theorem numExpr : Reads n Script.numExpr NumExpr.Callable :=
  term.bind fun _ hfirst => lineFuel_bind fun _ _ _ hfuel =>
    (terms (by omega) none).bind fun _ hrest => .pure ⟨hfirst, hrest⟩

end Reads

end Reading

end LineScript
