import LineScript.Proofs.Regex.EnclosedBranches
import LineScript.Proofs.Regex.Forms
import LineScript.Proofs.Regex.Words

/-! Regular expressions that a group around them ties to the ends of the text. A text in a group reads as the text
alone, unless the text ends the group by itself or a comment in it swallows the end of the group. -/
namespace LineScript.Regex

open Reader

/-- A regular expression in a group, with conditions that tie the group to the start and to the end of the text. -/
def tied (start stop : Bool) (cs : List Char) : List Char :=
  (if start then ['^'] else []) ++ "(?:".toList ++ cs ++ closing stop

/-- A regular expression tied to the ends of the text, where it has to be. -/
def wrapped (start stop : Bool) (cs : List Char) : List Char :=
  if start || stop then tied start stop cs else cs

/-- What a text reads as, with its depth, if it is read to its end. -/
def whole (ignoreCase : Bool) (cs : List Char) : Option (Syntax × Nat) :=
  (reading ignoreCase cs).bind fun v => if v.2.rest = [] then some v.1 else none

theorem whole_eq_some_iff {ignoreCase : Bool} {cs : List Char} {v : Syntax × Nat} :
    whole ignoreCase cs = some v ↔ ∃ s, reading ignoreCase cs = some (v, s) ∧ s.rest = [] := by
  unfold whole
  constructor
  · intro h
    obtain ⟨⟨w, s⟩, hw, hwhole⟩ := Option.bind_eq_some_iff.mp h
    obtain ⟨hs, rfl⟩ : s.rest = [] ∧ w = v := by simpa using hwhole
    exact ⟨s, hw, hs⟩
  · rintro ⟨s, hv, hs⟩
    rw [hv, Option.bind_some, if_pos hs]

theorem wellFormed_of_whole {ignoreCase : Bool} {cs : List Char} {r : Syntax} {depth : Nat}
    (h : whole ignoreCase cs = some (r, depth)) : r.WellFormed := by
  obtain ⟨s, hr, -⟩ := whole_eq_some_iff.mp h
  exact wellFormed_of_reading hr

/-- A text that is read to its end is an expression, unless that is too deep. -/
theorem read?_eq_some_iff_whole {ignoreCase : Bool} {cs : List Char} {r : Syntax} :
    read? ignoreCase cs = some r ↔ ∃ depth, whole ignoreCase cs = some (r, depth) ∧ depth ≤ maxDepth := by
  rw [read?_eq_some_iff]
  constructor
  · rintro ⟨depth, s, hr, hs, hdepth⟩
    exact ⟨depth, whole_eq_some_iff.mpr ⟨s, hr, hs⟩, hdepth⟩
  · rintro ⟨depth, hwhole, hdepth⟩
    obtain ⟨s, hr, hs⟩ := whole_eq_some_iff.mp hwhole
    exact ⟨depth, s, hr, hs, hdepth⟩

/-- Whether a text closes a parenthesis that it does not open. -/
def Unopened (ignoreCase : Bool) (cs : List Char) : Prop :=
  ∃ v s, reading ignoreCase cs = some (v, s) ∧ s.rest ≠ []

/-- Whether a text does not leave the closing parenthesis behind it. -/
def Swallows (ignoreCase stop : Bool) (cs : List Char) : Prop :=
  ∃ v s, reading ignoreCase (cs ++ closing stop) = some (v, s) ∧ s.rest = []

/-- A condition at the start of the text, if there has to be one. -/
def startPieces (start : Bool) : List Piece :=
  if start then [⟨some (.look .textStart), 0⟩] else []

/-- A condition at the end of the text, if there has to be one. -/
def stopPieces (stop : Bool) : List Piece :=
  if stop then [⟨some (.look .textEnd), 0⟩] else []

/-- What a tied expression reads as. -/
def tie (start stop : Bool) (v : Syntax × Nat) : Syntax × Nat :=
  if start || stop then Piece.sequence (stopPieces stop ++ ⟨some v.1, v.2 + 1⟩ :: startPieces start) else v

variable {ignoreCase start stop : Bool} {cs : List Char} {r : Syntax} {depth : Nat} {v : Syntax × Nat} {s : ReadState}

section Steps

variable {fuel : Nat} {ps : List Piece} {f : Flags} {index : Option Nat} {done : List (Syntax × Nat)} {c : Char}

theorem branches_cons (h : s.flags = f) (hc : Text.isBlank c = false ∧ c ≠ '#' ∧ c ≠ ')') (cs : List Char) :
    (branches (fuel + 1) done ps).run (s.on (c :: cs)) =
      (branchRound (bracketed fuel) (branches fuel [] []) done ps f c >>= Round.goOn fun a => branches fuel a.1 a.2).run
        (s.on (c :: cs)) := by
  obtain ⟨hblank, hmark, hend⟩ := hc
  have hnext : s.flags.behindIgnored (c :: cs) = c :: cs := Flags.behindIgnored_cons hblank hmark s.flags cs
  rw [branches_succ, StateT.run_bind, run_branchRounds_cons done ps hnext hend, StateT.run_bind, ← h]
  rfl

theorem branches_caret (h : s.flags = { ignoreCase }) (cs : List Char) :
    (branches (fuel + 1) done ps).run (s.on ('^' :: cs)) =
      (branches fuel done (⟨some (.look .textStart), 0⟩ :: ps)).run (s.on cs) := by
  rw [branches_cons h (by decide)]
  rfl

theorem branches_dollar (h : s.flags = { ignoreCase }) (cs : List Char) :
    (branches (fuel + 1) done ps).run (s.on ('$' :: cs)) =
      (branches fuel done (⟨some (.look .textEnd), 0⟩ :: ps)).run (s.on cs) := by
  rw [branches_cons h (by decide)]
  rfl

/-- A group that records nothing. -/
theorem branches_group (h : s.flags = { ignoreCase }) (cs : List Char) :
    (branches (fuel + 1) done ps).run (s.on ("(?:".toList ++ cs)) =
      ((branches fuel [] []).run (s.on cs)).bind fun v =>
        (groupEnd done ps { ignoreCase } none v.1.1 v.1.2 >>= Round.goOn fun a => branches fuel a.1 a.2).run v.2 := by
  have hmark : s.flags.behindIgnored ('?' :: ':' :: cs) = '?' :: ':' :: cs :=
    Flags.behindIgnored_cons (by decide) (by decide) s.flags _
  have hopening : opening.run (s.on ('(' :: '?' :: ':' :: cs)) = some (.group none, s.on cs) := by
    rw [opening_eq, StateT.run_bind, run_bumpSkip_eq]
    change (rest >>= openedBy).run (s.on (s.flags.behindIgnored ('?' :: ':' :: cs))) = _
    rw [hmark]
    rfl
  change (branches (fuel + 1) done ps).run (s.on ('(' :: '?' :: ':' :: cs)) = _
  rw [branches_cons h (by decide)]
  change (groupOrFlags (branches fuel [] []) done ps { ignoreCase } >>= _).run _ = _
  rw [groupOrFlags_goOn, StateT.run_bind, hopening]
  rfl

theorem run_groupEnd_closed {behind : List Char} (hs : s.rest = ')' :: behind) :
    (groupEnd done ps f index r depth).run s =
      some (withPiece done ps ⟨some (index.elim r (.group · r)), depth + 1⟩,
        { s with rest := behind, flags := f }) := by
  unfold groupEnd
  simp only [StateT.run_bind, run_rest_eq, hs, Option.bind_eq_bind, Option.bind_some]
  rfl

theorem run_groupEnd_open (hs : ∀ behind, s.rest ≠ ')' :: behind) :
    (groupEnd done ps f index r depth).run s = none := by
  unfold groupEnd
  simp only [StateT.run_bind, run_rest_eq, Option.bind_eq_bind, Option.bind_some]
  rfl

end Steps

section Tying

/-- In front of a closing parenthesis a text is read as alone. -/
theorem compared_reading (ignoreCase stop : Bool) (cs : List Char) :
    Compared stop (Over stop) (reading ignoreCase cs) (reading ignoreCase (cs ++ closing stop)) := by
  have hlonger : 2 * cs.length + 2 ≤ 2 * (cs ++ closing stop).length + 2 := by
    rw [List.length_append]
    omega
  have hfuel := branches_fuel hlonger (s := { rest := cs, flags := { ignoreCase } }) (Nat.le_succ _) [] []
  have hfollows : Follows stop (Over stop) _ _ { rest := cs, flags := { ignoreCase } } :=
    follows_branches [] [] (2 * (cs ++ closing stop).length + 2) _
  have hcompared := hfollows.compared
  rw [← hfuel] at hcompared
  exact hcompared

/-- The group of a tied expression is read as its text in front of a closing parenthesis. -/
theorem exists_reading_tied (ignoreCase start stop : Bool) (cs : List Char) :
    ∃ fuel, 2 * (closing stop).length ≤ fuel ∧ reading ignoreCase (tied start stop cs) =
      (reading ignoreCase (cs ++ closing stop)).bind fun v =>
        (groupEnd [] (startPieces start) { ignoreCase } none v.1.1 v.1.2 >>=
          Round.goOn fun a => branches fuel a.1 a.2).run v.2 := by
  have hgroup (fuel : Nat) (hfuel : 2 * (cs ++ closing stop).length + 2 ≤ fuel) :
      (branches (fuel + 1) [] (startPieces start)).run
          (ReadState.on { rest := [], flags := { ignoreCase } } ("(?:".toList ++ (cs ++ closing stop))) =
        (reading ignoreCase (cs ++ closing stop)).bind fun v =>
          (groupEnd [] (startPieces start) { ignoreCase } none v.1.1 v.1.2 >>=
            Round.goOn fun a => branches fuel a.1 a.2).run v.2 := by
    have henough := branches_fuel hfuel (s := { rest := cs ++ closing stop, flags := { ignoreCase } })
      (Nat.le_succ _) [] []
    rw [branches_group rfl]
    unfold reading
    rw [henough]
    rfl
  generalize htext : "(?:".toList ++ (cs ++ closing stop) = text at hgroup
  have hlength : text.length = (cs ++ closing stop).length + 3 := by
    rw [← htext, List.length_append]
    exact Nat.add_comm _ _
  have hclosing : (closing stop).length ≤ (cs ++ closing stop).length := (List.suffix_append cs _).length_le
  have htied : tied start stop cs = (if start then ['^'] else []) ++ text := by
    rw [← htext, tied, List.append_assoc, List.append_assoc]
  cases start with
  | false =>
    refine ⟨2 * text.length + 1, by omega, ?_⟩
    rw [htied]
    exact hgroup (2 * text.length + 1) (by omega)
  | true =>
    refine ⟨2 * text.length + 2, by omega, ?_⟩
    rw [htied]
    change (branches (2 * text.length + 2 + 1 + 1) [] []).run
      (ReadState.on { rest := [], flags := { ignoreCase } } ('^' :: text)) = _
    rw [branches_caret rfl]
    exact hgroup (2 * text.length + 2) (by omega)

/-- A text that leaves just the parenthesis behind it is a group of its own. -/
theorem whole_tied (h : reading ignoreCase (cs ++ closing stop) = some ((r, depth), s)) (hs : s.rest = closing stop) :
    whole ignoreCase (tied start stop cs) =
      some (Piece.sequence (stopPieces stop ++ ⟨some r, depth + 1⟩ :: startPieces start)) := by
  obtain ⟨fuel, hfuel, hreading⟩ := exists_reading_tied ignoreCase start stop cs
  unfold whole
  rw [hreading, h, Option.bind_some, StateT.run_bind, run_groupEnd_closed hs]
  change ((branches fuel [] (⟨some r, depth + 1⟩ :: startPieces start)).run
    (ReadState.on { s with flags := { ignoreCase } } (if stop then ['$'] else []))).bind _ = _
  cases stop with
  | false =>
    obtain ⟨fuel, rfl⟩ : ∃ n, fuel = n + 1 := ⟨fuel - 1, by simp [closing] at hfuel; omega⟩
    rw [if_neg Bool.false_ne_true, branches_end rfl]
    rfl
  | true =>
    obtain ⟨fuel, rfl⟩ : ∃ n, fuel = n + 1 + 1 := ⟨fuel - 2, by simp [closing] at hfuel; omega⟩
    rw [if_pos rfl, branches_dollar rfl, branches_end rfl]
    rfl

/-- A text that leaves no parenthesis behind it is no group. -/
theorem whole_tied_none (h : ∀ v s, reading ignoreCase (cs ++ closing stop) = some (v, s) →
    ∀ behind, s.rest ≠ ')' :: behind) :
    whole ignoreCase (tied start stop cs) = none := by
  obtain ⟨fuel, -, hreading⟩ := exists_reading_tied ignoreCase start stop cs
  unfold whole
  rw [hreading]
  cases hr : reading ignoreCase (cs ++ closing stop) with
  | none => rfl
  | some w =>
    obtain ⟨v, s⟩ := w
    rw [Option.bind_some, StateT.run_bind, run_groupEnd_open (h v s hr)]
    rfl

theorem Unopened.whole_eq_none (h : Unopened ignoreCase cs) : whole ignoreCase cs = none := by
  obtain ⟨v, s, hv, hs⟩ := h
  rw [whole, hv, Option.bind_some, if_neg hs]

theorem Swallows.whole_eq_none (h : Swallows ignoreCase stop cs) (hties : (start || stop) = true) :
    whole ignoreCase (wrapped start stop cs) = none := by
  obtain ⟨v, s, hv, hs⟩ := h
  rw [wrapped, if_pos hties]
  apply whole_tied_none
  intro w s' hw behind hbehind
  cases hv.symm.trans hw
  cases hs.symm.trans hbehind

/-- A text is read in a group as alone, up to the two ways in which the group may end elsewhere. -/
theorem whole_wrapped (ignoreCase start stop : Bool) (cs : List Char) :
    whole ignoreCase (wrapped start stop cs) = (whole ignoreCase cs).map (tie start stop) ∨ Unopened ignoreCase cs ∨
      ((start || stop) = true ∧ Swallows ignoreCase stop cs) := by
  by_cases hties : (start || stop) = true
  swap
  · have htie : tie start stop = id := funext fun v => if_neg hties
    rw [wrapped, if_neg hties, htie, Option.map_id, id]
    exact .inl rfl
  have hwrapped : wrapped start stop cs = tied start stop cs := if_pos hties
  have hrefused (h : ∀ v s, reading ignoreCase (cs ++ closing stop) = some (v, s) → ∀ behind, s.rest ≠ ')' :: behind)
      (halone : reading ignoreCase cs = none) :
      whole ignoreCase (wrapped start stop cs) = (whole ignoreCase cs).map (tie start stop) := by
    rw [hwrapped, whole_tied_none h, whole, halone]
    rfl
  have hcompared := compared_reading ignoreCase stop cs
  generalize hgroup : reading ignoreCase (cs ++ closing stop) = o at hcompared
  generalize halone : reading ignoreCase cs = o' at hcompared
  cases hcompared with
  | refused => exact .inl (hrefused (by simp [hgroup]) halone)
  | same v s =>
    by_cases hs : s.rest = []
    · have hclosing : (s.on (s.rest ++ closing stop)).rest = closing stop := by
        rw [hs]
        rfl
      left
      rw [hwrapped, whole_tied hgroup hclosing, whole, halone, Option.bind_some, if_pos hs, Option.map_some, tie,
        if_pos hties]
    · exact .inr (.inl ⟨v, s, halone, hs⟩)
  | swallowed v s hs => exact .inr (.inr ⟨hties, v, s, hgroup, hs⟩)
  | only v s hs =>
    have hend : ')' ∉ (closing stop).tail := by cases stop <;> decide
    left
    refine hrefused ?_ halone
    intro w s' h behind hrest
    cases hgroup.symm.trans h
    have hmem : ')' ∈ s.rest := hrest ▸ List.mem_cons_self
    exact hend (hs.mem hmem)

theorem run_branches_closing {fuel : Nat} {ps : List Piece} :
    (branches (fuel + 1) [] ps).run (s.on (closing stop)) = some (Piece.sequence ps, s.on (closing stop)) := by
  have hend : s.flags.behindIgnored (closing stop) = closing stop :=
    Flags.behindIgnored_cons (by decide) (by decide) s.flags _
  have hover : (branchRounds (bracketed fuel) (branches fuel [] []) [] ps).run (s.on (closing stop)) =
      some (.ended (Piece.sequence ps), s.on (s.flags.behindIgnored (closing stop))) := by
    apply run_branchRounds_over
    intro c cs h
    cases hend.symm.trans h
    rfl
  rw [branches_succ, StateT.run_bind, hover, hend]
  rfl

/-- Texts that are read as pieces whatever stands behind them are read in a group as alone. -/
theorem Means.whole_wrapped {L : Language Char} (h : Means ignoreCase cs L) (start stop : Bool) :
    whole ignoreCase (wrapped start stop cs) = (whole ignoreCase cs).map (tie start stop) := by
  obtain ⟨o, ho⟩ : ∃ o, ReadsAs ignoreCase cs o := by
    rcases h with ⟨ho, -⟩ | ⟨qs, ho, -⟩
    · exact ⟨none, ho⟩
    · exact ⟨some qs, ho⟩
  have halone := ho.reading_eq
  have hgroup : reading ignoreCase (cs ++ closing stop) =
      o.map fun qs => (Piece.sequence qs, ReadState.on { rest := [], flags := { ignoreCase } } (closing stop)) := by
    obtain ⟨fuel, hfuel, hrun⟩ := ho { rest := [], flags := { ignoreCase } } (closing stop)
      (2 * (cs ++ closing stop).length + 2) [] rfl (by simp [closing]) (Nat.le_succ _)
    refine hrun.trans ?_
    cases o with
    | none => rfl
    | some qs =>
      obtain ⟨fuel, rfl⟩ : ∃ n, fuel = n + 1 := ⟨fuel - 1, by omega⟩
      rw [Option.bind_some, List.append_nil, run_branches_closing]
      rfl
  rcases Regex.whole_wrapped ignoreCase start stop cs with heq | ⟨v, s, hv, hs⟩ | ⟨-, v, s, hv, hs⟩
  · exact heq
  · obtain ⟨qs, -, hqs⟩ := Option.map_eq_some_iff.mp (halone.symm.trans hv)
    cases hqs
    exact absurd rfl hs
  · obtain ⟨qs, -, hqs⟩ := Option.map_eq_some_iff.mp (hgroup.symm.trans hv)
    cases hqs
    cases hs

end Tying

section Sizes

theorem matchesAll_startPieces {p q : Place} :
    MatchesAll ((startPieces start).filterMap (·.syn)) p q ↔ (start = true → p.prev = none) ∧ q = p := by
  cases start with
  | false => simp [startPieces, MatchesAll]
  | true =>
    have hlook : Look.textStart.holds p.prev p.rest.head? = true ↔ p.prev = none := Option.isNone_iff_eq_none
    simp [startPieces, MatchesAll, Syntax.Matches, hlook]

theorem matchesAll_stopPieces {p q : Place} :
    MatchesAll ((stopPieces stop).filterMap (·.syn)) p q ↔ (stop = true → p.rest = []) ∧ q = p := by
  cases stop with
  | false => simp [stopPieces, MatchesAll]
  | true =>
    have hlook : Look.textEnd.holds p.prev p.rest.head? = true ↔ p.rest = [] := by
      change p.rest.head?.isNone = true ↔ _
      rw [Option.isNone_iff_eq_none, List.head?_eq_none_iff]
    simp [stopPieces, MatchesAll, Syntax.Matches, hlook]

/-- A tied expression matches between the ends it is tied to. -/
theorem matches_tie {p q : Place} : (tie start stop v).1.Matches p q ↔
    (start = true → p.prev = none) ∧ v.1.Matches p q ∧ (stop = true → q.rest = []) := by
  by_cases hties : (start || stop) = true
  · have hsyn : (stopPieces stop ++ ⟨some v.1, v.2 + 1⟩ :: startPieces start : List Piece).filterMap (·.syn) =
        (stopPieces stop).filterMap (·.syn) ++ v.1 :: (startPieces start).filterMap (·.syn) := List.filterMap_append
    have hstart : ((startPieces start).filterMap (·.syn)).reverse = (startPieces start).filterMap (·.syn) := by
      cases start <;> rfl
    have hstop : ((stopPieces stop).filterMap (·.syn)).reverse = (stopPieces stop).filterMap (·.syn) := by
      cases stop <;> rfl
    rw [tie, if_pos hties, matches_sequence, hsyn, List.reverse_append, List.reverse_cons, hstart, hstop]
    simp only [matchesAll_append, matchesAll_startPieces, matchesAll_stopPieces, MatchesAll]
    constructor
    · rintro ⟨_, ⟨_, ⟨hp, rfl⟩, m, hm, rfl⟩, hq, rfl⟩
      exact ⟨hp, hm, hq⟩
    · rintro ⟨hp, hm, hq⟩
      exact ⟨q, ⟨p, ⟨hp, rfl⟩, q, hm, rfl⟩, hq, rfl⟩
  · rw [Bool.not_eq_true, Bool.or_eq_false_iff] at hties
    obtain ⟨rfl, rfl⟩ := hties
    simp [tie]

theorem stateCount_tie : (tie start stop v).1.stateCount =
    v.1.stateCount + stop.toNat + (start && (stop || v.1 ≠ .empty)).toNat := by
  cases start
  · cases stop
    · rfl
    · rfl
  · cases stop
    · by_cases h : v.1 = .empty
      · simp [tie, stopPieces, startPieces, Piece.sequence, h, Syntax.stateCount]
      · simp [tie, stopPieces, startPieces, Piece.sequence, h, Syntax.stateCount, Nat.add_comm]
    · change 1 + (v.1.stateCount + 1) = v.1.stateCount + 1 + 1
      omega

theorem depth_tie : (tie start stop v).2 = v.2 + 2 * (start || stop).toNat := by
  cases start <;> cases stop <;> simp [tie, stopPieces, startPieces, Piece.sequence]

/-- Whether an expression is another one tied to the ends of the text, and hardly larger. -/
structure Ties (start stop : Bool) (v w : Syntax × Nat) : Prop where
  matches_iff (p q : Place) :
    w.1.Matches p q ↔ (start = true → p.prev = none) ∧ v.1.Matches p q ∧ (stop = true → q.rest = [])
  le_stateCount : v.1.stateCount ≤ w.1.stateCount
  stateCount_le : w.1.stateCount ≤ v.1.stateCount + 2
  le_depth : v.2 ≤ w.2
  depth_le : w.2 ≤ v.2 + 2

/-- An expression that is tied already is tied once only. -/
theorem ties_tie (start stop caret dollar : Bool) (v : Syntax × Nat) :
    Ties start stop (tie caret dollar v) (tie (start || caret) (stop || dollar) v) where
  matches_iff p q := by
    simp only [matches_tie, Bool.or_eq_true, or_imp]
    tauto
  le_stateCount := by
    have hstart : ∀ a b c d e : Bool, (b && (d || e)) ≤ ((a || b) && (c || d || e)) := by decide
    have hstop := Bool.toNat_le_toNat (Bool.right_le_or stop dollar)
    rw [stateCount_tie, stateCount_tie, Nat.add_assoc, Nat.add_assoc]
    exact Nat.add_le_add_left (Nat.add_le_add hstop (Bool.toNat_le_toNat (hstart start caret stop dollar _))) _
  stateCount_le := by
    have hstop := (stop || dollar).toNat_le
    have hstart := ((start || caret) && (stop || dollar || decide (v.1 ≠ .empty))).toNat_le
    rw [stateCount_tie, stateCount_tie]
    omega
  le_depth := by
    have hties : ∀ a b c d : Bool, (b || d) ≤ (a || b || (c || d)) := by decide
    have hle := Bool.toNat_le_toNat (hties start caret stop dollar)
    rw [depth_tie, depth_tie]
    omega
  depth_le := by
    have hle := (start || caret || (stop || dollar)).toNat_le
    rw [depth_tie, depth_tie]
    omega

end Sizes

end LineScript.Regex
