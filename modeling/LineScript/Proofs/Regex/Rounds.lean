import LineScript.Proofs.Regex.Reading

/-! The reader of regular expressions taken apart: its loops into rounds, and its longer steps into parts. -/
namespace LineScript.Regex

open Reader

/-- What a round of a loop comes to: a result, or what to go on with. -/
inductive Round (α β : Type) where
  | ended (b : β)
  | on (a : α)

/-- The result of a loop from the end of a round. -/
def Round.goOn {α β : Type} (loop : α → Reader β) : Round α β → Reader β
  | ended b => pure b
  | on a => loop a

section Branches

/-- Finished branches, and the pieces of the current one. -/
abbrev BranchParts := List (Syntax × Nat) × List Piece

variable (class? : Reader (CharSet × Nat)) (group : Reader (Syntax × Nat)) (done : List (Syntax × Nat))
  (ps : List Piece)

/-- The branches with one more piece in the current one. -/
def withPiece (p : Piece) : Round BranchParts (Syntax × Nat) :=
  .on (done, p :: ps)

/-- A repetition of the last piece, behind its operator. -/
def repetition (f : Flags) (low : Nat) (high : Option Nat) : Reader (Round BranchParts (Syntax × Nat)) := do
  match repeatLast ps low high (← lazyMark) f.swapGreed with
  | some ps => return .on (done, ps)
  | none => failure

/-- A counted repetition of the last piece, at its brace. -/
def countedRepetition (f : Flags) : Reader (Round BranchParts (Syntax × Nat)) := do
  let (low, high) ← counts
  match ← rest with
  | '\x7d' :: _ =>
    bumpSkip
    if high.all (low ≤ ·) then repetition done ps f low high else failure
  | _ => failure

/-- The end of a group, with the flags in force outside of it. -/
def groupEnd (f : Flags) (index : Option Nat) (r : Syntax) (depth : Nat) :
    Reader (Round BranchParts (Syntax × Nat)) := do
  match ← rest with
  | ')' :: behind =>
    modify fun s => { s with rest := behind, flags := f }
    return withPiece done ps ⟨some (index.elim r (.group · r)), depth + 1⟩
  | _ => failure

/-- A group or new flags, at the parenthesis. -/
def groupOrFlags (f : Flags) : Reader (Round BranchParts (Syntax × Nat)) := do
  match ← opening with
  | .flags => return withPiece done ps ⟨none, 0⟩
  | .group index =>
    let (r, depth) ← group
    groupEnd done ps f index r depth

/-- An atom outside brackets, at its character. -/
def atomAt (c : Char) : Reader Atom :=
  if c = '\\' then escape
  else do
    bump
    return if c = '.' then .dot else .char c false

/-- A single atom as a piece. -/
def singleAtom (f : Flags) (c : Char) : Reader (Round BranchParts (Syntax × Nat)) := do
  let atom ← atomAt c
  match atom.toSyntax? f with
  | some r => return withPiece done ps ⟨some r, 0⟩
  | none => failure

/-- A condition on the place, at its character. -/
def condition (l : Look) : Reader (Round BranchParts (Syntax × Nat)) := do
  bump
  return withPiece done ps ⟨some (.look l), 0⟩

/-- The round of the branches for the next character. -/
def branchRound (f : Flags) (c : Char) : Reader (Round BranchParts (Syntax × Nat)) :=
  if c = '|' then do
    bump
    return .on (Piece.sequence ps :: done, [])
  else if c = '(' then groupOrFlags group done ps f
  else if c = '[' then do
    let (s, depth) ← class?
    return withPiece done ps ⟨some (.set s), depth⟩
  else if c = '?' then do
    bump
    repetition done ps f 0 (some 1)
  else if c = '*' then do
    bump
    repetition done ps f 0 none
  else if c = '+' then do
    bump
    repetition done ps f 1 none
  else if c = '\x7b' then if ps.isEmpty then failure else countedRepetition done ps f
  else if c = '^' then
    condition done ps (if f.multiLine then (if f.crlf then .crlfLineStart else .lineStart) else .textStart)
  else if c = '$' then
    condition done ps (if f.multiLine then (if f.crlf then .crlfLineEnd else .lineEnd) else .textEnd)
  else singleAtom done ps f c

/-- A round of the branches: up to a closing parenthesis or the end, or for the next character. -/
def branchRounds : Reader (Round BranchParts (Syntax × Nat)) := do
  skip
  let f ← flags
  let cs ← rest
  match cs.head? with
  | none => return .ended (alternation (Piece.sequence ps) done)
  | some c =>
    if c = ')' then return .ended (alternation (Piece.sequence ps) done)
    else branchRound class? group done ps f c

end Branches

variable {done : List (Syntax × Nat)} {ps : List Piece} {f : Flags} {loop : BranchParts → Reader (Syntax × Nat)}

theorem repetition_goOn (low : Nat) (high : Option Nat) : repetition done ps f low high >>= Round.goOn loop =
    (do
      match repeatLast ps low high (← lazyMark) f.swapGreed with
      | some ps => loop (done, ps)
      | none => failure) := by
  unfold repetition
  rw [bind_assoc]
  congr 1
  funext isLazy
  split
  · rfl
  · rfl

/-- A repetition behind its operator. -/
theorem bump_repetition_goOn (low : Nat) (high : Option Nat) :
    (bump >>= fun _ => repetition done ps f low high) >>= Round.goOn loop =
      (do
        let _ ← bump
        match repeatLast ps low high (← lazyMark) f.swapGreed with
        | some ps => loop (done, ps)
        | none => failure) := by
  rw [bind_assoc]
  congr 1
  funext _
  exact repetition_goOn low high

theorem countedRepetition_goOn : countedRepetition done ps f >>= Round.goOn loop =
    (do
      let (low, high) ← counts
      match ← rest with
      | '\x7d' :: _ =>
        bumpSkip
        if high.all (low ≤ ·) then
          match repeatLast ps low high (← lazyMark) f.swapGreed with
          | some ps => loop (done, ps)
          | none => failure
        else failure
      | _ => failure) := by
  unfold countedRepetition
  rw [bind_assoc]
  congr 1
  funext bounds
  rw [bind_assoc]
  congr 1
  funext cs
  split
  · rw [bind_assoc]
    congr 1
    funext _
    split
    · exact repetition_goOn _ _
    · rfl
  · rfl

theorem groupOrFlags_goOn (group : Reader (Syntax × Nat)) : groupOrFlags group done ps f >>= Round.goOn loop =
    (do
      match ← opening with
      | .flags => loop (done, ⟨none, 0⟩ :: ps)
      | .group index =>
        let (r, depth) ← group
        groupEnd done ps f index r depth >>= Round.goOn loop) := by
  unfold groupOrFlags
  rw [bind_assoc]
  congr 1
  funext o
  cases o with
  | flags => rfl
  | group index => exact bind_assoc _ _ _

theorem groupEnd_goOn (index : Option Nat) (r : Syntax) (depth : Nat) :
    groupEnd done ps f index r depth >>= Round.goOn loop =
    (do
      match ← rest with
      | ')' :: behind =>
        modify fun s => { s with rest := behind, flags := f }
        loop (done, ⟨some (index.elim r (.group · r)), depth + 1⟩ :: ps)
      | _ => failure) := by
  unfold groupEnd
  rw [bind_assoc]
  congr 1
  funext cs
  split
  · rfl
  · rfl

theorem singleAtom_goOn (c : Char) : singleAtom done ps f c >>= Round.goOn loop =
    (do
      let atom ← atomAt c
      match atom.toSyntax? f with
      | some r => loop (done, ⟨some r, 0⟩ :: ps)
      | none => failure) := by
  unfold singleAtom
  rw [bind_assoc]
  congr 1
  funext atom
  split
  · rfl
  · rfl

/-- The branches are read round by round. -/
theorem branches_succ (fuel : Nat) (done : List (Syntax × Nat)) (ps : List Piece) :
    branches (fuel + 1) done ps =
      branchRounds (bracketed fuel) (branches fuel [] []) done ps >>= Round.goOn fun a => branches fuel a.1 a.2 := by
  conv_lhs => unfold branches
  unfold branchRounds
  simp only [bind_assoc]
  congr 1
  funext _
  congr 1
  funext f
  congr 1
  funext cs
  split
  · rfl
  · rfl
  · rfl
  · change _ = groupOrFlags _ done ps f >>= _
    rw [groupOrFlags_goOn]
    simp only [groupEnd_goOn]
    congr 1
    funext o
    cases o with
    | flags => rfl
    | group index => cases index <;> rfl
  · change _ = (bracketed fuel >>= fun r => pure (withPiece done ps ⟨some (.set r.1), r.2⟩)) >>= _
    simp only [bind_assoc, pure_bind, withPiece, Round.goOn]
  · change _ = (bump >>= fun _ => repetition done ps f 0 (some 1)) >>= _
    refine Eq.trans ?_ (bump_repetition_goOn 0 (some 1)).symm
    rfl
  · change _ = (bump >>= fun _ => repetition done ps f 0 none) >>= _
    refine Eq.trans ?_ (bump_repetition_goOn 0 none).symm
    rfl
  · change _ = (bump >>= fun _ => repetition done ps f 1 none) >>= _
    refine Eq.trans ?_ (bump_repetition_goOn 1 none).symm
    rfl
  · change _ = (if ps.isEmpty = true then failure else countedRepetition done ps f) >>= _
    split
    · rfl
    · refine Eq.trans ?_ countedRepetition_goOn.symm
      rfl
  · rfl
  · rfl
  · rename_i c _ hend hbar hgroup hclass hmark hstar hplus hbrace hcaret hdollar
    have hround : branchRound (bracketed fuel) (branches fuel [] []) done ps f c = singleAtom done ps f c := by
      simp only [branchRound, if_neg hbar, if_neg hgroup, if_neg hclass, if_neg hmark, if_neg hstar, if_neg hplus,
        if_neg hbrace, if_neg hcaret, if_neg hdollar]
    simp only [List.head?_cons, if_neg hend, hround, singleAtom_goOn]
    unfold atomAt
    split
    · rfl
    · rfl
    · rename_i hescape hdot
      simp only [if_neg hescape, if_neg hdot]
      rfl

section Classes

/-- What waits for its right side in a class, and what has been read of that. -/
abbrev ClassParts := Option (ClassOp × CharSet × Nat) × ClassPart

variable (nested : Reader (CharSet × Nat)) (left : Option (ClassOp × CharSet × Nat)) (p : ClassPart)

/-- An operation in a class, which has been passed. -/
def classOperation (f : Flags) (op : ClassOp) (behind : List Char) : Reader (Round ClassParts (CharSet × Nat)) := do
  setRest behind
  return .on (some (op, p.close f left), {})

/-- A class in a class, at its bracket. -/
def innerClass (cs : List Char) : Reader (Round ClassParts (CharSet × Nat)) := do
  match namedClass? cs with
  | some (s, behind) =>
    setRest behind
    return .on (left, p.add s 0)
  | none =>
    let (s, depth) ← nested
    return .on (left, p.add s depth)

/-- What stands next in a class. -/
inductive ClassMark where
  | nothing
  | close (behind : List Char)
  | operation (op : ClassOp) (behind : List Char)
  | inner
  | member

/-- What a text in a class starts with. -/
def classMark : List Char → ClassMark
  | [] => .nothing
  | ']' :: behind => .close behind
  | '&' :: '&' :: behind => .operation .inter behind
  | '-' :: '-' :: behind => .operation .diff behind
  | '~' :: '~' :: behind => .operation .symmDiff behind
  | '[' :: _ => .inner
  | _ => .member

/-- The round of a class for what stands next. -/
def classRound (f : Flags) (cs : List Char) : Reader (Round ClassParts (CharSet × Nat)) :=
  match classMark cs with
  | .nothing => failure
  | .close behind => do
    setRest behind
    return .ended (p.close f left)
  | .operation op behind => classOperation left p f op behind
  | .inner => innerClass nested left p cs
  | .member => do
    let s ← classRange
    return .on (left, p.add s 0)

/-- A round of a class: up to its closing bracket, or for the next member. -/
def classRounds : Reader (Round ClassParts (CharSet × Nat)) := do
  skip
  let f ← flags
  classRound nested left p f (← rest)

/-- Whether a caret negates a class. -/
def classNegation : Reader Bool := do
  match ← rest with
  | '^' :: _ =>
    bumpOn
    return true
  | _ => return false

/-- A closing bracket that is the first member of a class. -/
def firstBracket (p : ClassPart) : Reader ClassPart := do
  match ← rest with
  | ']' :: _ =>
    if p.members = 0 then
      bumpOn
      return p.add (.single ']') 0
    else return p
  | _ => return p

/-- The set of a class, from the set of its members. -/
def classSet (f : Flags) (negated : Bool) (s : CharSet) : CharSet :=
  let s := if f.ignoreCase then .folded f.unicode s else s
  if negated then .compl s else s

/-- A class as a whole, from the set of its members. -/
def classEnd (negated : Bool) (s : CharSet) (depth : Nat) : Reader (CharSet × Nat) := do
  let f ← flags
  if !f.unicode && (classSet f negated s).reachesBeyondAscii then failure
  else return (classSet f negated s, depth + 1)

/-- A text without a caret in front, and whether there was one. -/
def negation : List Char → Bool × List Char
  | '^' :: cs => (true, cs)
  | cs => (false, cs)

/-- The name of a class up to a colon and a closing bracket, with the text behind them. -/
def className? (negated : Bool) (cs : List Char) : Option (CharSet × List Char) :=
  match cs.dropWhile (· != ':') with
  | ':' :: ']' :: behind =>
    (CharSet.namedClass? (String.ofList (cs.takeWhile (· != ':')))).map fun s =>
      (if negated then .compl s else s, behind)
  | _ => none

/-- Whether the character behind a member of a class does not go on with a range. -/
def standsAlone (f : Flags) (c : Char) (cs : List Char) : Bool :=
  let after := if f.ignoreBlank then headIgnoring cs.head? false cs else cs.head?
  c != '-' || after == some ']' || after == some '-'

/-- The last member of a range, with the set of the range. -/
def rangeLast (f : Flags) (first : Atom) : Reader CharSet := do
  let last ← classAtom
  match first, last with
  | .char a _, .char b _ =>
    if b < a || (!f.unicode && 0x80 ≤ b.toNat) then failure
    else return .range a.toNat b.toNat
  | _, _ => failure

/-- The set of a member, or of the range that goes on behind it. -/
def memberOrRange (f : Flags) (first : Atom) : List Char → Reader CharSet
  | [] => failure
  | c :: cs =>
    if standsAlone f c cs then (first.toSet? f : Option CharSet)
    else do
      bumpOn
      rangeLast f first

/-- The set of a member or a range behind its first member. -/
def afterMember (first : Atom) : Reader CharSet := do
  skip
  memberOrRange (← flags) first (← rest)

end Classes

theorem classRange_eq : classRange = classAtom >>= afterMember :=
  rfl

theorem namedClass?_cons (cs : List Char) :
    namedClass? ('[' :: ':' :: cs) = className? (negation cs).1 (negation cs).2 :=
  rfl

theorem namedClass?_eq_some {cs : List Char} {r : CharSet × List Char} (h : namedClass? cs = some r) :
    ∃ cs', cs = '[' :: ':' :: cs' ∧ className? (negation cs').1 (negation cs').2 = some r := by
  unfold namedClass? at h
  split at h
  · rename_i cs'
    exact ⟨cs', rfl, h⟩
  · cases h

theorem innerClass_goOn (nested : Reader (CharSet × Nat)) (left : Option (ClassOp × CharSet × Nat)) (p : ClassPart)
    (cs : List Char) (loop : ClassParts → Reader (CharSet × Nat)) : innerClass nested left p cs >>= Round.goOn loop =
    (do
      match namedClass? cs with
      | some (s, behind) =>
        setRest behind
        loop (left, p.add s 0)
      | none =>
        let (s, depth) ← nested
        loop (left, p.add s depth)) := by
  unfold innerClass
  split
  · rfl
  · rw [bind_assoc]
    rfl

/-- The members of a class are read round by round. -/
theorem classItems_succ (fuel : Nat) (left : Option (ClassOp × CharSet × Nat)) (p : ClassPart) :
    classItems (fuel + 1) left p =
      classRounds (bracketed fuel) left p >>= Round.goOn fun a => classItems fuel a.1 a.2 := by
  conv_lhs => unfold classItems
  unfold classRounds classRound
  simp only [bind_assoc]
  congr 1
  funext _
  congr 1
  funext f
  congr 1
  funext cs
  split
  · rfl
  · rfl
  · rfl
  · rfl
  · rfl
  · change _ = innerClass _ left p _ >>= _
    refine Eq.trans ?_ (innerClass_goOn _ left p _ _).symm
    rfl
  · rename_i hnil hend hand hdash htilde hopen
    have hmark : classMark cs = .member := classMark.eq_7 cs hnil hend hand hdash htilde hopen
    rw [hmark]
    dsimp only
    rw [bind_assoc]
    rfl

theorem classNegation_bind {α : Type} (k : Bool → Reader α) : classNegation >>= k =
    (do
      match ← rest with
      | '^' :: _ =>
        bumpOn
        k true
      | _ => k false) := by
  unfold classNegation
  rw [bind_assoc]
  congr 1
  funext cs
  split
  · rw [bind_assoc]
    rfl
  · rfl

theorem firstBracket_bind {α : Type} (p : ClassPart) (k : ClassPart → Reader α) : firstBracket p >>= k =
    (do
      match ← rest with
      | ']' :: _ =>
        if p.members = 0 then
          bumpOn
          k (p.add (.single ']') 0)
        else k p
      | _ => k p) := by
  unfold firstBracket
  rw [bind_assoc]
  congr 1
  funext cs
  split
  · split
    · rw [bind_assoc]
      rfl
    · rfl
  · rfl

/-- A class from the first member on that may be a closing bracket. -/
def classMembers (fuel : Nat) (negated : Bool) (p : ClassPart) : Reader (CharSet × Nat) := do
  let p ← firstBracket p
  let (s, depth) ← classItems fuel none p
  classEnd negated s depth

/-- A class from the dashes on that it may start with. -/
def classFromDashes (fuel : Nat) (negated : Bool) : Reader (CharSet × Nat) := do
  let p ← leadingDashes ((← rest).length + 1) {}
  classMembers fuel negated p

theorem bracketed_succ (fuel : Nat) :
    bracketed (fuel + 1) = bumpOn >>= fun _ => classNegation >>= classFromDashes fuel := by
  conv_lhs => unfold bracketed
  unfold classFromDashes classMembers
  simp only [firstBracket_bind, classNegation_bind, pure_bind]
  rfl

section Groups

/-- Passes white space. -/
def trimBlank : Reader Unit :=
  modify fun s => { s with rest := Text.trimLeft s.rest }

/-- The count that digits stand for, if there are any. -/
def countOf (ds : List Char) : Reader (Option Nat) :=
  if ds.isEmpty then return none
  else
    let n := ds.foldl (fun n c => 10 * n + (c.toNat - '0'.toNat)) 0
    if n < Number.twoTo 32 then return some n else failure

/-- At the end of the text there is nothing to skip. -/
theorem skip_eq : (do if !(← rest).isEmpty then skip) = skip := by
  funext s
  obtain ⟨cs, f, groups, names⟩ := s
  cases cs with
  | nil =>
    change some ((), _) = some ((), if f.ignoreBlank = true then _ else _)
    split <;> rfl
  | cons c cs => rfl

theorem count?_eq : count? = (do
    trimBlank
    let ds ← countDigits ((← rest).length + 1) []
    trimBlank
    skip
    countOf ds) := by
  unfold count?
  congr 1
  funext _
  congr 1
  funext cs
  congr 1
  funext ds
  congr 1
  funext _
  conv_rhs => rw [← skip_eq, bind_assoc]
  congr 1
  funext behind
  cases behind with
  | nil => rfl
  | cons c behind => rfl

/-- A named group, with the text at its name. -/
def namedGroup (cs : List Char) : Reader Opening := do
  let i ← nextGroup
  groupName cs
  return .group (some i)

/-- Flags in a group or for what follows, with the text at the first of them. -/
def flagGroup (cs : List Char) : Reader Opening := do
  match flagItems true (← flags) [] cs with
  | some (f, seen, ')' :: behind) =>
    if seen.isEmpty then failure
    else
      modify fun s => { s with rest := behind, flags := f }
      return .flags
  | some (f, _, _ :: behind) =>
    modify fun s => { s with rest := behind, flags := f }
    return .group none
  | _ => failure

/-- What stands behind the parenthesis of a group. -/
inductive OpenMark where
  | lookAround
  | named (cs : List Char)
  | flagged (cs : List Char)
  | plain

/-- What a text behind a parenthesis starts with. -/
def openMark : List Char → OpenMark
  | '?' :: '=' :: _ | '?' :: '!' :: _ | '?' :: '<' :: '=' :: _ | '?' :: '<' :: '!' :: _ => .lookAround
  | '?' :: 'P' :: '<' :: cs | '?' :: '<' :: cs => .named cs
  | '?' :: cs => .flagged cs
  | _ => .plain

/-- What a parenthesis opens, with the text behind it and what is ignored. -/
def openedBy (cs : List Char) : Reader Opening :=
  match openMark cs with
  | .lookAround => failure
  | .named cs => namedGroup cs
  | .flagged cs => flagGroup cs
  | .plain => do
    return .group (some (← nextGroup))

theorem opening_eq : opening = bumpSkip >>= fun _ => rest >>= openedBy := by
  unfold opening
  congr 1
  funext _
  congr 1
  funext cs
  unfold openedBy
  split
  case h_6 hequal hmark =>
    rw [openMark.eq_6 _ hequal hmark]
    rfl
  case h_7 =>
    rw [openMark.eq_7] <;> first | rfl | assumption
  case h_8 =>
    rw [openMark.eq_8] <;> first | rfl | assumption
  all_goals rfl

/-- The upper bound of a counted repetition, behind the comma. -/
def upperBound (low : Option Nat) : Reader (Nat × Option Nat) := do
  match low, ← rest with
  | some n, '\x7d' :: _ => return (n, none)
  | some n, _ =>
    match ← count? with
    | some m => return (n, some m)
    | none => failure
  | none, _ => failure

/-- The bounds of a counted repetition, behind its brace. -/
def countBounds : Reader (Nat × Option Nat) := do
  let low ← count?
  match ← rest with
  | [] => failure
  | ',' :: _ =>
    bumpOn
    upperBound low
  | _ =>
    match low with
    | some n => return (n, some n)
    | none => failure

theorem counts_eq : counts = bumpOn >>= fun _ => countBounds :=
  rfl

end Groups

section Properties

/-- A property class with a name of one letter. -/
def singleProperty (negated : Bool) (c : Char) : Reader Atom := do
  bumpSkip
  match propertySet? (normalName [c]) with
  | some s => return .property s negated
  | none => failure

/-- A property class at its name or the brace in front of that. -/
def propertyOf (negated : Bool) : List Char → Reader Atom
  | '\x7b' :: cs => do
    let name ← propertyName (cs.length + 1) []
    match bracedProperty? name with
    | some (s, flipped) => return .property s (negated != flipped)
    | none => failure
  | '\\' :: _ => failure
  | c :: _ => singleProperty negated c
  | [] => failure

theorem propertyClass_eq (negated : Bool) : propertyClass negated = bumpOn >>= fun _ => rest >>= propertyOf negated :=
  rfl

end Properties

section WordConditions

/-- Whether a text starts as the name of a word condition does. -/
def startsName : List Char → Bool
  | c :: _ => c.isAlpha || c == '-'
  | [] => false

/-- A word condition with a name in braces, behind the opening one. -/
def namedCondition (unicode : Bool) (fuel : Nat) : Reader Atom := do
  let name ← boundaryName fuel []
  match ← rest with
  | '\x7d' :: _ =>
    bump
    match String.ofList name with
    | "start" => return .look (.wordStart unicode)
    | "end" => return .look (.wordEnd unicode)
    | "start-half" => return .look (.wordStartHalf unicode)
    | "end-half" => return .look (.wordEndHalf unicode)
    | _ => failure
  | _ => failure

theorem wordCondition_eq (unicode : Bool) : wordCondition unicode = (do
    match ← rest with
    | '\x7b' :: cs =>
      bumpOn
      if startsName (← rest) then namedCondition unicode (cs.length + 1)
      else
        setRest ('\x7b' :: cs)
        return .look (.wordBoundary unicode)
    | _ => return .look (.wordBoundary unicode)) := by
  unfold wordCondition
  congr 1
  funext cs
  split
  · congr 1
    funext _
    congr 1
    funext behind
    change (if (!startsName behind) = true then _ else namedCondition unicode _) = _
    cases startsName behind <;> rfl
  · simp

end WordConditions

end LineScript.Regex
