import LineScript.Proofs.Script.Acceptance

/-! Scripts in pieces. The lines in front of a piece shift its lines, and nothing else. -/
namespace LineScript

open Targets

/-- The jumps of lines in front of which others were put. -/
def Targets.moved (k : Nat) (t : Targets) : Targets :=
  t.map fun x => (x.1 + k, x.2 + k)

namespace JumpTable

/-- The jumps of some lines, and those of others behind them. -/
def followedBy (t : JumpTable) (k : Nat) (u : JumpTable) : JumpTable :=
  ⟨t.ifTargets ++ u.ifTargets.moved k, t.blockTargets ++ u.blockTargets.moved k⟩

/-- Whether only lines in front of an index jump. -/
structure Below (t : JumpTable) (k : Nat) : Prop where
  ifs : ∀ i ∈ keys t.ifTargets, i < k
  others : ∀ i ∈ keys t.blockTargets, i < k

end JumpTable

/-- An open block of lines in front of which others were put. -/
def Block.moved (k : Nat) (b : Block) : Block :=
  { b with
    opener := b.opener + k
    alternative := b.alternative.map (· + k)
    leaving := b.leaving.map (· + k) }

/-- An outline of lines behind others, whose jumps are given. -/
def Outline.behind (t : JumpTable) (k : Nat) (o : Outline) : Outline where
  blocks := o.blocks.map (Block.moved k)
  embedded := o.embedded.map fun x => (x.1 + k, x.2)
  jumps := t.followedBy k o.jumps

/-- The program of some lines, and of others behind them. -/
def Program.followedBy (p q : Program) : Program where
  statements := p.statements ++ q.statements
  jumps := p.jumps.followedBy p.statements.length q.jumps

namespace Targets

@[simp] theorem moved_cons (k i target : Nat) (t : Targets) :
    moved k ((i, target) :: t) = (i + k, target + k) :: moved k t :=
  rfl

theorem insert_moved (k i target : Nat) (t : Targets) :
    Targets.insert (i + k) (target + k) (moved k t) = moved k (Targets.insert i target t) := by
  induction t with
  | nil => rfl
  | cons y t ih =>
    obtain ⟨j, e⟩ := y
    rw [moved_cons]
    unfold Targets.insert
    by_cases hlt : i < j
    · rw [if_pos hlt, if_pos (Nat.add_lt_add_right hlt k)]
      simp only [moved_cons]
    · rw [if_neg hlt, if_neg (by omega)]
      by_cases heq : i = j
      · rw [if_pos heq, if_pos (congrArg (· + k) heq), moved_cons]
      · rw [if_neg heq, if_neg (by omega), ih, moved_cons]

/-- What is recorded behind the jumps of some lines leaves them as they are. -/
theorem insert_append {t : Targets} {i : Nat} (h : ∀ j ∈ keys t, j < i) (target : Nat) (u : Targets) :
    Targets.insert i target (t ++ u) = t ++ u.insert i target := by
  induction t with
  | nil => rfl
  | cons y t ih =>
    obtain ⟨j, e⟩ := y
    have hj : j < i := h j List.mem_cons_self
    have ht : ∀ l ∈ keys t, l < i := fun l hl => h l (List.mem_cons_of_mem _ hl)
    rw [List.cons_append, Targets.insert, if_neg (by omega), if_neg (by omega), ih ht]
    rfl

end Targets

namespace Outline

variable {t : JumpTable} {k : Nat}

theorem jumpIf_behind (ht : t.Below k) (o : Outline) (i target : Nat) :
    (o.behind t k).jumpIf (i + k) (target + k) = (o.jumpIf i target).behind t k := by
  have hbelow : ∀ j ∈ keys t.ifTargets, j < i + k := fun j hj =>
    (ht.ifs j hj).trans_le (Nat.le_add_left k i)
  simp only [jumpIf, behind, JumpTable.followedBy, insert_append hbelow, insert_moved]

theorem jump_behind (ht : t.Below k) (o : Outline) (i target : Nat) :
    (o.behind t k).jump (i + k) (target + k) = (o.jump i target).behind t k := by
  have hbelow : ∀ j ∈ keys t.blockTargets, j < i + k := fun j hj =>
    (ht.others j hj).trans_le (Nat.le_add_left k i)
  simp only [jump, behind, JumpTable.followedBy, insert_append hbelow, insert_moved]

theorem closeBlock_behind (ht : t.Below k) (o : Outline) (b : Block) (bs : List Block) (i : Nat) :
    (o.behind t k).closeBlock (b.moved k) (bs.map (Block.moved k)) (i + k) =
      (o.closeBlock b bs i).behind t k := by
  have hleave : ∀ (leaving : List Nat) (o : Outline),
      (leaving.map (· + k)).foldl (fun o leave => o.jump leave (i + k + 1)) (o.behind t k) =
        (leaving.foldl (fun o leave => o.jump leave (i + 1)) o).behind t k := by
    intro leaving
    induction leaving with
    | nil => exact fun _ => rfl
    | cons leave leaving ih =>
      intro o
      have hjump := jump_behind ht o leave (i + 1)
      rw [Nat.add_right_comm i 1 k] at hjump
      rw [List.map_cons, List.foldl_cons, List.foldl_cons, hjump, ih]
  exact hleave b.leaving { o with blocks := bs }

theorem map_modify_moved (k i : Nat) (n : Nat) (bs : List Block) :
    (bs.map (Block.moved k)).modify n (fun b => { b with leaving := (i + k) :: b.leaving }) =
      (bs.modify n fun b => { b with leaving := i :: b.leaving }).map (Block.moved k) := by
  induction bs generalizing n with
  | nil => cases n <;> rfl
  | cons b bs ih =>
    cases n with
    | zero => rfl
    | succ n => simp only [List.map_cons, List.modify_succ_cons, ih]

/-- A statement does to an outline what it does without the lines in front. -/
theorem advance_behind (ht : t.Below k) (o : Outline) (i : Nat) (position : SourcePosition)
    (s : Statement) :
    (o.behind t k).advance (i + k) position s = (o.advance i position s).map (behind t k) := by
  have hnext : i + k + 1 = i + 1 + k := Nat.add_right_comm i k 1
  obtain ⟨blocks, embedded, jumps⟩ := o
  cases s
  case elseWord =>
    cases blocks with
    | nil => rfl
    | cons b bs =>
      by_cases hkind : b.kind = .ifPart
      · have hjump := jumpIf_behind ht
          ⟨{ b with kind := .elsePart, alternative := some i } :: bs, embedded, jumps⟩ b.opener (i + 1)
        simp only [advance, behind, Block.moved, List.map_cons, hkind, hnext] at hjump ⊢
        exact congrArg Except.ok hjump
      · simp only [advance, behind, Block.moved, List.map_cons, hkind, if_false]
        rfl
  case endIf =>
    cases blocks with
    | nil => rfl
    | cons b bs =>
      have hclose := closeBlock_behind ht ⟨b :: bs, embedded, jumps⟩ b bs i
      obtain ⟨kind, opener, alternative, place, leaving⟩ := b
      cases kind
      case loop => rfl
      all_goals
        cases alternative with
        | none =>
          refine congrArg Except.ok ?_
          rw [← jumpIf_behind ht, ← hclose, ← hnext]
          rfl
        | some alternative =>
          refine congrArg Except.ok ?_
          rw [← jump_behind ht, ← hclose, ← hnext]
  case endWhile =>
    cases blocks with
    | nil => rfl
    | cons b bs =>
      have hclose := closeBlock_behind ht ⟨b :: bs, embedded, jumps⟩ b bs i
      by_cases hkind : b.kind = .loop
      · have hleft : ((Block.moved k b).kind = .loop) := hkind
        simp only [advance, hkind, if_true, Except.map]
        rw [← jump_behind ht, ← jump_behind ht, ← hclose, ← hnext]
        simp only [behind, List.map_cons, hleft, if_true]
        rfl
      · have hleft : ¬ (Block.moved k b).kind = .loop := hkind
        simp only [advance, behind, List.map_cons, hkind, hleft, if_false]
        rfl
  case leave levels condition =>
    have hmodify := map_modify_moved k i (levels - 1) blocks
    simp only [advance, behind, Except.map, hmodify]
  case script name =>
    cases blocks <;> rfl
  all_goals rfl

/-- What is still open is the same, and is found at the same place. -/
theorem leftOpen?_behind (o : Outline) : (o.behind t k).leftOpen? = o.leftOpen? := by
  obtain ⟨blocks, embedded, jumps⟩ := o
  cases embedded with
  | some opener => rfl
  | none => cases blocks <;> rfl

end Outline

namespace Program

open Reading Script

variable {t : JumpTable} {k : Nat}

/-- A statement with the outline behind it, where lines were put in front. -/
abbrev behindLines {α : Type} (t : JumpTable) (k : Nat) (r : α × Outline) : α × Outline :=
  (r.1, r.2.behind t k)

theorem readEffect_behind (ht : t.Below k) (o : Outline) (i : Nat) (position : SourcePosition) :
    readEffect (o.behind t k) (i + k) position = behindLines t k <$> readEffect o i position := by
  have hdepth : (o.behind t k).blocks.length = o.blocks.length := List.length_map _
  unfold readEffect
  rw [hdepth, map_bind]
  congr 1
  funext statement
  rw [Outline.advance_behind ht]
  cases o.advance i position statement with
  | error m => rfl
  | ok o => simp only [Except.map, map_bind, map_pure]

theorem readStatement_behind (ht : t.Below k) (o : Outline) (i : Nat) (position : SourcePosition) :
    readStatement (o.behind t k) (i + k) position =
      behindLines t k <$> readStatement o i position := by
  funext s
  change outcome (readStatement (o.behind t k) (i + k) position) s =
    outcome (behindLines t k <$> readStatement o i position) s
  rw [outcome_map, outcome_readStatement, outcome_readStatement, readEffect_behind ht, outcome_map]
  cases (outcome (readEffect o i position) s).1 <;> rfl

theorem readLine_behind (ht : t.Below k) (o : Outline) (i : Nat) :
    readLine (o.behind t k) (i + k) = behindLines t k <$> readLine o i := by
  unfold readLine
  rw [map_bind]
  congr 1
  funext first
  by_cases hend : first.isEnd = true
  · simp only [hend, if_true, map_pure]
  · rw [if_neg hend, if_neg hend]
    obtain ⟨blocks, embedded, jumps⟩ := o
    cases embedded with
    | some opener =>
      simp only [Outline.behind, Option.map_some, map_bind]
      congr 1
      funext s
      congr 1
      funext statement
      cases statement with
      | none => rfl
      | some statement =>
        have hjump := Outline.jump_behind ht ⟨blocks, none, jumps⟩ opener.1 (i + 1)
        rw [Nat.add_right_comm i 1 k] at hjump
        exact congrArg (fun o => pure (some (located s _ statement), o)) hjump
    | none =>
      have hread := readStatement_behind ht ⟨blocks, none, jumps⟩ i
      simp only [Outline.behind, Option.map_none] at hread ⊢
      simp only [hread, map_bind, bind_map_left, map_pure]

/-- Lines do behind others what they do by themselves, counted from where they start. -/
theorem readLines_behind (ht : t.Below k) (name : String) (offset : Nat) (o : Outline) (i : Nat)
    (lines : List String) :
    readLines name offset (o.behind t k) (i + k) lines =
      (readLines name (offset + k) o i lines).map (behindLines t k) := by
  induction lines generalizing o i with
  | nil => rfl
  | cons line lines ih =>
    have hnumber : offset + (i + k) + 1 = offset + k + i + 1 := by omega
    have hnext : i + k + 1 = i + 1 + k := Nat.add_right_comm i k 1
    have hline : (readLine (o.behind t k) (i + k)).run (lineStream name (offset + k + i + 1) line) =
        (((readLine o i).run (lineStream name (offset + k + i + 1) line)).1.map (behindLines t k),
          ((readLine o i).run (lineStream name (offset + k + i + 1) line)).2) := by
      rw [readLine_behind ht]
      exact outcome_map _ _ _
    rw [readLines, readLines, hnumber, hnext, hline]
    cases ((readLine o i).run (lineStream name (offset + k + i + 1) line)).1 with
    | error e => rfl
    | ok r =>
      simp only [Except.map, ih]
      cases readLines name (offset + k) r.2 (i + 1) lines <;> rfl

theorem readLines_append (name : String) (offset : Nat) (o : Outline) (i : Nat) (a b : List String) :
    readLines name offset o i (a ++ b) =
      match readLines name offset o i a with
      | .error e => .error e
      | .ok (slots, o) =>
        (readLines name offset o (i + a.length) b).map fun (rest, o) => (slots ++ rest, o) := by
  induction a generalizing o i with
  | nil =>
    simp only [readLines, List.nil_append]
    cases readLines name offset o (i + [].length) b <;> rfl
  | cons line a ih =>
    have hlength : i + (line :: a).length = i + 1 + a.length := by
      rw [List.length_cons]
      omega
    rw [List.cons_append, readLines, readLines, hlength]
    cases ((readLine o i).run (lineStream name (offset + i + 1) line)).1 with
    | error e => rfl
    | ok r =>
      simp only [ih]
      cases readLines name offset r.2 (i + 1) a with
      | error e => rfl
      | ok rest =>
        simp only [Except.map]
        cases readLines name offset rest.2 (i + 1 + a.length) b <;> rfl

/-- In front of all lines nothing is open and nothing jumps. -/
theorem outline_of_check {name : String} {lines : List String} {offset : Nat} {p : Program}
    (h : check name lines offset = .ok p) :
    readLines name offset {} 0 lines =
      .ok (p.statements, Outline.behind p.jumps p.statements.length {}) := by
  unfold check at h
  cases hread : readLines name offset {} 0 lines with
  | error e =>
    rw [hread] at h
    cases h
  | ok r =>
    obtain ⟨statements, blocks, embedded, jumps⟩ := r
    rw [hread] at h
    have hopen : (Outline.mk blocks embedded jumps).leftOpen? = none := by
      cases hopen : (Outline.mk blocks embedded jumps).leftOpen? with
      | none => rfl
      | some e =>
        simp only [hopen] at h
        cases h
    simp only [hopen] at h
    cases h
    cases embedded with
    | some opener => cases hopen
    | none =>
      cases blocks with
      | cons b bs => cases hopen
      | nil =>
        simp [Outline.behind, JumpTable.followedBy, Targets.moved]

theorem below_of_check {name : String} {lines : List String} {offset : Nat} {p : Program}
    (h : check name lines offset = .ok p) : p.jumps.Below p.statements.length := by
  have hp := describes_of_check h
  constructor
  · intro i hi
    rw [hp.ifs] at hi
    simpa using (lt_of_mem_indicesOf hi).2
  · intro i hi
    rw [hp.others] at hi
    simpa using (lt_of_mem_indicesOf hi).2

/-- Behind lines that are accepted, others are checked as if they stood alone. -/
theorem check_append_eq {name : String} {a : List String} {offset : Nat} {p : Program}
    (h : check name a offset = .ok p) (b : List String) :
    check name (a ++ b) offset = (check name b (offset + a.length)).map p.followedBy := by
  have hlength := (describes_of_check h).length
  have hbehind := readLines_behind (below_of_check h) name offset {} 0 b
  rw [Nat.zero_add, hlength] at hbehind
  unfold check
  rw [readLines_append, outline_of_check h, hlength]
  simp only [Nat.zero_add, hbehind]
  cases readLines name (offset + a.length) {} 0 b with
  | error e => rfl
  | ok r =>
    simp only [Except.map, Outline.leftOpen?_behind]
    cases r.2.leftOpen? with
    | some e => rfl
    | none =>
      rw [← hlength]
      rfl

/-- Checking is compositional: what stands behind an accepted script is accepted behind it if and only
if it is accepted alone, and its statements and jumps are then put behind those of the script. -/
theorem check_append {name : String} {a b : List String} {offset : Nat} {p : Program}
    (h : check name a offset = .ok p) :
    ((∃ r, check name (a ++ b) offset = .ok r) ↔ ∃ q, check name b (offset + a.length) = .ok q) ∧
      ∀ q r, check name b (offset + a.length) = .ok q → check name (a ++ b) offset = .ok r →
        r.statements = p.statements ++ q.statements ∧
          r.jumps.ifTargets = p.jumps.ifTargets ++ q.jumps.ifTargets.moved a.length ∧
          r.jumps.blockTargets = p.jumps.blockTargets ++ q.jumps.blockTargets.moved a.length := by
  have happend := check_append_eq h b
  have hlength := (describes_of_check h).length
  constructor
  · rw [happend]
    cases check name b (offset + a.length) <;> simp [Except.map]
  · intro q r hq hr
    rw [happend, hq] at hr
    cases hr
    rw [← hlength]
    exact ⟨rfl, rfl, rfl⟩

theorem check_append_loop :
    ∃ r, check "count" ["while found", "leave", "endwhile", "if found", "else", "endif"] 4 = .ok r ∧
      r.jumps.ifTargets = [(3, 5)] ∧ r.jumps.blockTargets = [(0, 3), (1, 3), (2, 0), (4, 6)] := by
  let p : Program :=
    { statements :=
        [some ⟨5, 1, "while found", .whileTest ⟨false, .found⟩⟩, some ⟨6, 1, "leave", .leave 1 none⟩,
          some ⟨7, 1, "endwhile", .endWhile⟩]
      jumps := ⟨[], [(0, 3), (1, 3), (2, 0)]⟩ }
  let q : Program :=
    { statements :=
        [some ⟨8, 1, "if found", .ifTest ⟨false, .found⟩⟩, some ⟨9, 1, "else", .elseWord⟩,
          some ⟨10, 1, "endif", .endIf⟩]
      jumps := ⟨[(0, 2)], [(1, 3)]⟩ }
  have hp : check "count" ["while found", "leave", "endwhile"] 4 = .ok p := by cbv
  have hq : check "count" ["if found", "else", "endif"] 7 = .ok q := by cbv
  obtain ⟨haccepted, hparts⟩ := check_append (b := ["if found", "else", "endif"]) hp
  obtain ⟨r, hr⟩ := haccepted.mpr ⟨q, hq⟩
  obtain ⟨-, hifs, hothers⟩ := hparts q r hq hr
  refine ⟨r, hr, ?_, ?_⟩
  · rw [hifs]
    rfl
  · rw [hothers]
    rfl

end Program

end LineScript
