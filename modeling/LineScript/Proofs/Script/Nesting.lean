import LineScript.Proofs.Script.Following

/-! The lines that an outline can be followed along are those of well nested trees, and the jumps that it
records are those of the tree. Lines are read from the last to the first to find the tree that they spell. -/
namespace LineScript

/-- What follows some open blocks, from the inside out: a line that closes a block, or turns it into its
other part, and a tree behind it. -/
abbrev Tails := List (Located × BlockTree)

/-- The lines of the closing parts. -/
def Tails.lines (tails : Tails) : List (Option Located) :=
  tails.flatMap fun (closer, rest) => some closer :: rest.lines

/-- Whether closing parts fit some open blocks. -/
inductive Tails.Closes : List BlockKind → Tails → Prop where
  | nil : Closes [] []
  | endIf {kinds : List BlockKind} {closer : Located} {rest : BlockTree} {tails : Tails} :
    closer.statement = .endIf → rest.Nested kinds.length → Closes kinds tails →
      Closes (.ifPart :: kinds) ((closer, rest) :: tails)
  | turn {kinds : List BlockKind} {middle : Located} {other : BlockTree} {tails : Tails} :
    middle.statement = .elseWord → other.Nested (kinds.length + 1) →
      Closes (.elsePart :: kinds) tails → Closes (.ifPart :: kinds) ((middle, other) :: tails)
  | endElse {kinds : List BlockKind} {closer : Located} {rest : BlockTree} {tails : Tails} :
    closer.statement = .endIf → rest.Nested kinds.length → Closes kinds tails →
      Closes (.elsePart :: kinds) ((closer, rest) :: tails)
  | endWhile {kinds : List BlockKind} {closer : Located} {rest : BlockTree} {tails : Tails} :
    closer.statement = .endWhile → rest.Nested kinds.length → Closes kinds tails →
      Closes (.loop :: kinds) ((closer, rest) :: tails)

/-- Where a line stands: inside of an embedded script or not, and in which blocks, from the inside
out. -/
abbrev Standing := Bool × List BlockKind

/-- How a statement that may stand in a script changes where the lines behind it stand. -/
inductive Shifts : Standing → Statement → Standing → Prop where
  | plain {kinds : List BlockKind} {s : Statement} (h : s.isPlain = true) :
    Shifts (false, kinds) s (false, kinds)
  | leave {kinds : List BlockKind} {levels : Nat} {condition : Option Test}
    (h : 1 ≤ levels ∧ levels ≤ kinds.length) :
    Shifts (false, kinds) (.leave levels condition) (false, kinds)
  | ifTest {kinds : List BlockKind} {test : Test} :
    Shifts (false, kinds) (.ifTest test) (false, .ifPart :: kinds)
  | elseWord {kinds : List BlockKind} :
    Shifts (false, .ifPart :: kinds) .elseWord (false, .elsePart :: kinds)
  | endIf {kind : BlockKind} {kinds : List BlockKind} (h : kind ≠ .loop) :
    Shifts (false, kind :: kinds) .endIf (false, kinds)
  | whileTest {kinds : List BlockKind} {test : Test} :
    Shifts (false, kinds) (.whileTest test) (false, .loop :: kinds)
  | endWhile {kinds : List BlockKind} : Shifts (false, .loop :: kinds) .endWhile (false, kinds)
  | script {name : String} : Shifts (false, []) (.script name) (true, [])
  | endScript {kinds : List BlockKind} : Shifts (true, kinds) .endScript (false, kinds)

/-- What completes a script from where a line stands: outside of embedded scripts a tree and closing parts
for the open blocks, inside of one the rest of its body, its end and a tree. -/
def Completes : Standing → List (Option Located) → Prop
  | (false, kinds), slots => ∃ (t : BlockTree) (tails : Tails),
    slots = t.lines ++ tails.lines ∧ t.Nested kinds.length ∧ tails.Closes kinds
  | (true, kinds), slots => kinds = [] ∧ ∃ (n : Nat) (closer : Located) (t : BlockTree),
    slots = List.replicate n none ++ some closer :: t.lines ∧ closer.statement = .endScript ∧
      t.Nested 0

theorem Completes.blank {p : Standing} {slots : List (Option Located)} (h : Completes p slots) :
    Completes p (none :: slots) := by
  obtain ⟨inside, kinds⟩ := p
  cases inside with
  | false =>
    obtain ⟨t, tails, rfl, ht, htails⟩ := h
    exact ⟨.blank t, tails, rfl, ht, htails⟩
  | true =>
    obtain ⟨hkinds, n, closer, t, rfl, hcloser, ht⟩ := h
    exact ⟨hkinds, n + 1, closer, t, rfl, hcloser, ht⟩

/-- A statement that may stand in front of what completes a script is part of it. -/
theorem Completes.cons {p q : Standing} {l : Located} {slots : List (Option Located)}
    (h : Completes q slots) (hshift : Shifts p l.statement q) (hp : p.1 = true → p.2 = []) :
    Completes p (some l :: slots) := by
  generalize hs : l.statement = s at hshift
  cases hshift with
  | plain hplain =>
    obtain ⟨t, tails, rfl, ht, htails⟩ := h
    exact ⟨.plain l t, tails, rfl, ⟨hs ▸ hplain, ht⟩, htails⟩
  | @leave kinds levels condition hlevels =>
    obtain ⟨t, tails, rfl, ht, htails⟩ := h
    exact ⟨.leave l levels condition t, tails, rfl, ⟨hs, hlevels, ht⟩, htails⟩
  | @ifTest kinds test =>
    obtain ⟨t, tails, rfl, ht, htails⟩ := h
    cases htails with
    | @endIf _ closer rest tails hcloser hrest htails =>
      refine ⟨.ifThen l test t closer rest, tails, ?_, ⟨⟨hs, hcloser⟩, ht, hrest⟩, htails⟩
      simp [BlockTree.lines, Tails.lines]
    | @turn _ middle other tails hmiddle hother htails =>
      cases htails with
      | @endElse _ closer rest tails hcloser hrest htails =>
        refine ⟨.ifElse l test t middle other closer rest, tails, ?_,
          ⟨⟨hs, hmiddle, hcloser⟩, ht, hother, hrest⟩, htails⟩
        simp [BlockTree.lines, Tails.lines]
  | elseWord =>
    obtain ⟨t, tails, rfl, ht, htails⟩ := h
    exact ⟨.done, (l, t) :: tails, rfl, trivial, .turn hs ht htails⟩
  | @endIf kind kinds hkind =>
    obtain ⟨t, tails, rfl, ht, htails⟩ := h
    refine ⟨.done, (l, t) :: tails, rfl, trivial, ?_⟩
    cases kind with
    | ifPart => exact .endIf hs ht htails
    | elsePart => exact .endElse hs ht htails
    | loop => exact absurd rfl hkind
  | @whileTest kinds test =>
    obtain ⟨t, tails, rfl, ht, htails⟩ := h
    cases htails with
    | @endWhile _ closer rest tails hcloser hrest htails =>
      refine ⟨.loop l test t closer rest, tails, ?_, ⟨⟨hs, hcloser⟩, ht, hrest⟩, htails⟩
      simp [BlockTree.lines, Tails.lines]
  | endWhile =>
    obtain ⟨t, tails, rfl, ht, htails⟩ := h
    exact ⟨.done, (l, t) :: tails, rfl, trivial, .endWhile hs ht htails⟩
  | @script script =>
    obtain ⟨-, n, closer, t, rfl, hcloser, ht⟩ := h
    exact ⟨.embedded l n closer t, [], by simp [BlockTree.lines, Tails.lines],
      ⟨⟨⟨script, hs⟩, hcloser⟩, rfl, ht⟩, .nil⟩
  | @endScript kinds =>
    obtain rfl : kinds = [] := hp rfl
    obtain ⟨t, tails, rfl, ht, htails⟩ := h
    cases htails
    exact ⟨rfl, 0, l, t, by simp [Tails.lines], hs, ht⟩

namespace Outline

/-- Where the line behind an outline stands. -/
def standing (o : Outline) : Standing :=
  (o.embedded.isSome, o.blocks.map (·.kind))

theorem advance_shifts {o o₁ : Outline} {i : Nat} {position : SourcePosition} {s : Statement}
    (he : o.embedded = none) (hfit : s.levelsFit o.blocks.length = true)
    (h : o.advance i position s = .ok o₁) : Shifts o.standing s o₁.standing := by
  by_cases hplain : s.isPlain = true
  · rw [advance_plain hplain] at h
    cases h
    rw [standing, he]
    exact .plain hplain
  cases s with
  | ifTest test =>
    cases h
    simpa [standing, he, openBlock] using Shifts.ifTest
  | whileTest test =>
    cases h
    simpa [standing, he, openBlock] using Shifts.whileTest
  | elseWord =>
    cases hblocks : o.blocks with
    | nil => simp [advance, hblocks] at h
    | cons b bs =>
      by_cases hkind : b.kind = .ifPart
      · simp only [advance, hblocks, hkind, if_true] at h
        cases h
        simpa [standing, he, hblocks, hkind] using Shifts.elseWord
      · simp [advance, hblocks, hkind] at h
  | endIf =>
    cases hblocks : o.blocks with
    | nil => simp [advance, hblocks] at h
    | cons b bs =>
      have hkind : b.kind ≠ .loop := by
        intro hloop
        simp [advance, hblocks, hloop] at h
      have hstanding : o₁.standing = (false, bs.map (·.kind)) := by
        cases hk : b.kind <;> cases ha : b.alternative <;>
          simp only [advance, hblocks, hk, ha, Except.ok.injEq] at h <;>
          first | exact absurd hk hkind | (subst h; simp [standing, he])
      rw [hstanding]
      simpa [standing, he, hblocks] using Shifts.endIf hkind
  | endWhile =>
    cases hblocks : o.blocks with
    | nil => simp [advance, hblocks] at h
    | cons b bs =>
      by_cases hkind : b.kind = .loop
      · simp only [advance, hblocks, hkind, if_true] at h
        cases h
        simpa [standing, he, hblocks, hkind] using Shifts.endWhile
      · simp [advance, hblocks, hkind] at h
  | leave levels condition =>
    have hkinds : o₁.blocks.map (·.kind) = o.blocks.map (·.kind) := by
      cases h
      refine List.ext_getElem? fun k => ?_
      simp only [List.getElem?_map, List.getElem?_modify]
      cases o.blocks[k]? with
      | none => rfl
      | some b => by_cases hk : levels - 1 = k <;> simp [hk]
    have he₁ : o₁.embedded = none := by
      cases h
      exact he
    rw [standing, standing, he, he₁, hkinds]
    simp only [Statement.levelsFit, Bool.and_eq_true, decide_eq_true_eq] at hfit
    exact .leave (by simpa using hfit)
  | script name =>
    cases hblocks : o.blocks with
    | nil =>
      simp only [advance, hblocks, List.isEmpty_nil, if_true] at h
      cases h
      simpa [standing, he, hblocks] using Shifts.script
    | cons b bs => simp [advance, hblocks] at h
  | endScript => cases h
  | _ => exact absurd rfl hplain

theorem take?_shifts {name : String} {o o₁ : Outline} {i : Nat} {l : Located}
    (h : take? name o i l = some o₁) : Shifts o.standing l.statement o₁.standing := by
  unfold take? at h
  split at h
  · rename_i opener position he hs
    cases h
    rw [hs, standing, he]
    exact .endScript
  · cases h
  · rename_i he
    split_ifs at h with hfit
    split at h
    · rename_i o' ho'
      cases h
      exact advance_shifts he hfit ho'
    · cases h

/-- What an outline can be followed along to the end of all blocks completes a script. -/
theorem completes_of_follow? {name : String} {o o' : Outline} {i : Nat}
    {slots : List (Option Located)} (h : follow? name o i slots = some o')
    (ho : o.standing.1 = true → o.standing.2 = []) (ho' : o'.standing = (false, [])) :
    Completes o.standing slots := by
  induction slots generalizing o i with
  | nil =>
    cases h
    rw [ho']
    exact ⟨.done, [], rfl, trivial, .nil⟩
  | cons slot slots ih =>
    cases slot with
    | none => exact (ih h ho).blank
    | some l =>
      cases htake : take? name o i l with
      | none => simp [follow?, htake] at h
      | some o₁ =>
        have hshift := take?_shifts htake
        refine (ih (follow?_some htake slots ▸ h) ?_).cons hshift ho
        generalize o.standing = p, l.statement = s, o₁.standing = q at hshift
        cases hshift <;> simp

/-- An outline can be followed along some lines to the end of all blocks if and only if they are those of
a nested tree. -/
theorem follow?_iff_nested {name : String} {slots : List (Option Located)} :
    (∃ o, follow? name {} 0 slots = some o ∧ o.leftOpen? = none) ↔
      ∃ t : BlockTree, t.lines = slots ∧ t.Nested 0 := by
  constructor
  · rintro ⟨o, hfollow, hopen⟩
    have hend : o.standing = (false, []) := by
      unfold leftOpen? at hopen
      split at hopen
      · cases hopen
      · cases hopen
      · rename_i he hblocks
        rw [standing, he, hblocks]
        rfl
    obtain ⟨t, tails, rfl, ht, htails⟩ := completes_of_follow? hfollow (fun h => by cases h) hend
    cases htails
    exact ⟨t, by simp [Tails.lines], ht⟩
  · rintro ⟨t, rfl, ht⟩
    obtain ⟨o, hfollow, hopen, -⟩ := follow?_tree name ht
    exact ⟨o, hfollow, hopen⟩

end Outline

end LineScript

namespace LineScript.BlockTree

/-- What a statement makes of the tree and the closing parts behind it. -/
def before (l : Located) (t : BlockTree) (tails : Tails) : BlockTree × Tails :=
  match l.statement, tails with
  | .ifTest test, (closer, rest) :: tails =>
    match closer.statement, tails with
    | .elseWord, (closer', rest') :: tails => (.ifElse l test t closer rest closer' rest', tails)
    | _, tails => (.ifThen l test t closer rest, tails)
  | .whileTest test, (closer, rest) :: tails => (.loop l test t closer rest, tails)
  | .script _, (closer, rest) :: tails => (.embedded l t.size closer rest, tails)
  | .leave levels condition, tails => (.leave l levels condition t, tails)
  | .elseWord, tails | .endIf, tails | .endWhile, tails | .endScript, tails =>
    (.done, (l, t) :: tails)
  | _, tails => (.plain l t, tails)

/-- The tree at the start of some lines, and the closing parts behind it. -/
def read : List (Option Located) → BlockTree × Tails
  | [] => (.done, [])
  | none :: slots => (.blank (read slots).1, (read slots).2)
  | some l :: slots => before l (read slots).1 (read slots).2

/-- The tree that lines spell. -/
def ofLines (slots : List (Option Located)) : BlockTree :=
  (read slots).1

theorem before_closer {l : Located} (t : BlockTree) (tails : Tails)
    (h : l.statement = .elseWord ∨ l.statement = .endIf ∨ l.statement = .endWhile ∨
      l.statement = .endScript) : before l t tails = (.done, (l, t) :: tails) := by
  rcases h with h | h | h | h <;> cases tails <;> simp [before, h]

theorem before_plain {l : Located} (t : BlockTree) (tails : Tails) (h : l.statement.isPlain = true) :
    before l t tails = (.plain l t, tails) := by
  unfold before
  split <;> simp_all [Statement.isPlain]

theorem read_replicate_none (n : Nat) {slots : List (Option Located)} {tails : Tails}
    (h : read slots = (.done, tails)) :
    ∃ t : BlockTree, t.size = n ∧ read (List.replicate n none ++ slots) = (t, tails) := by
  induction n with
  | zero => exact ⟨.done, rfl, h⟩
  | succ n ih =>
    obtain ⟨t, hsize, ht⟩ := ih
    refine ⟨.blank t, by rw [size_blank, hsize], ?_⟩
    rw [List.replicate_succ, List.cons_append, read, ht]

/-- The lines of a nested tree are read as this tree, up to what closes the blocks around it. -/
theorem read_lines_append {t : BlockTree} {depth : Nat} (ht : t.Nested depth)
    {slots : List (Option Located)} {tails : Tails} (h : read slots = (.done, tails)) :
    read (t.lines ++ slots) = (t, tails) := by
  induction t generalizing depth slots tails with
  | done => exact h
  | blank rest ih =>
    rw [lines, List.cons_append, read, ih ht h]
  | plain l rest ih =>
    obtain ⟨hl, hrest⟩ := ht
    rw [lines, List.cons_append, read, ih hrest h, before_plain _ _ hl]
  | leave l levels condition rest ih =>
    obtain ⟨hl, -, hrest⟩ := ht
    rw [lines, List.cons_append, read, ih hrest h]
    simp [before, hl]
  | embedded l skipped closer rest ih =>
    obtain ⟨⟨⟨script, hl⟩, hcloser⟩, -, hrest⟩ := ht
    have hclose : read (some closer :: (rest.lines ++ slots)) = (.done, (closer, rest) :: tails) := by
      rw [read, ih hrest h]
      exact before_closer _ _ (.inr (.inr (.inr hcloser)))
    obtain ⟨body, hsize, hbody⟩ := read_replicate_none skipped hclose
    rw [lines, List.cons_append, List.append_assoc, List.cons_append, read, hbody]
    simp [before, hl, hsize]
  | ifThen head test body closer rest ihbody ihrest =>
    obtain ⟨⟨hhead, hcloser⟩, hbody, hrest⟩ := ht
    have hclose : read (some closer :: (rest.lines ++ slots)) = (.done, (closer, rest) :: tails) := by
      rw [read, ihrest hrest h]
      exact before_closer _ _ (.inr (.inl hcloser))
    rw [lines, List.cons_append, List.append_assoc, List.cons_append, read, ihbody hbody hclose]
    simp [before, hhead, hcloser]
  | ifElse head test body middle other closer rest ihbody ihother ihrest =>
    obtain ⟨⟨hhead, hmiddle, hcloser⟩, hbody, hother, hrest⟩ := ht
    have hclose : read (some closer :: (rest.lines ++ slots)) = (.done, (closer, rest) :: tails) := by
      rw [read, ihrest hrest h]
      exact before_closer _ _ (.inr (.inl hcloser))
    have hturn : read (some middle :: (other.lines ++ some closer :: (rest.lines ++ slots))) =
        (.done, (middle, other) :: (closer, rest) :: tails) := by
      rw [read, ihother hother hclose]
      exact before_closer _ _ (.inl hmiddle)
    rw [lines, List.cons_append, List.append_assoc, List.cons_append, List.append_assoc,
      List.cons_append, read, ihbody hbody hturn]
    simp [before, hhead, hmiddle]
  | loop head test body closer rest ihbody ihrest =>
    obtain ⟨⟨hhead, hcloser⟩, hbody, hrest⟩ := ht
    have hclose : read (some closer :: (rest.lines ++ slots)) = (.done, (closer, rest) :: tails) := by
      rw [read, ihrest hrest h]
      exact before_closer _ _ (.inr (.inr (.inl hcloser)))
    rw [lines, List.cons_append, List.append_assoc, List.cons_append, read, ihbody hbody hclose]
    simp [before, hhead]

/-- A nested tree is the only one that its lines spell. -/
theorem ofLines_lines {t : BlockTree} {depth : Nat} (ht : t.Nested depth) : ofLines t.lines = t := by
  have h : read (t.lines ++ []) = (t, []) := read_lines_append ht rfl
  rw [List.append_nil] at h
  rw [ofLines, h]

end LineScript.BlockTree
