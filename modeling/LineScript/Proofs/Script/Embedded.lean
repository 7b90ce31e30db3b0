import LineScript.Proofs.Script.Accepted
import LineScript.Proofs.Script.Boundaries
import LineScript.Proofs.Script.Refusals
import Mathlib.Data.List.Forall2

/-! Embedded scripts are read twice: when a script is loaded, for their names and their lines, and when it is
checked, for the jump behind them. Both readings find the same ones. -/
namespace LineScript

open Reading Script

/-- Whether an embedded script stands between two lines of a script: a `script` and the next `endscript`. -/
structure Encloses (slots : List (Option Located)) (i j : Nat) : Prop where
  before : i < j
  closer : ∃ l, slots[j]? = some (some l) ∧ l.statement = .endScript
  body : ∀ k, i < k → k < j → slots[k]? = some none

namespace Encloses

variable {slots : List (Option Located)} {i j k : Nat}

/-- The first statement behind a `script` is the end of the embedded script. -/
theorem eq_of_first (h : Encloses slots i j) {l : Located} (hk : slots[k]? = some (some l)) (hik : i < k)
    (hnone : ∀ n, i < n → n < k → slots[n]? = some none) : j = k := by
  obtain ⟨closer, hcloser, -⟩ := h.closer
  rcases Nat.lt_trichotomy j k with hlt | heq | hgt
  · rw [hnone j h.before hlt] at hcloser
    cases hcloser
  · exact heq
  · rw [h.body k hik hgt] at hk
    cases hk

end Encloses

namespace BlockTree

/-- Whether a line opens an embedded script, from where one gets behind its end. -/
inductive Opens (slots : List (Option Located)) (targets : Targets) (i k : Nat) : Prop
  | intro {front behind : List (Option Located)} {l closer : Located} {skipped : Nat} :
      slots = front ++ some l :: (List.replicate skipped none ++ some closer :: behind) →
      k = i + front.length → closer.statement = .endScript → (k, k + skipped + 2) ∈ targets →
      Opens slots targets i k

/-- Lines in front only move what is behind them. -/
theorem Opens.append {slots : List (Option Located)} {targets targets' : Targets} {i j k : Nat}
    (h : Opens slots targets j k) (front : List (Option Located)) (hj : j = i + front.length)
    (htargets : targets ⊆ targets') : Opens (front ++ slots) targets' i k := by
  obtain @⟨front', behind, l, closer, skipped, rfl, hk, hcloser, hmem⟩ := h
  have hlength : k = i + (front ++ front').length := by
    rw [hk, hj, List.length_append, Nat.add_assoc]
  exact .intro (List.append_assoc _ _ _).symm hlength hcloser (htargets hmem)

theorem Opens.encloses {slots : List (Option Located)} {targets : Targets} {k : Nat}
    (h : Opens slots targets 0 k) : ∃ j, Encloses slots k j ∧ (k, j + 1) ∈ targets := by
  obtain @⟨front, behind, l, closer, skipped, rfl, rfl, hcloser, hmem⟩ := h
  rw [Nat.zero_add] at hmem ⊢
  refine ⟨front.length + skipped + 1, ⟨by omega, ⟨closer, ?_, hcloser⟩, fun k hlow hhigh => ?_⟩, hmem⟩
  · have hindex : front.length + skipped + 1 - front.length = skipped + 1 := by omega
    rw [List.getElem?_append_right (by omega), hindex, List.getElem?_cons_succ,
      List.getElem?_append_right (by simp), List.length_replicate, Nat.sub_self]
    rfl
  · obtain ⟨n, rfl⟩ := Nat.exists_eq_add_of_lt hlow
    have hindex : front.length + n + 1 - front.length = n + 1 := by omega
    rw [List.getElem?_append_right (by omega), hindex, List.getElem?_cons_succ,
      List.getElem?_append_left (by simp; omega), List.getElem?_replicate]
    simp
    omega

/-- No embedded script stands in a block. -/
theorem indicesOf_isScript_of_nested {t : BlockTree} {depth : Nat} (ht : t.Nested (depth + 1)) (i : Nat) :
    indicesOf Statement.isScript i t.lines = [] := by
  induction t generalizing depth i with
  | done => rfl
  | blank rest ih => exact ih ht (i + 1)
  | plain l rest ih =>
    obtain ⟨hl, hrest⟩ := ht
    have hscript : l.statement.isScript = false := by
      cases hs : l.statement <;> simp_all [Statement.isPlain, Statement.isScript]
    simpa [lines, indicesOf_cons, hscript] using ih hrest (i + 1)
  | leave l levels condition rest ih =>
    obtain ⟨hl, -, hrest⟩ := ht
    simpa [lines, indicesOf_cons, hl, Statement.isScript] using ih hrest (i + 1)
  | embedded l skipped closer rest ih =>
    obtain ⟨-, hdepth, -⟩ := ht
    cases hdepth
  | ifThen head test body closer rest ihbody ihrest | loop head test body closer rest ihbody ihrest =>
    obtain ⟨⟨hhead, hcloser⟩, hbody, hrest⟩ := ht
    simp [lines, indicesOf_cons, indicesOf_append, hhead, hcloser, Statement.isScript, ihbody hbody,
      ihrest hrest]
  | ifElse head test body middle other closer rest ihbody ihother ihrest =>
    obtain ⟨⟨hhead, hmiddle, hcloser⟩, hbody, hother, hrest⟩ := ht
    simp [lines, indicesOf_cons, indicesOf_append, hhead, hmiddle, hcloser, Statement.isScript,
      ihbody hbody, ihother hother, ihrest hrest]

/-- Every `script` opens an embedded script, and its jump leads behind it. -/
theorem opens_of_mem {t : BlockTree} (ht : t.Nested 0) {i k : Nat}
    (hk : k ∈ indicesOf Statement.isScript i t.lines) : Opens t.lines (t.blockTargets [] i) i k := by
  induction t generalizing i with
  | done => cases hk
  | blank rest ih => exact (ih ht hk).append [none] rfl (List.Subset.refl _)
  | plain l rest ih =>
    obtain ⟨hl, hrest⟩ := ht
    have hscript : l.statement.isScript = false := by
      cases hs : l.statement <;> simp_all [Statement.isPlain, Statement.isScript]
    simp only [lines, indicesOf_cons, Option.any_some, hscript] at hk
    exact (ih hrest hk).append [some l] rfl (List.Subset.refl _)
  | leave l levels condition rest ih =>
    obtain ⟨hl, -, hrest⟩ := ht
    simp only [lines, indicesOf_cons, Option.any_some, hl] at hk
    exact (ih hrest hk).append [some l] rfl (List.subset_append_right _ _)
  | embedded l skipped closer rest ih =>
    obtain ⟨⟨⟨script, hl⟩, hcloser⟩, -, hrest⟩ := ht
    have hindex : i + 1 + skipped + 1 = i + skipped + 2 := by omega
    simp only [lines, indicesOf_cons, indicesOf_append, indicesOf_replicate_none, Option.any_some, hl,
      hcloser, List.length_replicate, hindex] at hk
    rcases List.mem_cons.mp hk with rfl | hk
    · exact .intro (List.nil_append _).symm rfl hcloser List.mem_cons_self
    · have hlines : (embedded l skipped closer rest).lines =
          (some l :: (List.replicate skipped none ++ [some closer])) ++ rest.lines := by simp [lines]
      rw [hlines]
      exact (ih hrest hk).append _ (by simp; omega) (List.subset_cons_self _ _)
  | ifThen head test body closer rest ihbody ihrest =>
    obtain ⟨⟨hhead, hcloser⟩, hbody, hrest⟩ := ht
    have hindex : i + 1 + body.lines.length + 1 = i + body.size + 2 := by
      rw [size]
      omega
    have hinside := indicesOf_isScript_of_nested hbody (i + 1)
    have hlines : (ifThen head test body closer rest).lines =
        (some head :: (body.lines ++ [some closer])) ++ rest.lines := by simp [lines]
    simp only [lines, indicesOf_cons, indicesOf_append, Option.any_some, hhead, hcloser, hinside, hindex]
      at hk
    rw [hlines]
    exact (ihrest hrest hk).append _ (by simp [size]; omega) (List.subset_append_right _ _)
  | ifElse head test body middle other closer rest ihbody ihother ihrest =>
    obtain ⟨⟨hhead, hmiddle, hcloser⟩, hbody, hother, hrest⟩ := ht
    have hindex : i + 1 + body.lines.length + 1 + other.lines.length + 1 =
        i + body.size + 1 + other.size + 2 := by
      simp only [size]
      omega
    have hinside := indicesOf_isScript_of_nested hbody (i + 1)
    have hinside' := indicesOf_isScript_of_nested hother (i + 1 + body.lines.length + 1)
    have hlines : (ifElse head test body middle other closer rest).lines =
        (some head :: (body.lines ++ some middle :: (other.lines ++ [some closer]))) ++ rest.lines := by
      simp [lines]
    simp only [lines, indicesOf_cons, indicesOf_append, Option.any_some, hhead, hmiddle, hcloser, hinside,
      hinside', hindex] at hk
    rw [hlines]
    refine (ihrest hrest hk).append _ (by simp [size]; omega) fun x hx => ?_
    exact List.mem_append_right _ (List.mem_cons_of_mem _ (List.mem_append_right _ hx))
  | loop head test body closer rest ihbody ihrest =>
    obtain ⟨⟨hhead, hcloser⟩, hbody, hrest⟩ := ht
    have hindex : i + 1 + body.lines.length + 1 = i + body.size + 2 := by
      rw [size]
      omega
    have hinside := indicesOf_isScript_of_nested hbody (i + 1)
    have hlines : (loop head test body closer rest).lines =
        (some head :: (body.lines ++ [some closer])) ++ rest.lines := by simp [lines]
    simp only [lines, indicesOf_cons, indicesOf_append, Option.any_some, hhead, hcloser, hinside, hindex]
      at hk
    rw [hlines]
    refine (ihrest hrest hk).append _ (by simp [size]; omega) fun x hx => ?_
    exact List.mem_cons_of_mem _ (List.mem_append_right _ (List.mem_cons_of_mem _ hx))

end BlockTree

namespace EmbeddedScript

/-- Whether an entry is that of the embedded script which the line with an index opens. -/
def Fits (lines : List String) (slots : List (Option Located)) (i : Nat) (x : EmbeddedScript) : Prop :=
  ∃ l j, slots[i]? = some (some l) ∧ l.statement = .script x.name ∧ Encloses slots i j ∧
    x.firstLine = i + 1 ∧ x.lines = (lines.take j).drop (i + 1)

/-- Whether an embedded script that has been opened by a line has been taken in up to another one. -/
inductive Underway (lines : List String) (slots : List (Option Located)) (index : Nat) :
    Option Nat → Option (String × Nat × List String) → Prop
  | outside : Underway lines slots index none none
  | inside {i : Nat} {l : Located} {script : String} {body : List String} : i < index →
      slots[i]? = some (some l) → l.statement = .script script →
      (∀ k, i < k → k < index → slots[k]? = some none) →
      body.reverse = (lines.take index).drop (i + 1) →
      Underway lines slots index (some i) (some (script, i + 1, body))

/-- What becomes of the embedded script that is open at a line which is marked. -/
theorem collect_cons_eq_ok {name line : String} {index : Nat}
    {inner : Option (String × Nat × List String)} {lines : List String} {found : List EmbeddedScript}
    (h : collect name index inner (line :: lines) = .ok found) :
    ∃ b, (outcome (boundary inner.isSome) (lineStream name (index + 1) line)).1 = .ok b ∧
      (match b, inner with
        | .start script, _ => collect name (index + 1) (some (script, index + 1, [])) lines
        | .stop, some (script, first, body) =>
          (collect name (index + 1) none lines).map (⟨script, first, body.reverse⟩ :: ·)
        | _, some (script, first, body) =>
          collect name (index + 1) (some (script, first, line :: body)) lines
        | _, none => collect name (index + 1) none lines) = .ok found := by
  have hrun : (boundary inner.isSome).run (lineStream name (index + 1) line) =
      outcome (boundary inner.isSome) (lineStream name (index + 1) line) := rfl
  rw [collect, hrun] at h
  cases hb : (outcome (boundary inner.isSome) (lineStream name (index + 1) line)).1 with
  | error e =>
    rw [hb] at h
    cases h
  | ok b =>
    rw [hb] at h
    exact ⟨b, rfl, h⟩

section Lines

variable {name : String} {lines : List String} {slots : List (Option Located)}

theorem getElem?_of_drop {α : Type} {l rest : List α} {a : α} {n : Nat} (h : l.drop n = a :: rest) :
    l[n]? = some a ∧ rest = l.drop (n + 1) := by
  constructor
  · have hfirst : (l.drop n)[0]? = some a := by rw [h, List.getElem?_cons_zero]
    rwa [List.getElem?_drop, Nat.add_zero] at hfirst
  · rw [← List.tail_drop, h, List.tail_cons]

theorem take_succ_drop {line : String} {i index : Nat} (hline : lines[index]? = some line)
    (hi : i < index) :
    (lines.take (index + 1)).drop (i + 1) = (lines.take index).drop (i + 1) ++ [line] := by
  have hlength : i + 1 ≤ (lines.take index).length := by
    have hlt := (List.getElem?_eq_some_iff.mp hline).1
    rw [List.length_take]
    omega
  rw [List.take_add_one, hline, List.drop_append_of_le_length hlength]
  rfl

/-- Both readers find the same embedded scripts, from whatever line on. -/
theorem fits_of_collect
    (hencloses : ∀ k ∈ indicesOf Statement.isScript 0 slots, ∃ j, Encloses slots k j)
    {rest : List String} {index : Nat} {opening : Option Nat}
    {inner : Option (String × Nat × List String)} {found : List EmbeddedScript}
    (hunderway : Underway lines slots index opening inner) (hlines : lines.drop index = rest)
    (hcollect : collect name index inner rest = .ok found)
    (halone : Program.linesAlone name 0 inner.isSome index rest = .ok (slots.drop index)) :
    List.Forall₂ (Fits lines slots)
      (opening.toList ++ indicesOf Statement.isScript index (slots.drop index)) found := by
  induction rest generalizing index opening inner found with
  | nil =>
    cases hcollect
    have hslots : slots.drop index = [] := (Except.ok.inj halone).symm
    rw [hslots]
    cases hunderway with
    | outside => exact .nil
    | @inside i l script body hi hl hscript hnone hbody =>
      have hmem : i ∈ indicesOf Statement.isScript 0 slots :=
        mem_indicesOf.mpr ⟨Nat.zero_le i, l, hl, by rw [hscript]; rfl⟩
      obtain ⟨j, hj⟩ := hencloses i hmem
      obtain ⟨closer, hcloser, -⟩ := hj.closer
      have hlt := (List.getElem?_eq_some_iff.mp hcloser).1
      have hle := List.drop_eq_nil_iff.mp hslots
      rw [hnone j hj.before (by omega)] at hcloser
      cases hcloser
  | cons line rest ih =>
    obtain ⟨slot, behind, hslots, hslot, hbehind⟩ := Program.linesAlone_cons_eq_ok.mp halone
    obtain ⟨b, hboundary, hcollect⟩ := collect_cons_eq_ok hcollect
    rw [Nat.zero_add] at hslot
    have hmarks := marks_of_line hboundary hslot
    obtain ⟨hline, rfl⟩ := getElem?_of_drop hlines
    obtain ⟨hat, rfl⟩ := getElem?_of_drop hslots
    rw [hslots, indicesOf_cons]
    have hnext : ∀ inside, Program.insideBehind inner.isSome slot = inside →
        Program.linesAlone name 0 inside (index + 1) (lines.drop (index + 1)) =
          .ok (slots.drop (index + 1)) := by
      rintro inside rfl
      exact hbehind
    cases hunderway with
    | outside =>
      cases hmarks with
      | @start script l hscript =>
        have hany : (some l).any (·.statement.isScript) = true := by rw [Option.any_some, hscript]; rfl
        have hinside : Program.insideBehind false (some l) = true := hany
        have hnone : ∀ k, index < k → k < index + 1 → slots[k]? = some none := by
          intro k hlow hhigh
          omega
        have hbody : ([] : List String).reverse = (lines.take (index + 1)).drop (index + 1) := by
          rw [List.drop_eq_nil_of_le (List.length_take_le _ _)]
          rfl
        have hunderway := Underway.inside (Nat.lt_succ_self index) hat hscript hnone hbody
        rw [hany]
        exact ih hunderway rfl hcollect (hnext _ hinside)
      | other hany =>
        have hinside : Program.insideBehind false slot = false := by
          cases slot with
          | none => rfl
          | some l => exact hany
        have hrec := ih .outside rfl hcollect (hnext _ hinside)
        rw [hany]
        exact hrec
    | @inside i l script body hi hl hscript hnone hbody =>
      cases hmarks with
      | @stop closer hcloser =>
        have hany : (some closer).any (·.statement.isScript) = false := by
          rw [Option.any_some, hcloser]
          rfl
        have hinside : Program.insideBehind true (some closer) = false := hany
        have hmem : i ∈ indicesOf Statement.isScript 0 slots :=
          mem_indicesOf.mpr ⟨Nat.zero_le i, l, hl, by rw [hscript]; rfl⟩
        obtain ⟨j, hj⟩ := hencloses i hmem
        obtain rfl := hj.eq_of_first hat hi hnone
        dsimp only at hcollect
        cases hfound : collect name (j + 1) none (lines.drop (j + 1)) with
        | error e =>
          rw [hfound] at hcollect
          cases hcollect
        | ok found' =>
          rw [hfound] at hcollect
          cases hcollect
          have hrec := ih .outside rfl hfound (hnext _ hinside)
          rw [hany]
          exact .cons ⟨l, j, hl, hscript, hj, rfl, hbody⟩ hrec
      | body =>
        have hunderway : Underway lines slots (index + 1) (some i)
            (some (script, i + 1, line :: body)) := by
          refine .inside (Nat.lt_succ_of_lt hi) hl hscript (fun k hlow hhigh => ?_) ?_
          · rcases Nat.lt_or_eq_of_le (Nat.le_of_lt_succ hhigh) with hlt | rfl
            · exact hnone k hlow hlt
            · exact hat
          · rw [take_succ_drop hline hi, List.reverse_cons, hbody]
        exact ih hunderway rfl hcollect (hnext _ rfl)

end Lines

end EmbeddedScript

namespace Program

/-- A statement has the text of its line. -/
theorem text_of_lineAlone {name line : String} {number : Nat} {inside : Bool} {l : Located}
    (h : (outcome (lineAlone inside) (lineStream name number line)).1 = .ok (some l)) :
    l.text = Text.trimmed line := by
  rw [lineAlone, outcome_bind, outcome_peek _ (TokenStream.ready_lineStream name number line).pending] at h
  cases hscan : (lineStream name number line).scan true with
  | error e =>
    rw [hscan] at h
    cases h
  | ok t =>
    rw [hscan] at h
    dsimp only at h
    split at h
    · cases h
    · obtain ⟨s', s₂, hget, h⟩ := outcome_bind_fst_eq_ok.mp h
      cases hget
      obtain ⟨statement, s₃, -, h⟩ := outcome_bind_fst_eq_ok.mp h
      cases statement with
      | none => cases h
      | some statement =>
        cases h
        rfl

theorem text_of_linesAlone {name : String} {offset index : Nat} {inside : Bool} {lines : List String}
    {slots : List (Option Located)} (h : linesAlone name offset inside index lines = .ok slots) {k : Nat}
    {l : Located} (hk : slots[k]? = some (some l)) :
    ∃ line, lines[k]? = some line ∧ l.text = Text.trimmed line := by
  induction lines generalizing inside index slots k with
  | nil =>
    cases h
    cases hk
  | cons line lines ih =>
    obtain ⟨slot, rest, rfl, hslot, hrest⟩ := linesAlone_cons_eq_ok.mp h
    cases k with
    | zero =>
      cases hk
      exact ⟨line, rfl, text_of_lineAlone hslot⟩
    | succ k => exact ih hrest hk

/-- Whether an entry is that of the embedded script between two lines of a program. -/
structure Embeds (p : Program) (lines : List String) (i j : Nat) (x : EmbeddedScript) : Prop where
  opener : ∃ l, p.statements[i]? = some (some l) ∧ l.statement = .script x.name
  encloses : Encloses p.statements i j
  target : p.jumps.blockTargets.lookup i = some (j + 1)
  firstLine : x.firstLine = i + 1
  lines : x.lines = (lines.take j).drop (i + 1)

end Program

namespace EmbeddedScript

/-- Whether an embedded script that is checked by itself, under a name, has the numbers of the lines of the
script around it: its lines are those from its first line on, and its statements, or the line that is to blame
if it is refused, are numbered from there. -/
structure Numbered (x : EmbeddedScript) (lines : List String) (name : String) : Prop where
  body : ∀ k < x.lines.length, lines[x.firstLine + k]? = x.lines[k]?
  statements : ∀ q, Program.check name x.lines x.firstLine = .ok q → q.statements.length = x.lines.length ∧
    ∀ k l, q.statements[k]? = some (some l) → l.line = x.firstLine + k + 1 ∧
      ∃ line, lines[l.line - 1]? = some line ∧ l.text = Text.trimmed line
  error : ∀ e, Program.check name x.lines x.firstLine = .error e → ∃ k column, k < x.lines.length ∧
    Program.Blames name x.lines x.firstLine e k ∧
    e.position = some ⟨name, x.firstLine + k + 1, column⟩

theorem numbered_of_lines {x : EmbeddedScript} {lines : List String} {i j : Nat}
    (hfirst : x.firstLine = i + 1) (hlines : x.lines = (lines.take j).drop (i + 1)) (name : String) :
    x.Numbered lines name := by
  have hsame : ∀ k < x.lines.length, lines[x.firstLine + k]? = x.lines[k]? := by
    intro k hk
    rw [hlines, List.length_drop, List.length_take] at hk
    rw [hlines, hfirst, List.getElem?_drop, List.getElem?_take_of_lt (by omega)]
  refine ⟨hsame, fun q hq => ?_, fun e he => ?_⟩
  · have hdescribes := Program.describes_of_check hq
    refine ⟨hdescribes.length, fun k l hk => ⟨hdescribes.number k l hk, ?_⟩⟩
    obtain ⟨line, hline, htext⟩ := Program.text_of_linesAlone (Program.exists_nested_of_check hq).1 hk
    have hlt := (List.getElem?_eq_some_iff.mp hline).1
    rw [hdescribes.number k l hk, Nat.add_sub_cancel, hsame k hlt]
    exact ⟨line, hline, htext⟩
  · exact Program.exists_blames_of_check he

/-- The two readers of embedded scripts agree. In a script that both accept, the entries are those of the
`script` statements, in order: each is named, and has the lines up to the `endscript` behind which its statement
jumps, none of which is a statement of the script around it. Checked by itself, it has the numbers that its
lines have there. -/
theorem ofLines_agrees_with_check {name : String} {lines : List String} {found : List EmbeddedScript}
    {p : Program} (hfound : ofLines name lines = .ok found) (hcheck : Program.check name lines 0 = .ok p) :
    List.Forall₂ (fun i x => (∃ j, p.Embeds lines i j x) ∧ ∀ inner, x.Numbered lines inner)
      (indicesOf Statement.isScript 0 p.statements) found := by
  obtain ⟨halone, t, ht, hnested, hjumps⟩ := Program.exists_nested_of_check hcheck
  have haccepted : p.Accepted := ⟨name, lines, 0, hcheck⟩
  have hopens : ∀ k ∈ indicesOf Statement.isScript 0 p.statements,
      ∃ j, Encloses p.statements k j ∧ (k, j + 1) ∈ p.jumps.blockTargets := by
    intro k hk
    rw [hjumps]
    rw [← ht] at hk ⊢
    exact (BlockTree.opens_of_mem hnested hk).encloses
  have hencloses : ∀ k ∈ indicesOf Statement.isScript 0 p.statements, ∃ j, Encloses p.statements k j := by
    intro k hk
    obtain ⟨j, hj, -⟩ := hopens k hk
    exact ⟨j, hj⟩
  refine List.Forall₂.imp ?_ (fits_of_collect hencloses .outside rfl hfound halone)
  rintro i x ⟨l, j, hl, hscript, hj, hfirst, hlines⟩
  have hmem : i ∈ indicesOf Statement.isScript 0 p.statements :=
    mem_indicesOf.mpr ⟨Nat.zero_le i, l, hl, by rw [hscript]; rfl⟩
  obtain ⟨j', hj', htarget⟩ := hopens i hmem
  obtain ⟨closer, hcloser, -⟩ := hj'.closer
  obtain rfl : j = j' := hj.eq_of_first hcloser hj'.before hj'.body
  have hlookup := haccepted.ordered.2.lookup_of_mem htarget
  constructor
  · exact ⟨j, ⟨l, hl, hscript⟩, hj, hlookup, hfirst, hlines⟩
  · exact numbered_of_lines hfirst hlines

/-- A script with an embedded one. -/
theorem ofLines_agrees_with_check_stop :
    let lines := ["script b", "stop", "endscript", "mark"]
    let x : EmbeddedScript := ⟨"b", 1, ["stop"]⟩
    ∃ p, Program.check "a" lines 0 = .ok p ∧ ofLines "a" lines = .ok [x] ∧
      indicesOf Statement.isScript 0 p.statements = [0] ∧ (∃ j, p.Embeds lines 0 j x) ∧
      ∀ inner, x.Numbered lines inner := by
  have hcheck : Program.check "a" ["script b", "stop", "endscript", "mark"] 0 =
      .ok { statements :=
              [some ⟨1, 1, "script b", .script "b"⟩, none, some ⟨3, 1, "endscript", .endScript⟩,
                some ⟨4, 1, "mark", .mark⟩]
            jumps := ⟨[], [(0, 3)]⟩ } := by cbv
  have hfound : ofLines "a" ["script b", "stop", "endscript", "mark"] = .ok [⟨"b", 1, ["stop"]⟩] := by cbv
  have hagree := ofLines_agrees_with_check hfound hcheck
  obtain ⟨hembeds, hnumbered⟩ := (List.forall₂_cons.mp hagree).1
  exact ⟨_, hcheck, hfound, rfl, hembeds, hnumbered⟩

end EmbeddedScript

end LineScript
