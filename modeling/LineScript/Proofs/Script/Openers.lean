import LineScript.Proofs.Script.Refusals

/-! What is still open behind some lines, and the place of an error: it is on the line that is to blame, and if
something is not closed, on the line of the innermost opener that is still open. -/
namespace LineScript

/-- By how much a statement changes the number of blocks and embedded scripts that are open. -/
def Statement.depthChange : Statement → Int
  | .ifTest _ | .whileTest _ | .script _ => 1
  | .endIf | .endWhile | .endScript => -1
  | _ => 0

/-- How much more some lines open than they close. Those of a body have no statement. -/
def depthOf (slots : List (Option Located)) : Int :=
  (slots.map fun slot => slot.elim 0 (·.statement.depthChange)).sum

@[simp] theorem depthOf_nil : depthOf [] = 0 :=
  rfl

@[simp] theorem depthOf_cons (slot : Option Located) (slots : List (Option Located)) :
    depthOf (slot :: slots) = slot.elim 0 (·.statement.depthChange) + depthOf slots :=
  rfl

@[simp] theorem depthOf_append (slots slots' : List (Option Located)) :
    depthOf (slots ++ slots') = depthOf slots + depthOf slots' := by
  simp [depthOf]

/-- Whether a line opens something that no line behind it closes: up to each of them, more is opened than closed. -/
structure StillOpen (slots : List (Option Located)) (k : Nat) : Prop where
  opens : ∃ l, slots[k]? = some (some l) ∧ l.statement.depthChange = 1
  stays : ∀ n, k < n → n ≤ slots.length → 0 < depthOf ((slots.take n).drop k)

/-- Whether a line is the last one that opens something that is still open. -/
structure InnermostOpen (slots : List (Option Located)) (k : Nat) : Prop where
  stillOpen : StillOpen slots k
  last : ∀ j, k < j → ¬StillOpen slots j

variable {slots : List (Option Located)} {slot : Option Located} {k n : Nat}

theorem StillOpen.lt (h : StillOpen slots k) : k < slots.length := by
  obtain ⟨l, hl, -⟩ := h.opens
  exact (List.getElem?_eq_some_iff.mp hl).1

theorem StillOpen.depth_pos (h : StillOpen slots k) : 0 < depthOf (slots.drop k) := by
  have hstays := h.stays slots.length h.lt (Nat.le_refl _)
  rwa [List.take_length] at hstays

/-- If only one thing is open behind a line, it is what the line opens. -/
theorem StillOpen.innermost (h : StillOpen slots k) (hdepth : depthOf (slots.drop k) = 1) : InnermostOpen slots k := by
  refine ⟨h, fun j hj hopen => ?_⟩
  have hfront := h.stays j hj (Nat.le_of_lt hopen.lt)
  have hback := hopen.depth_pos
  have hsplit : slots.drop k = (slots.take j).drop k ++ slots.drop j := by
    conv_lhs => rw [← List.take_append_drop j slots]
    rw [List.drop_append_of_le_length]
    rw [List.length_take]
    have := hopen.lt
    omega
  rw [hsplit, depthOf_append] at hdepth
  omega

theorem depthOf_snoc (slots : List (Option Located)) (slot : Option Located) (hk : k ≤ slots.length) :
    depthOf ((slots ++ [slot]).drop k) = depthOf (slots.drop k) + slot.elim 0 (·.statement.depthChange) := by
  rw [List.drop_append_of_le_length hk]
  simp

theorem StillOpen.snoc (h : StillOpen slots k)
    (hdepth : 0 < depthOf (slots.drop k) + slot.elim 0 (·.statement.depthChange)) : StillOpen (slots ++ [slot]) k := by
  have hk := h.lt
  constructor
  · rw [List.getElem?_append_left hk]
    exact h.opens
  · intro n hn hlength
    rcases Nat.lt_or_ge slots.length n with hlt | hle
    · rw [List.take_of_length_le (by rw [List.length_append, List.length_singleton]; omega),
        depthOf_snoc slots slot (Nat.le_of_lt hk)]
      exact hdepth
    · rw [List.take_append_of_le_length hle]
      exact h.stays n hn hle

/-- A line that opens something, as the last one. -/
theorem stillOpen_last {l : Located} (h : l.statement.depthChange = 1) :
    StillOpen (slots ++ [some l]) slots.length := by
  constructor
  · exact ⟨l, by simp, h⟩
  · intro n hn hlength
    rw [List.length_append, List.length_singleton] at hlength
    rw [List.take_of_length_le (by rw [List.length_append, List.length_singleton]; omega), List.drop_left]
    simp [h]

namespace Outline

/-- What is open, from the inside out: the lines that open it, with their places. -/
def opened (o : Outline) : List (Nat × SourcePosition) :=
  o.embedded.toList ++ o.blocks.map fun b => (b.opener, b.position)

/-- What is opened and closed where a statement is taken in. -/
inductive Opens (index : Nat) (position : SourcePosition) : Statement → List (Nat × SourcePosition) →
    List (Nat × SourcePosition) → Prop
  | opener {s : Statement} {opened : List (Nat × SourcePosition)} :
    s.depthChange = 1 → Opens index position s opened ((index, position) :: opened)
  | closer {s : Statement} {innermost : Nat × SourcePosition} {opened : List (Nat × SourcePosition)} :
    s.depthChange = -1 → Opens index position s (innermost :: opened) opened
  | other {s : Statement} {opened : List (Nat × SourcePosition)} :
    s.depthChange = 0 → Opens index position s opened opened

theorem opened_of_none {o : Outline} (h : o.embedded = none) :
    o.opened = o.blocks.map fun b => (b.opener, b.position) := by
  rw [opened, h]
  rfl

theorem opens_advance {o o' : Outline} {index : Nat} {position : SourcePosition} {s : Statement}
    (hembedded : o.embedded = none) (h : o.advance index position s = .ok o') :
    Opens index position s o.opened o'.opened := by
  -- what a closing statement finds open is the innermost block
  have hcloser {b : Block} {rest : List Block} (hs : s.depthChange = -1) (hblocks : o.blocks = b :: rest)
      (hrest : o'.blocks = rest) (hnone : o'.embedded = o.embedded) : Opens index position s o.opened o'.opened := by
    rw [opened_of_none hembedded, opened_of_none (hnone.trans hembedded), hblocks, hrest]
    exact .closer hs
  have hother (hs : s.depthChange = 0) (hsame : o'.blocks.map (fun b => (b.opener, b.position)) =
      o.blocks.map fun b => (b.opener, b.position)) (hnone : o'.embedded = o.embedded) :
      Opens index position s o.opened o'.opened := by
    rw [opened_of_none hembedded, opened_of_none (hnone.trans hembedded), hsame]
    exact .other hs
  cases s with
  | ifTest | whileTest =>
    cases h
    rw [opened_of_none hembedded, opened_of_none (o := o.openBlock _ _ _) hembedded]
    exact .opener rfl
  | elseWord =>
    simp only [Outline.advance] at h
    split at h
    · rename_i b rest hblocks
      split at h
      · cases h
        refine hother rfl ?_ rfl
        rw [hblocks]
        rfl
      · cases h
    · cases h
  | endIf =>
    simp only [Outline.advance] at h
    split at h
    · rename_i b rest hblocks
      split at h <;> cases h
      · exact hcloser rfl hblocks (closeBlock_blocks o b rest index) (closeBlock_embedded o b rest index)
      · exact hcloser rfl hblocks (closeBlock_blocks o b rest index) (closeBlock_embedded o b rest index)
    · cases h
  | endWhile =>
    simp only [Outline.advance] at h
    split at h
    · rename_i b rest hblocks
      split at h
      · cases h
        exact hcloser rfl hblocks (closeBlock_blocks o b rest index) (closeBlock_embedded o b rest index)
      · cases h
    · cases h
  | leave levels condition =>
    cases h
    refine hother rfl ?_ rfl
    apply List.ext_getElem?
    intro i
    simp only [List.getElem?_map, List.getElem?_modify]
    cases o.blocks[i]? with
    | none => rfl
    | some b =>
      simp only [Option.map_some]
      split <;> rfl
  | script inner =>
    simp only [Outline.advance] at h
    split at h
    · cases h
      rw [opened_of_none hembedded]
      exact .opener rfl
    · cases h
  | endScript => cases h
  | _ =>
    cases h
    exact .other rfl

/-- What taking a line in opens and closes. -/
theorem opens_take? {o o' : Outline} {name : String} {index : Nat} {l : Located}
    (h : o.take? name index l = some o') :
    Opens index ⟨name, l.line, l.column⟩ l.statement o.opened o'.opened := by
  unfold take? at h
  split at h
  · next opener position hembedded hstatement =>
    cases h
    rw [opened, hembedded, hstatement]
    exact .closer rfl
  · cases h
  · next hembedded =>
    split at h
    · split at h
      · next hadvance =>
        cases h
        exact opens_advance hembedded hadvance
      · cases h
    · cases h

/-- Whether something is open that a line opened, at a place on it, with so much around it. -/
structure OpenAt (name : String) (lines : List String) (offset : Nat) (slots : List (Option Located)) (inner : Nat)
    (x : Nat × SourcePosition) : Prop where
  stillOpen : StillOpen slots x.1
  depth : depthOf (slots.drop x.1) = inner + 1
  place : ∃ line, lines[x.1]? = some line ∧ x.2.IsOn (Script.lineStream name (offset + x.1 + 1) line)

/-- Whether what is open in an outline is what some lines have left open. -/
def Tracks (name : String) (lines : List String) (offset : Nat) (slots : List (Option Located)) (o : Outline) : Prop :=
  ∀ i x, o.opened[i]? = some x → OpenAt name lines offset slots i x

variable {name line : String} {lines : List String} {offset i j : Nat} {x : Nat × SourcePosition} {o o' : Outline}

theorem tracks_start : Tracks name lines offset [] {} := by
  intro i x hx
  cases hx

theorem OpenAt.snoc (h : OpenAt name lines offset slots i x)
    (hdepth : (i : Int) + slot.elim 0 (·.statement.depthChange) = j) :
    OpenAt name lines offset (slots ++ [slot]) j x := by
  have hk := Nat.le_of_lt h.stillOpen.lt
  refine ⟨h.stillOpen.snoc ?_, ?_, h.place⟩
  · rw [h.depth]
    omega
  · rw [depthOf_snoc slots slot hk, h.depth]
    omega

/-- A line that is taken in keeps track of what is open. -/
theorem Tracks.step (h : o.Tracks name lines offset slots) (hline : lines[slots.length]? = some line)
    (hplace : ∀ l, slot = some l →
      SourcePosition.IsOn ⟨name, l.line, l.column⟩ (Script.lineStream name (offset + slots.length + 1) line))
    (hsteps : Program.steps? name o slots.length slot = some o') : o'.Tracks name lines offset (slots ++ [slot]) := by
  cases slot with
  | none =>
    cases hsteps
    exact fun i x hx => (h i x hx).snoc (by simp)
  | some l =>
    intro i x hx
    have hopens := opens_take? hsteps
    generalize hold : o.opened = old, hnew : o'.opened = new at hopens
    have h : ∀ i x, old[i]? = some x → OpenAt name lines offset slots i x := hold ▸ h
    rw [hnew] at hx
    cases hopens with
    | opener hchange =>
      cases i with
      | zero =>
        cases hx
        refine ⟨stillOpen_last hchange, ?_, line, hline, hplace l rfl⟩
        simp [hchange]
      | succ i => exact (h i x hx).snoc (by simp [hchange])
    | closer hchange => exact (h (i + 1) x hx).snoc (by simp [hchange])
    | other hchange => exact (h i x hx).snoc (by simp [hchange])

/-- What is left open has the place of its opener, and nothing else that is open is inside of it. -/
theorem Tracks.leftOpen (h : o.Tracks name lines offset slots) {e : Error} (hopen : o.leftOpen? = some e) :
    e.isUnclosed = true ∧ ∃ k line position, InnermostOpen slots k ∧ lines[k]? = some line ∧
      e.position = some position ∧ position.IsOn (Script.lineStream name (offset + k + 1) line) := by
  have hfirst : e.isUnclosed = true ∧ ∃ x, o.opened[0]? = some x ∧ e.position = some x.2 := by
    unfold leftOpen? at hopen
    split at hopen
    · next opener position hembedded =>
      cases hopen
      refine ⟨rfl, (opener, position), ?_, rfl⟩
      rw [opened, hembedded]
      rfl
    · next b rest hembedded hblocks =>
      cases hopen
      refine ⟨rfl, (b.opener, b.position), ?_, rfl⟩
      rw [opened_of_none hembedded, hblocks]
      rfl
    · cases hopen
  obtain ⟨hunclosed, x, hx, hposition⟩ := hfirst
  obtain ⟨hstill, hdepth, line, hline, hplace⟩ := h 0 x hx
  exact ⟨hunclosed, x.1, line, x.2, hstill.innermost (by simpa using hdepth), hline, hposition, hplace⟩

end Outline

namespace Program

open Reading Script

variable {name line : String} {lines : List String} {offset index : Nat} {o o' : Outline}

/-- The statement of a line is at a place on it. -/
theorem isOn_of_lineAlone {inside : Bool} {s : TokenStream} {l : Located} (hs : s.Ready n)
    (h : (outcome (lineAlone inside) s).1 = .ok (some l)) : SourcePosition.IsOn ⟨s.script, l.line, l.column⟩ s := by
  obtain ⟨first, s₁, hfirst, h⟩ := outcome_bind_fst_eq_ok.mp h
  have hpeek := Reads.peek s hs
  rw [hfirst] at hpeek
  cases hpeek with
  | read _ hline _ =>
    split at h
    · cases h
    · obtain ⟨s', s₂, hget, h⟩ := outcome_bind_fst_eq_ok.mp h
      cases hget
      obtain ⟨statement, s₃, -, h⟩ := outcome_bind_fst_eq_ok.mp h
      cases statement with
      | none => cases h
      | some statement =>
        cases h
        obtain ⟨-, -, hone, hlength⟩ := s₁.isOn_positionAt first.column
        exact ⟨rfl, hline.line, hone, hline.text ▸ hlength⟩

/-- Lines that are read keep track of what is open. -/
theorem tracks_of_readLines {done : List String} {slots slots' : List (Option Located)}
    (ho : o.Tracks name (done ++ lines) offset slots) (hdone : slots.length = done.length)
    (h : readLines name offset o slots.length lines = .ok (slots', o')) :
    o'.Tracks name (done ++ lines) offset (slots ++ slots') := by
  induction lines generalizing o done slots slots' with
  | nil =>
    cases h
    simpa only [List.append_nil] using ho
  | cons line lines ih =>
    obtain ⟨slot, o₁, rest, rfl, hline, hrest⟩ := readLines_cons_eq_ok.mp h
    obtain ⟨halone, hsteps⟩ := readLine_eq_ok.mp hline
    have hfound : (done ++ line :: lines)[slots.length]? = some line := by
      rw [hdone, List.getElem?_append_right (Nat.le_refl _), Nat.sub_self]
      rfl
    have ho₁ : o₁.Tracks name (done ++ line :: lines) offset (slots ++ [slot]) := by
      refine ho.step hfound (fun l hl => ?_) hsteps
      exact isOn_of_lineAlone (TokenStream.ready_lineStream name _ line) (hl ▸ halone)
    have hlength : (slots ++ [slot]).length = slots.length + 1 := by simp
    have hlast : o'.Tracks name (done ++ [line] ++ lines) offset (slots ++ [slot] ++ rest) :=
      ih (by simpa using ho₁) (by simp [hdone]) (hlength ▸ hrest)
    simpa using hlast

/-- Lines that are read are refused, if at all, for what they leave open. -/
theorem leftOpen_of_check {slots : List (Option Located)} {e : Error}
    (hread : readLines name offset {} 0 lines = .ok (slots, o)) (h : check name lines offset = .error e) :
    o.leftOpen? = some e := by
  unfold check at h
  rw [hread] at h
  dsimp only at h
  split at h
  · next hopen =>
    cases h
    exact hopen
  · cases h

theorem leftOpen_tracks {slots : List (Option Located)} {e : Error}
    (hread : readLines name offset {} 0 lines = .ok (slots, o)) (hopen : o.leftOpen? = some e) :
    e.isUnclosed = true ∧ ∃ k line position, InnermostOpen slots k ∧ lines[k]? = some line ∧
      e.position = some position ∧ position.IsOn (lineStream name (offset + k + 1) line) := by
  have hstart : Outline.Tracks name ([] ++ lines) offset [] {} := Outline.tracks_start
  exact (tracks_of_readLines hstart rfl hread).leftOpen hopen

/-- Every error of a refused script points into it. Its place is on a line of the script, at a character or behind the
last one. The lines in front of that line are not to blame: by themselves they are accepted, unless they leave something
open. And if the error is that something is not closed, the line is the innermost opener that is still open. -/
theorem error_points_into_script {name : String} {lines : List String} {offset : Nat} {e : Error}
    (h : check name lines offset = .error e) :
    ∃ k line column, 1 ≤ k ∧ k ≤ lines.length ∧ lines[k - 1]? = some line ∧
      e.position = some ⟨name, offset + k, column⟩ ∧ 1 ≤ column ∧ column ≤ line.length + 1 ∧
      (e.isUnclosed = false → ∀ e', check name (lines.take (k - 1)) offset = .error e' → e'.isUnclosed = true) ∧
      (e.isUnclosed = true → ∃ slots o, readLines name offset {} 0 lines = .ok (slots, o) ∧
        InnermostOpen slots (k - 1)) := by
  obtain ⟨k, column, hlt, hblames, hposition⟩ := exists_blames_of_check h
  cases hblames with
  | @unreadable slots o line hfront hk herror =>
    obtain ⟨hclosed, position, hplace, hon⟩ := exists_isOn_of_readLine herror
    obtain rfl : position = ⟨name, offset + k + 1, column⟩ := Option.some.inj (hplace.symm.trans hposition)
    refine ⟨k + 1, line, column, Nat.le_add_left 1 k, hlt, hk, hposition, hon.one_le, hon.le_length, ?_, ?_⟩
    · intro _ e' he'
      exact (leftOpen_tracks hfront (leftOpen_of_check hfront he')).1
    · intro hunclosed
      rw [hclosed] at hunclosed
      cases hunclosed
  | @notClosed slots o hread hopen =>
    obtain ⟨hunclosed, k', line, position, hinnermost, hk, hplace, hon⟩ := leftOpen_tracks hread hopen
    obtain rfl : position = ⟨name, offset + k + 1, column⟩ := Option.some.inj (hplace.symm.trans hposition)
    obtain rfl : k = k' := by
      have hnumber : offset + k + 1 = offset + k' + 1 := hon.line
      omega
    refine ⟨k + 1, line, column, Nat.le_add_left 1 k, hlt, hk, hposition, hon.one_le, hon.le_length, ?_, ?_⟩
    · intro hclosed
      rw [hunclosed] at hclosed
      cases hclosed
    · intro _
      exact ⟨slots, o, hread, hinnermost⟩

/-- A refused line with a wide blank at its start, which is one character; the lines in front of it leave a block open
around one that they close. -/
theorem error_points_into_script_nested :
    let lines := ["while hit", "if hit", "endif", "\u3000mark é"]
    check "s" lines 7 = .error ⟨.mistake (.unexpected (some "é")), some ⟨"s", 11, 7⟩⟩ ∧
      check "s" (lines.take 3) 7 = .error ⟨.mistake (.blockNotClosed .whileWord), some ⟨"s", 8, 1⟩⟩ ∧
      (∀ e', check "s" (lines.take 3) 7 = .error e' → e'.isUnclosed = true) ∧
      ∃ slots o, readLines "s" 7 {} 0 (lines.take 3) = .ok (slots, o) ∧ InnermostOpen slots 0 := by
  have hrefused : check "s" ["while hit", "if hit", "endif", "\u3000mark é"] 7 =
      .error ⟨.mistake (.unexpected (some "é")), some ⟨"s", 11, 7⟩⟩ := by cbv
  have hopen : check "s" ["while hit", "if hit", "endif"] 7 =
      .error ⟨.mistake (.blockNotClosed .whileWord), some ⟨"s", 8, 1⟩⟩ := by cbv
  obtain ⟨k, line, column, hone, -, -, hposition, -, -, hfront, -⟩ := error_points_into_script hrefused
  obtain rfl : k = 4 := by
    have hnumber : 11 = 7 + k := congrArg SourcePosition.line (Option.some.inj hposition)
    omega
  obtain ⟨k, line, column, hone, -, -, hposition, -, -, -, hinnermost⟩ := error_points_into_script hopen
  obtain rfl : k = 1 := by
    have hnumber : 8 = 7 + k := congrArg SourcePosition.line (Option.some.inj hposition)
    omega
  exact ⟨hrefused, hopen, hfront rfl, hinnermost rfl⟩

end Program

end LineScript
