import LineScript.Proofs.Script.Acceptance

/-! Where a refused script is refused: at a line that cannot be read behind the lines in front of it, or at the
line that opens what is never closed. The error has the number of that line. -/
namespace LineScript

namespace Reading

variable {α β : Type}

/-- Whether the errors of some work have a place. -/
def Places (m : Reading α) : Prop :=
  ∀ s e s', outcome m s = (.error e, s') → e.position.isSome = true

theorem isSome_of_scan {s : TokenStream} {e : Error} {special : Bool} (h : s.scan special = .error e) :
    e.position.isSome = true := by
  unfold TokenStream.scan at h
  split at h
  · cases h
  · cases h
    rfl

namespace Places

theorem pure (a : α) : Places (Pure.pure a) := by
  intro s e s' h
  cases h

theorem bind {m : Reading α} {f : α → Reading β} (hm : Places m) (hf : ∀ a, Places (f a)) :
    Places (m >>= f) := by
  intro s e s' h
  rw [outcome_bind] at h
  cases ho : outcome m s with
  | mk r s₁ =>
    rw [ho] at h
    cases r with
    | ok a => exact hf a s₁ e s' h
    | error e' =>
      cases h
      exact hm s e _ ho

theorem get {f : TokenStream → Reading β} (hf : ∀ s, Places (f s)) : Places (MonadState.get >>= f) :=
  fun s e s' h => hf s s e s' h

theorem ite {c : Prop} [Decidable c] {m m' : Reading α} (hm : Places m) (hm' : Places m') :
    Places (if c then m else m') := by
  split
  · exact hm
  · exact hm'

theorem set (s : TokenStream) : Places (MonadState.set s : Reading PUnit) := by
  intro s₁ e s' h
  cases h

theorem scan (s : TokenStream) (special : Bool) :
    Places (liftM (s.scan special : Except Error Token) : Reading Token) := by
  intro s₁ e s' h
  cases hscan : s.scan special with
  | ok t =>
    rw [hscan] at h
    cases h
  | error e' =>
    rw [hscan] at h
    cases h
    exact isSome_of_scan hscan

theorem peek : Places Reading.peek := by
  refine .get fun s => ?_
  split
  · exact .pure _
  · exact (scan s true).bind fun t => (set _).bind fun _ => .pure t

theorem next : Places Reading.next := by
  refine .get fun s => ?_
  have htaken : ∀ t : Token, Places (do
      MonadStateOf.set { s with token := t, offset := t.stop, pending := none }
      return t : Reading Token) := fun t => (set _).bind fun _ => .pure t
  dsimp only
  split
  · exact (pure _).bind htaken
  · exact (scan s true).bind htaken

theorem refuse (m : Mistake) : Places (Reading.refuse m : Reading α) := by
  intro s e s' h
  cases h
  rfl

theorem expectEnd : Places Reading.expectEnd :=
  next.bind fun _ => .ite (refuse _) (.pure ())

end Places

end Reading

namespace Program

open Reading Script

theorem places_readBody (first : Token) : Places (readBody first) := by
  refine .ite ?_ (.pure none)
  have hnext : Places (discard Reading.next) := Places.next.bind fun _ => .pure ()
  exact hnext.bind fun _ => Places.expectEnd.bind fun _ => .pure _

theorem places_readStatement (o : Outline) (index : Nat) (position : SourcePosition) :
    Places (readStatement o index position) := by
  intro s e s' h
  rw [outcome_readStatement] at h
  cases hread : (outcome (readEffect o index position) s).1 with
  | ok r =>
    rw [hread] at h
    cases h
  | error e' =>
    rw [hread] at h
    cases h
    obtain ⟨cause, place⟩ := e'
    cases place <;> rfl

theorem places_readLine (o : Outline) (index : Nat) : Places (readLine o index) := by
  refine Places.peek.bind fun first => .ite (.pure _) (.get fun s => ?_)
  dsimp only
  split
  · refine (places_readBody first).bind fun statement => ?_
    cases statement with
    | none => exact .pure _
    | some statement => exact .pure _
  · exact (places_readStatement o index _).bind fun _ => .pure _

/-- A line that cannot be read is refused for itself, at a place on it. -/
theorem exists_isOn_of_readLine {o : Outline} {index number : Nat} {name line : String} {e : Error}
    (h : (outcome (readLine o index) (lineStream name number line)).1 = .error e) :
    e.isUnclosed = false ∧ ∃ position, e.position = some position ∧ position.IsOn (lineStream name number line) := by
  have hsound := reads_readLine o index _ (TokenStream.ready_lineStream name number line)
  have hplaces := places_readLine o index (lineStream name number line)
  cases ho : outcome (readLine o index) (lineStream name number line) with
  | mk r s =>
    rw [ho] at h hsound
    cases h
    obtain ⟨position, hposition⟩ := Option.isSome_iff_exists.mp (hplaces e s ho)
    cases hsound with
    | refused _ hon => exact ⟨hon.closed, position, hposition, hon.place position hposition⟩

/-- A line that cannot be read is refused at a place on it. -/
theorem position_of_readLine {o : Outline} {index number : Nat} {name line : String} {e : Error}
    (h : (outcome (readLine o index) (lineStream name number line)).1 = .error e) :
    ∃ column, e.position = some ⟨name, number, column⟩ := by
  obtain ⟨-, ⟨script, line', column⟩, hposition, hscript, hline, -, -⟩ := exists_isOn_of_readLine h
  cases hscript
  cases hline
  exact ⟨column, hposition⟩

/-- Lines that cannot be read break off at a line: those in front of it are read, and it is not. -/
theorem exists_of_readLines_error {name : String} {offset index : Nat} {o : Outline} {lines : List String}
    {e : Error} (h : readLines name offset o index lines = .error e) :
    ∃ k line slots o', lines[k]? = some line ∧
      readLines name offset o index (lines.take k) = .ok (slots, o') ∧
      (outcome (readLine o' (index + k)) (lineStream name (offset + index + k + 1) line)).1 = .error e := by
  induction lines generalizing o index with
  | nil => cases h
  | cons line lines ih =>
    have hrun : (readLine o index).run (lineStream name (offset + index + 1) line) =
        outcome (readLine o index) (lineStream name (offset + index + 1) line) := rfl
    rw [readLines, hrun] at h
    cases hline : (outcome (readLine o index) (lineStream name (offset + index + 1) line)).1 with
    | error e' =>
      rw [hline] at h
      cases h
      exact ⟨0, line, [], o, rfl, rfl, hline⟩
    | ok r =>
      obtain ⟨slot, o₁⟩ := r
      rw [hline] at h
      dsimp only at h
      cases hrest : readLines name offset o₁ (index + 1) lines with
      | ok r =>
        rw [hrest] at h
        cases h
      | error e' =>
        rw [hrest] at h
        cases h
        obtain ⟨k, line', slots, o', hk, hfront, herror⟩ := ih hrest
        refine ⟨k + 1, line', slot :: slots, o', hk, ?_, ?_⟩
        · rw [List.take_succ_cons]
          exact readLines_cons_eq_ok.mpr ⟨slot, o₁, slots, rfl, hline, hfront⟩
        · have hindex : index + (k + 1) = index + 1 + k := by omega
          have hnumber : offset + index + (k + 1) + 1 = offset + (index + 1) + k + 1 := by omega
          rw [hindex, hnumber]
          exact herror

end Program

namespace Outline

/-- Whether something was opened by a line in front of an index, at a place on it. -/
def OpenedAt (name : String) (offset n opener : Nat) (position : SourcePosition) : Prop :=
  opener < n ∧ ∃ column, position = ⟨name, offset + opener + 1, column⟩

/-- Whether what is open was opened by lines in front of an index, at places on them. -/
structure Placed (name : String) (offset n : Nat) (o : Outline) : Prop where
  blocks : ∀ b ∈ o.blocks, OpenedAt name offset n b.opener b.position
  embedded : ∀ x ∈ o.embedded, OpenedAt name offset n x.1 x.2

/-- The line that opens what is left open: an embedded script, or else the innermost block. -/
def opener? (o : Outline) : Option Nat :=
  match o.embedded, o.blocks with
  | some (opener, _), _ => some opener
  | none, b :: _ => some b.opener
  | none, [] => none

variable {name : String} {offset n column : Nat} {o o' : Outline}

theorem placed_start (name : String) (offset : Nat) : Placed name offset 0 {} := by
  constructor
  · intro b hb
    exact absurd hb List.not_mem_nil
  · intro x hx
    cases hx

namespace Placed

theorem mono (h : o.Placed name offset n) {n' : Nat} (hn : n ≤ n') : o.Placed name offset n' := by
  constructor
  · intro b hb
    obtain ⟨hlt, hposition⟩ := h.blocks b hb
    exact ⟨hlt.trans_le hn, hposition⟩
  · intro x hx
    obtain ⟨hlt, hposition⟩ := h.embedded x hx
    exact ⟨hlt.trans_le hn, hposition⟩

/-- Only what is open matters. -/
theorem congr (h : o.Placed name offset n) (hblocks : o'.blocks = o.blocks)
    (hembedded : o'.embedded = o.embedded) : o'.Placed name offset n :=
  ⟨hblocks ▸ h.blocks, hembedded ▸ h.embedded⟩

/-- The innermost block is closed. -/
theorem tail (h : o.Placed name offset n) {b : Block} {rest : List Block} (hb : o.blocks = b :: rest)
    (hblocks : o'.blocks = rest) (hembedded : o'.embedded = o.embedded) : o'.Placed name offset n := by
  constructor
  · rw [hblocks]
    intro b' hb'
    exact h.blocks b' (hb ▸ List.mem_cons_of_mem _ hb')
  · exact hembedded ▸ h.embedded

/-- A block is opened. -/
theorem openBlock (h : o.Placed name offset n) (kind : BlockKind) (column : Nat) :
    (o.openBlock kind n ⟨name, offset + n + 1, column⟩).Placed name offset (n + 1) := by
  have hold := h.mono (Nat.le_succ n)
  constructor
  · intro b hb
    rcases List.mem_cons.mp hb with rfl | hb
    · exact ⟨Nat.lt_succ_self n, column, rfl⟩
    · exact hold.blocks b hb
  · exact hold.embedded

/-- What is known of the blocks does not depend on what leaves them. -/
theorem leave (h : o.Placed name offset n) (i index : Nat) :
    Placed name offset n
      { o with blocks := o.blocks.modify i fun b => { b with leaving := index :: b.leaving } } := by
  constructor
  · intro b hb
    obtain ⟨k, hk⟩ := List.mem_iff_getElem?.mp hb
    rw [List.getElem?_modify] at hk
    obtain ⟨b', hk, hb'⟩ := Option.map_eq_some_iff.mp hk
    have hold := h.blocks b' (List.mem_of_getElem? hk)
    split at hb'
    · exact hb' ▸ hold
    · exact hb' ▸ hold
  · exact h.embedded

/-- The innermost block goes on with its other part. -/
theorem turn (h : o.Placed name offset n) {b : Block} {rest : List Block} (hb : o.blocks = b :: rest)
    (index : Nat) :
    Placed name offset n
      { o with blocks := { b with kind := .elsePart, alternative := some index } :: rest } := by
  have hblocks := h.blocks
  rw [hb] at hblocks
  obtain ⟨hfirst, hrest⟩ := List.forall_mem_cons.mp hblocks
  constructor
  · exact List.forall_mem_cons.mpr ⟨hfirst, hrest⟩
  · exact h.embedded

/-- A statement that is taken in keeps the places in order. -/
theorem advance (h : o.Placed name offset n) {st : Statement}
    (hadvance : o.advance n ⟨name, offset + n + 1, column⟩ st = .ok o') :
    o'.Placed name offset (n + 1) := by
  have hold := h.mono (Nat.le_succ n)
  cases st with
  | ifTest | whileTest =>
    cases hadvance
    exact h.openBlock _ _
  | elseWord =>
    simp only [Outline.advance] at hadvance
    split at hadvance
    · rename_i b rest hblocks
      split at hadvance
      · cases hadvance
        exact (hold.turn hblocks n).congr rfl rfl
      · cases hadvance
    · cases hadvance
  | endIf =>
    simp only [Outline.advance] at hadvance
    split at hadvance
    · rename_i b rest hblocks
      split at hadvance <;> cases hadvance
      · exact hold.tail hblocks (closeBlock_blocks o b rest n) (closeBlock_embedded o b rest n)
      · exact hold.tail hblocks (closeBlock_blocks o b rest n) (closeBlock_embedded o b rest n)
    · cases hadvance
  | endWhile =>
    simp only [Outline.advance] at hadvance
    split at hadvance
    · rename_i b rest hblocks
      split at hadvance
      · cases hadvance
        exact hold.tail hblocks (closeBlock_blocks o b rest n) (closeBlock_embedded o b rest n)
      · cases hadvance
    · cases hadvance
  | leave levels condition =>
    cases hadvance
    exact hold.leave _ _
  | script inner =>
    simp only [Outline.advance] at hadvance
    split at hadvance
    · cases hadvance
      constructor
      · exact hold.blocks
      · intro x hx
        cases hx
        exact ⟨Nat.lt_succ_self n, column, rfl⟩
    · cases hadvance
  | endScript => cases hadvance
  | _ =>
    cases hadvance
    exact hold

/-- A line that is taken in keeps the places in order. -/
theorem take? (h : o.Placed name offset n) {l : Located} (hline : l.line = offset + n + 1)
    (htake : o.take? name n l = some o') : o'.Placed name offset (n + 1) := by
  unfold Outline.take? at htake
  split at htake
  · cases htake
    constructor
    · exact (h.mono (Nat.le_succ n)).blocks
    · intro x hx
      cases hx
  · cases htake
  · rw [hline] at htake
    split at htake
    · split at htake
      · rename_i hadvance
        cases htake
        exact h.advance hadvance
      · cases htake
    · cases htake

/-- What is left open has the place of what opens it. -/
theorem leftOpen (h : o.Placed name offset n) {e : Error} (hopen : o.leftOpen? = some e) :
    ∃ k column, o.opener? = some k ∧ k < n ∧ e.position = some ⟨name, offset + k + 1, column⟩ := by
  unfold leftOpen? at hopen
  split at hopen
  · rename_i hembedded
    obtain ⟨hlt, column, hposition⟩ := h.embedded _ hembedded
    cases hopen
    exact ⟨_, column, by simp only [opener?, hembedded], hlt, congrArg some hposition⟩
  · rename_i b rest hembedded hblocks
    obtain ⟨hlt, column, hposition⟩ := h.blocks b (hblocks ▸ List.mem_cons_self)
    cases hopen
    exact ⟨b.opener, column, by simp only [opener?, hembedded, hblocks], hlt,
      congrArg some hposition⟩
  · cases hopen

end Placed

end Outline

namespace Program

open Reading Script

/-- Lines that are read keep the places in order. -/
theorem placed_of_readLines {name : String} {offset index : Nat} {o o' : Outline} {lines : List String}
    {slots : List (Option Located)} (ho : o.Placed name offset index)
    (h : readLines name offset o index lines = .ok (slots, o')) :
    o'.Placed name offset (index + lines.length) := by
  induction lines generalizing o index slots with
  | nil =>
    cases h
    exact ho
  | cons line lines ih =>
    obtain ⟨slot, o₁, rest, rfl, hline, hrest⟩ := readLines_cons_eq_ok.mp h
    obtain ⟨halone, hsteps⟩ := readLine_eq_ok.mp hline
    have ho₁ : o₁.Placed name offset (index + 1) := by
      cases slot with
      | none =>
        cases hsteps
        exact ho.mono (Nat.le_succ index)
      | some l => exact ho.take? (line_of_lineAlone halone) hsteps
    have hlast := ih ho₁ hrest
    have hlength : index + (line :: lines).length = index + 1 + lines.length := by
      rw [List.length_cons]
      omega
    exact hlength ▸ hlast

/-- Whether a line of a refused script is to blame for an error: it cannot be read behind the lines in front of
it, or it opens what is left open at the end. -/
inductive Blames (name : String) (lines : List String) (offset : Nat) (e : Error) (k : Nat) : Prop
  | unreadable {slots : List (Option Located)} {o : Outline} {line : String} :
      readLines name offset {} 0 (lines.take k) = .ok (slots, o) → lines[k]? = some line →
      (outcome (readLine o k) (lineStream name (offset + k + 1) line)).1 = .error e →
      Blames name lines offset e k
  | notClosed {slots : List (Option Located)} {o : Outline} :
      readLines name offset {} 0 lines = .ok (slots, o) → o.leftOpen? = some e → o.opener? = some k →
      Blames name lines offset e k

/-- The error of a refused script has the number of the line that is to blame. -/
theorem exists_blames_of_check {name : String} {lines : List String} {offset : Nat} {e : Error}
    (h : check name lines offset = .error e) :
    ∃ k column, k < lines.length ∧ Blames name lines offset e k ∧
      e.position = some ⟨name, offset + k + 1, column⟩ := by
  unfold check at h
  split at h
  · rename_i hlines
    cases h
    obtain ⟨k, line, slots, o, hk, hfront, herror⟩ := exists_of_readLines_error hlines
    rw [Nat.add_zero, Nat.zero_add] at herror
    obtain ⟨column, hposition⟩ := position_of_readLine herror
    have hlt := (List.getElem?_eq_some_iff.mp hk).1
    exact ⟨k, column, hlt, .unreadable hfront hk herror, hposition⟩
  · rename_i slots o hlines
    split at h
    · rename_i hopen
      cases h
      have hplaced := placed_of_readLines (Outline.placed_start name offset) hlines
      rw [Nat.zero_add] at hplaced
      obtain ⟨k, column, hopener, hlt, hposition⟩ := hplaced.leftOpen hopen
      exact ⟨k, column, hlt, .notClosed hlines hopen hopener, hposition⟩
    · cases h

end Program

end LineScript
