import LineScript.Proofs.Buffer.Clamping
import LineScript.Proofs.Outcome
import Mathlib.Data.List.Induction

/-! The buffers that can be reached by operations: their cursors and marks are inside them, and at
positions of them until one text is inserted into a line in such a way that a character is split. -/
namespace LineScript.LineBuffer

open Buffer (Position)
open Search (Matcher Expression)

/-- What can be done with a buffer. -/
inductive Operation where
  | setLines (lines : List String)
  | append (lines : List String)
  | pop
  | shift
  | clear
  | setCursor (p : Position)
  | setMark (p : Position)
  | search (x : Expression) (made : x.Made) (advance : Bool)
  | replace (m : Matcher) (replacement : String) (o : ReplaceOptions)
  | insert (p : Position) (lines : List String) (newline : Bool)
  | delete (p q : Position)
  | adapt (pattern : Matcher) (replacement : String) (anchor : Option Matcher) (above : Bool)
  | readFrom (path : String)
  | storeTo (path : Option String) (extend force : Bool)

/-- The buffer that work with files returns, or else the old one, and the world behind it. -/
def settled {α : Type} (b : LineBuffer) (f : α → LineBuffer) (r : Except Error α × World) :
    LineBuffer × World :=
  (r.1.toOption.elim b f, r.2)

/-- A buffer and its surroundings after an operation. -/
def Operation.apply (s : LineBuffer × World) : Operation → LineBuffer × World
  | setLines lines => (s.1.setLines lines, s.2)
  | append lines => (s.1.append lines, s.2)
  | pop => (s.1.pop.1, s.2)
  | shift => (s.1.shift.1, s.2)
  | clear => (s.1.clear, s.2)
  | setCursor p => (s.1.setCursor p, s.2)
  | setMark p => (s.1.setMark p, s.2)
  | search x _ advance => ((s.1.search x.matcher x.flags advance).1, s.2)
  | replace m replacement o => ((s.1.replace m replacement o).1, s.2)
  | insert p lines newline => ((s.1.insert p lines newline).1, s.2)
  | delete p q => ((s.1.delete p q).1, s.2)
  | adapt pattern replacement anchor above => ((s.1.adapt pattern replacement anchor above).1, s.2)
  | readFrom path => settled s.1 id (outcome (s.1.readFrom path) s.2)
  | storeTo path extend force => settled s.1 (·.1) (outcome (s.1.storeTo path extend force) s.2)

/-- A buffer and its surroundings after some operations. -/
def run (ops : List Operation) (s : LineBuffer × World) : LineBuffer × World :=
  ops.foldl Operation.apply s

theorem readFrom_eq_ok {b b' : LineBuffer} {path : String} {w w' : World}
    (h : outcome (b.readFrom path : ExceptT Error (StateM World) LineBuffer) w = (.ok b', w')) :
    ∃ lines, b' = b.loaded lines path := by
  obtain ⟨lines, w₁, -, h⟩ := outcome_bind_eq_ok.mp h
  cases h
  exact ⟨lines, rfl⟩

theorem storeTo_eq_ok {b : LineBuffer} {path : Option String} {extend force : Bool}
    {x : LineBuffer × Bool} {w w' : World} (h : outcome (b.storeTo path extend force :
      ExceptT Error (StateM World) (LineBuffer × Bool)) w = (.ok x, w')) :
    x.1 = b ∨ x.1 = b.stored extend := by
  unfold storeTo at h
  split at h
  · cases h
    exact .inl rfl
  · split at h
    · exact nomatch h
    · obtain ⟨-, w₁, -, h⟩ := outcome_bind_eq_ok.mp h
      cases h
      exact .inr rfl

theorem placed_settled {α : Type} {P : Position → List String → Prop} {b : LineBuffer}
    {f : α → LineBuffer} {r : Except Error α × World} (h : Placed P b)
    (hr : ∀ a w, r = (.ok a, w) → Placed P (f a)) : Placed P (settled b f r).1 := by
  obtain ⟨x, w⟩ := r
  cases x with
  | error e => exact h
  | ok a => exact hr a w rfl

/-- One text inserted into a line. -/
def Operation.IsInline (b : LineBuffer) (op : Operation) : Prop :=
  ∃ p new, op = .insert p [new] false ∧ (p.clamp b.lines).line < b.lines.length

/-- One text inserted into a line in such a way that the cursor or the mark, which stay where they are,
get inside a character. -/
def Operation.Strands (b : LineBuffer) (op : Operation) : Prop :=
  ∃ p new, op = .insert p [new] false ∧
    (b.Splits (p.clamp b.lines) new b.cursor ∨ b.Splits (p.clamp b.lines) new b.mark)

theorem Operation.Strands.isInline {b : LineBuffer} {op : Operation} (h : op.Strands b) :
    op.IsInline b := by
  obtain ⟨p, new, rfl, h | h⟩ := h
  · exact ⟨p, new, rfl, h.1⟩
  · exact ⟨p, new, rfl, h.1⟩

/-- Every other operation keeps the cursor and the mark in their places or moves them to new ones. -/
theorem Operation.apply_placed {P : Position → List String → Prop} (hP : Lasting P)
    {s : LineBuffer × World} (h : Placed P s.1) {op : Operation} (hop : ¬op.IsInline s.1) :
    Placed P (op.apply s).1 := by
  cases op with
  | setLines lines => exact placed_setLines hP _ _
  | append lines => exact placed_append hP h _
  | pop => exact placed_pop hP h
  | shift => exact placed_shift hP h
  | clear => exact placed_setLines hP _ _
  | setCursor p => exact placed_setCursor hP h _
  | setMark p => exact placed_setMark hP h _
  | search x made advance => exact placed_search hP h made.sound _ _
  | replace m replacement o => exact placed_replace hP h _ _ _
  | insert p lines newline =>
    rcases insert_cases s.1 p lines newline with hb | ⟨new, rfl, rfl, hl⟩ | ⟨edited, hb⟩
    · exact hb ▸ h
    · exact absurd ⟨p, new, rfl, hl⟩ hop
    · unfold apply
      rw [hb]
      exact placed_edit hP _ _
  | delete p q => exact placed_delete hP h _ _
  | adapt pattern replacement anchor above => exact placed_adapt hP h _ _ _ _
  | readFrom path =>
    refine placed_settled h fun b w hb => ?_
    obtain ⟨lines, rfl⟩ := readFrom_eq_ok hb
    exact placed_loaded hP _ _ _
  | storeTo path extend force =>
    refine placed_settled h fun b w hb => ?_
    rcases storeTo_eq_ok hb with hb | hb <;> rw [hb]
    · exact h
    · exact placed_stored h _

/-- One text inserted into a line leaves the cursor and the mark where they are. -/
theorem Operation.apply_inline (s : LineBuffer × World) (p : Position) (new : String)
    (hl : (p.clamp s.1.lines).line < s.1.lines.length) (P : Position → List String → Prop) :
    Placed P ((Operation.insert p [new] false).apply s).1 ↔
      P s.1.cursor (s.1.inlined (p.clamp s.1.lines) new) ∧
        P s.1.mark (s.1.inlined (p.clamp s.1.lines) new) := by
  have hs : ((Operation.insert p [new] false).apply s).1 =
      { s.1 with lines := s.1.inlined (p.clamp s.1.lines) new, changed := true } :=
    congrArg Prod.fst (insert_one s.1 p rfl hl new)
  rw [hs]
  exact ⟨fun h => ⟨h.cursor, h.mark⟩, fun h => ⟨h.1, h.2⟩⟩

theorem Operation.apply_inside {s : LineBuffer × World} (h : s.1.Placed Position.Inside)
    (op : Operation) : (op.apply s).1.Placed Position.Inside := by
  by_cases hop : op.IsInline s.1
  · obtain ⟨p, new, rfl, hl⟩ := hop
    rw [apply_inline s p new hl]
    exact ⟨inside_inlined hl new h.cursor, inside_inlined hl new h.mark⟩
  · exact apply_placed inside_lasting h hop

/-- An operation leads away from positions of the buffer exactly if it splits a character. -/
theorem Operation.apply_clamped_iff {s : LineBuffer × World} (h : s.1.Placed Position.Clamped)
    (op : Operation) : (op.apply s).1.Placed Position.Clamped ↔ ¬op.Strands s.1 := by
  by_cases hop : op.IsInline s.1
  · obtain ⟨p, new, rfl, hl⟩ := hop
    rw [apply_inline s p new hl, clamped_inlined_iff (Position.clamp_clamped _ _) hl new h.cursor,
      clamped_inlined_iff (Position.clamp_clamped _ _) hl new h.mark, ← not_or]
    refine not_congr ⟨fun hs => ⟨p, new, rfl, hs⟩, ?_⟩
    rintro ⟨p', new', hop, hs⟩
    cases hop
    exact hs
  · exact iff_of_true (apply_placed clamped_lasting h hop) fun hs => hop hs.isInline

theorem run_append (ops : List Operation) (op : Operation) (s : LineBuffer × World) :
    run (ops ++ [op]) s = op.apply (run ops s) := by
  simp [run]

theorem run_inside (ops : List Operation) {s : LineBuffer × World}
    (h : s.1.Placed Position.Inside) : (run ops s).1.Placed Position.Inside := by
  induction ops generalizing s with
  | nil => exact h
  | cons op ops ih => exact ih (op.apply_inside h)

/-- As long as no operation splits a character, the cursor and the mark are at positions. -/
theorem run_clamped (ops : List Operation) {s : LineBuffer × World}
    (h : s.1.Placed Position.Clamped)
    (hops : ∀ done op, done ++ [op] <+: ops → ¬op.Strands (run done s).1) :
    (run ops s).1.Placed Position.Clamped := by
  induction ops using List.reverseRecOn with
  | nil => exact h
  | append_singleton ops op ih =>
    have hrun := ih fun done op' hd => hops done op' (hd.trans (List.prefix_append ops [op]))
    rw [run_append]
    exact (op.apply_clamped_iff hrun).mpr (hops ops op (List.prefix_refl _))

/-- Whatever is done with a fresh buffer, the cursor and the mark stay inside it. They are at positions
of it all the time if and only if no insertion into a line ever splits a character at them. -/
theorem reachable_clamped_iff (lines : List String) (w : World) (ops : List Operation) :
    (run ops (ofLines lines, w)).1.Placed Position.Inside ∧
      ((∀ done, done <+: ops → (run done (ofLines lines, w)).1.Placed Position.Clamped) ↔
        ∀ done op, done ++ [op] <+: ops → ¬op.Strands (run done (ofLines lines, w)).1) := by
  have hfresh : (ofLines lines).Placed Position.Clamped := placed_ofLines clamped_lasting lines
  refine ⟨run_inside ops (placed_ofLines inside_lasting lines), fun h done op hd => ?_,
    fun h done hd => ?_⟩
  · have hdone := h done ((List.prefix_append done [op]).trans hd)
    have hop := h (done ++ [op]) hd
    rw [run_append] at hop
    exact (op.apply_clamped_iff hdone).mp hop
  · exact run_clamped done hfresh fun done' op hd' => h done' op (hd'.trans hd)

/-- A character of two bytes put before the cursor: the cursor is inside it afterwards. -/
theorem insert_splits_character :
    ¬(run [.setCursor ⟨0, 1⟩, .insert ⟨0, 0⟩ ["é"] false] (ofLines ["ab"], {})).1.Placed
      Position.Clamped := by
  intro h
  exact absurd h.cursor (by decide)

end LineScript.LineBuffer
