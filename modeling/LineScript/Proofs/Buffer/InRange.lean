import LineScript.Proofs.Buffer.EditAccess

/-! Whatever is asked of a buffer, one thing after the other, it never accesses a line that is not there,
never cuts a text off its boundaries, and never comes to a position below zero. -/
namespace LineScript.LineBuffer

open Access
open Buffer (Position Hit)
open Search (Matcher Flags)

/-- What can be asked of a buffer, with any matchers. -/
inductive Request where
  | setLines (lines : List String)
  | append (lines : List String)
  | pop
  | shift
  | clear
  | setCursor (p : Position)
  | setMark (p : Position)
  | endPosition
  | currentLine
  | findLine (m : Matcher) (start : Nat)
  | search (m : Matcher) (f : Flags) (advance : Bool)
  | replace (m : Matcher) (replacement : String) (o : ReplaceOptions)
  | insert (p : Position) (lines : List String) (newline : Bool)
  | delete (p q : Position)
  | extract (p q : Position) (closed : Bool)
  | adapt (pattern : Matcher) (replacement : String) (anchor : Option Matcher) (above : Bool)
  | load (lines : List String) (path : String)
  | store (extend : Bool)

/-- What a buffer answers. -/
inductive Answer where
  | done
  | removed (line : Option String)
  | position (p : Position)
  | text (line : String)
  | index (i : Option Nat)
  | hit (h : Hit)
  | count (n : Nat)
  | deleted (any : Bool)
  | lines (lines : List String)
  | adaptation (a : Adaptation)
  deriving DecidableEq

/-- The buffer and the answer after a request. -/
def serve (b : LineBuffer) : Request → LineBuffer × Answer
  | .setLines lines => (b.setLines lines, .done)
  | .append lines => (b.append lines, .done)
  | .pop => (b.pop.1, .removed b.pop.2)
  | .shift => (b.shift.1, .removed b.shift.2)
  | .clear => (b.clear, .done)
  | .setCursor p => (b.setCursor p, .done)
  | .setMark p => (b.setMark p, .done)
  | .endPosition => (b, .position b.endPosition)
  | .currentLine => (b, .text b.currentLine)
  | .findLine m start => (b, .index (b.findLine? m start))
  | .search m f advance => ((b.search m f advance).1, .hit (b.search m f advance).2)
  | .replace m replacement o =>
    ((b.replace m replacement o).1, .count (b.replace m replacement o).2)
  | .insert p lines newline => ((b.insert p lines newline).1, .position (b.insert p lines newline).2)
  | .delete p q => ((b.delete p q).1, .deleted (b.delete p q).2)
  | .extract p q closed => (b, .lines (b.extract p q closed))
  | .adapt pattern replacement anchor above =>
    ((b.adapt pattern replacement anchor above).1,
      .adaptation (b.adapt pattern replacement anchor above).2)
  | .load lines path => (b.loaded lines path, .done)
  | .store extend => (b.stored extend, .done)

/-- The buffer and the answer after a request, if no access goes wrong. -/
def serve? (b : LineBuffer) : Request → Option (LineBuffer × Answer)
  | .setLines lines => some (b.setLines lines, .done)
  | .append lines => some (b.append lines, .done)
  | .pop => b.pop?.map fun r => (r.1, .removed r.2)
  | .shift => b.shift?.map fun r => (r.1, .removed r.2)
  | .clear => some (b.clear, .done)
  | .setCursor p => (clamp? p b.lines).map fun p => ({ b with cursor := p }, .done)
  | .setMark p => (clamp? p b.lines).map fun p => ({ b with mark := p }, .done)
  | .endPosition => (endPosition? b.lines).map fun p => (b, .position p)
  | .currentLine => some (b, .text b.currentLine)
  | .findLine m start => some (b, .index (b.findLine? m start))
  | .search m f advance => (b.search? m f advance).map fun r => (r.1, .hit r.2)
  | .replace m replacement o => (b.replace? m replacement o).map fun r => (r.1, .count r.2)
  | .insert p lines newline => (b.insert? p lines newline).map fun r => (r.1, .position r.2)
  | .delete p q => (b.delete? p q).map fun r => (r.1, .deleted r.2)
  | .extract p q closed => (b.extract? p q closed).map fun lines => (b, .lines lines)
  | .adapt pattern replacement anchor above =>
    (b.adapt? pattern replacement anchor above).map fun r => (r.1, .adaptation r.2)
  | .load lines path => some (b.loaded lines path, .done)
  | .store extend => some (b.stored extend, .done)

/-- The buffer and the answers after some requests. -/
def serveAll (b : LineBuffer) : List Request → LineBuffer × List Answer
  | [] => (b, [])
  | r :: rs => ((serveAll (b.serve r).1 rs).1, (b.serve r).2 :: (serveAll (b.serve r).1 rs).2)

/-- The buffer and the answers after some requests, if no access goes wrong. -/
def serveAll? (b : LineBuffer) : List Request → Option (LineBuffer × List Answer)
  | [] => some (b, [])
  | r :: rs => do
    let (b, answer) ← b.serve? r
    let (b, answers) ← serveAll? b rs
    return (b, answer :: answers)

/-- What is searched for or replaced are matches at boundaries, not before the offset they are asked for. -/
def Request.Sound : Request → Prop
  | search m _ _ => m.Sound
  | replace m _ _ => m.Sound
  | _ => True

theorem serve?_eq (b : LineBuffer) {r : Request} (h : r.Sound) : b.serve? r = some (b.serve r) := by
  cases r with
  | setLines | append | clear | currentLine | findLine | load | store => rfl
  | pop => simp [serve?, serve, pop?_eq]
  | shift => simp [serve?, serve, shift?_eq]
  | setCursor p => simp [serve?, serve, clamp?_eq, setCursor]
  | setMark p => simp [serve?, serve, clamp?_eq, setMark]
  | endPosition => simp [serve?, serve, endPosition?_eq]
  | search m f advance => simp [serve?, serve, search?_eq h]
  | replace m replacement o => simp [serve?, serve, replace?_eq h]
  | insert p lines newline => simp [serve?, serve, insert?_eq]
  | delete p q => simp [serve?, serve, delete?_eq]
  | extract p q closed => simp [serve?, serve, extract?_eq]
  | adapt pattern replacement anchor above => simp [serve?, serve, adapt?_eq]

/-- No access goes wrong: neither in a fresh buffer nor in any other, wherever its cursor and its mark
are, and whatever has been asked of it before. -/
theorem accesses_in_range (b : LineBuffer) (rs : List Request) (h : ∀ r ∈ rs, r.Sound) :
    b.serveAll? rs = some (b.serveAll rs) := by
  induction rs generalizing b with
  | nil => rfl
  | cons r rs ih =>
    have hr := b.serve?_eq (h r List.mem_cons_self)
    have hrs := ih (b.serve r).1 fun r' hr' => h r' (List.mem_cons_of_mem r hr')
    simp [serveAll?, serveAll, hr, hrs]

/-- Finds the character at an offset. -/
def character : Matcher where
  find? text n :=
    if Text.IsBoundary text.toList n then some ⟨n, Text.next text.toList n, []⟩ else none

theorem character_sound : character.Sound := by
  intro text n w hw
  unfold character at hw
  dsimp only at hw
  split at hw
  · next hn =>
    obtain rfl := Option.some.inj hw
    exact ⟨Nat.le_refl n, hn.le_next, hn, Text.isBoundary_next hn⟩
  · exact nomatch hw

/-- A character put before the cursor, which is inside it then, and a search from there. -/
theorem accesses_in_range_stale :
    let rs : List Request := [.setCursor ⟨0, 1⟩, .insert ⟨0, 0⟩ ["é"] false, .search character {} true,
      .delete ⟨0, 1⟩ ⟨9, 9⟩]
    (ofLines ["ab"]).serveAll? rs = some ((ofLines ["ab"]).serveAll rs) ∧
      ((ofLines ["ab"]).serveAll rs).2 =
        [.done, .position ⟨0, 2⟩, .hit ⟨true, ⟨0, 0⟩, 2⟩, .deleted true] := by
  refine ⟨accesses_in_range _ _ ?_, by decide⟩
  simp [Request.Sound, character_sound]

/-- A match that ends inside a character does go wrong. -/
example : (ofLines ["é"]).serveAll? [.search ⟨fun _ _ => some ⟨0, 1, []⟩⟩ {} true] = none := by decide

end LineScript.LineBuffer
