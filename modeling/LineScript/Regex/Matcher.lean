import LineScript.Regex.Machine
import LineScript.Text.Bytes

/-! Running a machine over a text. All threads move through the text together, in order of preference;
of two threads in one state only the preferred one goes on. -/
namespace LineScript.Regex

/-- What has still to match, and the places recorded so far, the last first. -/
structure Thread where
  todo : List Node
  marks : List (Nat × Nat)

/-- A place in a text: the character before it, what follows, and the bytes before it. -/
structure Place where
  prev : Option Char
  rest : List Char
  offset : Nat

/-- The place behind the next character. -/
def Place.step (p : Place) (c : Char) (cs : List Char) : Place :=
  ⟨some c, cs, p.offset + c.utf8Size⟩

/-- Follows the threads up to the characters they wait for. States seen before are dropped, and so is
everything behind the first thread with nothing left to match, which is the second result. -/
def settle (p : Place) : Nat → List Thread → List (List Node) → List Thread →
    List Thread × Option Thread
  | 0, _, _, ready => (ready.reverse, none)
  | _ + 1, [], _, ready => (ready.reverse, none)
  | fuel + 1, t :: ts, seen, ready =>
    if seen.contains t.todo then settle p fuel ts seen ready
    else
      let seen := t.todo :: seen
      match t.todo with
      | [] => (ready.reverse, some t)
      | .set .. :: _ => settle p fuel ts seen (t :: ready)
      | .look _ l :: k =>
        if l.holds p.prev p.rest.head? then settle p fuel (⟨k, t.marks⟩ :: ts) seen ready
        else settle p fuel ts seen ready
      | .mark _ slot :: k => settle p fuel (⟨k, (slot, p.offset) :: t.marks⟩ :: ts) seen ready
      | .skip :: k => settle p fuel (⟨k, t.marks⟩ :: ts) seen ready
      | .cat a b :: k => settle p fuel (⟨a :: b :: k, t.marks⟩ :: ts) seen ready
      | .alt _ a b :: k =>
        settle p fuel (⟨a :: k, t.marks⟩ :: ⟨b :: k, t.marks⟩ :: ts) seen ready
      | .loop label greedy a :: k =>
        let again : Thread := ⟨a :: .loop label greedy a :: k, t.marks⟩
        let done : Thread := ⟨k, t.marks⟩
        if greedy then settle p fuel (again :: done :: ts) seen ready
        else settle p fuel (done :: again :: ts) seen ready

/-- A thread after it has taken a character, if it waits for one like it. -/
def Thread.take? (c : Char) (t : Thread) : Option Thread :=
  match t.todo with
  | .set _ s :: k => if s.holds c then some ⟨k, t.marks⟩ else none
  | _ => none

/-- Moves the threads through the rest of the text. Until there is a match, one more thread starts at
every place, after all others. -/
def advance (root : Node) : List Char → Place → List Thread → Option Thread → Option Thread
  | cs, p, ts, best =>
    let ts := if best.isNone then ts ++ [⟨[root], []⟩] else ts
    let (ready, hit) := settle p (3 * root.size + ts.length + 4) ts [] []
    let best := hit.or best
    match cs with
    | [] => best
    | c :: cs =>
      let ts := ready.filterMap (Thread.take? c)
      if ts.isEmpty && best.isSome then best else advance root cs (p.step c cs) ts best

/-- The place that a recorded number stands for. -/
def Thread.mark? (t : Thread) (slot : Nat) : Option Nat :=
  t.marks.lookup slot

/-- The first place at or behind a byte offset. -/
def Place.seek (cs : List Char) (start : Nat) : Place :=
  let head := Text.take cs start
  let rest := Text.drop cs start
  if Text.size head < start then
    match rest with
    | c :: rest => ⟨some c, rest, Text.size head + c.utf8Size⟩
    | [] => ⟨head.getLast?, [], Text.size head⟩
  else ⟨head.getLast?, rest, Text.size head⟩

/-- A match: its ends as byte offsets and the texts of its groups, the whole first; a group that took
no part has none. -/
structure Match where
  start : Nat
  stop : Nat
  groups : List (Option String)
  deriving DecidableEq, Repr

/-- The leftmost match of a machine that starts at or behind a byte offset. The text before the offset
is seen by conditions. -/
def search? (root : Node) (groupCount : Nat) (cs : List Char) (start : Nat) : Option Match :=
  let p := Place.seek cs start
  (advance root p.rest p [] none).map fun t =>
    let span (i : Nat) : Option (Nat × Nat) :=
      match t.mark? (2 * i), t.mark? (2 * i + 1) with
      | some a, some b => some (a, b)
      | _, _ => none
    let whole := (span 0).getD (0, 0)
    ⟨whole.1, whole.2, (List.range groupCount).map fun i =>
      (span i).map fun (a, b) => String.ofList (Text.slice cs a b)⟩

end LineScript.Regex
