import LineScript.Regex.Syntax

/-! A regular expression as a machine. A state is the list of what has still to match; every choice and
every leaf carries a label of its own, so that two places of the expression are never one state. -/
namespace LineScript.Regex

/-- What a machine has to match. -/
inductive Node where
  | set (label : Nat) (s : CharSet)
  | look (label : Nat) (l : Look)
  /-- Records the place under a number. -/
  | mark (label : Nat) (slot : Nat)
  | skip
  | cat (a b : Node)
  | alt (label : Nat) (a b : Node)
  /-- Any number of rounds. -/
  | loop (label : Nat) (greedy : Bool) (a : Node)
  deriving DecidableEq, Repr

namespace Node

/-- How many nodes there are. -/
def size : Node → Nat
  | set .. | look .. | mark .. | skip => 1
  | cat a b | alt _ a b => a.size + b.size + 1
  | loop _ _ a => a.size + 1

end Node

/-- A computation that hands out labels. -/
abbrev Labeled := StateM Nat

/-- A label not used before. -/
def freshLabel : Labeled Nat := do
  modify (· + 1)
  get

/-- `n` copies in a row, each with labels of its own, before `last`. -/
def copies (make : Labeled Node) : Nat → Labeled Node → Labeled Node
  | 0, last => last
  | n + 1, last => return .cat (← make) (← copies make n last)

/-- At most `n` copies in a row. -/
def upTo (make : Labeled Node) (greedy : Bool) : Nat → Labeled Node
  | 0 => return .skip
  | n + 1 => do
    let label ← freshLabel
    let go := Node.cat (← make) (← upTo make greedy n)
    return if greedy then .alt label go .skip else .alt label .skip go

/-- One round or more. -/
def rounds (make : Labeled Node) (greedy : Bool) : Labeled Node := do
  let a ← make
  return .cat a (.loop (← freshLabel) greedy a)

/-- Any number of rounds. If a round may be empty, the choice whether there is one at all comes
first. -/
def anyRounds (make : Labeled Node) (greedy consumes : Bool) : Labeled Node := do
  if consumes then
    let a ← make
    return .loop (← freshLabel) greedy a
  else
    let go ← rounds make greedy
    let label ← freshLabel
    return if greedy then .alt label go .skip else .alt label .skip go

/-- The machine of an expression. -/
def Syntax.toNode : Syntax → Labeled Node
  | .empty => return .skip
  | .set s => return .set (← freshLabel) s
  | .look l => return .look (← freshLabel) l
  | .cat a b => return .cat (← a.toNode) (← b.toNode)
  | .alt a b => do
    let label ← freshLabel
    return .alt label (← a.toNode) (← b.toNode)
  | .group i r => do
    let start := Node.mark (← freshLabel) (2 * i)
    let body ← r.toNode
    return .cat start (.cat body (.mark (← freshLabel) (2 * i + 1)))
  | .repeated r low high greedy =>
    match r.bounds low high with
    | (0, none) => anyRounds r.toNode greedy r.consumes
    | (n + 1, none) => copies r.toNode n (rounds r.toNode greedy)
    | (n, some m) => copies r.toNode n (upTo r.toNode greedy (m - n))

/-- The machine that also records where the whole match starts and ends. -/
def Syntax.machine (r : Syntax) : Node :=
  .cat (.mark 0 0) (.cat (r.toNode.run 1).1 (.mark 1 1))

/-- Bytes that the automaton of an expression may take. -/
def sizeLimit : Nat := 10485760

/-- About how many automaton states of 32 bytes a set of characters takes. -/
def CharSet.stateCount : CharSet → Nat
  | .never => 1
  | .range low high => if low = high then (Char.ofNat low).utf8Size else if high < 0x80 then 1 else 12
  | .word => 700
  | .digit => 110
  | .blank => 20
  | .categories _ | .property _ | .script _ => 300
  | .union a b | .inter a b => a.stateCount + b.stateCount
  | .compl a => a.stateCount + 12
  | .folded _ a => a.stateCount + 1

/-- About how many automaton states an expression takes. -/
def Syntax.stateCount : Syntax → Nat
  | .empty => 1
  | .set s => s.stateCount
  | .look _ => 1
  | .cat a b => a.stateCount + b.stateCount
  | .alt a b => a.stateCount + b.stateCount + 1
  | .repeated r low high _ =>
    match r.bounds low high with
    | (n, none) => max 1 n * r.stateCount + 2
    | (n, some m) => n * r.stateCount + (m - n) * (r.stateCount + 1) + 1
  | .group _ r => r.stateCount + 2

/-- Whether an expression is too large to be used. -/
def Syntax.isTooLarge (r : Syntax) : Bool :=
  sizeLimit < 32 * (r.stateCount + 4)

end LineScript.Regex
