import LineScript.Script.Blocks

/-! Checking a script: every line becomes a statement, and the jumps are settled before anything
runs. -/
namespace LineScript

/-- A checked script. There is no statement for a blank line, a comment or a line of the body of an
embedded script. -/
structure Program where
  statements : List (Option Located) := []
  jumps : JumpTable := {}

namespace Program

open Reading Script

/-- The line that is to be read, as a statement. -/
def located (s : TokenStream) (column : Nat) (statement : Statement) : Located :=
  ⟨s.line, column, Text.trimmed s.text, statement⟩

/-- The `endscript` that closes an embedded script, read to its end, or nothing for a line of the
body. -/
def readBody (first : Token) : Reading (Option Statement) := do
  if first.isKeyword && first.text == "endscript" then
    discard next
    expectEnd
    return some .endScript
  return none

/-- A statement with its effect on the block structure, read to its end. Errors without a place of
their own are placed at the first token. -/
def readStatement (o : Outline) (index : Nat) (position : SourcePosition) :
    Reading (Statement × Outline) :=
  fun s =>
    let (r, s) := (show Reading (Statement × Outline) from do
      let statement ← statement (levelsWithin o.blocks.length)
      match o.advance index position statement with
      | .error m => throw (.ofMistake m)
      | .ok o =>
        expectEnd
        return (statement, o)) s
    (r.mapError (·.located position), s)

/-- The statement of the line with an index, if it has one, and the block structure behind it. -/
def readLine (o : Outline) (index : Nat) : Reading (Option Located × Outline) := do
  let first ← peek
  if first.isEnd then return (none, o)
  let s ← get
  let position := s.positionAt first.column
  match o.embedded with
  | some (opener, _) =>
    match ← readBody first with
    | none => return (none, o)
    | some statement =>
      let o := { o with embedded := none }.jump opener (index + 1)
      return (some (located s position.column statement), o)
  | none =>
    let (statement, o) ← readStatement o index position
    return (some (located s position.column statement), o)

/-- The statements of some lines, from the line with an index on, and the block structure behind
them. -/
def readLines (name : String) (offset : Nat) : Outline → Nat → List String →
    Except Error (List (Option Located) × Outline)
  | o, _, [] => .ok ([], o)
  | o, index, line :: lines =>
    match ((readLine o index).run (lineStream name (offset + index + 1) line)).1 with
    | .error e => .error e
    | .ok (statement, o) =>
      (readLines name offset o (index + 1) lines).map fun (rest, o) => (statement :: rest, o)

/-- The program of a script. The offset is added to the numbers of its lines. -/
def check (name : String) (lines : List String) (offset : Nat) : Except Error Program :=
  match readLines name offset {} 0 lines with
  | .error e => .error e
  | .ok (statements, o) =>
    match o.leftOpen? with
    | some e => .error e
    | none => .ok { statements, jumps := o.jumps }

/-- The number of statements. -/
def statementCount (p : Program) : Nat :=
  p.statements.countP Option.isSome

end Program

/-- A script inside another one. -/
structure EmbeddedScript where
  name : String
  /-- The index of the first line of its body. -/
  firstLine : Nat
  lines : List String
  deriving DecidableEq, Repr

namespace EmbeddedScript

open Reading Script

/-- What the first token of a line means for the embedded scripts. -/
inductive Boundary where
  | start (name : String)
  | stop
  | other

/-- The meaning of a line; `inside` tells whether an embedded script is open. -/
def boundary (inside : Bool) : Reading Boundary := do
  let t ← next
  if !t.isKeyword then return .other
  match t.text, inside with
  | "script", false => return .start (← expectIdentifier "a script name")
  | "script", true => refuse .scriptNested
  | "endscript", true => return .stop
  | _, _ => return .other

/-- The embedded scripts from the line with an index on. An open script is given by its name, the
index of its first line and its lines so far, last to first. -/
def collect (name : String) : Nat → Option (String × Nat × List String) → List String →
    Except Error (List EmbeddedScript)
  | _, _, [] => .ok []
  | index, inner, line :: lines =>
    match ((boundary inner.isSome).run (lineStream name (index + 1) line)).1 with
    | .error e => .error e
    | .ok b =>
      match b, inner with
      | .start script, _ => collect name (index + 1) (some (script, index + 1, [])) lines
      | .stop, some (script, first, body) =>
        (collect name (index + 1) none lines).map (⟨script, first, body.reverse⟩ :: ·)
      | _, some (script, first, body) =>
        collect name (index + 1) (some (script, first, line :: body)) lines
      | _, none => collect name (index + 1) none lines

/-- The embedded scripts of a script. -/
def ofLines (name : String) (lines : List String) : Except Error (List EmbeddedScript) :=
  collect name 0 none lines

end EmbeddedScript

end LineScript
