import LineScript.Script.Statement

/-! The block structure of a script: which statements jump, and where to. -/
namespace LineScript

/-- Jump targets by the index of the statement that jumps, in ascending order. -/
abbrev Targets := List (Nat × Nat)

/-- Records a target, in place of one recorded before. -/
def Targets.insert (index target : Nat) : Targets → Targets
  | [] => [(index, target)]
  | (i, t) :: rest =>
    if index < i then (index, target) :: (i, t) :: rest
    else if index = i then (index, target) :: rest
    else (i, t) :: Targets.insert index target rest

/-- The jumps of a script. -/
structure JumpTable where
  /-- From an `if` whose test fails: behind its `else`, or behind its `endif`. -/
  ifTargets : Targets := []
  /-- From an `else` behind its `endif`, from a `while` whose test fails behind its `endwhile`, from an
  `endwhile` to its `while`, from a `leave` behind the outermost block it leaves, and from a `script`
  behind its `endscript`. -/
  blockTargets : Targets := []
  deriving DecidableEq, Repr

/-- The part of a block that is open. -/
inductive BlockKind where
  | ifPart
  | elsePart
  | loop
  deriving DecidableEq, Repr

/-- An open block. -/
structure Block where
  kind : BlockKind
  /-- The index of its `if` or `while`. -/
  opener : Nat
  /-- The index of its `else`, once there is one. -/
  alternative : Option Nat := none
  position : SourcePosition
  /-- The `leave` statements that end behind this block. -/
  leaving : List Nat := []
  deriving DecidableEq, Repr

/-- The word that opened a block. -/
def Block.word (b : Block) : Opener :=
  match b.kind with
  | .ifPart | .elsePart => .ifWord
  | .loop => .whileWord

/-- What is known of the block structure in front of a line: the open blocks from the inside out, the
open embedded script, and the jumps found. -/
structure Outline where
  blocks : List Block := []
  embedded : Option (Nat × SourcePosition) := none
  jumps : JumpTable := {}
  deriving DecidableEq, Repr

namespace Outline

/-- Records the target of a failing `if`. -/
def jumpIf (o : Outline) (index target : Nat) : Outline :=
  { o with jumps := { o.jumps with ifTargets := o.jumps.ifTargets.insert index target } }

/-- Records another target. -/
def jump (o : Outline) (index target : Nat) : Outline :=
  { o with jumps := { o.jumps with blockTargets := o.jumps.blockTargets.insert index target } }

/-- Opens a block. -/
def openBlock (o : Outline) (kind : BlockKind) (index : Nat) (position : SourcePosition) : Outline :=
  { o with blocks := { kind, opener := index, position } :: o.blocks }

/-- Closes a block: what leaves it goes on behind the closing statement. -/
def closeBlock (o : Outline) (b : Block) (rest : List Block) (index : Nat) : Outline :=
  b.leaving.foldl (fun o leave => o.jump leave (index + 1)) { o with blocks := rest }

/-- Takes in the statement with an index. -/
def advance (o : Outline) (index : Nat) (position : SourcePosition) (s : Statement) :
    Except Mistake Outline :=
  match s with
  | .ifTest _ => .ok (o.openBlock .ifPart index position)
  | .whileTest _ => .ok (o.openBlock .loop index position)
  | .elseWord =>
    match o.blocks with
    | b :: rest =>
      if b.kind = .ifPart then
        .ok ({ o with
          blocks := { b with kind := .elsePart, alternative := some index } :: rest }.jumpIf
            b.opener (index + 1))
      else .error .elseWithoutIf
    | [] => .error .elseWithoutIf
  | .endIf =>
    match o.blocks with
    | b :: rest =>
      match b.kind, b.alternative with
      | .loop, _ => .error (.closerWithoutOpener "endif" .ifWord)
      | _, some alternative => .ok ((o.closeBlock b rest index).jump alternative (index + 1))
      | _, none => .ok ((o.closeBlock b rest index).jumpIf b.opener (index + 1))
    | [] => .error (.closerWithoutOpener "endif" .ifWord)
  | .endWhile =>
    match o.blocks with
    | b :: rest =>
      if b.kind = .loop then
        .ok (((o.closeBlock b rest index).jump b.opener (index + 1)).jump index b.opener)
      else .error (.closerWithoutOpener "endwhile" .whileWord)
    | [] => .error (.closerWithoutOpener "endwhile" .whileWord)
  | .leave levels _ =>
    .ok { o with
      blocks := o.blocks.modify (levels - 1) fun b => { b with leaving := index :: b.leaving } }
  | .script _ =>
    if o.blocks.isEmpty then .ok { o with embedded := some (index, position) }
    else .error .scriptInBlock
  | .endScript => .error .endscriptAlone
  | _ => .ok o

/-- What is still open at the end of a script, if anything is. -/
def leftOpen? (o : Outline) : Option Error :=
  match o.embedded, o.blocks with
  | some (_, position), _ => some ⟨.mistake .scriptNotClosed, some position⟩
  | none, b :: _ => some ⟨.mistake (.blockNotClosed b.word), some b.position⟩
  | none, [] => none

end Outline

end LineScript
