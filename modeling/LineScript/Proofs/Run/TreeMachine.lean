import LineScript.Proofs.Outcome
import LineScript.Proofs.Script.Nesting
import LineScript.Run.Machine

/-! Running scripts as trees of blocks. Nothing jumps here: what is to run is a tree, and the blocks around
it say what follows. The numbers of lines are only kept for the scripts to be left with. -/
namespace LineScript

/-- A place in a script: the number of the lines in front of it, and the tree that follows. -/
structure TreeSpot where
  index : Nat
  tree : BlockTree

/-- A block around what runs. -/
structure OpenBlock where
  /-- The line at the end of the part that runs. -/
  closer : Located
  /-- Where the run goes on behind that line: a loop comes again. -/
  next : TreeSpot
  /-- What follows the block. -/
  exit : TreeSpot

/-- A script that runs: the tree that is to run, and the blocks around it, from the inside out. -/
structure Focus where
  script : Script
  tree : BlockTree
  blocks : List OpenBlock := []

namespace Focus

/-- A script that is entered. -/
def start (a : Activation) : Focus :=
  { script := a.script, tree := .ofLines a.program.statements }

/-- The script at another place, inside of some blocks. -/
def goTo (f : Focus) (s : TreeSpot) (blocks : List OpenBlock) : Focus :=
  { script := { f.script with index := s.index }, tree := s.tree, blocks }

/-- The line that is to run. -/
def current? (f : Focus) : Option (Option Located) :=
  match f.tree, f.blocks with
  | .done, [] => none
  | .done, b :: _ => some (some b.closer)
  | .blank _, _ => some none
  | .plain l _, _ | .leave l _ _ _, _ | .embedded l _ _ _, _ | .ifThen l _ _ _ _, _
  | .ifElse l _ _ _ _ _ _, _ | .loop l _ _ _ _, _ => some (some l)

/-- An error of the line that is to run: it is placed there, unless it has a place. -/
def blame (f : Focus) (e : Error) : Error :=
  match f.current? with
  | some (some l) => e.located ⟨f.script.name, l.line, l.column⟩
  | _ => e

/-- A script behind the call that it waits for. -/
def behindCall (f : Focus) : Focus :=
  match f.tree with
  | .plain _ rest => f.goTo ⟨f.script.index + 1, rest⟩ f.blocks
  | _ => f

end Focus

/-- Scripts that run as trees: the innermost one, and those that wait for it, the innermost first. -/
structure TreeMachine where
  engine : Engine
  active : Focus
  callers : List Focus := []

/-- What a step comes to: the machine goes on, or the outermost script has ended. -/
inductive TreeProgress where
  | running (m : TreeMachine)
  | ended (engine : Engine) (script : Script) (result : Except Error Outcome)

namespace TreeMachine

/-- Ends the innermost script. A caller goes on behind its call if the script has ended by itself; else
it ends as well. -/
def unwind (e : Engine) (s : Script) (result : Except Error Outcome) : List Focus → TreeProgress
  | [] => .ended e s result
  | caller :: callers =>
    let e := e.leave s
    match result with
    | .ok (.finished _) => .running ⟨e, caller.behindCall, callers⟩
    | .ok (.aborted code) => unwind e caller.script (.ok (.aborted code)) callers
    | .error err => unwind e caller.script (.error (caller.blame err)) callers

/-- Ends the innermost script of a machine. -/
def finish (m : TreeMachine) (result : Except Error Outcome) : TreeProgress :=
  unwind m.engine m.active.script result m.callers

/-- The machine at another place of the innermost script. -/
def goTo (m : TreeMachine) (s : TreeSpot) (blocks : List OpenBlock) : TreeProgress :=
  .running { m with active := m.active.goTo s blocks }

/-- Records that a line is about to run. -/
def announce (m : TreeMachine) (l : Located) : TreeMachine :=
  let name := m.active.script.name
  { m with
    engine := (m.engine.record (.note .trace .engine s!"{name}:{l.line}: {l.text}")).record
      (.statement name l.line l.text) }

/-- Ends the innermost script with an error of a line. -/
def fail (m : TreeMachine) (l : Located) (e : Error) : TreeProgress :=
  m.finish (.error (e.located ⟨m.active.script.name, l.line, l.column⟩))

/-- Does some work for a line, without any program to jump in. -/
def work {α : Type} (m : TreeMachine) (l : Located) (a : Run α) (go : α → TreeMachine → TreeProgress) :
    TreeProgress :=
  let (r, s) := outcome a ⟨{ script := m.active.script, program := {} }, m.engine⟩
  let m : TreeMachine :=
    { m with engine := s.engine, active := { m.active with script := s.active.script } }
  match r with
  | .ok x => go x m
  | .error e => m.fail l e

/-- Enters a script that the innermost one calls. -/
def call (m : TreeMachine) (l : Located) (name : String) (parameters : List (String × String)) :
    TreeProgress :=
  let site : Engine.CallSite := ⟨l.line, m.active.script.directory?⟩
  match outcome (Engine.enter site name parameters) m.engine with
  | (.ok a, engine) => .running ⟨engine, .start a, m.active :: m.callers⟩
  | (.error e, engine) => fail { m with engine } l e

/-- Goes on behind a statement that belongs to no block. -/
def follow (l : Located) (next : TreeSpot) (flow : Flow) (m : TreeMachine) : TreeProgress :=
  match flow with
  | .next | .jump _ => m.goTo next m.active.blocks
  | .finish code => m.finish (.ok (.finished code))
  | .abort code => m.finish (.ok (.aborted code))
  | .call name parameters => m.call l name parameters

/-- Leaves so many blocks, and goes on behind the outermost of them. -/
def leave (levels : Nat) (next : TreeSpot) (leaves : Bool) (m : TreeMachine) : TreeProgress :=
  match leaves, m.active.blocks.drop (levels - 1) with
  | true, b :: blocks => m.goTo b.exit blocks
  | _, _ => m.goTo next m.active.blocks

/-- Goes into a block if its test holds, and else to another place. -/
def choose (inside : TreeSpot) (block : OpenBlock) (other : TreeSpot) (blocks : List OpenBlock) (holds : Bool)
    (m : TreeMachine) : TreeProgress :=
  if holds then m.goTo inside (block :: m.active.blocks) else m.goTo other (blocks ++ m.active.blocks)

/-- Takes a step. A test that holds leads into its block, the end of a part leads behind its block or to
its loop again, and a body that is embedded is passed. -/
def step (m : TreeMachine) : TreeProgress :=
  let i := m.active.script.index
  match m.active.tree with
  | .done =>
    match m.active.blocks with
    | [] => m.finish (.ok (.finished 0))
    | b :: blocks => (m.announce b.closer).goTo b.next blocks
  | .blank rest => m.goTo ⟨i + 1, rest⟩ m.active.blocks
  | .plain l rest =>
    (m.announce l).work l (Run.execute l.text l.statement) (follow l ⟨i + 1, rest⟩)
  | .leave l levels condition rest =>
    (m.announce l).work l (condition.elim (pure true) Run.testHolds) (leave levels ⟨i + 1, rest⟩)
  | .embedded l skipped _ rest => (m.announce l).goTo ⟨i + skipped + 2, rest⟩ m.active.blocks
  | .ifThen head test body closer rest =>
    let behind : TreeSpot := ⟨i + body.size + 2, rest⟩
    (m.announce head).work head (Run.testHolds test)
      (choose ⟨i + 1, body⟩ ⟨closer, behind, behind⟩ behind [])
  | .ifElse head test body middle other closer rest =>
    let behind : TreeSpot := ⟨i + body.size + other.size + 3, rest⟩
    (m.announce head).work head (Run.testHolds test)
      (choose ⟨i + 1, body⟩ ⟨middle, behind, behind⟩ ⟨i + body.size + 2, other⟩
        [⟨closer, behind, behind⟩])
  | .loop head test body closer rest =>
    let behind : TreeSpot := ⟨i + body.size + 2, rest⟩
    (m.announce head).work head (Run.testHolds test)
      (choose ⟨i + 1, body⟩ ⟨closer, ⟨i, m.active.tree⟩, behind⟩ behind [])

/-- Takes steps until the outermost script ends; none if the steps do not suffice. -/
def run : Nat → TreeMachine → Option (Engine × Script × Except Error Outcome)
  | 0, _ => none
  | fuel + 1, m =>
    match m.step with
    | .running m => run fuel m
    | .ended e s r => some (e, s, r)

end TreeMachine

/-- Takes a step, unless the outermost script has ended. -/
def Progress.next : Progress → Progress
  | .running m => m.step
  | .ended e s r => .ended e s r

/-- Takes a step, unless the outermost script has ended. -/
def TreeProgress.next : TreeProgress → TreeProgress
  | .running m => m.step
  | .ended e s r => .ended e s r

/-- Whether two machines are at the same line with the same state, or have both ended the same way. -/
def Progress.Agrees : Progress → TreeProgress → Prop
  | .running m, .running t =>
    m.engine = t.engine ∧ m.active.script = t.active.script ∧
      m.callers.map (·.script) = t.callers.map (·.script) ∧ m.active.current? = t.active.current?
  | .ended e s r, .ended e' s' r' => e = e' ∧ s = s' ∧ r = r'
  | _, _ => False

end LineScript
