import LineScript.Run.Engine
import LineScript.Run.Statement

/-! The machine that runs scripts, a statement at a time. Scripts that have called others wait in a
stack. -/
namespace LineScript

/-- Scripts that run: the innermost one, and those that wait for it, the innermost first. -/
structure Machine where
  engine : Engine
  active : Activation
  callers : List Activation := []

/-- What a step comes to: the machine goes on, or the outermost script has ended. -/
inductive Progress where
  | running (m : Machine)
  | ended (engine : Engine) (script : Script) (result : Except Error Outcome)

namespace Activation

/-- The statement that is to run. -/
def current? (a : Activation) : Option (Option Located) :=
  a.program.statements[a.script.index]?

/-- The script at another statement. -/
def goTo (a : Activation) (index : Nat) : Activation :=
  { a with script := { a.script with index } }

/-- The place of a statement of the script. -/
def placeOf (a : Activation) (l : Located) : SourcePosition :=
  ⟨a.script.name, l.line, l.column⟩

/-- An error of the statement that is to run: it is placed there, unless it has a place. -/
def blame (a : Activation) (e : Error) : Error :=
  match a.current? with
  | some (some l) => e.located (a.placeOf l)
  | _ => e

end Activation

namespace Machine

/-- Ends the innermost script. A caller goes on behind its call if the script has ended by itself; else
it ends as well. -/
def unwind (e : Engine) (s : Script) (result : Except Error Outcome) :
    List Activation → Progress
  | [] => .ended e s result
  | caller :: callers =>
    let e := e.leave s
    match result with
    | .ok (.finished _) => .running ⟨e, caller.goTo (caller.script.index + 1), callers⟩
    | .ok (.aborted code) => unwind e caller.script (.ok (.aborted code)) callers
    | .error err => unwind e caller.script (.error (caller.blame err)) callers

/-- Ends the innermost script of a machine. -/
def finish (m : Machine) (result : Except Error Outcome) : Progress :=
  unwind m.engine m.active.script result m.callers

/-- The machine at another statement of the innermost script. -/
def goTo (m : Machine) (index : Nat) : Machine :=
  { m with active := m.active.goTo index }

/-- Records that a statement is about to run. -/
def announce (m : Machine) (l : Located) : Machine :=
  let name := m.active.script.name
  { m with
    engine := (m.engine.record (.note .trace .engine s!"{name}:{l.line}: {l.text}")).record
      (.statement name l.line l.text) }

/-- Enters a script that the innermost one calls. -/
def call (m : Machine) (l : Located) (name : String) (parameters : List (String × String)) :
    Progress :=
  let site : Engine.CallSite := ⟨l.line, m.active.script.directory?⟩
  match (Engine.enter site name parameters).run.run m.engine with
  | (.ok a, engine) => .running ⟨engine, a, m.active :: m.callers⟩
  | (.error e, engine) =>
    finish { m with engine } (.error (e.located (m.active.placeOf l)))

/-- Runs a statement. -/
def perform (m : Machine) (l : Located) : Progress :=
  let m := m.announce l
  let (r, s) := (Run.execute l.text l.statement).run.run ⟨m.active, m.engine⟩
  let m : Machine := { m with active := s.active, engine := s.engine }
  match r with
  | .error e => m.finish (.error (e.located (m.active.placeOf l)))
  | .ok .next => .running (m.goTo (m.active.script.index + 1))
  | .ok (.jump t) => .running (m.goTo t)
  | .ok (.finish code) => m.finish (.ok (.finished code))
  | .ok (.abort code) => m.finish (.ok (.aborted code))
  | .ok (.call name parameters) => m.call l name parameters

/-- Takes a step: runs the next statement, passes a line without one, or ends a script at its end. -/
def step (m : Machine) : Progress :=
  match m.active.current? with
  | none => m.finish (.ok (.finished 0))
  | some none => .running (m.goTo (m.active.script.index + 1))
  | some (some l) => m.perform l

/-- Takes steps until the outermost script ends; none if the steps do not suffice. -/
def run : Nat → Machine → Option (Engine × Script × Except Error Outcome)
  | 0, _ => none
  | fuel + 1, m =>
    match m.step with
    | .running m => run fuel m
    | .ended e s r => some (e, s, r)

end Machine

namespace Engine

/-- Runs a script, or the chosen one; none if the steps do not suffice. -/
def tryRun (fuel : Nat) (name : Option String) (e : Engine) :
    Option (Except Error Outcome × Engine) :=
  match (start name).run.run e with
  | (.error err, e) => some (.error err, e)
  | (.ok a, e) => (Machine.run fuel ⟨e, a, []⟩).map fun (e, s, r) => (r, e.leave s)

/-- Records the failure of a run, and returns its exit code. -/
def settle (r : Except Error Outcome) (e : Engine) : Int × Engine :=
  match r with
  | .ok o => (o.code, e)
  | .error err => (1, e.record (.message .error err.toText))

/-- Runs a script, or the chosen one, and returns its exit code; a failure is recorded. -/
def testAndRun (fuel : Nat) (name : Option String) (e : Engine) : Option (Int × Engine) :=
  (e.tryRun fuel name).map fun (r, e) => e.settle r

/-- Runs a script that is not loaded, with the engine around it. -/
def runApart (fuel : Nat) (s : Script) (e : Engine) :
    Option (Except Error Outcome × Script × Engine) :=
  match (activate s).run.run e with
  | (.error err, e) => some (.error err, s, e)
  | (.ok a, e) => (Machine.run fuel ⟨e, a, []⟩).map fun (e, s, r) => (r, s, e)

end Engine

end LineScript
