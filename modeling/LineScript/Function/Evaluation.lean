import LineScript.Function.Buffers
import LineScript.Function.Directories
import LineScript.Function.Numbers
import LineScript.Function.Texts

/-! Calling a function by what it is, and a bare place to call functions from. -/
namespace LineScript

open Number (Double)

namespace Call

variable {m : Type → Type} [Monad m] [MonadExceptOf Error m] [MonadStateOf World m]
  [NamedBuffers m]

/-- Does what a function does. -/
def dispatch (c : Call m) : m Output :=
  match c.function.group with
  | .buffer => c.bufferFunction
  | .math => c.mathFunction
  | .string => c.stringFunction
  | .os => c.osFunction

/-- Calls a function, which is noted. -/
def run (c : Call m) : m Output := do
  modify fun w : World => w.record (.note .trace .functions s!"calling {c.function.name}")
  c.dispatch

/-- What a call returns, as a text. -/
def asText (c : Call m) : m String := do
  return (← c.run).toText

/-- What a call returns, as a number. -/
def asNumber (c : Call m) : m Double := do
  match ← c.run with
  | .number x => return x
  | .text s =>
    match Number.ofTrimmed? s with
    | some x => return x
    | none => throw (.ofFailure (.resultNotNumber c.function.name s))

end Call

/-- Buffers and a world, and nothing else. -/
structure Workspace where
  buffers : Registry LineBuffer := .empty
  world : World := {}

namespace Workspace

/-- Work on a workspace. -/
abbrev Action := ExceptT Error (StateM Workspace)

instance : MonadStateOf World Action where
  get := return (← getThe Workspace).world
  set world := modifyThe Workspace ({ · with world })
  modifyGet f := modifyGetThe Workspace fun s =>
    let (a, world) := f s.world
    (a, { s with world })

instance : NamedBuffers Action where
  buffer name := modifyGetThe Workspace fun s =>
    match s.buffers.get? name with
    | some b => (b, s)
    | none => ({}, { s with buffers := s.buffers.insert name {} })
  setBuffer name b :=
    modifyThe Workspace fun s => { s with buffers := s.buffers.insert name b }

end Workspace

end LineScript
