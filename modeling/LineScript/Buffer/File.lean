import LineScript.Buffer.Basic
import LineScript.World

/-! Buffers and the files that they come from. -/
namespace LineScript.LineBuffer

/-- The buffer with the lines of a file, as nobody has changed them. -/
def loaded (b : LineBuffer) (lines : List String) (path : String) : LineBuffer :=
  { b.setLines lines with changed := false, file := some path }

/-- The buffer after it has been written: only if its file was not extended does it count as
unchanged. -/
def stored (b : LineBuffer) (append : Bool) : LineBuffer :=
  if append then b else { b with changed := false }

variable {m : Type → Type} [Monad m] [MonadExceptOf Error m] [MonadStateOf World m]

/-- Reads a file. -/
def readFrom (b : LineBuffer) (path : String) : m LineBuffer := do
  return b.loaded (← FileAction.demand path (.readLines path)) path

/-- Writes the lines to a file, or to the one they come from. A buffer that has not been changed is
written only if lines are appended or writing is forced. The answer says whether it was written. -/
def storeTo (b : LineBuffer) (path : Option String) (append force : Bool) :
    m (LineBuffer × Bool) := do
  if !(force || append || b.changed) then return (b, false)
  match path.or b.file with
  | none => throw (.ofFailure .noFileName)
  | some path =>
    FileAction.demand path (.writeLines path b.lines append)
    return (b.stored append, true)

end LineScript.LineBuffer
