import LineScript.CommandLine.Filter
import LineScript.Run.Trace

/-! How the journal is shown: what scripts say and printed lines go to the output, all else goes to the
diagnostics. -/
namespace LineScript.CommandLine

/-- Where a text is written to. -/
inductive Channel where
  | output
  | diagnostics
  deriving DecidableEq, Repr

/-- What is shown of the journal. -/
structure Display where
  filter : Filter
  trace : Option TraceFormat := none

/-- A text between the signs that switch a terminal to a colour and back. -/
def coloured (colour text : String) : String :=
  "\x1b[" ++ colour ++ "m" ++ text ++ "\x1b[0m"

/-- The line of a note: the level with five characters and the part in brackets, then the text, whose
further lines are indented. -/
def noteLine (level : Level) (part : Part) (text : String) : String :=
  let gap := String.ofList (List.replicate (5 - level.name.length) ' ')
  "[" ++ level.name ++ gap ++ " " ++ part.name ++ "] " ++ Text.substitute "\n" "\n    " text none ++ "\n"

namespace Display

/-- A note, if it is shown. -/
def note (d : Display) (level : Level) (part : Part) (text : String) :
    Option (Channel × String) :=
  if d.filter.shows level part text then some (.diagnostics, noteLine level part text) else none

/-- A message. What a script says is output. A failure or a warning is a note, or stands in colour if
such notes are switched off. -/
def message (d : Display) (level : Level) (text : String) : Option (Channel × String) :=
  match level with
  | .info => some (.output, text ++ "\n")
  | .error =>
    if d.filter.isEnabled .error .messages then d.note .error .messages text
    else some (.diagnostics, coloured "31" text ++ "\n")
  | .warn =>
    if d.filter.isEnabled .warn .messages then d.note .warn .messages text
    else some (.diagnostics, coloured "33" text ++ "\n")
  | level => d.note level .messages text

/-- What is shown of an event. -/
def event (d : Display) : Event → Option (Channel × String)
  | .message level text => d.message level text
  | .statement script line text => d.trace.map fun f => (.diagnostics, f.line script line text)
  | .note level part text => d.note level part text
  | .printed line => some (.output, line ++ "\n")
  | .warning text => some (.diagnostics, s!"warning: {text}, ignoring it\n")
  | .refusal text => some (.diagnostics, coloured "1;31" "error:" ++ " " ++ text ++ "\n")

/-- All that a journal writes to a channel. The journal has its last event first. -/
def written (d : Display) (c : Channel) (journal : List Event) : String :=
  String.join ((journal.reverse.filterMap d.event).filterMap fun (channel, text) =>
    if channel = c then some text else none)

end Display

end LineScript.CommandLine
