/-! What happens while scripts run, as a record in the order in which it happens. -/
namespace LineScript

/-- How much a message matters, the most urgent first. -/
inductive Level where
  | error
  | warn
  | info
  | debug
  | trace
  deriving DecidableEq, Repr

/-- The rank of a level: one for the most urgent. -/
def Level.rank : Level → Nat
  | error => 1
  | warn => 2
  | info => 3
  | debug => 4
  | trace => 5

/-- The name of a level. -/
def Level.name : Level → String
  | error => "ERROR"
  | warn => "WARN"
  | info => "INFO"
  | debug => "DEBUG"
  | trace => "TRACE"

/-- The part of the program that a note comes from. -/
inductive Part where
  | program
  | engine
  | checker
  | interpreter
  | functions
  | directories
  | messages
  deriving DecidableEq, Repr

/-- The name of a part in notes. -/
def Part.name : Part → String
  | program => "sesknife"
  | engine => "ses::engine"
  | checker => "ses::parser"
  | interpreter => "ses::interpreter"
  | functions => "ses::functions"
  | directories => "ses::functions::os"
  | messages => "ses::logger"

/-- What is recorded: a message of a script or about its failure, the statement that is about to run,
a note on the course of the program, a line of a buffer that is printed, a setting that does not count,
or why the program gives up. -/
inductive Event where
  | message (level : Level) (text : String)
  | statement (script : String) (line : Nat) (text : String)
  | note (level : Level) (part : Part) (text : String)
  | printed (line : String)
  | warning (text : String)
  | refusal (text : String)
  deriving DecidableEq, Repr

end LineScript
