import LineScript.Number.Decimal
import LineScript.Run.Trace

/-! Reading the arguments of the command line. Options and paths may come in any order. The first
argument that settles what happens, be it help or a fault, decides. -/
namespace LineScript.CommandLine

/-- What a run of the program is asked to do. -/
structure Options where
  script : String
  files : List String := []
  /-- The definitions of parameters, as they are given. -/
  defines : List String := []
  inPlace : Bool := false
  print : Bool := false
  trace : Option TraceFormat := none
  verbosity : Nat := 0
  loopLimit : Option Nat := none
  deriving DecidableEq, Repr

/-- What the arguments ask for. -/
inductive Invocation where
  | run (o : Options)
  | help
  | version
  | misuse
  deriving DecidableEq, Repr

/-- An option, whichever way it is spelled. -/
inductive Flag where
  | define
  | inPlace
  | print
  | traceText
  | traceObject
  | verbose
  | loopLimit
  | help
  | version
  deriving DecidableEq, Repr

namespace Flag

/-- The option of a letter. -/
def ofLetter? : Char → Option Flag
  | 'D' => some define
  | 'i' => some inPlace
  | 'p' => some print
  | 'v' => some verbose
  | 'h' => some help
  | 'V' => some version
  | _ => none

/-- The option of a word. -/
def ofWord? : String → Option Flag
  | "define" => some define
  | "in-place" => some inPlace
  | "print" => some print
  | "trace" => some traceText
  | "trace-json" => some traceObject
  | "verbose" => some verbose
  | "max-loops" => some loopLimit
  | "help" => some help
  | "version" => some version
  | _ => none

/-- Whether an option comes with a value. -/
def takesValue : Flag → Bool
  | define | loopLimit => true
  | _ => false

/-- Whether an option may be given more than once. -/
def isRepeatable : Flag → Bool
  | define | verbose => true
  | _ => false

end Flag

/-- What has been read of the arguments. -/
structure Reading where
  /-- The script and the files, the last one first. -/
  paths : List String := []
  /-- The definitions, the last one first. -/
  defines : List String := []
  loopLimit : Option Nat := none
  /-- The options that were given, the last one first. -/
  given : List Flag := []

/-- A number of iterations: decimal digits, perhaps behind a plus sign. A limit has 64 bits. -/
def limit? (text : String) : Option Nat :=
  let digits := match text.toList with
    | '+' :: cs => cs
    | cs => cs
  let n := Number.digitsValue 0 digits
  if !digits.isEmpty && digits.all Char.isDigit && n < Number.twoTo 64 then some n else none

/-- Whether an argument has the form of an option. A lone dash is a path. -/
def isOptionLike (argument : String) : Bool :=
  argument.toList.head? == some '-' && argument != "-"

namespace Reading

/-- Notes an option. Only some may be repeated. -/
def note (r : Reading) (f : Flag) : Except Invocation Reading :=
  if !f.isRepeatable && r.given.contains f then .error .misuse
  else .ok { r with given := f :: r.given }

/-- Takes an option without a value. -/
def takeFlag (r : Reading) : Flag → Except Invocation Reading
  | .help => .error .help
  | .version => .error .version
  | f => r.note f

/-- Takes an option with its value. -/
def takeValue (r : Reading) (f : Flag) (value : String) : Except Invocation Reading := do
  let r ← r.note f
  match f with
  | .define => return { r with defines := value :: r.defines }
  | .loopLimit =>
    match limit? value with
    | some n => return { r with loopLimit := some n }
    | none => throw .misuse
  | _ => throw .misuse

/-- Takes a path, which must not be empty. -/
def takePath (r : Reading) (path : String) : Except Invocation Reading :=
  if path.isEmpty then .error .misuse else .ok { r with paths := path :: r.paths }

/-- Takes letters behind a dash. A value follows its letter, perhaps behind an equals sign. If the last
letter lacks its value, the option comes back as well. -/
def takeLetters (r : Reading) : List Char → Except Invocation (Reading × Option Flag)
  | [] => .ok (r, none)
  | c :: cs =>
    match Flag.ofLetter? c with
    | none => .error .misuse
    | some f =>
      if f.takesValue then
        match cs with
        | [] => .ok (r, some f)
        | '=' :: value => (r.takeValue f (String.ofList value)).map (·, none)
        | value => (r.takeValue f (String.ofList value)).map (·, none)
      else do takeLetters (← r.takeFlag f) cs

/-- Takes a word behind two dashes. A value follows an equals sign. If the value is missing, the option
comes back as well. -/
def takeWord (r : Reading) (text : List Char) : Except Invocation (Reading × Option Flag) :=
  let word := text.takeWhile (· != '=')
  let value := text.drop (word.length + 1)
  match Flag.ofWord? (String.ofList word), text.contains '=' with
  | none, _ => .error .misuse
  | some f, true => (r.takeValue f (String.ofList value)).map (·, none)
  | some f, false => if f.takesValue then .ok (r, some f) else (r.takeFlag f).map (·, none)

/-- Takes an argument. If it is an option that lacks its value, the option comes back as well. -/
def takeArgument (r : Reading) (argument : String) :
    Except Invocation (Reading × Option Flag) :=
  match argument.toList with
  | '-' :: '-' :: word => r.takeWord word
  | ['-'] => (r.takePath argument).map (·, none)
  | '-' :: letters => r.takeLetters letters
  | _ => (r.takePath argument).map (·, none)

/-- Takes all arguments. Behind two dashes there are only paths. A value that has the form of an option
is none. -/
def takeAll (r : Reading) : List String → Except Invocation Reading
  | [] => .ok r
  | argument :: rest =>
    if argument = "--" then rest.foldlM takePath r
    else do
      match ← r.takeArgument argument with
      | (r, none) => takeAll r rest
      | (r, some f) =>
        match rest with
        | [] => throw .misuse
        | value :: rest =>
          if isOptionLike value then throw .misuse else takeAll (← r.takeValue f value) rest

/-- How a trace is written, if one is asked for; there is one way at most. -/
def trace (r : Reading) : Except Invocation (Option TraceFormat) :=
  match r.given.contains .traceText, r.given.contains .traceObject with
  | true, true => .error .misuse
  | true, false => .ok (some .text)
  | false, true => .ok (some .object)
  | false, false => .ok none

/-- The options, once all arguments are read. There must be a script. -/
def options (r : Reading) : Except Invocation Options := do
  let trace ← r.trace
  match r.paths.reverse with
  | [] => throw .misuse
  | script :: files =>
    return {
      script, files, trace
      defines := r.defines.reverse
      inPlace := r.given.contains .inPlace
      print := r.given.contains .print
      verbosity := r.given.count .verbose
      loopLimit := r.loopLimit }

end Reading

/-- What some arguments ask for. -/
def Invocation.ofArguments (arguments : List String) : Invocation :=
  match (Reading.takeAll {} arguments).bind (·.options) with
  | .ok o => .run o
  | .error i => i

end LineScript.CommandLine
