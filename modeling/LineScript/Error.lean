import LineScript.Function.Signature
import LineScript.Number.Shortest
import LineScript.Search.Expression

/-! Errors: what went wrong, and where in a script. The causes are data; their wording stands here. -/
namespace LineScript

open Number (Double)

/-- A place in a script; lines and columns count from one, and columns count characters. -/
structure SourcePosition where
  script : String
  line : Nat
  column : Nat
  deriving DecidableEq, Repr, Inhabited

/-- The text of a place. -/
def SourcePosition.toText (p : SourcePosition) : String :=
  s!"{p.script}:{p.line}:{p.column}"

/-- Why a quoted string or an escape in a text is refused. -/
inductive EscapeError where
  | openQuote
  | missing
  | unknown
  | fewDigits
  | noCharacter
  deriving DecidableEq, Repr

/-- The wording of a refused string. -/
def EscapeError.message : EscapeError → String
  | openQuote => "expected closing quote"
  | missing => "expected escape sequence"
  | unknown =>
    "expected valid escape sequence (\\n, \\r, \\t, \\0, \\\\, \\\", \\', \\$, \\xNN, \\uNNNN)"
  | fewDigits => "expected hex digits"
  | noCharacter => "expected valid hex digits"

/-- The word that opens a block. -/
inductive Opener where
  | ifWord
  | whileWord
  deriving DecidableEq, Repr

/-- The spelling of an opener. -/
def Opener.word : Opener → String
  | ifWord => "if"
  | whileWord => "while"

/-- Why a line or a whole script is refused before it runs. A token that was found instead of another
is given by its text, the end of a statement by none. -/
inductive Mistake where
  | escape (e : EscapeError)
  | pattern (r : Search.Refusal)
  | expectedOperator (op : String) (found : Option String)
  | expected (what : String) (found : Option String)
  | unexpected (found : Option String)
  | selectorNotAllowed
  | selectorAssigned
  | patternAsValue
  | tooFewArguments (function : String) (required : Nat)
  | tooManyArguments (function : String) (allowed : Nat)
  | wrongArgumentKind (function : String) (index : Nat)
  | minusWithoutNumber
  | notNumeric (function : String)
  | mixedOperators
  | unknownStatement (name : String)
  | readOnly (name : String)
  | elseWithoutIf
  | closerWithoutOpener (closer : String) (opener : Opener)
  | levelsNotWhole
  | tooManyLevels (levels depth : Nat)
  | scriptInBlock
  | endscriptAlone
  | scriptNotClosed
  | scriptNested
  | blockNotClosed (opener : Opener)
  | expectedRange (found : String)
  | expectedMoveTarget (found : String)
  deriving DecidableEq, Repr

/-- The wording for a token that was found. -/
def foundText (found : Option String) : String :=
  found.elim "end of statement" fun t => s!"'{t}'"

/-- The wording of a mistake. -/
def Mistake.message : Mistake → String
  | escape e => e.message
  | pattern r => r.message
  | expectedOperator op found => s!"expected '{op}', found {foundText found}"
  | expected what found => s!"expected {what}, found {foundText found}"
  | unexpected found => s!"unexpected {foundText found}"
  | selectorNotAllowed => "a buffer selector is not allowed here"
  | selectorAssigned => "a buffer selector cannot be assigned"
  | patternAsValue => "a pattern is not a value"
  | tooFewArguments function required => s!"{function} needs at least {required} argument(s)"
  | tooManyArguments function allowed => s!"{function} takes at most {allowed} argument(s)"
  | wrongArgumentKind function index => s!"{function}: argument {index} has the wrong kind"
  | minusWithoutNumber => "expected a number after '-'"
  | notNumeric function => s!"{function} does not return a number"
  | mixedOperators => "cannot mix '+'/'-' with '*'/'/' in one expression"
  | unknownStatement name => s!"unknown statement '{name}'"
  | readOnly name => s!"cannot assign to '{name}'"
  | elseWithoutIf => "'else' without 'if'"
  | closerWithoutOpener closer opener => s!"'{closer}' without '{opener.word}'"
  | levelsNotWhole => "the number of levels must be a whole number"
  | tooManyLevels levels depth => s!"cannot leave {levels} block(s) from a depth of {depth}"
  | scriptInBlock => "a script block must not be inside another block"
  | endscriptAlone => "'endscript' without 'script'"
  | scriptNotClosed => "script block is not closed by 'endscript'"
  | scriptNested => "script blocks cannot be nested"
  | blockNotClosed opener => s!"'{opener.word}' block is not closed"
  | expectedRange found => s!"expected a range (all, line, lines N, mark, hit), found '{found}'"
  | expectedMoveTarget found =>
    s!"expected a move target (pattern, line N, by N, <, >, ^, $, mark), found '{found}'"

/-- Why a running script fails on its data. -/
inductive Failure where
  | assertion (statement : String)
  | loopLimit (limit : Nat)
  | popWithoutPush
  | noHit
  | divisionByZero
  | variableNotNumber (name text : String)
  | notFinite (x : Double)
  | undefinedVariable (name : String)
  | unknownIntrinsic (name : String)
  | pattern (r : Search.Refusal)
  | noFileName
  | argumentNotNumber (function : String) (index : Nat) (text : String)
  | argumentNotFinite (function : String) (index : Nat) (text : String)
  | resultNotNumber (function text : String)
  | sortFlag (flag : Char)
  | emptySeparator
  | emptyRange (low high : Int)
  | noHome
  | fileGlob
  | parameterLine (line : String)
  | alreadyLoaded (script : String)
  | alreadyRunning (script : String)
  | unknownScript (script : String)
  | noScriptSelected
  | noScriptName (path : String)
  | readOnly (name : String)
  | notGlobal (name : String)
  deriving DecidableEq, Repr

/-- The wording of a failure. -/
def Failure.message : Failure → String
  | assertion statement => s!"assertion failed: {statement}"
  | loopLimit limit => s!"loop exceeded {limit} iterations"
  | popWithoutPush => "'select pop' without 'select push'"
  | noHit => "no search hit"
  | divisionByZero => "division by zero"
  | variableNotNumber name text => s!"'{name}' is not a number: '{text}'"
  | notFinite x => s!"not a finite number: {x.toText}"
  | undefinedVariable name => s!"undefined variable '{name}'"
  | unknownIntrinsic name => s!"unknown intrinsic variable '{name}'"
  | pattern r => r.message
  | noFileName => "buffer has no file name"
  | argumentNotNumber function index text =>
    s!"{function}: argument {index} is not a number: '{text}'"
  | argumentNotFinite function index text =>
    s!"{function}: argument {index} must be a finite number: '{text}'"
  | resultNotNumber function text => s!"{function} returned '{text}', which is not a number"
  | sortFlag flag => s!"buffer.sort: unknown flag '{flag}'"
  | emptySeparator => "string.piece: empty separator"
  | emptyRange low high => s!"math.random: empty range [{low}, {high}]"
  | noHome => "os.cd: no home directory"
  | fileGlob => "os.listfiles: error parsing glob"
  | parameterLine line => s!"parameter line without '=': '{line}'"
  | alreadyLoaded script => s!"script '{script}' is already loaded"
  | alreadyRunning script => s!"script '{script}' is already running"
  | unknownScript script => s!"unknown script '{script}'"
  | noScriptSelected => "no script selected"
  | noScriptName path => s!"no script name in '{path}'"
  | readOnly name => s!"cannot assign to '{name}'"
  | notGlobal name => s!"'{name}' is not a global variable name"

/-- Broken promises between the parts of the library. -/
inductive Fault where
  | noJumpTarget (index : Nat)
  | unknownFunction (name : String)
  | missingArgument (function : String) (index : Nat)
  | notABuffer (function : String) (index : Nat)
  | foreignFunction (function : Builtin) (group : FunctionGroup)
  | malformedPattern
  | noProgram
  | tokenClass
  | largeTokenClass
  | unreadKeyword (word : String)
  | tooDeep
  deriving DecidableEq, Repr

/-- The wording of a fault. -/
def Fault.message : Fault → String
  | noJumpTarget index => s!"no jump target for statement {index + 1}"
  | unknownFunction name => s!"unknown function '{name}'"
  | missingArgument function index => s!"{function}: missing argument {index}"
  | notABuffer function index => s!"{function}: argument {index} is not a buffer"
  | foreignFunction function group => s!"{function.identifier} is not {group.phrase} function"
  | malformedPattern => "malformed pattern token"
  | noProgram => "script has no program"
  | tokenClass => "invalid special token class: regex parse error"
  | largeTokenClass =>
    s!"invalid special token class: Compiled regex exceeds size limit of {Regex.sizeLimit} bytes."
  | unreadKeyword word => s!"no handler for keyword '{word}'"
  | tooDeep => "statement is too long"

/-- Why a file system refuses a request. -/
inductive FileError where
  | notFound
  | alreadyExists
  | notADirectory
  | isADirectory
  | notText
  | nameTooLong
  | notRegular
  | noSuchName
  | denied
  deriving DecidableEq, Repr

/-- The wording of a refused request. -/
def FileError.message : FileError → String
  | notFound => "No such file or directory (os error 2)"
  | alreadyExists => "File exists (os error 17)"
  | notADirectory => "Not a directory (os error 20)"
  | isADirectory => "Is a directory (os error 21)"
  | notText => "stream did not contain valid UTF-8"
  | nameTooLong => "File name too long (os error 36)"
  | notRegular => "the source path is neither a regular file nor a symlink to a regular file"
  | noSuchName => "file name contained an unexpected NUL byte"
  | denied => "Permission denied (os error 13)"

/-- What an error is about. -/
inductive Cause where
  | mistake (m : Mistake)
  | failure (f : Failure)
  | fault (f : Fault)
  | file (path : String) (e : FileError)
  deriving DecidableEq, Repr

/-- The wording of a cause. -/
def Cause.message : Cause → String
  | mistake m => m.message
  | failure f => f.message
  | fault f => f.message
  | file path e => s!"{path}: {e.message}"

/-- The kind of a cause, in one word. -/
def Cause.kind : Cause → String
  | mistake _ => "parse"
  | failure _ => "runtime"
  | fault _ => "internal"
  | file .. => "i/o"

/-- A cause and, as soon as it is known, the place. -/
structure Error where
  cause : Cause
  position : Option SourcePosition := none
  deriving DecidableEq, Repr

namespace Error

/-- An error of reading, without a place. -/
def ofMistake (m : Mistake) : Error :=
  ⟨.mistake m, none⟩

/-- An error of running, without a place. -/
def ofFailure (f : Failure) : Error :=
  ⟨.failure f, none⟩

/-- A broken promise, without a place. -/
def ofFault (f : Fault) : Error :=
  ⟨.fault f, none⟩

/-- A refused request to the file system, without a place. -/
def ofFile (path : String) (e : FileError) : Error :=
  ⟨.file path e, none⟩

/-- The error at a place, unless it has one already: the innermost place is kept. -/
def located (e : Error) (p : SourcePosition) : Error :=
  { e with position := e.position.or (some p) }

/-- The text of an error. -/
def toText (e : Error) : String :=
  let text := s!"{e.cause.kind} error: {e.cause.message}"
  e.position.elim text fun p => s!"{p.toText}: {text}"

end Error

end LineScript
