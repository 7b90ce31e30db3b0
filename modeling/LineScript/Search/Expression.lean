import LineScript.Glob.Pattern
import LineScript.Regex.Matcher
import LineScript.Regex.Reader

/-! Search expressions: a pattern text, how it is read, and flags that say how to search for it. -/
namespace LineScript.Search

/-- How a pattern text is read. -/
inductive Kind where
  | glob
  | literal
  | regex
  deriving DecidableEq, Repr

/-- An end of a buffer. -/
inductive BufferEnd where
  | first
  | last
  deriving DecidableEq, Repr

/-- How a search goes on. -/
structure Flags where
  ignoreCase : Bool := false
  /-- Only at the start of a line. -/
  lineStart : Bool := false
  /-- Only at the end of a line. -/
  lineEnd : Bool := false
  backwards : Bool := false
  /-- Only in the line of the cursor. -/
  inLine : Bool := false
  /-- Where to start, if not at the cursor. -/
  startAt : Option BufferEnd := none
  deriving DecidableEq, Repr

/-- Why a search expression is refused. -/
inductive Refusal where
  | unknownFlag (flag : Char)
  | malformed (pattern : String)
  | tooLarge (pattern : String)
  deriving DecidableEq, Repr

/-- The wording of a refusal. -/
def Refusal.message : Refusal → String
  | unknownFlag flag => s!"unknown pattern flag '{flag}'"
  | malformed pattern => s!"invalid pattern '{pattern}': regex parse error"
  | tooLarge pattern =>
    s!"invalid pattern '{pattern}': Compiled regex exceeds size limit of {Regex.sizeLimit} bytes."

/-- What finds matches in a text: the leftmost match that starts at or behind a byte offset. -/
structure Matcher where
  find? : String → Nat → Option Regex.Match

/-- Whether there is a match anywhere in a text. -/
def Matcher.matches (m : Matcher) (text : String) : Bool :=
  (m.find? text 0).isSome

/-- A search expression that is ready for use. -/
structure Expression where
  pattern : String := ""
  kind : Kind
  flags : Flags := {}
  machine : Regex.Node := Regex.Syntax.empty.machine
  groupCount : Nat := 1
  deriving DecidableEq, Repr

/-- Reads a flag text from the left. The second flag says that the pattern is a regular expression
whatever its kind. An unknown flag ends the reading, with the flags before it in force. -/
def Flags.read (f : Flags) (isRegex : Bool) : List Char → Flags × Except Refusal Bool
  | [] => (f, .ok isRegex)
  | c :: cs =>
    match c with
    | 'i' => Flags.read { f with ignoreCase := true } isRegex cs
    | 'B' => Flags.read { f with backwards := true } isRegex cs
    | 'L' => Flags.read { f with inLine := true } isRegex cs
    | 'M' => Flags.read f true cs
    | '^' => Flags.read { f with lineStart := true } isRegex cs
    | '$' => Flags.read { f with lineEnd := true } isRegex cs
    | '<' => Flags.read { f with startAt := some .first } isRegex cs
    | '>' => Flags.read { f with startAt := some .last } isRegex cs
    | c => (f, .error (.unknownFlag c))

/-- A text without a leading caret, and whether there was one. -/
def stripCaret : List Char → Bool × List Char
  | '^' :: cs => (true, cs)
  | cs => (false, cs)

/-- A text without a trailing dollar sign, and whether there was one. -/
def stripDollar (cs : List Char) : Bool × List Char :=
  if cs.getLast? = some '$' then (true, cs.dropLast) else (false, cs)

/-- The regular expression for a pattern. Outside regular expressions a caret in front and a dollar
sign at the end tie the match to the ends of the line, as the flags do. -/
def source (kind : Kind) (isRegex : Bool) (f : Flags) (pattern : List Char) : List Char :=
  let plain := kind == .regex || isRegex
  let (caret, body) := if plain then (false, pattern) else stripCaret pattern
  let (dollar, body) := if plain then (false, body) else stripDollar body
  let text :=
    if plain then body
    else
      match kind with
      | .glob => Glob.toRegex body
      | _ => Regex.escaped body
  let atStart := f.lineStart || caret
  let atEnd := f.lineEnd || dollar
  if atStart || atEnd then
    (if atStart then ['^'] else []) ++ "(?:".toList ++ text ++ [')'] ++
      (if atEnd then ['$'] else [])
  else text

/-- The machine for a regular expression, and its number of groups. -/
def compile (pattern : String) (ignoreCase : Bool) (source : List Char) :
    Except Refusal (Regex.Node × Nat) :=
  match Regex.read? ignoreCase source with
  | none => .error (.malformed pattern)
  | some r =>
    if r.isTooLarge then .error (.tooLarge pattern) else .ok (r.machine, r.groupCount)

namespace Expression

/-- Takes over a new pattern. The flags change even if the pattern is refused; all else stays then. -/
def set (x : Expression) (pattern : String) (kind : Kind) (flags : String) :
    Expression × Option Refusal :=
  let (f, read) := Flags.read {} false flags.toList
  let x := { x with flags := f }
  match read with
  | .error e => (x, some e)
  | .ok isRegex =>
    match compile pattern f.ignoreCase (source kind isRegex f pattern.toList) with
    | .error e => (x, some e)
    | .ok (machine, groupCount) => ({ x with pattern, kind, machine, groupCount }, none)

/-- The expression of a pattern, its kind and its flags. -/
def new (pattern : String) (kind : Kind) (flags : String) : Except Refusal Expression :=
  match set { kind } pattern kind flags with
  | (x, none) => .ok x
  | (_, some e) => .error e

/-- Whether replacements may refer to groups. -/
def hasGroups (x : Expression) : Bool :=
  x.kind != .literal

/-- The expression as a matcher. -/
def matcher (x : Expression) : Matcher where
  find? text start :=
    if Text.length text < start then none
    else Regex.search? x.machine x.groupCount text.toList start

end Expression

end LineScript.Search
