import LineScript.Function.Signature
import LineScript.Script.Template
import LineScript.Token.Scan
import LineScript.Unicode.Classes

/-! The words of the script language: its keywords, and its own classes of tokens – patterns, variable
references, buffer references and names of functions. -/
namespace LineScript.Script

/-- The words that start statements. -/
def keywords : List String :=
  ["adapt", "assert", "call", "copy", "delete", "else", "endif", "endscript", "endwhile", "exit", "if",
    "insert", "leave", "load", "log", "mark", "move", "replace", "script", "select", "stop", "store",
    "while"]

/-- The classes of tokens, in the order in which they are tried. -/
inductive SpecialClass where
  | pattern
  | variable
  | buffer
  | function
  deriving DecidableEq, Repr

/-- The body of a pattern with its closing delimiter. A backslash takes any character but a line break
along. -/
def patternBody? (delimiter : Char) : List Char → Option (List Char)
  | [] => none
  | c :: cs =>
    if c = delimiter then some [c]
    else if c = '\\' then
      match cs with
      | d :: cs => if d = '\n' then none else (patternBody? delimiter cs).map (c :: d :: ·)
      | [] => none
    else (patternBody? delimiter cs).map (c :: ·)

/-- Whether a character is a flag of a pattern. -/
def isPatternFlag (c : Char) : Bool :=
  "iLBM^$<>".toList.contains c

/-- A pattern: a letter for its kind, a delimited body and flags. -/
def patternToken? : List Char → Option (List Char)
  | k :: d :: cs =>
    if (k = 'm' ∨ k = 's' ∨ k = 'r') ∧ (d = '/' ∨ d = '|' ∨ d = '%') then
      (patternBody? d cs).map fun body =>
        k :: d :: body ++ (cs.drop body.length).takeWhile isPatternFlag
    else none
  | _ => none

/-- A reference to a variable. -/
def variableToken? (cs : List Char) : Option (List Char) :=
  (Template.reference? cs).map fun (name, _) => '$' :: '(' :: name ++ [')']

/-- Whether a word can end before this text. -/
def endsWord (cs : List Char) : Bool :=
  !cs.head?.any Unicode.isWord

/-- A selector behind the name of a buffer, with its colon. -/
def selectorText (cs : List Char) : List Char :=
  let fits (word : String) : Bool :=
    match Text.dropStart? word.toList cs with
    | some rest => endsWord rest
    | none => false
  (([":line", ":hit", ":mark", ":all"].find? fits).getD "").toList

/-- A reference to a buffer: a tilde, a name with at most one underscore in front, and perhaps a
selector. -/
def bufferToken? : List Char → Option (List Char)
  | '~' :: cs =>
    let marks := (cs.take 1).takeWhile (· == '_')
    match cs.drop marks.length with
    | c :: rest =>
      if c.isAlpha then
        let tail := rest.takeWhile Token.isWordPart
        some ('~' :: marks ++ c :: tail ++ selectorText (rest.drop tail.length))
      else none
    | [] => none
  | _ => none

/-- The name of a function, as a whole word. -/
def functionToken? (cs : List Char) : Option (List Char) :=
  Builtin.all.findSome? fun f =>
    let name := f.name.toList
    match Text.dropStart? name cs with
    | some rest => if endsWord rest then some name else none
    | none => none

/-- The recognizer of a class. -/
def SpecialClass.accept? : SpecialClass → List Char → Option (List Char)
  | .pattern => patternToken?
  | .variable => variableToken?
  | .buffer => bufferToken?
  | .function => functionToken?

/-- The classes, each at its index. -/
def specialClasses : List SpecialClass :=
  [.pattern, .variable, .buffer, .function]

/-- The lexicon of the script language. -/
def lexicon : Lexicon :=
  { Lexicon.ofKeywords keywords with classes := specialClasses.map fun k => ⟨k.accept?⟩ }

/-- The class of a token that belongs to one. -/
def classOf? (t : Token) : Option SpecialClass :=
  match t.kind with
  | .special i => specialClasses[i]?
  | _ => none

end LineScript.Script
