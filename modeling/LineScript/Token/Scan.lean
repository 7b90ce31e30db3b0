import LineScript.Text.Bytes
import LineScript.Text.Pieces
import LineScript.Token.Escape

/-! Tokens, and how the next one is cut from a text. White space separates tokens. The classes of a
lexicon are tried first, in their order; then the first character decides. -/
namespace LineScript

/-- What a token is. -/
inductive TokenKind where
  | number
  | identifier
  /-- A word of the keyword list, with its index there. -/
  | keyword (index : Nat)
  | operator
  /-- A quoted string with its value. -/
  | string (value : String)
  | comment
  | endOfInput
  /-- A single character that starts no other token. -/
  | unknown
  /-- A member of a class of the lexicon, with the index of the class. -/
  | special (index : Nat)
  deriving DecidableEq, Repr

/-- A token with its text and the byte offset at which it starts. -/
structure Token where
  text : String
  kind : TokenKind
  column : Nat
  deriving DecidableEq, Repr

namespace Token

/-- The token at the end of a text. -/
def endAt (column : Nat) : Token :=
  ⟨"", .endOfInput, column⟩

/-- The byte offset behind a token. -/
def stop (t : Token) : Nat :=
  t.column + Text.length t.text

/-- Whether a statement ends here: at the end of the text or at a comment. -/
def isEnd (t : Token) : Bool :=
  match t.kind with
  | .endOfInput | .comment => true
  | _ => false

/-- Whether a token is this operator. -/
def isOperator (t : Token) (op : String) : Bool :=
  t.kind == .operator && t.text == op

/-- Whether a token is a word, keywords included. -/
def isWord (t : Token) : Bool :=
  match t.kind with
  | .identifier | .keyword _ => true
  | _ => false

/-- Whether a token is a keyword. -/
def isKeyword (t : Token) : Bool :=
  match t.kind with
  | .keyword _ => true
  | _ => false

/-- The token as messages name it. -/
def found (t : Token) : Option String :=
  if t.isEnd then none else some t.text

/-- The operators; a longer one comes before those it starts with. -/
def operators : List (List Char) :=
  [":=", "==", "!=", "<=", ">=", "<", ">", "=", "+", "-", "*", "/", "(", ")", ",", "^", "$", ":"].map
    String.toList

/-- Whether a character may start a word. -/
def isWordStart (c : Char) : Bool :=
  c.isAlpha || c == '_'

/-- Whether a character may go on with a word. -/
def isWordPart (c : Char) : Bool :=
  c.isAlphanum || c == '_'

/-- The number at the start of a text: digits, and behind a point more digits if there are any. -/
def numberText (cs : List Char) : List Char :=
  let whole := cs.takeWhile Char.isDigit
  match cs.dropWhile Char.isDigit with
  | '.' :: rest =>
    let fraction := rest.takeWhile Char.isDigit
    if fraction.isEmpty then whole else whole ++ '.' :: fraction
  | _ => whole

end Token

/-- A class of tokens: the prefix of a text that belongs to it, if there is one. -/
structure TokenClass where
  accept? : List Char → Option (List Char)

/-- The keywords in ascending order, and the classes that are tried before everything else. -/
structure Lexicon where
  keywords : List String := []
  classes : List TokenClass := []

namespace Lexicon

/-- A lexicon with some keywords, in any order. -/
def ofKeywords (words : List String) : Lexicon :=
  { keywords := (words.mergeSort (fun a b => !decide (b < a))).eraseDups }

/-- The index of a keyword. -/
def keywordIndex? (x : Lexicon) (word : String) : Option Nat :=
  x.keywords.idxOf? word

/-- The first class from `index` on with a member in front of a text. -/
def classToken? (cs : List Char) (index : Nat) : List TokenClass → Option (Nat × List Char)
  | [] => none
  | k :: ks =>
    match k.accept? cs with
    | some (c :: text) => some (index, c :: text)
    | _ => classToken? cs (index + 1) ks

/-- The kind and the text of the token in front of a text, by its first character. -/
def plainToken (x : Lexicon) (c : Char) (cs : List Char) :
    Except EscapeError (TokenKind × List Char) :=
  if c = '#' then .ok (.comment, c :: cs)
  else if c = '"' ∨ c = '\'' then
    match Token.quoted c (cs.length + 1) cs with
    | .error e => .error e
    | .ok (value, rest) =>
      .ok (.string (String.ofList value), c :: cs.take (cs.length - rest.length))
  else if c.isDigit then .ok (.number, Token.numberText (c :: cs))
  else if Token.isWordStart c then
    let word := c :: cs.takeWhile Token.isWordPart
    match x.keywordIndex? (String.ofList word) with
    | some i => .ok (.keyword i, word)
    | none => .ok (.identifier, word)
  else
    match Token.operators.find? fun op => (Text.dropStart? op (c :: cs)).isSome with
    | some op => .ok (.operator, op)
    | none => .ok (.unknown, [c])

/-- The token at a byte offset, given the text from there on; `special` says whether the classes are
tried. A refusal comes with the offset of its string. -/
def scan (x : Lexicon) (special : Bool) (offset : Nat) (rest : List Char) :
    Except (Nat × EscapeError) Token :=
  let column := offset + Text.size (rest.takeWhile Text.isBlank)
  match rest.dropWhile Text.isBlank with
  | [] => .ok (.endAt column)
  | c :: cs =>
    match if special then classToken? (c :: cs) 0 x.classes else none with
    | some (index, text) => .ok ⟨String.ofList text, .special index, column⟩
    | none =>
      match x.plainToken c cs with
      | .ok (kind, text) => .ok ⟨String.ofList text, kind, column⟩
      | .error e => .error (column, e)

end Lexicon

end LineScript
