import LineScript.Token.Scan

/-! A line as a stream of tokens. Looking ahead keeps the next token aside; taking it hands out the
token that is kept. -/
namespace LineScript

/-- A line of a script while its tokens are taken. -/
structure TokenStream where
  lexicon : Lexicon
  script : String := ""
  line : Nat := 0
  text : String := ""
  /-- Bytes taken. -/
  offset : Nat := 0
  /-- The last token taken. -/
  token : Token := .endAt 0
  /-- The next token, if it has been looked at. -/
  pending : Option Token := none

/-- Reading from a stream. A failure keeps what was taken before it. -/
abbrev Reading := ExceptT Error (StateM TokenStream)

namespace TokenStream

/-- The same lexicon on another line. -/
def onLine (s : TokenStream) (script : String) (line : Nat) (text : String) : TokenStream :=
  { lexicon := s.lexicon, script, line, text }

/-- The text that is not taken. -/
def rest (s : TokenStream) : List Char :=
  Text.drop s.text.toList s.offset

/-- The place of a byte offset. -/
def positionAt (s : TokenStream) (offset : Nat) : SourcePosition :=
  ⟨s.script, s.line, (Text.take s.text.toList offset).length + 1⟩

/-- The place of the last token taken. -/
def position (s : TokenStream) : SourcePosition :=
  s.positionAt s.token.column

/-- The token at the current offset. -/
def scan (s : TokenStream) (special : Bool) : Except Error Token :=
  match s.lexicon.scan special s.offset s.rest with
  | .ok t => .ok t
  | .error (column, e) => .error ((Error.ofMistake (.escape e)).located (s.positionAt column))

end TokenStream

namespace Reading

/-- Takes the next token; `special` says whether the classes of the lexicon are tried for one that has
not been looked at. -/
def take (special : Bool) : Reading Token := do
  let s ← get
  let t ← match s.pending with
    | some t => pure t
    | none => (s.scan special : Except Error Token)
  set { s with token := t, offset := t.stop, pending := none }
  return t

/-- Takes the next token. -/
def next : Reading Token :=
  take true

/-- The next token, which stays. -/
def peek : Reading Token := do
  let s ← get
  match s.pending with
  | some t => return t
  | none =>
    let t ← (s.scan true : Except Error Token)
    set { s with pending := some t }
    return t

/-- Takes the rest of the line, without white space at its ends. -/
def restOfLine : Reading String := do
  let s ← get
  let start := s.pending.elim s.offset (·.column)
  let stop := Text.length s.text
  set { s with token := .endAt stop, offset := stop, pending := none }
  return Text.trimmed (Text.after s.text start)

/-- Fails at the last token taken. -/
def refuse {α : Type} (m : Mistake) : Reading α := do
  throw ((Error.ofMistake m).located (← get).position)

/-- Fails at a token. -/
def refuseAt {α : Type} (t : Token) (m : Mistake) : Reading α := do
  throw ((Error.ofMistake m).located ((← get).positionAt t.column))

/-- Whether the statement ends here. -/
def atEnd : Reading Bool :=
  return (← peek).isEnd

/-- Takes a word if it is the next token. -/
def acceptWord (word : String) : Reading Bool := do
  let t ← peek
  let fits := t.isWord && t.text == word
  if fits then discard next
  return fits

/-- Takes an operator if it is the next token. -/
def acceptOperator (op : String) : Reading Bool := do
  let fits := (← peek).isOperator op
  if fits then discard next
  return fits

/-- Takes an operator, which has to come next. -/
def expectOperator (op : String) : Reading Unit := do
  let t ← next
  if !t.isOperator op then refuse (.expectedOperator op t.found)

/-- Takes the end of the statement, which has to come next. -/
def expectEnd : Reading Unit := do
  let t ← next
  if !t.isEnd then refuse (.unexpected t.found)

/-- Takes a word that is no keyword, which has to come next. -/
def expectIdentifier (what : String) : Reading String := do
  let t ← next
  if t.kind == .identifier then return t.text else refuse (.expected what t.found)

end Reading

end LineScript
