import LineScript.Number.Decimal
import LineScript.Script.Classes
import LineScript.Script.Tree
import LineScript.Token.Stream

/-! Reading values, patterns, calls and numbers from the tokens of a line. -/
namespace LineScript.Script

open Reading

/-- The stream of a line of a script. -/
def lineStream (script : String) (line : Nat) (text : String) : TokenStream :=
  { lexicon, script, line, text }

/-- The variable that a reference names. -/
def variableName (t : Token) : String :=
  String.ofList ((t.text.toList.drop 2).dropLast)

/-- The buffer and the selector that a reference names. -/
def bufferRef (t : Token) : BufferRef :=
  let cs := t.text.toList.drop 1
  let name := String.ofList (cs.takeWhile (· != ':'))
  let selector : Selector :=
    match String.ofList (cs.dropWhile (· != ':')) with
    | ":line" => .line
    | ":hit" => .hit
    | ":mark" => .mark
    | _ => .all
  ⟨name, selector⟩

/-- Takes a reference to a buffer, which has to come next. -/
def expectBuffer : Reading BufferRef := do
  let t ← next
  if classOf? t == some .buffer then return bufferRef t
  else refuse (.expected "a buffer" t.found)

/-- Takes a reference to a buffer if it is the next token. -/
def acceptBuffer : Reading (Option BufferRef) := do
  let t ← peek
  if classOf? t == some .buffer then
    discard next
    return some (bufferRef t)
  return none

/-- Takes the name of a buffer without a selector, which has to come next. -/
def expectBufferName : Reading String := do
  let b ← expectBuffer
  if b.selector == .all then return b.name else refuse .selectorNotAllowed

/-- The kind that the first letter of a pattern stands for. -/
def kindOf? : Char → Option Search.Kind
  | 'm' => some .glob
  | 's' => some .literal
  | 'r' => some .regex
  | _ => none

/-- The body of a pattern before its closing delimiter, and the flags behind it. -/
def splitBody (delimiter : Char) (escaped : Bool) : List Char → List Char × List Char
  | [] => ([], [])
  | c :: cs =>
    let keep (escaped : Bool) : List Char × List Char :=
      let (body, flags) := splitBody delimiter escaped cs
      (c :: body, flags)
    if escaped then keep false
    else if c = '\\' then keep true
    else if c = delimiter then ([], cs)
    else keep false

/-- A body with the backslash taken from every delimiter that has one in front. -/
def unescapeDelimiter (delimiter : Char) : List Char → List Char
  | [] => []
  | [c] => [c]
  | c :: d :: cs =>
    if c = '\\' ∧ d = delimiter then delimiter :: unescapeDelimiter delimiter cs
    else c :: unescapeDelimiter delimiter (d :: cs)

/-- The pattern that a token writes down. In a regular expression between bars an escaped bar stays
escaped, since the bar is an operator there. A body with references is compiled when it runs, but its
flags are looked at now. -/
def patternOf (t : Token) : Reading Pattern := do
  match t.text.toList with
  | k :: delimiter :: cs =>
    match kindOf? k with
    | none => throw (.ofFault .malformedPattern)
    | some kind =>
      let (raw, flags) := splitBody delimiter false cs
      let flags := String.ofList flags
      let raw := if kind == .regex && delimiter == '|' then raw else unescapeDelimiter delimiter raw
      let body ← match Template.ofText false raw with
        | .ok body => pure body
        | .error e => refuseAt t (.escape e)
      match Template.asLiteral? body with
      | some text =>
        match Search.Expression.new text kind flags with
        | .ok x => return { kind, body, flags, compiled := some x }
        | .error r => refuseAt t (.pattern r)
      | none =>
        match Search.Expression.new "" kind flags with
        | .ok _ => return { kind, body, flags }
        | .error r => refuseAt t (.pattern r)
  | _ => throw (.ofFault .malformedPattern)

/-- Takes a pattern, which has to come next. -/
def expectPattern : Reading Pattern := do
  let t ← next
  if classOf? t == some .pattern then patternOf t else refuse (.expected "a pattern" t.found)

/-- Takes a pattern if it is the next token. -/
def acceptPattern : Reading (Option Pattern) := do
  let t ← peek
  if classOf? t == some .pattern then
    discard next
    return some (← patternOf t)
  return none

/-- Whether a value ends before a token: at the end of the statement, or at a word or an operator that
is listed. -/
def stopsValue (stops : List String) (t : Token) : Bool :=
  match t.kind with
  | .endOfInput | .comment => true
  | .identifier | .keyword _ | .operator => stops.contains t.text
  | _ => false

/-- The text between the end of the last fragment and the next token, as a fragment if there is any. -/
def gap (text : String) (last : Option Nat) (t : Token) : Value :=
  match last with
  | none => []
  | some stop =>
    let between := Text.between text stop t.column
    if between.isEmpty then [] else [.text (.literal between)]

/-- Whether an argument may stand for a parameter. -/
def fitsParameter : Parameter → Argument → Bool
  | .buffer, .buffer _ => true
  | .buffer, _ => false
  | .text, .pattern _ => false
  | _, _ => true

/-- The first argument that does not fit its parameter, counted from one. -/
def misfit? : Nat → List Parameter → List Argument → Option Nat
  | index, p :: ps, a :: as => if fitsParameter p a then misfit? (index + 1) ps as else some index
  | _, _, _ => none

/-- What is wrong with the arguments of a call, if anything is. -/
def callMistake? (f : Builtin) (args : List Argument) : Option Mistake :=
  let s := f.signature
  if args.length < s.required then some (.tooFewArguments s.name s.required)
  else if s.parameters.length < args.length then
    some (.tooManyArguments s.name s.parameters.length)
  else (misfit? 1 s.parameters args).map (.wrongArgumentKind s.name)

mutual

/-- The fragments up to a stop, with the texts between them; `last` is where the last one ended. The
number bounds the nesting and the length of the value. -/
def fragments (stops : List String) : Nat → Option Nat → Reading Value
  | 0, _ => throw (.ofFault .tooDeep)
  | fuel + 1, last => do
    let t ← peek
    if stopsValue stops t then return []
    let between := gap (← get).text last t
    discard next
    let f ← fragment fuel t
    let rest ← fragments stops fuel (some (← get).offset)
    return between ++ f :: rest

/-- The fragment of a token that has just been taken. -/
def fragment : Nat → Token → Reading Fragment
  | 0, _ => throw (.ofFault .tooDeep)
  | fuel + 1, t =>
    match classOf? t with
    | some .variable => return .variable (variableName t)
    | some .buffer => return .buffer (bufferRef t)
    | some .function => do
      let (f, args) ← call fuel t
      return .call f args
    | some .pattern => refuseAt t .patternAsValue
    | none =>
      match t.kind with
      | .string value =>
        if t.text.toList.head? = some '"' then do
          match Template.ofText true (t.text.toList.drop 1).dropLast with
          | .ok template => return .text template
          | .error e => refuseAt t (.escape e)
        else return .text (.literal value)
      | _ => return .text (.literal t.text)

/-- The call of the function whose name has just been taken. -/
def call : Nat → Token → Reading (Builtin × List Argument)
  | 0, _ => throw (.ofFault .tooDeep)
  | fuel + 1, t =>
    match Builtin.ofName? t.text with
    | none => throw (.ofFault (.unknownFunction t.text))
    | some f => do
      expectOperator "("
      let args ← if ← acceptOperator ")" then pure [] else arguments fuel t f f.signature.parameters
      match callMistake? f args with
      | some m => refuseAt t m
      | none => return (f, args)

/-- The arguments for some parameters, up to the closing parenthesis, which is taken. -/
def arguments : Nat → Token → Builtin → List Parameter → Reading (List Argument)
  | 0, _, _, _ => throw (.ofFault .tooDeep)
  | _ + 1, t, f, [] => refuseAt t (.tooManyArguments f.name f.signature.parameters.length)
  | fuel + 1, t, f, p :: ps => do
    let text : Reading Argument := do
      let v ← fragments [",", ")"] fuel none
      if v.isEmpty then
        let t ← peek
        refuseAt t (.expected "an argument" t.found)
      return .value v
    let a ← match p with
      | .buffer => do
        let name ← expectBufferName
        pure (.buffer name)
      | .pattern => do
        match ← acceptPattern with
        | some p => pure (.pattern p)
        | none => text
      | .text => text
    if ← acceptOperator ")" then return [a]
    expectOperator ","
    return a :: (← arguments fuel t f ps)

end

/-- A bound for the nesting and the length of what a line holds. Every level of reading takes a token,
and no token is read at more than four levels. -/
def lineFuel (s : TokenStream) : Nat :=
  4 * (Text.length s.text + 2)

/-- The fragments up to a listed word or operator or the end of the statement. White space between
fragments is kept. -/
def value (stops : List String) : Reading Value := do
  fragments stops (lineFuel (← get)) none

/-- A value with at least one fragment. -/
def expectValue (stops : List String) (what : String) : Reading Value := do
  let v ← value stops
  if v.isEmpty then
    let t ← peek
    refuseAt t (.expected what t.found)
  return v

/-- A value of exactly one fragment. -/
def expectFragment (what : String) : Reading Value := do
  let t ← next
  if t.isEnd then refuse (.expected what t.found)
  return [← fragment (lineFuel (← get)) t]

/-- A number, perhaps with a minus sign, a variable or a call that returns a number. -/
def operand : Reading Operand := do
  let negative ← acceptOperator "-"
  let t ← next
  if t.kind == .number then
    let x := (Number.ofText? t.text.toList).getD .nan
    return .number (if negative then x.neg else x)
  if negative then refuse .minusWithoutNumber
  match classOf? t with
  | some .variable => return .variable (variableName t)
  | some .function =>
    let (f, args) ← call (lineFuel (← get)) t
    if f.signature.numeric then return .call f args else refuseAt t (.notNumeric f.name)
  | some _ => refuse (.expected "a number" t.found)
  | none => if t.kind == .identifier then return .variable t.text else refuse (.expected "a number" t.found)

/-- An operand, unless the statement ends here. -/
def acceptOperand : Reading (Option Operand) := do
  if ← atEnd then return none
  return some (← operand)

/-- An operand, perhaps behind a minus sign. -/
def term : Reading Term := do
  let negative ← acceptOperator "-"
  return ⟨negative, ← operand⟩

/-- The operation that an operator stands for. -/
def arithOp? (t : Token) : Option ArithOp :=
  if t.kind == .operator then
    match t.text with
    | "+" => some .add
    | "-" => some .sub
    | "*" => some .mul
    | "/" => some .div
    | _ => none
  else none

/-- The operations behind a term. They are all additive or all multiplicative, as `additive` says once
there is one. The number bounds how many there are. -/
def terms : Nat → Option Bool → Reading (List (ArithOp × Term))
  | 0, _ => throw (.ofFault .tooDeep)
  | fuel + 1, additive => do
    match arithOp? (← peek) with
    | none => return []
    | some op =>
      discard next
      if additive.any (· != op.isAdditive) then refuse .mixedOperators
      let t ← term
      return (op, t) :: (← terms fuel (additive.or (some op.isAdditive)))

/-- Terms with operations between them. -/
def numExpr : Reading NumExpr := do
  let first ← term
  return ⟨first, ← terms (lineFuel (← get)) none⟩

end LineScript.Script
