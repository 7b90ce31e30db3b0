import LineScript.Script.Value

/-! Reading statements. -/
namespace LineScript

/-- Whether a name is shared by all scripts: it starts with an underscore. -/
def isGlobalName (name : String) : Bool :=
  name.toList.head? == some '_'

/-- Whether a name belongs to a variable that the system sets: it starts with two underscores. -/
def isIntrinsicName (name : String) : Bool :=
  name.toList.take 2 == ['_', '_']

namespace Script

open Reading

/-- The comparison operators. -/
def comparisons : List String :=
  ["==", "!=", "<", "<=", ">", ">="]

/-- A test: perhaps a negation, then whether there was a hit, a search, or a value that may be compared
with another. -/
def test : Reading Test := do
  let negated ← acceptWord "not"
  if ← acceptWord "found" then return ⟨negated, .found⟩
  if ← acceptWord "search" then return ⟨negated, .search (← expectPattern)⟩
  let left ← expectValue comparisons "a condition"
  let t ← peek
  match if t.kind == .operator then Comparison.ofOperator? t.text else none with
  | some op =>
    discard next
    return ⟨negated, .compare left op (← expectValue [] "a value to compare with")⟩
  | none => return ⟨negated, .truthy left⟩

/-- A part of the selected buffer. -/
def range : Reading Range := do
  let t ← next
  match t.kind, t.text with
  | .identifier, "all" => return .all
  | .identifier, "line" => return .line
  | .identifier, "lines" => return .lines (← operand)
  | .keyword _, "mark" => return .mark
  | .identifier, "hit" => return .hit
  | _, text => refuse (.expectedRange text)

/-- Where the cursor is to go. -/
def moveTarget : Reading MoveTarget := do
  if let some p ← acceptPattern then return .pattern p
  if ← acceptWord "line" then
    let line ← operand
    return .line line (← acceptOperand)
  if ← acceptWord "by" then return .by (← operand)
  if ← acceptWord "mark" then return .mark
  let t ← next
  match t.kind, t.text with
  | .operator, "<" => return .bufferStart
  | .operator, ">" => return .bufferEnd
  | .operator, "^" => return .lineStart
  | .operator, "$" => return .lineEnd
  | _, text => refuse (.expectedMoveTarget text)

/-- What stands before a comment. A number sign starts a comment at the start of a word only, and
quoted text is passed over; `quote` is the quote that is open. -/
def beforeComment? (quote : Option Char) (escaped wordStart : Bool) :
    List Char → Option (List Char)
  | [] => none
  | c :: cs =>
    let go (quote : Option Char) (escaped : Bool) : Option (List Char) :=
      (beforeComment? quote escaped (Text.isBlank c) cs).map (c :: ·)
    if escaped then go quote false
    else if c = '\\' then go quote true
    else
      match quote with
      | some q => go (if c = q then none else some q) false
      | none =>
        if wordStart && (c == '"' || c == '\'') then go (some c) false
        else if wordStart && c == '#' then some []
        else go none false

/-- A text without the comment at its end. -/
def stripComment (cs : List Char) : List Char :=
  (beforeComment? none false true cs).elim cs Text.trimRight

/-- The parameters of a called script, by name. The number bounds how many there are. -/
def pairs : Nat → Reading (List (String × Value))
  | 0 => throw (.ofFault .tooDeep)
  | fuel + 1 => do
    if ← atEnd then return []
    let name ← expectIdentifier "a parameter name"
    expectOperator "="
    let v ← expectFragment "a parameter value"
    return (name, v) :: (← pairs fuel)

/-- The words behind a file name that say how it is written. -/
def storeOptions : Nat → Bool → Bool → Reading (Bool × Bool)
  | 0, _, _ => throw (.ofFault .tooDeep)
  | fuel + 1, append, force => do
    if ← acceptWord "append" then storeOptions fuel true force
    else if ← acceptWord "force" then storeOptions fuel append true
    else return (append, force)

/-- The clauses behind a replacement, each at most once and in any order. -/
def replaceClauses : Nat → Option Operand → Option Pattern → Option Range →
    Reading (Option Operand × Option Pattern × Option Range)
  | 0, _, _, _ => throw (.ofFault .tooDeep)
  | fuel + 1, count, filter, part => do
    let wanted (free : Bool) (word : String) : Reading Bool :=
      if free then acceptWord word else return false
    if ← wanted count.isNone "count" then replaceClauses fuel (some (← operand)) filter part
    else if ← wanted filter.isNone "filter" then
      replaceClauses fuel count (some (← expectPattern)) part
    else if ← wanted part.isNone "in" then replaceClauses fuel count filter (some (← range))
    else return (count, filter, part)

/-- A whole number of levels. -/
def levels? (text : String) : Option Nat :=
  let cs := text.toList
  if cs.all Char.isDigit then
    let n := Number.digitsValue 0 cs
    if n < Number.twoTo 64 then some n else none
  else none

/-- Refuses a `leave` out of no block, or out of more blocks than are open. -/
def levelsWithin (depth levels : Nat) : Reading Unit := do
  if levels = 0 ∨ depth < levels then throw (.ofMistake (.tooManyLevels levels depth))

/-- The levels of a `leave`, if they are allowed. -/
def leaveLevels (allow : Nat → Reading Unit) : Reading Nat := do
  let n ← match (← peek).kind with
    | .number => do
      let t ← next
      match levels? t.text with
      | some n => pure n
      | none => refuse .levelsNotWhole
    | _ => pure 1
  allow n
  return n

/-- An assignment to a buffer, whose reference has been taken. -/
def assignBuffer (b : BufferRef) : Reading Statement := do
  if b.selector != .all then refuse .selectorAssigned
  expectOperator "="
  let append ← acceptWord "append"
  return .assignBuffer b.name append (← value [])

/-- An assignment to a variable, whose name has been taken. -/
def assign (name : String) : Reading Statement := do
  let numeric ← acceptOperator ":="
  if !numeric then
    if !(← acceptOperator "=") then refuseAt (← peek) (.unknownStatement name)
  if isIntrinsicName name then throw (.ofMistake (.readOnly name))
  if numeric then return .assignNumeric name (← numExpr)
  let append ← acceptWord "append"
  return .assign name append (← value [])

/-- What follows a keyword; the levels of a `leave` have to be allowed. -/
def keywordStatement (allow : Nat → Reading Unit) (word : String) : Reading Statement := do
  let fuel := lineFuel (← get)
  match word with
  | "adapt" =>
    let pattern ← expectPattern
    let replacement ← value ["anchor"]
    if ← acceptWord "anchor" then
      let anchor ← expectPattern
      return .adapt pattern replacement (some anchor) (← acceptWord "above")
    return .adapt pattern replacement none false
  | "assert" => return .assert (← test)
  | "call" =>
    let script ← expectFragment "a script name"
    match ← acceptBuffer with
    | some b => return .call script (.buffer b.name)
    | none =>
      let ps ← pairs fuel
      return .call script (if ps.isEmpty then .none else .pairs ps)
  | "copy" =>
    let part ← range
    let target ← expectBufferName
    return .copy part target (← acceptWord "append")
  | "delete" => return .delete (← range)
  | "if" => return .ifTest (← test)
  | "else" => return .elseWord
  | "endif" => return .endIf
  | "while" => return .whileTest (← test)
  | "endwhile" => return .endWhile
  | "leave" =>
    let levels ← leaveLevels allow
    if ← acceptWord "if" then return .leave levels (some (← test))
    return .leave levels none
  | "script" => return .script (← expectIdentifier "a script name")
  | "endscript" => return .endScript
  | "exit" =>
    let abort ← acceptWord "global"
    return .exit abort (← acceptOperand)
  | "stop" => return .stop (← acceptOperand)
  | "insert" =>
    let wholeLines ← acceptWord "line"
    return .insert wholeLines (← expectValue [] "text to insert")
  | "load" =>
    let buffer := (← acceptBuffer).map (·.name)
    return .load buffer (← expectValue [] "a file name")
  | "store" =>
    let buffer := (← acceptBuffer).map (·.name)
    let file ← value ["append", "force"]
    let (append, force) ← storeOptions fuel false false
    return .store buffer (if file.isEmpty then none else some file) append force
  | "log" =>
    let raw ← restOfLine
    match Template.ofText false (stripComment raw.toList) with
    | .ok template => return .log template
    | .error e => throw (.ofMistake (.escape e))
  | "mark" => return .mark
  | "move" => return .move (← moveTarget)
  | "replace" =>
    let pattern ← expectPattern
    let replacement ← value ["count", "filter", "in"]
    let (count, filter, part) ← replaceClauses fuel none none none
    return .replace pattern replacement count filter part
  | "select" =>
    if ← acceptWord "push" then return .select (.push (← expectBufferName))
    if ← acceptWord "pop" then return .select .pop
    return .select (.set (← expectBufferName))
  | word => throw (.ofFault (.unreadKeyword word))

/-- A statement up to, but not including, its end; the levels of a `leave` have to be allowed. -/
def statement (allow : Nat → Reading Unit) : Reading Statement := do
  let t ← next
  match classOf? t, t.kind with
  | some .buffer, _ => assignBuffer (bufferRef t)
  | none, .identifier => assign t.text
  | none, .keyword _ => keywordStatement allow t.text
  | _, _ => throw (.ofMistake (.unexpected (some t.text)))

end Script

end LineScript
