import LineScript.Number.Power
import LineScript.Regex.Syntax
import LineScript.Text.Pieces

/-! Reading regular expressions from text. A text that is no regular expression reads as `none`. -/
namespace LineScript.Regex

/-- The flags in force at a place of the text. -/
structure Flags where
  ignoreCase : Bool := false
  multiLine : Bool := false
  dotAll : Bool := false
  swapGreed : Bool := false
  crlf : Bool := false
  ignoreBlank : Bool := false
  unicode : Bool := true
  deriving DecidableEq, Repr

/-- What is still to be read, and what has been seen. -/
structure ReadState where
  rest : List Char
  flags : Flags
  groups : Nat := 0
  names : List (List Char) := []

/-- A reading step, which fails on malformed text. -/
abbrev Reader := StateT ReadState Option

/-- Depth that a regular expression may not exceed. -/
def maxDepth : Nat := 250

/-- Drops white space and comments; the flag tells whether the text starts inside a comment. -/
def dropIgnored : Bool → List Char → List Char
  | _, [] => []
  | true, c :: cs => dropIgnored (c != '\n') cs
  | false, c :: cs =>
    if Text.isBlank c then dropIgnored false cs
    else if c = '#' then dropIgnored true cs
    else c :: cs

/-- The next character that is neither white space nor opens a comment, or else the very next one. -/
def headIgnoring (first : Option Char) : Bool → List Char → Option Char
  | _, [] => first
  | inComment, c :: cs =>
    if Text.isBlank c then headIgnoring first inComment cs
    else if c = '#' && !inComment then headIgnoring first true cs
    else some c

namespace Reader

/-- The text that is left. -/
def rest : Reader (List Char) :=
  return (← get).rest

/-- Goes on with another text. -/
def setRest (cs : List Char) : Reader Unit :=
  modify fun s => { s with rest := cs }

/-- Passes white space and comments, if they are ignored. -/
def skip : Reader Unit :=
  modify fun s => if s.flags.ignoreBlank then { s with rest := dropIgnored false s.rest } else s

/-- Passes one character. -/
def bump : Reader Unit :=
  modify fun s => { s with rest := s.rest.tail }

/-- Passes one character and what is ignored behind it; something must follow. -/
def bumpOn : Reader Unit := do
  bump
  skip
  if (← rest).isEmpty then failure

/-- Passes one character and what is ignored behind it. -/
def bumpSkip : Reader Unit := do
  bump
  skip

/-- The flags in force. -/
def flags : Reader Flags :=
  return (← get).flags

end Reader

open Reader

/-- What one character or escape of the text means, before the flags are applied. -/
inductive Atom where
  | char (c : Char) (hexByte : Bool)
  | shorthand (unicode ascii : CharSet) (negated : Bool)
  | property (s : CharSet) (negated : Bool)
  | dot
  | look (l : Look)

/-- The value of a hexadecimal number of at most eight digits. -/
def hexValue? (cs : List Char) : Option Nat :=
  cs.foldlM (fun n c =>
    if c.isDigit then some (16 * n + (c.toNat - '0'.toNat))
    else if 'a' ≤ c && c ≤ 'f' then some (16 * n + (c.toNat - 'a'.toNat + 10))
    else if 'A' ≤ c && c ≤ 'F' then some (16 * n + (c.toNat - 'A'.toNat + 10))
    else none) 0

/-- The character of a code point, unless it is a surrogate or too large. -/
def scalar? (n : Nat) : Option Char :=
  if n < 0xD800 ∨ (0xE000 ≤ n ∧ n < 0x110000) then some (Char.ofNat n) else none

/-- Whether a character is a hexadecimal digit. -/
def isHex (c : Char) : Bool :=
  c.isDigit || ('a' ≤ c && c ≤ 'f') || ('A' ≤ c && c ≤ 'F')

/-- Hexadecimal digits up to a closing brace, which is passed. -/
def bracedHex : Nat → List Char → Reader (List Char)
  | 0, _ => failure
  | fuel + 1, seen => do
    bumpOn
    match ← rest with
    | [] => failure
    | c :: _ =>
      if c = '\x7d' then
        bumpSkip
        return seen.reverse
      else if isHex c then bracedHex fuel (c :: seen)
      else failure

/-- Exactly `n` more hexadecimal digits. -/
def fixedHex : Nat → List Char → Reader (List Char)
  | 0, seen => return seen.reverse
  | n + 1, seen => do
    match ← rest with
    | [] => failure
    | c :: _ =>
      if isHex c then
        bumpSkip
        fixedHex n (c :: seen)
      else failure

/-- An escaped code point, behind its letter; `digits` counts the digits outside braces. -/
def codePoint (digits : Nat) : Reader Atom := do
  bumpOn
  match ← rest with
  | '\x7b' :: cs =>
    let ds ← bracedHex (cs.length + 1) []
    match (hexValue? ds).bind scalar? with
    | some c => if ds.isEmpty then failure else return .char c (digits == 2)
    | none => failure
  | _ =>
    let ds ← fixedHex digits []
    match (hexValue? ds).bind scalar? with
    | some c => return .char c (digits == 2)
    | none => failure

/-- The name of a property up to a closing brace, which is passed. -/
def propertyName : Nat → List Char → Reader (List Char)
  | 0, _ => failure
  | fuel + 1, seen => do
    bumpOn
    match ← rest with
    | [] => failure
    | c :: _ =>
      if c = '\x7d' then
        bump
        return seen.reverse
      else propertyName fuel (c :: seen)

/-- The set that a property in braces stands for, and whether its value is negated. -/
def bracedProperty? (name : List Char) : Option (CharSet × Bool) :=
  let named (op : List Char) (negated : Bool) : Option (Option (CharSet × Bool)) :=
    (Text.cut? op name).map fun (property, value) =>
      (propertyValueSet? (normalName property) (normalName value)).map (·, negated)
  match (named "!=".toList true).orElse fun _ => (named [':'] false).orElse fun _ => named ['='] false with
  | some r => r
  | none => (propertySet? (normalName name)).map (·, false)

/-- A property class, behind its letter. -/
def propertyClass (negated : Bool) : Reader Atom := do
  bumpOn
  match ← rest with
  | '\x7b' :: cs =>
    let name ← propertyName (cs.length + 1) []
    match bracedProperty? name with
    | some (s, flipped) => return .property s (negated != flipped)
    | none => failure
  | '\\' :: _ => failure
  | c :: _ =>
    bumpSkip
    match propertySet? (normalName [c]) with
    | some s => return .property s negated
    | none => failure
  | [] => failure

/-- Letters and dashes, passed with what is ignored between them. -/
def boundaryName : Nat → List Char → Reader (List Char)
  | 0, _ => failure
  | fuel + 1, seen => do
    match ← rest with
    | [] => return seen.reverse
    | c :: _ =>
      if c.isAlpha || c == '-' then
        bumpSkip
        boundaryName fuel (c :: seen)
      else return seen.reverse

/-- A word condition: `b`, perhaps with a name in braces. Braces that hold no name are left alone. -/
def wordCondition (unicode : Bool) : Reader Atom := do
  match ← rest with
  | '\x7b' :: cs =>
    bumpOn
    let named := match ← rest with
      | c :: _ => c.isAlpha || c == '-'
      | [] => false
    if !named then
      setRest ('\x7b' :: cs)
      return .look (.wordBoundary unicode)
    let name ← boundaryName (cs.length + 1) []
    match ← rest with
    | '\x7d' :: _ =>
      bump
      match String.ofList name with
      | "start" => return .look (.wordStart unicode)
      | "end" => return .look (.wordEnd unicode)
      | "start-half" => return .look (.wordStartHalf unicode)
      | "end-half" => return .look (.wordEndHalf unicode)
      | _ => failure
    | _ => failure
  | _ => return .look (.wordBoundary unicode)

/-- Whether a backslash makes a character stand for itself: all of ASCII but letters, digits and the
angle brackets. -/
def isEscapable (c : Char) : Bool :=
  c.toNat < 0x80 && !c.isAlphanum && c != '<' && c != '>'

/-- An escape, at its backslash. -/
def escape : Reader Atom := do
  bump
  match ← rest with
  | [] => failure
  | c :: _ =>
    let u := (← flags).unicode
    let pass (a : Atom) : Reader Atom := do
      bump
      return a
    match c with
    | 'x' => codePoint 2
    | 'u' => codePoint 4
    | 'U' => codePoint 8
    | 'p' => propertyClass false
    | 'P' => propertyClass true
    | 'd' => pass (.shorthand .digit (.ofRanges [('0', '9')]) false)
    | 'D' => pass (.shorthand .digit (.ofRanges [('0', '9')]) true)
    | 's' => pass (.shorthand .blank .asciiBlank false)
    | 'S' => pass (.shorthand .blank .asciiBlank true)
    | 'w' => pass (.shorthand .word .asciiWord false)
    | 'W' => pass (.shorthand .word .asciiWord true)
    | 'a' => pass (.char '\x07' false)
    | 'f' => pass (.char '\x0c' false)
    | 't' => pass (.char '\t' false)
    | 'n' => pass (.char '\n' false)
    | 'r' => pass (.char '\r' false)
    | 'v' => pass (.char '\x0b' false)
    | 'A' => pass (.look .textStart)
    | 'z' => pass (.look .textEnd)
    | 'B' => pass (.look (.notWordBoundary u))
    | '<' => pass (.look (.wordStart u))
    | '>' => pass (.look (.wordEnd u))
    | 'b' =>
      bump
      wordCondition u
    | c => if isEscapable c then pass (.char c false) else failure

/-- The set of a shorthand class under the flags; the complement of an ASCII class would take in parts
of characters. -/
def shorthandSet? (f : Flags) (unicode ascii : CharSet) (negated : Bool) : Option CharSet :=
  if f.unicode then some (if negated then .compl unicode else unicode)
  else if negated then none
  else some ascii

/-- The set of a property under the flags. -/
def propertySetWith? (f : Flags) (s : CharSet) (negated : Bool) : Option CharSet :=
  if !f.unicode then none
  else
    let s := if f.ignoreCase then .folded true s else s
    some (if negated then .compl s else s)

/-- What an atom outside brackets matches under the flags. -/
def Atom.toSyntax? (f : Flags) : Atom → Option Syntax
  | .char c _ =>
    if !f.unicode && 0x80 ≤ c.toNat then none
    else some (.set (if f.ignoreCase then .folded f.unicode (.single c) else .single c))
  | .shorthand u a negated => (shorthandSet? f u a negated).map .set
  | .property s negated => (propertySetWith? f s negated).map .set
  | .dot =>
    if !f.unicode then none
    else if f.dotAll then some (.set (.range 0 0x10FFFF))
    else if f.crlf then some (.set (.compl (.union (.single '\n') (.single '\r'))))
    else some (.set (.compl (.single '\n')))
  | .look l => some (.look l)

/-- What an atom inside brackets adds to the set under the flags. -/
def Atom.toSet? (f : Flags) : Atom → Option CharSet
  | .char c _ => if !f.unicode && 0x80 ≤ c.toNat then none else some (.single c)
  | .shorthand u a negated =>
    let s := if f.unicode then u else a
    some (if negated then .compl s else s)
  | .property s negated => propertySetWith? f s negated
  | .dot | .look _ => none

/-- One member of a bracketed class. -/
def classAtom : Reader Atom := do
  match ← rest with
  | [] => failure
  | '\\' :: _ => escape
  | c :: _ =>
    bump
    return .char c false

/-- A member or a range of a bracketed class. A dash before the end of the class or before another
dash is no range. -/
def classRange : Reader CharSet := do
  let first ← classAtom
  skip
  let f ← flags
  match ← rest with
  | [] => failure
  | c :: cs =>
    let after := if f.ignoreBlank then headIgnoring cs.head? false cs else cs.head?
    if c != '-' || after == some ']' || after == some '-' then
      (first.toSet? f : Option CharSet)
    else
      bumpOn
      let last ← classAtom
      match first, last with
      | .char a _, .char b _ =>
        if b < a || (!f.unicode && 0x80 ≤ b.toNat) then failure
        else return .range a.toNat b.toNat
      | _, _ => failure

/-- A named class such as `[:alpha:]`, at its bracket, with the text behind it. -/
def namedClass? : List Char → Option (CharSet × List Char)
  | '[' :: ':' :: cs =>
    let (negated, cs) :=
      match cs with
      | '^' :: cs => (true, cs)
      | cs => (false, cs)
    match cs.dropWhile (· != ':') with
    | ':' :: ']' :: rest =>
      (CharSet.namedClass? (String.ofList (cs.takeWhile (· != ':')))).map fun s =>
        (if negated then .compl s else s, rest)
    | _ => none
  | _ => none

/-- The operations between the parts of a bracketed class. -/
inductive ClassOp where
  | inter | diff | symmDiff

/-- The result of an operation; both sides are widened first where case is ignored. -/
def ClassOp.apply (f : Flags) (op : ClassOp) (a b : CharSet) : CharSet :=
  let widen (s : CharSet) := if f.ignoreCase then .folded f.unicode s else s
  match op with
  | inter => .inter (widen a) (widen b)
  | diff => .diff (widen a) (widen b)
  | symmDiff => .symmDiff (widen a) (widen b)

/-- The part of a bracketed class read so far: a set, how many members it was given and how deep they
nest. -/
structure ClassPart where
  set : CharSet := .never
  members : Nat := 0
  depth : Nat := 0

namespace ClassPart

/-- One more member. -/
def add (p : ClassPart) (s : CharSet) (depth : Nat) : ClassPart :=
  ⟨.union p.set s, p.members + 1, max p.depth depth⟩

/-- The depth of the part as a whole. -/
def fullDepth (p : ClassPart) : Nat :=
  if p.members ≤ 1 then p.depth else p.depth + 1

/-- The part, combined with what stands left of it. -/
def close (f : Flags) (p : ClassPart) : Option (ClassOp × CharSet × Nat) → CharSet × Nat
  | none => (p.set, p.fullDepth)
  | some (op, s, depth) => (op.apply f s p.set, max depth p.fullDepth + 1)

end ClassPart

/-- Dashes at the start of a bracketed class. -/
def leadingDashes : Nat → ClassPart → Reader ClassPart
  | 0, _ => failure
  | fuel + 1, p => do
    match ← rest with
    | '-' :: _ =>
      bumpOn
      leadingDashes fuel (p.add (.single '-') 0)
    | _ => return p

mutual

/-- A bracketed class, at its bracket, with its depth. -/
def bracketed : Nat → Reader (CharSet × Nat)
  | 0 => failure
  | fuel + 1 => do
    bumpOn
    let negated ← match ← rest with
      | '^' :: _ => do
        bumpOn
        pure true
      | _ => pure false
    let p ← leadingDashes ((← rest).length + 1) {}
    let p ← match ← rest with
      | ']' :: _ =>
        if p.members = 0 then do
          bumpOn
          pure (p.add (.single ']') 0)
        else pure p
      | _ => pure p
    let (s, depth) ← classItems fuel none p
    let f ← flags
    let s := if f.ignoreCase then .folded f.unicode s else s
    let s := if negated then .compl s else s
    if !f.unicode && s.reachesBeyondAscii then failure
    else return (s, depth + 1)

/-- The rest of a bracketed class, with the operation that waits for its right side. -/
def classItems : Nat → Option (ClassOp × CharSet × Nat) → ClassPart → Reader (CharSet × Nat)
  | 0, _, _ => failure
  | fuel + 1, left, p => do
    skip
    let f ← flags
    let cs ← rest
    let operation (op : ClassOp) (behind : List Char) : Reader (CharSet × Nat) := do
      setRest behind
      let (s, depth) := p.close f left
      classItems fuel (some (op, s, depth)) {}
    match cs with
    | [] => failure
    | ']' :: behind =>
      setRest behind
      return p.close f left
    | '&' :: '&' :: behind => operation .inter behind
    | '-' :: '-' :: behind => operation .diff behind
    | '~' :: '~' :: behind => operation .symmDiff behind
    | '[' :: _ =>
      match namedClass? cs with
      | some (s, behind) =>
        setRest behind
        classItems fuel left (p.add s 0)
      | none =>
        let (s, depth) ← bracketed fuel
        classItems fuel left (p.add s depth)
    | _ =>
      let s ← classRange
      classItems fuel left (p.add s 0)

end

/-- A decimal count between white space; ignored text may stand between its digits. -/
def countDigits : Nat → List Char → Reader (List Char)
  | 0, _ => failure
  | fuel + 1, seen => do
    match ← rest with
    | c :: _ =>
      if c.isDigit then
        bumpSkip
        countDigits fuel (c :: seen)
      else return seen.reverse
    | [] => return seen.reverse

/-- A count of a repetition, if digits are there: it has to fit into 32 bits. -/
def count? : Reader (Option Nat) := do
  modify fun s => { s with rest := Text.trimLeft s.rest }
  let ds ← countDigits ((← rest).length + 1) []
  modify fun s => { s with rest := Text.trimLeft s.rest }
  if !(← rest).isEmpty then skip
  if ds.isEmpty then return none
  let n := ds.foldl (fun n c => 10 * n + (c.toNat - '0'.toNat)) 0
  if n < Number.twoTo 32 then return some n else failure

/-- The bounds of a counted repetition, at its brace. -/
def counts : Reader (Nat × Option Nat) := do
  bumpOn
  let low ← count?
  match ← rest with
  | [] => failure
  | ',' :: _ =>
    bumpOn
    match low, ← rest with
    | some n, '\x7d' :: _ => return (n, none)
    | some n, _ =>
      match ← count? with
      | some m => return (n, some m)
      | none => failure
    | none, _ => failure
  | _ =>
    match low with
    | some n => return (n, some n)
    | none => failure

/-- A question mark that follows a repetition operator makes it lazy. -/
def lazyMark : Reader Bool := do
  match ← rest with
  | '?' :: _ =>
    bump
    return true
  | _ => return false

/-- Whether a character may stand in the name of a group. -/
def isNameChar (first : Bool) (c : Char) : Bool :=
  if first then c == '_' || Unicode.isAlphabetic c
  else c == '_' || c == '.' || c == '[' || c == ']' || Unicode.isAlphanumeric c

/-- The name of a group up to its closing angle bracket, which is passed. -/
def groupName (cs : List Char) : Reader Unit := do
  let name := cs.takeWhile (· != '>')
  match cs.dropWhile (· != '>'), name with
  | _ :: behind, c :: more =>
    if isNameChar true c && more.all (isNameChar false) && !(← get).names.contains name then
      modify fun s => { s with rest := behind, names := name :: s.names }
    else failure
  | _, _ => failure

/-- The flags written in a group, each at most once and with at most one minus, up to a colon or the
closing parenthesis. -/
def flagItems (on : Bool) (f : Flags) (seen : List Char) : List Char →
    Option (Flags × List Char × List Char)
  | [] => none
  | c :: cs =>
    if c = ':' ∨ c = ')' then
      if seen.head? = some '-' then none else some (f, seen, c :: cs)
    else if seen.contains c then none
    else
      match c with
      | '-' => flagItems false f ('-' :: seen) cs
      | 'i' => flagItems on { f with ignoreCase := on } (c :: seen) cs
      | 'm' => flagItems on { f with multiLine := on } (c :: seen) cs
      | 's' => flagItems on { f with dotAll := on } (c :: seen) cs
      | 'U' => flagItems on { f with swapGreed := on } (c :: seen) cs
      | 'u' => flagItems on { f with unicode := on } (c :: seen) cs
      | 'R' => flagItems on { f with crlf := on } (c :: seen) cs
      | 'x' => flagItems on { f with ignoreBlank := on } (c :: seen) cs
      | _ => none

/-- What a parenthesis opens: a group, with its number if it captures, or new flags. -/
inductive Opening where
  | group (index : Option Nat)
  | flags

/-- Takes the next group number. -/
def nextGroup : Reader Nat := do
  modify fun s => { s with groups := s.groups + 1 }
  return (← get).groups

/-- An opening parenthesis with what belongs to it. -/
def opening : Reader Opening := do
  bumpSkip
  match ← rest with
  | '?' :: '=' :: _ | '?' :: '!' :: _ | '?' :: '<' :: '=' :: _ | '?' :: '<' :: '!' :: _ => failure
  | '?' :: 'P' :: '<' :: cs | '?' :: '<' :: cs =>
    let i ← nextGroup
    groupName cs
    return .group (some i)
  | '?' :: cs =>
    match flagItems true (← flags) [] cs with
    | some (f, seen, ')' :: behind) =>
      if seen.isEmpty then failure
      modify fun s => { s with rest := behind, flags := f }
      return .flags
    | some (f, _, _ :: behind) =>
      modify fun s => { s with rest := behind, flags := f }
      return .group none
    | _ => failure
  | _ => return .group (some (← nextGroup))

/-- A piece of a sequence with its depth; new flags are a piece that matches nothing. -/
structure Piece where
  syn : Option Syntax
  depth : Nat

/-- The sequence of some pieces, given from the last to the first. -/
def Piece.sequence (ps : List Piece) : Syntax × Nat :=
  let r := (ps.filterMap (·.syn)).foldl
    (fun acc r => if acc = .empty then r else .cat r acc) Syntax.empty
  let depth := ps.foldl (fun n p => max n p.depth) 0
  (r, if ps.length ≤ 1 then depth else depth + 1)

/-- The alternation of some branches, given from the last to the first. -/
def alternation (last : Syntax × Nat) (before : List (Syntax × Nat)) : Syntax × Nat :=
  match before with
  | [] => last
  | _ =>
    let (r, depth) := before.foldl (fun (acc, n) (b, m) => (.alt b acc, max n m)) last
    (r, depth + 1)

/-- Puts a repetition around the last piece. -/
def repeatLast (ps : List Piece) (low : Nat) (high : Option Nat) (isLazy swapped : Bool) :
    Option (List Piece) :=
  match ps with
  | { syn := some r, depth } :: ps =>
    some ({ syn := some (.repeated r low high (isLazy == swapped)), depth := depth + 1 } :: ps)
  | _ => none

/-- The branches of a group or of the whole text, up to a closing parenthesis or the end. Finished
branches and the pieces of the current one come last to first. -/
def branches : Nat → List (Syntax × Nat) → List Piece → Reader (Syntax × Nat)
  | 0, _, _ => failure
  | fuel + 1, done, ps => do
    skip
    let f ← flags
    let repetition (low : Nat) (high : Option Nat) : Reader (Syntax × Nat) := do
      match repeatLast ps low high (← lazyMark) f.swapGreed with
      | some ps => branches fuel done ps
      | none => failure
    match ← rest with
    | [] | ')' :: _ => return alternation (Piece.sequence ps) done
    | '|' :: _ =>
      bump
      branches fuel (Piece.sequence ps :: done) []
    | '(' :: _ =>
      match ← opening with
      | .flags => branches fuel done ({ syn := none, depth := 0 } :: ps)
      | .group index =>
        let (r, depth) ← branches fuel [] []
        match ← rest with
        | ')' :: behind =>
          modify fun s => { s with rest := behind, flags := f }
          let r := match index with
            | some i => .group i r
            | none => r
          branches fuel done ({ syn := some r, depth := depth + 1 } :: ps)
        | _ => failure
    | '[' :: _ =>
      let (s, depth) ← bracketed fuel
      branches fuel done ({ syn := some (.set s), depth } :: ps)
    | '?' :: _ =>
      bump
      repetition 0 (some 1)
    | '*' :: _ =>
      bump
      repetition 0 none
    | '+' :: _ =>
      bump
      repetition 1 none
    | '\x7b' :: _ =>
      if ps.isEmpty then failure
      let (low, high) ← counts
      match ← rest with
      | '\x7d' :: _ =>
        bumpSkip
        if high.all (low ≤ ·) then repetition low high else failure
      | _ => failure
    | '^' :: _ =>
      bump
      let l : Look := if f.multiLine then (if f.crlf then .crlfLineStart else .lineStart) else .textStart
      branches fuel done ({ syn := some (.look l), depth := 0 } :: ps)
    | '$' :: _ =>
      bump
      let l : Look := if f.multiLine then (if f.crlf then .crlfLineEnd else .lineEnd) else .textEnd
      branches fuel done ({ syn := some (.look l), depth := 0 } :: ps)
    | c :: _ =>
      let atom ← match c with
        | '\\' => escape
        | '.' => do
          bump
          pure Atom.dot
        | c => do
          bump
          pure (Atom.char c false)
      match atom.toSyntax? f with
      | some r => branches fuel done ({ syn := some r, depth := 0 } :: ps)
      | none => failure

/-- The regular expression that makes up all of a text. -/
def read? (ignoreCase : Bool) (cs : List Char) : Option Syntax :=
  let start : ReadState := { rest := cs, flags := { ignoreCase } }
  match (branches (2 * cs.length + 2) [] []).run start with
  | some ((r, depth), s) => if s.rest.isEmpty && depth ≤ maxDepth then some r else none
  | none => none

end LineScript.Regex
