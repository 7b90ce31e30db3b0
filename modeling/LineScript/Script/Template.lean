import LineScript.Token.Escape

/-! Texts with references to variables, written `$(name)`. -/
namespace LineScript

/-- A part of a template. -/
inductive TemplatePart where
  | text (s : String)
  | variable (name : String)
  deriving DecidableEq, Repr

/-- A text in which values of variables are to be put. -/
abbrev Template := List TemplatePart

namespace Template

/-- A template without references. -/
def literal (s : String) : Template :=
  [.text s]

/-- The text of a template without references. -/
def asLiteral? : Template → Option String
  | [] => some ""
  | .text s :: ps => (asLiteral? ps).map (s ++ ·)
  | .variable _ :: _ => none

/-- The name at the start of a text and what follows it: at most two underscores, a letter, and then
letters, digits and underscores. -/
def name? (cs : List Char) : Option (List Char × List Char) :=
  let marks := (cs.take 2).takeWhile (· == '_')
  match cs.drop marks.length with
  | c :: rest =>
    if c.isAlpha then
      let isPart (c : Char) : Bool := c.isAlphanum || c == '_'
      some (marks ++ c :: rest.takeWhile isPart, rest.dropWhile isPart)
    else none
  | [] => none

/-- The name in a reference at the start of a text, and what follows the reference. -/
def reference? : List Char → Option (List Char × List Char)
  | '$' :: '(' :: cs =>
    match name? cs with
    | some (name, ')' :: rest) => some (name, rest)
    | _ => none
  | _ => none

/-- The part of collected characters, which come last to first; none if there are none. -/
def textPart (seen : List Char) : Template :=
  if seen.isEmpty then [] else [.text (String.ofList seen.reverse)]

/-- The parts of a text from here on. `seen` holds the characters since the last reference, last to
first; the number bounds the steps. -/
def partsOf (escapes : Bool) : Nat → List Char → List Char → Except EscapeError Template
  | 0, seen, _ => .ok (textPart seen)
  | _ + 1, seen, [] => .ok (textPart seen)
  | fuel + 1, seen, c :: cs =>
    match reference? (c :: cs) with
    | some (name, rest) =>
      (partsOf escapes fuel [] rest).map fun ps =>
        textPart seen ++ .variable (String.ofList name) :: ps
    | none =>
      if escapes && c == '\\' then
        match Token.escape cs with
        | .error e => .error e
        | .ok (d, rest) => partsOf escapes fuel (d :: seen) rest
      else partsOf escapes fuel (c :: seen) cs

/-- The template of a text; escapes are decoded if `escapes` is set. A text without characters has one
empty part. -/
def ofText (escapes : Bool) (cs : List Char) : Except EscapeError Template :=
  (partsOf escapes (cs.length + 1) [] cs).map fun ps => if ps.isEmpty then [.text ""] else ps

end Template

end LineScript
