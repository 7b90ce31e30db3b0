import LineScript.Regex.Matcher

/-! Globs for the names of files. Beside stars, question marks, classes and backslashes they know
alternatives in braces, and two stars that stand for directories. A name is matched as a whole and as a
list of bytes, so a question mark is one byte; a byte is written as the character of its value. -/
namespace LineScript.Glob

open Regex (CharSet Syntax)

/-- The bytes of some characters, as characters. -/
def byteChars (cs : List Char) : List Char :=
  (String.ofList cs).toUTF8.toList.map fun b => Char.ofNat b.toNat

/-- Any byte. -/
def anyByte : Syntax :=
  .set (.range 0 255)

/-- Any run of bytes. -/
def anyBytes : Syntax :=
  .repeated anyByte 0 none true

/-- A run of expressions, one behind the other. -/
def sequence : List Syntax → Syntax
  | [] => .empty
  | [r] => r
  | r :: rs => .cat r (sequence rs)

/-- One of some expressions, the first ones preferred. -/
def choice : List Syntax → Syntax
  | [] => .empty
  | [r] => r
  | r :: rs => .alt r (choice rs)

/-- The bytes of a character, one behind the other. -/
def literal (c : Char) : Syntax :=
  sequence ((byteChars [c]).map fun b => .set (.single b))

/-- A separator of directories. -/
def slash : Syntax :=
  .set (.single '/')

/-- An element of a file name glob. -/
inductive Element where
  | one (r : Syntax)
  /-- Two stars at the start: any directories, or none. -/
  | leading
  /-- Two stars at the end: everything in a directory. -/
  | trailing
  /-- Two stars between separators. -/
  | between

/-- The expression of an element. -/
def Element.syntaxTree : Element → Syntax
  | one r => r
  | leading => .alt (.repeated slash 0 (some 1) true) (.cat anyBytes slash)
  | trailing => .cat slash anyBytes
  | between => .alt slash (.cat slash (.cat anyBytes slash))

/-- The expression of some elements, of which the last one comes first. -/
def branchSyntax (elements : List Element) : Syntax :=
  sequence ((elements.reverse.map Element.syntaxTree).filter (· != .empty))

/-- The expression of some alternatives, of which the last one comes first; those without elements do not
count. -/
def alternatives (branches : List (List Element)) : List Syntax :=
  (branches.reverse.map branchSyntax).filter (· != .empty)

/-- The members of a class between two characters: the bytes of both, and what lies between the last
byte of the first and the first byte of the second. -/
def byteRange (a b : Char) : CharSet :=
  let left := byteChars [a]
  let right := byteChars [b]
  let singles (bs : List Char) : CharSet := .ofRanges (bs.map fun c => (c, c))
  if a = b then singles left
  else
    .union (.union (singles left) (singles right))
      (.range ((left.getLast?.map Char.toNat).getD 0) ((right.head?.map Char.toNat).getD 0))

/-- Reads the members of a class behind its bracket. `first` says that none has been read, and `ranging`
that a hyphen asks for the end of a range. Members come last to first. -/
def classMembers? (first ranging : Bool) (members : List (Char × Char)) :
    List Char → Option (List (Char × Char) × List Char)
  | [] => none
  | c :: cs =>
    if c = ']' && !first then
      some (if ranging then ('-', '-') :: members else members, cs)
    else if c = '-' && !first && !ranging then classMembers? false true members cs
    else
      match ranging, members with
      | true, (a, _) :: rest =>
        if c < a then none else classMembers? false false ((a, c) :: rest) cs
      | _, _ => classMembers? false false ((c, c) :: members) cs

/-- The class behind a bracket, and the rest of the glob. -/
def class? (cs : List Char) : Option (Syntax × List Char) :=
  let (negated, cs) :=
    match cs with
    | '!' :: rest | '^' :: rest => (true, rest)
    | cs => (false, cs)
  (classMembers? true false [] cs).map fun (members, rest) =>
    let set := members.foldr (fun (a, b) s => CharSet.union s (byteRange a b)) .never
    (.set (if negated then .inter (.range 0 255) (.compl set) else set), rest)

/-- What has been read of a glob: the branch that is open, the branches before it in the same braces,
and the same for the braces around, from the inside out. Elements and branches come last to first. -/
structure Draft where
  branch : List Element := []
  earlier : List (List Element) := []
  outer : List (List Element × List (List Element)) := []

namespace Draft

/-- Adds an element. -/
def add (d : Draft) (e : Element) : Draft :=
  { d with branch := e :: d.branch }

/-- Opens braces. -/
def openBraces (d : Draft) : Draft :=
  ⟨[], [], (d.branch, d.earlier) :: d.outer⟩

/-- Starts the next branch; outside of braces a comma is an ordinary character. -/
def comma (d : Draft) : Draft :=
  if d.outer.isEmpty then d.add (.one (literal ','))
  else { d with branch := [], earlier := d.branch :: d.earlier }

/-- Closes braces, if any are open. -/
def closeBraces? (d : Draft) : Option Draft :=
  match d.outer with
  | [] => none
  | (branch, earlier) :: outer =>
    some ⟨.one (choice (alternatives (d.branch :: d.earlier))) :: branch, earlier, outer⟩

/-- Adds two stars that stand for themselves. -/
def twoStars (d : Draft) : Draft :=
  (d.add (.one anyBytes)).add (.one anyBytes)

/-- Puts stars for directories in place of the separator in front of them. -/
def directories (d : Draft) (e : Element) : Draft :=
  match d.branch with
  | .leading :: rest => { d with branch := .leading :: rest }
  | .trailing :: rest => { d with branch := .trailing :: rest }
  | _ :: rest => { d with branch := e :: rest }
  | [] => { d with branch := [e] }

/-- Adds two stars, given the character in front of them and the text behind them, and returns the text
that is left. -/
def stars (d : Draft) (prev : Option Char) (cs : List Char) : Draft × List Char :=
  let inside := !d.outer.isEmpty
  if d.branch.isEmpty then
    match cs with
    | [] => (d.add .leading, [])
    | '/' :: rest => (d.add .leading, rest)
    | cs => (d.twoStars, cs)
  else if prev != some '/' && (!inside || (prev != some ',' && prev != some '\x7b')) then
    (d.twoStars, cs)
  else
    match cs with
    | [] => (d.directories .trailing, [])
    | '/' :: rest => (d.directories .between, rest)
    | c :: rest =>
      if inside && (c = ',' || c = '\x7d') then (d.directories .trailing, c :: rest)
      else (d.twoStars, c :: rest)

end Draft

/-- Reads the rest of a glob behind a character. The number bounds the steps. -/
def readFileName? : Nat → Draft → Option Char → List Char → Option Draft
  | 0, _, _, _ => none
  | _ + 1, d, _, [] => some d
  | fuel + 1, d, prev, c :: cs =>
    match c with
    | '?' => readFileName? fuel (d.add (.one anyByte)) (some c) cs
    | '*' =>
      match cs with
      | '*' :: rest =>
        let (d, left) := d.stars prev rest
        let prev := if left.length < rest.length then some '/' else some '*'
        readFileName? fuel d prev left
      | cs => readFileName? fuel (d.add (.one anyBytes)) (some c) cs
    | '[' =>
      (class? cs).bind fun (r, rest) => readFileName? fuel (d.add (.one r)) (some ']') rest
    | '\x7b' => readFileName? fuel d.openBraces (some c) cs
    | '\x7d' => (d.closeBraces?).bind fun d => readFileName? fuel d (some c) cs
    | ',' => readFileName? fuel d.comma (some c) cs
    | '\\' =>
      match cs with
      | [] => none
      | e :: rest => readFileName? fuel (d.add (.one (literal e))) (some e) rest
    | c => readFileName? fuel (d.add (.one (literal c))) (some c) cs

/-- The expression for whole names, as byte characters. Two stars alone stand for any name. -/
def fileName? (glob : String) : Option Regex.Node :=
  let cs := glob.toList
  (readFileName? (cs.length + 1) {} none cs).bind fun d =>
    if !d.outer.isEmpty then none
    else
      let body := match d.branch with
        | [.leading] => anyBytes
        | elements => branchSyntax elements
      some (Syntax.cat (.look .textStart) (.cat body (.look .textEnd))).machine

/-- Whether a name is one that a glob stands for. -/
def matchesName (glob : Regex.Node) (name : String) : Bool :=
  (Regex.search? glob 1 (byteChars name.toList) 0).isSome

end LineScript.Glob
