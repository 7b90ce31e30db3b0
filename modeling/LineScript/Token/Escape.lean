import LineScript.Error
import LineScript.Regex.Reader

/-! Escapes behind a backslash, and quoted strings. -/
namespace LineScript.Token

/-- The value of a hexadecimal numeral, which may have a plus sign in front of at least one digit. -/
def hexNumeral? (cs : List Char) : Option Nat :=
  match cs with
  | '+' :: d :: ds => Regex.hexValue? (d :: ds)
  | cs => if cs.isEmpty then none else Regex.hexValue? cs

/-- The character given by the next `width` characters, read as a hexadecimal numeral. -/
def hexEscape (width : Nat) (cs : List Char) : Except EscapeError (Char × List Char) :=
  if cs.length < width then .error .fewDigits
  else
    match (hexNumeral? (cs.take width)).bind Regex.scalar? with
    | some c => .ok (c, cs.drop width)
    | none => .error .noCharacter

/-- The character that an escape stands for, given what follows the backslash, and the text behind. -/
def escape : List Char → Except EscapeError (Char × List Char)
  | [] => .error .missing
  | c :: cs =>
    match c with
    | '\\' => .ok ('\\', cs)
    | '"' => .ok ('"', cs)
    | '\'' => .ok ('\'', cs)
    | '$' => .ok ('$', cs)
    | 'n' => .ok ('\n', cs)
    | 'r' => .ok ('\r', cs)
    | 't' => .ok ('\t', cs)
    | '0' => .ok (Char.ofNat 0, cs)
    | 'x' => hexEscape 2 cs
    | 'u' => hexEscape 4 cs
    | _ => .error .unknown

/-- The value of a quoted string, given what follows the opening quote, and the text behind the closing
one. The first argument bounds the number of items. -/
def quoted (quote : Char) : Nat → List Char → Except EscapeError (List Char × List Char)
  | 0, _ => .error .openQuote
  | _ + 1, [] => .error .openQuote
  | fuel + 1, c :: cs =>
    if c = quote then .ok ([], cs)
    else if c = '\\' then
      match escape cs with
      | .error e => .error e
      | .ok (d, rest) => (quoted quote fuel rest).map fun (value, rest) => (d :: value, rest)
    else (quoted quote fuel cs).map fun (value, rest) => (c :: value, rest)

end LineScript.Token
