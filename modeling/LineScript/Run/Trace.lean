import LineScript.Journal

/-! Traces: a line for every statement that runs. -/
namespace LineScript

/-- How a trace is written. -/
inductive TraceFormat where
  | text
  /-- An object with the script, the line and the statement. -/
  | object
  deriving DecidableEq, Repr

/-- The hexadecimal digit of a number below 16. -/
def hexDigit (n : Nat) : Char :=
  (Nat.toDigits 16 n).headD '0'

/-- A character inside a quoted text: quotes, backslashes and control characters are escaped. -/
def quotedChar (c : Char) : List Char :=
  match c with
  | '"' => ['\\', '"']
  | '\\' => ['\\', '\\']
  | '\n' => ['\\', 'n']
  | '\r' => ['\\', 'r']
  | '\t' => ['\\', 't']
  | '\x08' => ['\\', 'b']
  | '\x0c' => ['\\', 'f']
  | c =>
    if c.toNat < 32 then ['\\', 'u', '0', '0', hexDigit (c.toNat / 16), hexDigit (c.toNat % 16)]
    else [c]

/-- A text in quotes. -/
def quotedText (s : String) : String :=
  String.ofList ('"' :: s.toList.flatMap quotedChar ++ ['"'])

/-- The line for a statement, with its line break. -/
def TraceFormat.line (f : TraceFormat) (script : String) (line : Nat) (statement : String) :
    String :=
  match f with
  | text => s!"{script}:{line}: {statement}\n"
  | object =>
    "\x7b\"script\":" ++ quotedText script ++ s!",\"line\":{line},\"statement\":" ++
      quotedText statement ++ "\x7d\n"

end LineScript
