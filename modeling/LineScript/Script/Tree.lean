import LineScript.Error
import LineScript.Function.Signature
import LineScript.Script.Template

/-! The statements of a script as data. What depends on variables is kept symbolic. -/
namespace LineScript

open Number (Double)

/-- What of a buffer a reference means. -/
inductive Selector where
  | all
  | line
  | hit
  | mark
  deriving DecidableEq, Repr

/-- A buffer and what of it is meant. -/
structure BufferRef where
  name : String
  selector : Selector := .all
  deriving DecidableEq, Repr

/-- A pattern. It is compiled in advance if its body refers to no variable. -/
structure Pattern where
  kind : Search.Kind
  body : Template
  flags : String
  compiled : Option Search.Expression := none
  deriving DecidableEq, Repr

mutual

/-- A part of a value. -/
inductive Fragment where
  | text (t : Template)
  | variable (name : String)
  | buffer (ref : BufferRef)
  | call (function : Builtin) (arguments : List Argument)

/-- An argument of a call. -/
inductive Argument where
  | value (fragments : List Fragment)
  | buffer (name : String)
  | pattern (p : Pattern)

end

/-- A value: its fragments, put together. -/
abbrev Value := List Fragment

/-- A number in a statement. -/
inductive Operand where
  | number (x : Double)
  | variable (name : String)
  | call (function : Builtin) (arguments : List Argument)

/-- An operand, perhaps negated. -/
structure Term where
  negative : Bool
  operand : Operand

/-- The operations on numbers. -/
inductive ArithOp where
  | add
  | sub
  | mul
  | div
  deriving DecidableEq, Repr

/-- Whether an operation is an addition or a subtraction. -/
def ArithOp.isAdditive : ArithOp → Bool
  | add | sub => true
  | mul | div => false

/-- Terms with operations between them, worked off from the left. -/
structure NumExpr where
  first : Term
  rest : List (ArithOp × Term)

/-- The comparisons. -/
inductive Comparison where
  | eq
  | ne
  | lt
  | le
  | gt
  | ge
  deriving DecidableEq, Repr

/-- The comparison that an operator stands for. -/
def Comparison.ofOperator? : String → Option Comparison
  | "==" => some eq
  | "!=" => some ne
  | "<" => some lt
  | "<=" => some le
  | ">" => some gt
  | ">=" => some ge
  | _ => none

/-- What a test asks. -/
inductive Condition where
  | compare (left : Value) (op : Comparison) (right : Value)
  | found
  | search (p : Pattern)
  | truthy (v : Value)

/-- A condition, perhaps negated. -/
structure Test where
  negated : Bool
  condition : Condition

/-- A part of the selected buffer. -/
inductive Range where
  | all
  | line
  | lines (count : Operand)
  | mark
  | hit

/-- Whether a range consists of whole lines. -/
def Range.isWholeLines : Range → Bool
  | all | line | lines _ => true
  | mark | hit => false

/-- Where the cursor is to go. -/
inductive MoveTarget where
  | pattern (p : Pattern)
  | line (line : Operand) (column : Option Operand)
  | by (delta : Operand)
  | bufferStart
  | bufferEnd
  | lineStart
  | lineEnd
  | mark

/-- The parameters of a called script. -/
inductive Parameters where
  | none
  | buffer (name : String)
  | pairs (ps : List (String × Value))

/-- A change of the selected buffer. -/
inductive Selection where
  | set (name : String)
  | push (name : String)
  | pop

/-- A statement. -/
inductive Statement where
  | assign (name : String) (append : Bool) (value : Value)
  | assignBuffer (buffer : String) (append : Bool) (value : Value)
  | assignNumeric (name : String) (expr : NumExpr)
  | adapt (pattern : Pattern) (replacement : Value) (anchor : Option Pattern) (above : Bool)
  | assert (test : Test)
  | call (script : Value) (parameters : Parameters)
  | copy (range : Range) (target : String) (append : Bool)
  | delete (range : Range)
  | ifTest (test : Test)
  | elseWord
  | endIf
  | whileTest (test : Test)
  | endWhile
  | leave (levels : Nat) (condition : Option Test)
  | script (name : String)
  | endScript
  | exit (abort : Bool) (code : Option Operand)
  | stop (code : Option Operand)
  | insert (wholeLines : Bool) (value : Value)
  | load (buffer : Option String) (file : Value)
  | store (buffer : Option String) (file : Option Value) (append force : Bool)
  | log (message : Template)
  | mark
  | move (target : MoveTarget)
  | replace (pattern : Pattern) (replacement : Value) (count : Option Operand)
      (filter : Option Pattern) (range : Option Range)
  | select (selection : Selection)

/-- A statement with its place in the script and its text. -/
structure Located where
  line : Nat
  column : Nat
  text : String
  statement : Statement

end LineScript
