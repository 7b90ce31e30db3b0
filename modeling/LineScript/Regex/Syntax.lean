import LineScript.Regex.CharSet

/-! Regular expressions after reading: flags are resolved and groups are numbered. -/
namespace LineScript.Regex

/-- A condition on a place between two characters. Word conditions ask for the words of Unicode or of
ASCII. -/
inductive Look where
  | textStart
  | textEnd
  | lineStart
  | lineEnd
  | crlfLineStart
  | crlfLineEnd
  | wordBoundary (unicode : Bool)
  | notWordBoundary (unicode : Bool)
  | wordStart (unicode : Bool)
  | wordEnd (unicode : Bool)
  | wordStartHalf (unicode : Bool)
  | wordEndHalf (unicode : Bool)
  deriving DecidableEq, Repr

/-- A regular expression. Of an alternation the left side is preferred; a greedy repetition prefers to
go on. -/
inductive Syntax where
  | empty
  | set (s : CharSet)
  | look (l : Look)
  | cat (a b : Syntax)
  | alt (a b : Syntax)
  | repeated (r : Syntax) (low : Nat) (high : Option Nat) (greedy : Bool)
  | group (index : Nat) (r : Syntax)
  deriving DecidableEq, Repr

namespace Look

/-- Whether the condition holds between the characters `prev` and `next`, absent at the ends of the
text. -/
def holds (l : Look) (prev next : Option Char) : Bool :=
  let word (unicode : Bool) (c : Option Char) : Bool :=
    c.any (if unicode then Unicode.isWord else CharSet.asciiWord.holds)
  match l with
  | textStart => prev.isNone
  | textEnd => next.isNone
  | lineStart => prev.all (· == '\n')
  | lineEnd => next.all (· == '\n')
  | crlfLineStart => prev.all fun c => c == '\n' || (c == '\r' && next != some '\n')
  | crlfLineEnd => next.all fun c => c == '\r' || (c == '\n' && prev != some '\r')
  | wordBoundary u => word u prev != word u next
  | notWordBoundary u => word u prev == word u next
  | wordStart u => !word u prev && word u next
  | wordEnd u => word u prev && !word u next
  | wordStartHalf u => !word u prev
  | wordEndHalf u => !word u next

end Look

namespace Syntax

/-- Whether every match has at least one character. -/
def consumes : Syntax → Bool
  | empty => false
  | set _ => true
  | look _ => false
  | cat a b => a.consumes || b.consumes
  | alt a b => a.consumes && b.consumes
  | repeated r low _ _ => 0 < low && r.consumes
  | group _ r => r.consumes

/-- Whether no match has a character. -/
def zeroWidth : Syntax → Bool
  | empty => true
  | set _ => false
  | look _ => true
  | cat a b => a.zeroWidth && b.zeroWidth
  | alt a b => a.zeroWidth && b.zeroWidth
  | repeated r _ high _ => high == some 0 || r.zeroWidth
  | group _ r => r.zeroWidth

/-- The bounds of a repetition: what can match only the empty text is matched at most once. -/
def bounds (r : Syntax) (low : Nat) (high : Option Nat) : Nat × Option Nat :=
  if r.zeroWidth then (min low 1, some (high.elim 1 (min · 1))) else (low, high)

/-- One more than the largest number of a group that can take part in a match. -/
def groupCount : Syntax → Nat
  | empty | set _ | look _ => 1
  | cat a b | alt a b => max a.groupCount b.groupCount
  | repeated r _ high _ => if high == some 0 then 1 else r.groupCount
  | group i r => max (i + 1) r.groupCount

end Syntax

end LineScript.Regex
