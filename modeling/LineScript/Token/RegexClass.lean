import LineScript.Error
import LineScript.Regex.Matcher
import LineScript.Token.Scan

/-! Classes of tokens that a regular expression describes. -/
namespace LineScript

/-- The class of the texts that a regular expression matches where a token starts. -/
def TokenClass.ofRegex (pattern : String) : Except Fault TokenClass :=
  match Regex.read? false ('^' :: "(?:".toList ++ pattern.toList ++ [')']) with
  | none => .error .tokenClass
  | some r =>
    if r.isTooLarge then .error .largeTokenClass
    else
      .ok ⟨fun cs => (Regex.search? r.machine r.groupCount cs 0).map fun w => Text.take cs w.stop⟩

/-- A lexicon with one more class, tried after the others, and the index of that class. -/
def Lexicon.addClass (x : Lexicon) (k : TokenClass) : Lexicon × Nat :=
  ({ x with classes := x.classes ++ [k] }, x.classes.length)

end LineScript
