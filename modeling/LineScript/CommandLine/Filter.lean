import LineScript.Journal
import LineScript.Search.Expression
import LineScript.Text.Blank
import LineScript.Text.Pieces

/-! Filters on notes: how urgent a note of each part of the program must be to be shown. A filter is
written as rules between commas, perhaps with a regular expression for the texts behind a slash. -/
namespace LineScript.CommandLine

/-- How much is shown: everything from the most urgent level up to this one, or nothing. -/
abbrev Threshold := Option Level

namespace Threshold

/-- Whether a level is within a threshold. -/
def admits (t : Threshold) (level : Level) : Bool :=
  t.elim false fun most => decide (level.rank ≤ most.rank)

/-- The threshold of a name, in small or capital letters. -/
def ofName? (name : String) : Option Threshold :=
  match name.toUpper with
  | "OFF" => some none
  | "ERROR" => some (some .error)
  | "WARN" => some (some .warn)
  | "INFO" => some (some .info)
  | "DEBUG" => some (some .debug)
  | "TRACE" => some (some .trace)
  | _ => none

end Threshold

/-- A threshold for the parts whose names start with a text, or for all parts. -/
structure FilterRule where
  part : Option String := none
  threshold : Threshold
  deriving DecidableEq, Repr

namespace FilterRule

/-- The number of bytes that a rule fixes of the name of a part. -/
def reach (r : FilterRule) : Nat :=
  r.part.elim 0 Text.length

/-- Whether a rule is about a part. -/
def covers (r : FilterRule) (part : Part) : Bool :=
  r.part.elim true fun start => (Text.dropStart? start.toList part.name.toList).isSome

end FilterRule

/-- Why something in a filter does not count. -/
inductive FilterFault where
  | manyPatterns (text : String)
  | rule (text : String)
  | pattern (r : Search.Refusal)
  deriving DecidableEq, Repr

/-- The wording of a fault. -/
def FilterFault.message : FilterFault → String
  | manyPatterns text => s!"invalid logging spec '{text}' (too many '/'s)"
  | rule text => s!"invalid logging spec '{text}'"
  | pattern (.tooLarge _) =>
    s!"invalid regex filter - Compiled regex exceeds size limit of {Regex.sizeLimit} bytes."
  | pattern _ => "invalid regex filter - regex parse error"

/-- A filter on notes. -/
structure Filter where
  /-- The rules, those that fix less of a name first. -/
  rules : List FilterRule
  /-- What the texts of notes have to match. -/
  pattern : Option Search.Matcher := none

namespace FilterRule

/-- Reads a rule: a threshold for all parts, a part, of which everything is shown, or a part and its
threshold with an equals sign between them. -/
def read (text : String) : Except FilterFault FilterRule :=
  match Text.pieces text "=" with
  | [one] =>
    match Threshold.ofName? one with
    | some threshold => .ok { threshold }
    | none => .ok ⟨some one, some .trace⟩
  | [part, level] =>
    let level := Text.trimmed level
    if level.isEmpty then .ok ⟨some part, some .trace⟩
    else
      match Threshold.ofName? level with
      | some threshold => .ok ⟨some part, threshold⟩
      | none => .error (.rule level)
  | _ => .error (.rule text)

/-- Adds a rule; it takes the place of an earlier one for the same name. -/
def addTo (r : FilterRule) : List FilterRule → List FilterRule
  | [] => [r]
  | s :: rest => if s.part = r.part then r :: rest else s :: r.addTo rest

end FilterRule

namespace Filter

/-- The rules that are written between commas, and the faults of those that cannot be read. -/
def readRules (text : String) : List FilterFault × List FilterRule :=
  let items := ((Text.pieces text ",").map Text.trimmed).filter (!·.isEmpty)
  items.foldl (fun (faults, rules) item =>
    match FilterRule.read item with
    | .ok r => (faults, r.addTo rules)
    | .error f => (faults ++ [f], rules)) ([], [])

/-- The filter of some rules; without rules only errors are shown. -/
def ofRules (rules : List FilterRule) (pattern : Option Search.Matcher) : Filter :=
  let rules := if rules.isEmpty then [{ threshold := some .error }] else rules
  { rules := rules.mergeSort fun a b => a.reach ≤ b.reach, pattern }

/-- Reads a filter. What cannot be read does not count; the faults say what that is. -/
def read (text : String) : List FilterFault × Filter :=
  match Text.pieces text "/" with
  | [rules] =>
    let (faults, rules) := readRules rules
    (faults, ofRules rules none)
  | [rules, pattern] =>
    let (faults, rules) := readRules rules
    match Search.Expression.new pattern .regex "" with
    | .ok x => (faults, ofRules rules (some x.matcher))
    | .error r => (faults ++ [.pattern r], ofRules rules none)
  | _ => ([.manyPatterns text], ofRules [] none)

/-- Whether notes of a level from a part are shown: the last rule about the part decides. -/
def isEnabled (f : Filter) (level : Level) (part : Part) : Bool :=
  (f.rules.reverse.find? (·.covers part)).elim false (·.threshold.admits level)

/-- Whether a note is shown. -/
def shows (f : Filter) (level : Level) (part : Part) (text : String) : Bool :=
  f.isEnabled level part && f.pattern.elim true (·.matches text)

end Filter

end LineScript.CommandLine
