import LineScript.Unicode.Case

/-! Sets of characters as a pattern names them, and membership. -/
namespace LineScript.Regex

open Unicode (Category)

/-- A set of characters. -/
inductive CharSet where
  | never
  | range (low high : Nat)
  | word
  | digit
  | blank
  | categories (ks : List Category)
  | property (name : String)
  | script (name : String)
  | union (a b : CharSet)
  | inter (a b : CharSet)
  | compl (a : CharSet)
  /-- What differs from a member by case only; outside Unicode mode only letters of ASCII do. -/
  | folded (unicode : Bool) (a : CharSet)
  deriving DecidableEq, Repr

namespace CharSet

/-- The other case of an ASCII letter. -/
def asciiVariants (c : Char) : List Char :=
  if c.isUpper then [c, c.toLower] else if c.isLower then [c, c.toUpper] else [c]

/-- Membership. -/
def holds : CharSet → Char → Bool
  | never, _ => false
  | range low high, c => low ≤ c.toNat && c.toNat ≤ high
  | word, c => Unicode.isWord c
  | digit, c => Unicode.isDigit c
  | blank, c => Text.isBlank c
  | categories ks, c => ks.contains (Unicode.category c)
  | property name, c => Unicode.hasProperty name c
  | script name, c => (Unicode.script? name).any (Unicode.inRanges · c.toNat)
  | union a b, c => a.holds c || b.holds c
  | inter a b, c => a.holds c && b.holds c
  | compl a, c => !a.holds c
  | folded true a, c => (Unicode.caseVariants c).any a.holds
  | folded false a, c => (asciiVariants c).any a.holds

/-- One character. -/
def single (c : Char) : CharSet :=
  range c.toNat c.toNat

/-- The characters of some closed ranges. -/
def ofRanges (rs : List (Char × Char)) : CharSet :=
  rs.foldl (fun s (a, b) => union s (range a.toNat b.toNat)) never

/-- Members of the first set that the second lacks. -/
def diff (a b : CharSet) : CharSet :=
  inter a (compl b)

/-- Members of exactly one of two sets. -/
def symmDiff (a b : CharSet) : CharSet :=
  union (diff a b) (diff b a)

/-- Word characters of ASCII. -/
def asciiWord : CharSet :=
  ofRanges [('0', '9'), ('A', 'Z'), ('a', 'z'), ('_', '_')]

/-- White space of ASCII. -/
def asciiBlank : CharSet :=
  ofRanges [('\t', '\r'), (' ', ' ')]

/-- The classes with a bracketed name. -/
def namedClass? (name : String) : Option CharSet :=
  match name with
  | "alnum" => some (ofRanges [('0', '9'), ('A', 'Z'), ('a', 'z')])
  | "alpha" => some (ofRanges [('A', 'Z'), ('a', 'z')])
  | "ascii" => some (range 0 0x7F)
  | "blank" => some (ofRanges [('\t', '\t'), (' ', ' ')])
  | "cntrl" => some (union (range 0 0x1F) (range 0x7F 0x7F))
  | "digit" => some (ofRanges [('0', '9')])
  | "graph" => some (ofRanges [('!', '~')])
  | "lower" => some (ofRanges [('a', 'z')])
  | "print" => some (ofRanges [(' ', '~')])
  | "punct" => some (ofRanges [('!', '/'), (':', '@'), ('[', '\x60'), ('\x7b', '~')])
  | "space" => some asciiBlank
  | "upper" => some (ofRanges [('A', 'Z')])
  | "word" => some asciiWord
  | "xdigit" => some (ofRanges [('0', '9'), ('A', 'F'), ('a', 'f')])
  | _ => none

/-- Whether a set has a member among the bytes beyond ASCII, read as characters. -/
def reachesBeyondAscii (s : CharSet) : Bool :=
  (List.range 128).any fun i => s.holds (Char.ofNat (128 + i))

end CharSet

/-- The categories that a name of the property General_Category stands for. -/
def categories? (name : String) : Option (List Category) :=
  match name with
  | "l" | "letter" => some [.lu, .ll, .lt, .lm, .lo]
  | "lc" | "casedletter" => some [.lu, .ll, .lt]
  | "lu" | "uppercaseletter" => some [.lu]
  | "ll" | "lowercaseletter" => some [.ll]
  | "lt" | "titlecaseletter" => some [.lt]
  | "lm" | "modifierletter" => some [.lm]
  | "lo" | "otherletter" => some [.lo]
  | "m" | "mark" | "combiningmark" => some [.mn, .mc, .me]
  | "mn" | "nonspacingmark" => some [.mn]
  | "mc" | "spacingmark" => some [.mc]
  | "me" | "enclosingmark" => some [.me]
  | "n" | "number" => some [.nd, .nl, .no]
  | "nd" | "decimalnumber" | "digit" => some [.nd]
  | "nl" | "letternumber" => some [.nl]
  | "no" | "othernumber" => some [.no]
  | "p" | "punctuation" | "punct" => some [.pc, .pd, .ps, .pe, .pi, .pf, .po]
  | "pc" | "connectorpunctuation" => some [.pc]
  | "pd" | "dashpunctuation" => some [.pd]
  | "ps" | "openpunctuation" => some [.ps]
  | "pe" | "closepunctuation" => some [.pe]
  | "pi" | "initialpunctuation" => some [.pi]
  | "pf" | "finalpunctuation" => some [.pf]
  | "po" | "otherpunctuation" => some [.po]
  | "s" | "symbol" => some [.sm, .sc, .sk, .so]
  | "sm" | "mathsymbol" => some [.sm]
  | "sc" | "currencysymbol" => some [.sc]
  | "sk" | "modifiersymbol" => some [.sk]
  | "so" | "othersymbol" => some [.so]
  | "z" | "separator" => some [.zs, .zl, .zp]
  | "zs" | "spaceseparator" => some [.zs]
  | "zl" | "lineseparator" => some [.zl]
  | "zp" | "paragraphseparator" => some [.zp]
  | "c" | "other" => some [.cc, .cf, .co, .cn]
  | "cc" | "control" | "cntrl" => some [.cc]
  | "cf" | "format" => some [.cf]
  | "co" | "privateuse" => some [.co]
  | "cn" | "unassigned" => some [.cn]
  | _ => none

/-- A property name in lower case, without separators and without a leading "is". -/
def normalName (cs : List Char) : String :=
  let cs := (cs.filter fun c => !(c == ' ' || c == '_' || c == '-') && c.toNat < 0x80).map Char.toLower
  match cs with
  | ['i', 's', 'c'] => "isc"
  | 'i' :: 's' :: rest => String.ofList rest
  | _ => String.ofList cs

/-- The categories of a name, with the names for all and for ASCII characters. -/
def generalCategory? (name : String) : Option CharSet :=
  match name with
  | "any" => some (.range 0 0x10FFFF)
  | "assigned" => some (.compl (.categories [.cn]))
  | "ascii" => some (.range 0 0x7F)
  | _ => (categories? name).map .categories

/-- The set that a single property name stands for: a property, else a category, else a script. Three
names belong to categories although properties have them too. -/
def propertySet? (name : String) : Option CharSet :=
  if name != "cf" && name != "sc" && name != "lc" && (Unicode.property? name).isSome then
    some (.property name)
  else
    (generalCategory? name).or
      (if (Unicode.script? name).isSome then some (.script name) else none)

/-- The set that a property and its value stand for. -/
def propertyValueSet? (name value : String) : Option CharSet :=
  match name with
  | "gc" | "generalcategory" => generalCategory? value
  | "sc" | "script" => if (Unicode.script? value).isSome then some (.script value) else none
  | _ => none

end LineScript.Regex
