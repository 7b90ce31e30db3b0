/-! The built-in functions: their names, what they return and which arguments they take. -/
namespace LineScript

/-- A built-in function. -/
inductive Builtin where
  | bufferDifference
  | bufferJoin
  | bufferPop
  | bufferShift
  | bufferSort
  | bufferSplit
  | mathRandom
  | osBasename
  | osCd
  | osChangeExtension
  | osCopy
  | osDirname
  | osExists
  | osIsDir
  | osListFiles
  | osMkdir
  | osPopd
  | osPushd
  | osPwd
  | osTempname
  | stringIndex
  | stringLength
  | stringPiece
  | stringReplace
  | stringSearch
  | stringSubstring
  deriving DecidableEq, Repr

/-- The parts of the library that do the work of functions. -/
inductive FunctionGroup where
  | buffer
  | math
  | os
  | string
  deriving DecidableEq, Repr

/-- A group with its article. -/
def FunctionGroup.phrase : FunctionGroup → String
  | buffer => "a buffer"
  | math => "a math"
  | os => "an os"
  | string => "a string"

/-- What stands for a parameter in a call: a buffer, a text, or a pattern or a text used as one. -/
inductive Parameter where
  | buffer
  | text
  | pattern
  deriving DecidableEq, Repr

/-- How a function is called. -/
structure Signature where
  name : String
  /-- Whether the result is a number. -/
  numeric : Bool
  parameters : List Parameter
  /-- How many of the parameters have to be given. -/
  required : Nat
  deriving DecidableEq, Repr

namespace Builtin

/-- The signature of a function. -/
def signature : Builtin → Signature
  | bufferDifference => ⟨"buffer.difference", true, [.buffer, .buffer, .buffer], 2⟩
  | bufferJoin => ⟨"buffer.join", false, [.buffer, .text], 1⟩
  | bufferPop => ⟨"buffer.pop", false, [.buffer], 1⟩
  | bufferShift => ⟨"buffer.shift", false, [.buffer], 1⟩
  | bufferSort => ⟨"buffer.sort", true, [.buffer, .text], 1⟩
  | bufferSplit => ⟨"buffer.split", true, [.buffer, .text, .text], 2⟩
  | mathRandom => ⟨"math.random", true, [.text, .text], 1⟩
  | osBasename => ⟨"os.basename", false, [.text], 1⟩
  | osCd => ⟨"os.cd", true, [.text], 0⟩
  | osChangeExtension => ⟨"os.changeextension", false, [.text, .text], 2⟩
  | osCopy => ⟨"os.copy", true, [.text, .text], 2⟩
  | osDirname => ⟨"os.dirname", false, [.text], 1⟩
  | osExists => ⟨"os.exists", true, [.text], 1⟩
  | osIsDir => ⟨"os.isdir", true, [.text], 1⟩
  | osListFiles => ⟨"os.listfiles", true, [.buffer, .text, .text], 2⟩
  | osMkdir => ⟨"os.mkdir", true, [.text], 1⟩
  | osPopd => ⟨"os.popd", true, [], 0⟩
  | osPushd => ⟨"os.pushd", true, [.text], 1⟩
  | osPwd => ⟨"os.pwd", false, [], 0⟩
  | osTempname => ⟨"os.tempname", false, [.text], 0⟩
  | stringIndex => ⟨"string.index", true, [.text, .text, .text], 2⟩
  | stringLength => ⟨"string.length", true, [.text], 1⟩
  | stringPiece => ⟨"string.piece", false, [.text, .text, .text], 3⟩
  | stringReplace => ⟨"string.replace", false, [.text, .text, .text, .text], 3⟩
  | stringSearch => ⟨"string.search", true, [.text, .pattern], 2⟩
  | stringSubstring => ⟨"string.substring", false, [.text, .text, .text], 2⟩

/-- The name of a function. -/
def name (f : Builtin) : String :=
  f.signature.name

/-- The word for a function inside the library: that of its constructor, with a capital. -/
def identifier (f : Builtin) : String :=
  (((reprStr f).splitOn ".").getLastD "").capitalize

/-- Where a function is looked for. -/
def group : Builtin → FunctionGroup
  | bufferDifference | bufferJoin | bufferPop | bufferShift | bufferSort | bufferSplit => .buffer
  | mathRandom => .math
  | stringIndex | stringLength | stringPiece | stringReplace | stringSearch | stringSubstring =>
    .string
  | _ => .os

/-- All functions. -/
def all : List Builtin :=
  [bufferDifference, bufferJoin, bufferPop, bufferShift, bufferSort, bufferSplit, mathRandom,
    osBasename, osCd, osChangeExtension, osCopy, osDirname, osExists, osIsDir, osListFiles, osMkdir,
    osPopd, osPushd, osPwd, osTempname, stringIndex, stringLength, stringPiece, stringReplace,
    stringSearch, stringSubstring]

/-- The function of a name. -/
def ofName? (name : String) : Option Builtin :=
  all.find? (·.name == name)

end Builtin

end LineScript
