import LineScript.Run.State

/-! Reading a configuration from plain data. -/
namespace LineScript

/-- A value as configurations are written down. -/
inductive ConfigValue where
  | null
  /-- A whole number from zero on. -/
  | number (n : Nat)
  | text (s : String)
  | list (vs : List ConfigValue)
  | fields (fs : List (String × ConfigValue))
  /-- Any other value: a truth value, or a negative or broken number. -/
  | other
  deriving Inhabited

namespace ConfigValue

/-- The text that a value is. -/
def asText? : ConfigValue → Option String
  | text s => some s
  | _ => none

/-- The texts that a value lists. -/
def asTexts? : ConfigValue → Option (List String)
  | list vs => vs.mapM asText?
  | _ => none

/-- The limit that a value is, which may be absent. A limit has 64 bits. -/
def asLimit? : ConfigValue → Option (Option Nat)
  | null => some none
  | number n => if n < Number.twoTo 64 then some (some n) else none
  | _ => none

end ConfigValue

/-- A value that is given, as it is read, or else the default. -/
def givenOr {α β : Type} (default : β) (read : α → Option β) : Option α → Option β
  | some v => read v
  | none => some default

namespace Config

/-- The configuration of up to three values. -/
def ofValues? (directories extension limit : Option ConfigValue) : Option Config := do
  let scriptDirectories ← givenOr [] (·.asTexts?) directories
  let scriptExtension ← givenOr "ses" (·.asText?) extension
  let loopLimit ← givenOr none (·.asLimit?) limit
  return { scriptDirectories, scriptExtension, loopLimit }

/-- The configuration of a value: its fields by name, other fields not counting, or the fields in
order. -/
def ofValue? : ConfigValue → Option Config
  | .fields fs =>
    ofValues? (fs.lookup "script_dirs") (fs.lookup "script_extension")
      (fs.lookup "max_loop_iterations")
  | .list vs => if 3 < vs.length then none else ofValues? vs[0]? vs[1]? vs[2]?
  | _ => none

end Config

end LineScript
