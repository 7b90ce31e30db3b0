import LineScript.CommandLine.Arguments
import LineScript.CommandLine.Filter
import LineScript.Files.Path

/-! What the environment settles: where scripts are looked for, where the user is at home, and which
notes are shown. -/
namespace LineScript.CommandLine

/-- Variables that were set outside of the program. -/
abbrev Environment := List (String × String)

namespace Environment

/-- The home directory. -/
def home? (env : Environment) : Option String :=
  (env.lookup "HOME").filter (!·.isEmpty)

/-- Where temporary files are made. -/
def temporary (env : Environment) : String :=
  (env.lookup "TMPDIR").getD "/tmp"

/-- The directory of the configurations of the user. -/
def configDirectory? (env : Environment) : Option String :=
  ((env.lookup "XDG_CONFIG_HOME").filter Path.isAbsolute).or
    (env.home?.map (Path.join · ".config"))

/-- The directory of the scripts of the user. -/
def ownScripts? (env : Environment) : Option String :=
  env.configDirectory?.map fun d => Path.join (Path.join d "sesknife") "scripts"

/-- The directories that are listed in the environment, between colons. -/
def listedScripts (env : Environment) : List String :=
  (env.lookup "SES_PATH").elim [] (Text.pieces · ":")

/-- The filter on notes: the one of the environment, or one for all parts, which shows more the more
often the user asks for it. -/
def filter (env : Environment) (verbosity : Nat) : List FilterFault × Filter :=
  match env.lookup "RUST_LOG" with
  | some text => Filter.read text
  | none =>
    let most := match verbosity with
      | 0 => Level.warn
      | 1 => .info
      | 2 => .debug
      | _ => .trace
    ([], .ofRules [{ threshold := some most }] none)

end Environment

end LineScript.CommandLine
