/-! What the program says about itself. -/
namespace LineScript.CommandLine

/-- The name and the number of the version. -/
def versionText : String :=
  "sesknife 0.1.0\n"

/-- How the program is called, in one line. -/
def usageLine : String :=
  "Usage: sesknife [OPTIONS] <SCRIPT> [FILES]..."

/-- What the program does and the arguments that it takes. -/
def helpText : String :=
  "\n".intercalate [
    "Runs a Search Engine Script against each input file, or once against an empty buffer.",
    "",
    usageLine,
    "",
    "Arguments:",
    "  <SCRIPT>    Script file to run",
    "  [FILES]...  Files loaded one after another into the main buffer",
    "",
    "Options:",
    "  -D, --define <NAME=VALUE>  Set a script parameter (names starting with '_' are global)",
    "  -i, --in-place             Write changed buffers back to their files",
    "  -p, --print                Print the main buffer after each run",
    "      --trace                Trace every executed statement on stderr",
    "      --trace-json           Trace every executed statement as JSON lines on stderr",
    "  -v, --verbose...           More diagnostics (-v, -vv, -vvv)",
    "      --max-loops <N>        Abort any loop after this many iterations",
    "  -h, --help                 Print help",
    "  -V, --version              Print version",
    ""]

/-- What is said if the arguments cannot be read. -/
def misuseText : String :=
  "error: unexpected arguments\n\n" ++ usageLine ++ "\n\nFor more information, try '--help'.\n"

end LineScript.CommandLine
