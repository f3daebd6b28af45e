/-!
# Help

The texts that are printed on request.
-/

namespace Emend

def version : String := "0.1.0"

namespace Cli

def programName : String := "retrace"

def versionText : String := programName ++ " " ++ version ++ "\n"

def helpLines : List String := [
  "Apply ordered multiline regex rules to a source file",
  "",
  "Usage: " ++ programName ++ " [OPTIONS] --rules <RULES> <FILE>",
  "",
  "Arguments:",
  "  <FILE>  Source file to rewrite",
  "",
  "Options:",
  "  -r, --rules <RULES>  JSON rule file; rules run in file order",
  "  -o, --output <PATH>  Write the result here instead of overwriting FILE",
  "      --dry-run        Apply rules and report without writing",
  "      --strict         Fail, writing nothing, if any rule matches nothing",
  "      --atomic         Write through a temp file, fsync, then rename",
  "      --backup         Copy the target to <target>.bak before writing",
  "      --report         Print the per-rule report as JSON",
  "  -v, --verbose        Enable debug logging",
  "  -h, --help           Print help",
  "  -V, --version        Print version"]

def helpText : String := String.join (helpLines.map (· ++ "\n"))

end Cli

end Emend
