import Conform.CommandLine.Options
/-!
# Usage

The texts that tell how the command is used.
-/
namespace Conform.CommandLine

def programName : String := "schematize-check"

def usage : String :=
  let indent := "                        "
  s!"usage: {programName} [-h] --schema SCHEMA\n"
    ++ indent ++ "[--format \x7bhuman,json,github-actions,markdown\x7d]\n"
    ++ indent ++ "[--log-level LOG_LEVEL]\n"
    ++ indent ++ "[paths ...]\n"

/-- What is shown on a request for help. -/
def help : String :=
  usage
    ++ "\nCheck YAML/JSON instance files against a schematize schema\n"
    ++ "\npositional arguments:\n"
    ++ "  paths                 File paths or directories to check (default: current\n"
    ++ "                        directory)\n"
    ++ "\noptions:\n"
    ++ "  -h, --help            show this help message and exit\n"
    ++ "  --schema SCHEMA       Schema to check against, as 'package.module:attribute'\n"
    ++ "  --format \x7bhuman,json,github-actions,markdown\x7d\n"
    ++ "                        Output format (default: human)\n"
    ++ "  --log-level LOG_LEVEL\n"
    ++ "                        Logging level (default: SCHEMATIZE_LOG_LEVEL or\n"
    ++ "                        WARNING)\n"

/-- What is shown for a line that cannot be read. -/
def refusal (e : UsageError) : String := s!"{usage}{programName}: error: {e.message}\n"

end Conform.CommandLine
