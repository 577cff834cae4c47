import Conform.Log.Root
import Conform.Text.LowerText
/-!
# Settings

Settings are taken from variables of the environment, each of which has a default.  A level that has
no name counts as a warning.
-/
namespace Conform

/-- Variables and their values; of a variable that is set twice the later value counts. -/
abbrev Environment := List (String × String)

/-- The value of a variable. -/
def Environment.get? (e : Environment) (name : String) : Option String :=
  (e.reverse.find? (·.1 == name)).map (·.2)

/-- What the loader and the command line are set to. -/
structure Settings where
  logLevel : String := "WARNING"
  printLevel : String := "WARNING"
  caching : Bool := true
  outputFormat : String := "human"
deriving DecidableEq, Repr, Inhabited

namespace Settings

def variableStart : String := "SCHEMATIZE_"

def variableNames : List String :=
  ["LOG_LEVEL", "PRINT_LEVEL", "CACHE_ENABLED", "OUTPUT_FORMAT"].map (variableStart ++ ·)

/-- The settings of an environment; caching is on only where its variable says so. -/
def ofEnvironment (e : Environment) : Settings :=
  let get (name default : String) : String := (e.get? (variableStart ++ name)).getD default
  { logLevel := get "LOG_LEVEL" "WARNING"
    printLevel := get "PRINT_LEVEL" "WARNING"
    caching := Text.lowerText (get "CACHE_ENABLED" "true").toList == "true".toList
    outputFormat := get "OUTPUT_FORMAT" "human" }

/-- The text of the source root, from which files are named in locations. -/
def sourceRoot (e : Environment) : Option String := e.get? (variableStart ++ "SOURCE_ROOT")

/-- Where records are shown under the settings. -/
def routing (s : Settings) : Log.Routing where
  rootLevel := Log.levelOfName (some s.logLevel) Log.warningLevel
  errorLevel := Log.levelOfName (some s.printLevel) Log.warningLevel

def setLogging (s : Settings) (root : Log.Root) : Log.Root :=
  root.split { s.routing with layout := some .usual }

def programLogger : String := "schematize"

theorem ofEnvironment_nil : ofEnvironment [] = {} := by decide

end Settings

end Conform
