import Conform.CheckFile
import Conform.CommandLine.Usage
import Conform.File.Search
import Conform.Log.Shown
import Conform.Reference
import Conform.Settings
/-!
# Runs of the command

A run reads its line, finds the schema and the instance files, checks them and writes a report.  It
ends with zero if there are no errors, with one if there are some or no files at all, and with two if
the line or the reference to the schema cannot be used.  What the log shows comes before the report.

Runs may follow one another: a level for the log that was set on a line stays set, and the loader
keeps its documents.
-/
namespace Conform.CommandLine

/-- What a run leaves to the next. -/
structure Session where
  settings : Settings := {}
  loader : Loader

def Session.ofEnvironment (syntaxError : List Char → String) (e : Environment) : Session :=
  let settings := Settings.ofEnvironment e
  { settings, loader := { syntaxError, caching := settings.caching } }

/-- How a run ended, and what it printed. -/
structure Outcome where
  session : Session
  exit : Except Fault Nat
  output : String := ""
  errors : String := ""

/-- An exit code and the text printed at the end. -/
abbrev Ending := Nat × String

/-- The format of the report; one that is not given comes from the settings. -/
def reportFormat (s : Settings) (o : Options) : ReportFormat :=
  match o.format with
  | .value f => f
  | .nothing => .human
  | .absent => (ReportFormat.ofName? s.outputFormat).getD .human

/-- The exit code and the text at the end of a check.  A report for a reader says so if there are no
errors, unless the format was given as nothing. -/
def ending (s : Settings) (o : Options) (schemaName : String) (rs : List FileReport) : Ending :=
  let format := reportFormat s o
  let report := format.write schemaName rs
  let report := if report = "" then "" else report ++ "\n"
  if FileReport.errorCount rs > 0 then (1, report)
  else if format = .human ∧ o.format ≠ .nothing then
    (0, report ++ s!"Check succeeded for {rs.length} file(s) with no errors.\n")
  else (0, report)

/-- The paths of a line; without any the working directory is checked. -/
def Options.filePaths (o : Options) : List FilePath :=
  (if o.paths = [] then ["."] else o.paths).map FilePath.ofString

def checkAgainst (fs : Files) (s : Settings) (o : Options) (schemaName : String) (schema : Schema)
    (l : Loader) : Logged (Loader × Except Fault Ending) := do
  let files ← fs.search o.filePaths
  if files = [] then
    .after (Log.error Files.searchLogger "No YAML or JSON instance files found.") (l, .ok (1, ""))
  else
    let (l, checked) ← schema.checkFiles fs files l
    return (l, checked.map fun cs => ending s o schemaName (cs.map (·.report)))

def check (registry : Registry) (fs : Files) (s : Settings) (o : Options) (l : Loader) :
    Logged (Loader × Except Fault Ending) :=
  match o.schema with
  | .value reference => do
    match ← registry.resolve reference with
    | .ok schema => checkAgainst fs s o reference schema l
    | .error (.reference m) => .after (Log.error Files.searchLogger m) (l, .ok (2, ""))
    | .error f => return (l, .error f)
  | _ => .silent (l, .error .noReference)

/-- The settings after a line was read. -/
def settingsFor (s : Settings) (o : Options) : Settings :=
  match o.logLevel.value? with
  | some level => if level = "" then s else { s with logLevel := level }
  | none => s

def run (registry : Registry) (fs : Files) (line : List String) (session : Session) : Outcome :=
  match Command.ofTexts line with
  | .error e => { session, exit := .ok 2, errors := refusal e }
  | .ok .help => { session, exit := .ok 0, output := help }
  | .ok (.check o) =>
    let settings := settingsFor session.settings o
    let result := check registry fs settings o session.loader
    let (loader, ended) := result.outcome
    let shown (stream : Log.Stream) := Log.shownOn settings.routing .usual stream result.log
    { session := { settings, loader }
      exit := ended.map (·.1)
      output := shown .output ++ (match ended with
        | .ok (_, text) => text
        | .error _ => "")
      errors := shown .errors }

end Conform.CommandLine
