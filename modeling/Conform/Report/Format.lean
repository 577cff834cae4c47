import Conform.Report.Json
/-!
# Formats of reports

Four formats: lines for a reader, JSON, commands that annotate files in a workflow, and a page of
markdown.  Only the page mentions files without findings.
-/
namespace Conform

/-- The formats by name. -/
inductive ReportFormat where
  | human
  | json
  | annotations
  | markdown
deriving DecidableEq, Repr, Inhabited

namespace ReportFormat

def name : ReportFormat → String
  | human => "human"
  | json => "json"
  | annotations => "github-actions"
  | markdown => "markdown"

/-- The formats in the order in which they are offered. -/
def all : List ReportFormat := [human, json, annotations, markdown]

def ofName? (s : String) : Option ReportFormat := all.find? (·.name == s)

theorem ofName?_name (f : ReportFormat) : ofName? f.name = some f := by
  cases f <;> decide

end ReportFormat

/-! ### Lines for a reader -/

def FileReport.humanLines (r : FileReport) : List String :=
  if r.hasFindings then
    s!"\n{r.file.text}:"
      :: (r.errors.map fun f => s!"  ERROR{f.place}: {f.shownPath}: {f.message}")
      ++ r.warnings.map fun f => s!"  WARNING{f.place}: {f.message}"
  else []

/-- The lines about all files. -/
def humanReport (rs : List FileReport) : String :=
  "\n".intercalate (rs.flatMap FileReport.humanLines)

/-! ### Annotations -/

/-- The command that annotates a file with a finding; without a line it is put at the first. -/
def Finding.annotation (command : String) (file : FilePath) (f : Finding) : String :=
  s!"::{command} file={file.text},line={f.position.line.getD 1}::{f.message}"

def annotationReport (rs : List FileReport) : String :=
  "\n".intercalate (rs.flatMap fun r =>
    r.errors.map (Finding.annotation "error" r.file)
      ++ r.warnings.map (Finding.annotation "warning" r.file))

/-! ### Markdown -/

/-- A number that is known and not zero. -/
def counted? (n : Option Int) : Option Int := n.filter (· ≠ 0)

def Finding.errorPlace (f : Finding) : String :=
  match counted? f.position.line, counted? f.position.column with
  | some l, some c => s!"line {l}, column {c} "
  | some l, none => s!"line {l} "
  | none, _ => ""

def Finding.warningPlace (f : Finding) : String :=
  match counted? f.position.line with
  | some l => s!"line {l} "
  | none => ""

def Finding.errorItem (f : Finding) : String :=
  "- **ERROR** " ++ f.errorPlace ++ "\x60" ++ f.shownPath ++ "\x60: " ++ f.message ++ "\n"

def Finding.warningItem (f : Finding) : String :=
  "- **WARNING** " ++ f.warningPlace ++ "\x60" ++ f.shownPath ++ "\x60: " ++ f.message ++ "\n"

def FileReport.section_ (r : FileReport) : String :=
  "## \x60" ++ r.file.text ++ "\x60\n\n"
    ++ (if r.hasFindings then "" else "Accepted: " ++ r.acceptedReason.getD "None" ++ "\n")
    ++ String.join (r.errors.map Finding.errorItem)
    ++ String.join (r.warnings.map Finding.warningItem) ++ "\n"

/-- The page about all files, which were checked against the schema of the given name. -/
def markdownReport (schemaName : String) (rs : List FileReport) : String :=
  "# Schema check report\n\nSchema: \x60" ++ schemaName ++ "\x60\n\n"
    ++ "| Files | Rejected | Errors | Warnings |\n| ----- | -------- | ------ | -------- |\n"
    ++ s!"| {rs.length} | {FileReport.rejectedCount rs} | {FileReport.errorCount rs} | "
    ++ s!"{FileReport.warningCount rs} |\n\n" ++ String.join (rs.map FileReport.section_)

def ReportFormat.write (f : ReportFormat) (schemaName : String) (rs : List FileReport) : String :=
  match f with
  | human => humanReport rs
  | json => jsonReport rs
  | annotations => annotationReport rs
  | markdown => markdownReport schemaName rs

end Conform
