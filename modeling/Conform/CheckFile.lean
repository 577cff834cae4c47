import Conform.Loader
import Conform.Report.Basic
import Conform.Schema.Trace
import Conform.Source.Location
/-!
# Checking files

A file is loaded and its instance traced.  A rejection is one error, at the position of the value
that was rejected; a file that cannot be loaded and a predicate without an answer are one error
without a position.  A fault of a scalar, which the loader does not turn into an error of the file,
ends the check of all files.
-/
namespace Conform

/-- A report on a file and the predicate calls that were made for it. -/
structure Checked where
  report : FileReport
  calls : List Call

namespace Schema

def checkerLogger : String := "schematize.checker"

def checkDocument (s : Schema) (p : FilePath) (d : Document) : Logged Checked :=
  let report : FileReport := { file := p }
  let report :=
    if d.content.isNull then
      report.addWarning { message := "Document is empty; checking it as null" }
    else report
  let t := s.trace d.content .root
  match t.result with
  | .error f =>
    .silent ⟨report.addError
      { message := s!"Unexpected error during check: {f.kind}: {f.message}" }, t.calls⟩
  | .ok n =>
    let reason := n.reason.getD "None"
    if n.isValid then
      .after (Log.debug checkerLogger s!"{p.text}: accepted ({reason})")
        ⟨{ report with acceptedReason := n.reason }, t.calls⟩
    else
      let found := Location.find d.sourceMap n.path (some p)
      .after (Log.debug checkerLogger s!"{p.text}: rejected at {n.shownPath}")
        ⟨report.addError { message := reason, position := found.position, path := n.path }, t.calls⟩

def checkFile (fs : Files) (s : Schema) (p : FilePath) (l : Loader) :
    Logged (Loader × Except Fault Checked) := do
  let (l, loaded) ← l.load fs p
  match loaded with
  | .ok d =>
    let c ← s.checkDocument p d
    return (l, .ok c)
  | .error (.loading m) =>
    return (l, .ok ⟨({ file := p } : FileReport).addError { message := m }, []⟩)
  | .error f => return (l, .error f)

def checkFiles (fs : Files) (s : Schema) :
    List FilePath → Loader → Logged (Loader × Except Fault (List Checked))
  | [], l => .silent (l, .ok [])
  | p :: ps, l => do
    let (l, first) ← s.checkFile fs p l
    match first with
    | .error f => return (l, .error f)
    | .ok c =>
      let (l, others) ← checkFiles fs s ps l
      return (l, others.map (c :: ·))

end Schema

end Conform
