import Conform.File.Path
import Conform.Source.Map
/-!
# Reports on files

A report on a file lists errors and warnings in the order in which they were found.  A file passes if
there is no error; then the report holds the reason why its instance was accepted.
-/
namespace Conform

/-- A message about a file, with what is known of the place it is about. -/
structure Finding where
  message : String
  position : Position := {}
  path : Option String := none
deriving DecidableEq, Repr, Inhabited

namespace Finding

/-- How the path of an error is shown; an unknown or empty one is the root. -/
def shownPath (f : Finding) : String :=
  match f.path with
  | none => "<root>"
  | some p => if p.isEmpty then "<root>" else p

/-- Line and column, each after a colon; a column is shown only behind a line. -/
def place (f : Finding) : String :=
  match f.position.line, f.position.column with
  | some l, some c => s!":{l}:{c}"
  | some l, none => s!":{l}"
  | none, _ => ""

end Finding

/-- What was found in a file. -/
structure FileReport where
  file : FilePath
  errors : List Finding := []
  warnings : List Finding := []
  acceptedReason : Option String := none
deriving DecidableEq, Repr, Inhabited

namespace FileReport

def addError (r : FileReport) (f : Finding) : FileReport := { r with errors := r.errors ++ [f] }

def addWarning (r : FileReport) (f : Finding) : FileReport :=
  { r with warnings := r.warnings ++ [f] }

def passes (r : FileReport) : Bool := r.errors.isEmpty

/-- Whether there is anything to say about the file. -/
def hasFindings (r : FileReport) : Bool := !(r.errors.isEmpty && r.warnings.isEmpty)

def errorCount : List FileReport → Nat
  | [] => 0
  | r :: rs => r.errors.length + errorCount rs

def warningCount : List FileReport → Nat
  | [] => 0
  | r :: rs => r.warnings.length + warningCount rs

/-- The number of files that do not pass. -/
def rejectedCount (rs : List FileReport) : Nat := rs.countP fun r => !r.passes

theorem errorCount_eq_zero_iff (rs : List FileReport) :
    errorCount rs = 0 ↔ ∀ r ∈ rs, r.passes = true := by
  induction rs with
  | nil => simp [errorCount]
  | cons r rs ih => simp_all [errorCount, passes]

end FileReport

end Conform
