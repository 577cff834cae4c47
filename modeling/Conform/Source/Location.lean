import Conform.File.Path
import Conform.Source.Map
/-!
# Locations

A location names a file, a diagnostic path and a position, each of which may be unknown.  Its text
is put behind a message; a file below the source root is named from there.
-/
namespace Conform

/-- Where something was found. -/
structure Location where
  file : Option FilePath := none
  path : Option String := none
  position : Position := {}
deriving DecidableEq, Repr, Inhabited

namespace Location

/-- The location of the value that a diagnostic path leads to. -/
def find (m : SourceMap) (path : Option String) (file : Option FilePath) : Location :=
  { file, path, position := m.locate (path.getD "").toList }

/-- A file as it is shown, given the text of the source root. -/
def shownFile (root : Option String) (file : FilePath) : String :=
  match root with
  | none => file.text
  | some r =>
    if r.isEmpty then file.text
    else ((file.relativeTo? (.ofString r)).getD file).text

/-- A file with line and column; a column is shown only behind a line. -/
def placed (file : String) (p : Position) : String :=
  match p.line, p.column with
  | some l, some c => s!"{file}:{l}:{c}"
  | some l, none => s!"{file}:{l}"
  | none, _ => file

def shownParts (root : Option String) (l : Location) : List String :=
  (match l.file with
    | some f => ["source=" ++ placed (shownFile root f) l.position]
    | none => [])
  ++ (match l.path with
    | some p => if p.isEmpty then [] else ["path=" ++ p]
    | none => [])

/-- The location as it is put behind a message; nothing if nothing of it is shown. -/
def text (root : Option String) (l : Location) : String :=
  match l.shownParts root with
  | [] => ""
  | parts => " (" ++ " ".intercalate parts ++ ")"

end Location

end Conform
