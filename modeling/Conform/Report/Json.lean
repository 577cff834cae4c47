import Conform.Report.Basic
import Conform.Text.Quoted
import Conform.Value.Text
/-!
# Reports as JSON

The text has one item to a line, indented by two spaces for each level, and is ASCII throughout: a code
point beyond it is escaped, as two halves of a surrogate pair if it lies beyond the first plane.
-/
namespace Conform

open Text (CodePoint)

/-- A JSON value of a report. -/
inductive Json where
  | number (n : Int)
  | text (s : List CodePoint)
  | array (items : List Json)
  | object (members : List (String × Json))
deriving Inhabited

namespace Json

/-- A number in four hexadecimal digits after the escape mark. -/
def unicodeEscape (n : Nat) : String := "\\u" ++ String.ofList (Text.hexDigits 4 n)

def escape (c : CodePoint) : String :=
  if c.val = '\x22'.toNat then "\\\""
  else if c.val = '\\'.toNat then "\\\\"
  else if c.val = '\n'.toNat then "\\n"
  else if c.val = '\r'.toNat then "\\r"
  else if c.val = '\t'.toNat then "\\t"
  else if c.val = '\x08'.toNat then "\\b"
  else if c.val = '\x0c'.toNat then "\\f"
  else if ' '.toNat ≤ c.val ∧ c.val ≤ '~'.toNat then (Char.ofNat c).toString
  else if c.val < 0x10000 then unicodeEscape c
  else
    let n := c.val - 0x10000
    unicodeEscape (0xD800 + n / 0x400) ++ unicodeEscape (0xDC00 + n % 0x400)

def quote (s : List CodePoint) : String := "\"" ++ String.join (s.map escape) ++ "\""

def lineStart (level : Nat) : String := "\n" ++ String.ofList (List.replicate (2 * level) ' ')

def bracketed (opening closing : String) (level : Nat) (items : List String) : String :=
  if items.isEmpty then opening ++ closing
  else
    opening ++ ",".intercalate (items.map fun i => lineStart (level + 1) ++ i)
      ++ lineStart level ++ closing

mutual

/-- The text of a value whose first line is at a level. -/
def write (level : Nat) : Json → String
  | number n => toString n
  | text s => quote s
  | array items => bracketed "[" "]" level (writeItems (level + 1) items)
  | object members => bracketed "\x7b" "\x7d" level (writeMembers (level + 1) members)

def writeItems (level : Nat) : List Json → List String
  | [] => []
  | x :: xs => write level x :: writeItems level xs

def writeMembers (level : Nat) : List (String × Json) → List String
  | [] => []
  | (k, x) :: ms => (quote (Text.codePoints k) ++ ": " ++ write level x) :: writeMembers level ms

end

end Json

/-- A finding as it is reported: its texts are any code points. -/
structure ReportEntry where
  message : List CodePoint
  position : Position := {}
  path : Option (List CodePoint) := none
deriving DecidableEq, Repr, Inhabited

/-- A file as it is reported, by the text of its path. -/
structure ReportFile where
  file : List CodePoint
  errors : List ReportEntry := []
  warnings : List ReportEntry := []
deriving DecidableEq, Repr, Inhabited

/-- An entry; what is not known is left out. -/
def ReportEntry.json (e : ReportEntry) : Json :=
  let place (k : String) (n : Option Int) : List (String × Json) :=
    (n.map fun n => (k, Json.number n)).toList
  .object ([("message", .text e.message)] ++ place "line" e.position.line
    ++ place "column" e.position.column ++ (e.path.map fun p => ("path", Json.text p)).toList)

def ReportFile.json (f : ReportFile) : Json :=
  .object [("file", .text f.file), ("errors", .array (f.errors.map ReportEntry.json)),
    ("warnings", .array (f.warnings.map ReportEntry.json))]

/-- The report on files, after the numbers of files and entries. -/
def reportText (fs : List ReportFile) : String :=
  Json.write 0 (.object [("files", .number fs.length),
    ("errors", .number (fs.flatMap (·.errors)).length),
    ("warnings", .number (fs.flatMap (·.warnings)).length),
    ("results", .array (fs.map ReportFile.json))])

/-- Whether the numbers of an entry have no more digits than can be written. -/
def ReportEntry.isWritable (e : ReportEntry) : Bool :=
  Value.areWritable ((e.position.line.toList ++ e.position.column.toList).map .int)

def ReportFile.isWritable (f : ReportFile) : Bool := (f.errors ++ f.warnings).all (·.isWritable)

def writeReport (fs : List ReportFile) : Except Fault String :=
  if fs.all (·.isWritable) then .ok (reportText fs) else .error .integerUnwritable

def Finding.listed (f : Finding) : ReportEntry where
  message := Text.codePoints f.message
  position := f.position
  path := f.path.map Text.codePoints

def FileReport.listed (r : FileReport) : ReportFile where
  file := Text.codePoints r.file.text
  errors := r.errors.map Finding.listed
  warnings := r.warnings.map Finding.listed

/-- The report on files that were checked; the numbers of their lines can be written. -/
def jsonReport (rs : List FileReport) : String := reportText (rs.map FileReport.listed)

end Conform
