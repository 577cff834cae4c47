import Conform.Proofs.Json.Writing
/-!
# The report as JSON

The report is a JSON text for one datum, which lists the files with all that was found in them.  Only
where the two halves of a surrogate pair stand next to each other in a text does the report stand for
another one, in which they are joined.
-/
namespace Conform

open Text (CodePoint codePoints)

/-! ### What a report holds -/

/-- An entry as a datum; what is not known is left out. -/
def ReportEntry.datum (e : ReportEntry) : Datum :=
  .object ([(codePoints "message", .text e.message)]
    ++ (e.position.line.map fun n => (codePoints "line", Datum.int n)).toList
    ++ (e.position.column.map fun n => (codePoints "column", Datum.int n)).toList
    ++ (e.path.map fun p => (codePoints "path", Datum.text p)).toList)

/-- A file and its entries as a datum. -/
def ReportFile.datum (f : ReportFile) : Datum :=
  .object [(codePoints "file", .text f.file),
    (codePoints "errors", .array (f.errors.map ReportEntry.datum)),
    (codePoints "warnings", .array (f.warnings.map ReportEntry.datum))]

/-- All files as a datum, after the numbers of files and entries. -/
def reportDatum (fs : List ReportFile) : Datum :=
  .object [(codePoints "files", .int fs.length),
    (codePoints "errors", .int (fs.flatMap (·.errors)).length),
    (codePoints "warnings", .int (fs.flatMap (·.warnings)).length),
    (codePoints "results", .array (fs.map ReportFile.datum))]

/-! ### Joined halves -/

/-- An entry whose texts are joined. -/
def ReportEntry.joined (e : ReportEntry) : ReportEntry :=
  { e with message := Text.joined e.message, path := e.path.map Text.joined }

/-- A file whose texts are joined. -/
def ReportFile.joined (f : ReportFile) : ReportFile where
  file := Text.joined f.file
  errors := f.errors.map ReportEntry.joined
  warnings := f.warnings.map ReportEntry.joined

/-- Whether no text of an entry has a first half directly followed by a second one. -/
def ReportEntry.isWhole (e : ReportEntry) : Bool := Text.isWhole e.message && e.path.all Text.isWhole

/-- `ReportEntry.isWhole` for a file and its entries. -/
def ReportFile.isWhole (f : ReportFile) : Bool :=
  Text.isWhole f.file && f.errors.all (·.isWhole) && f.warnings.all (·.isWhole)

theorem ReportEntry.joined_of_isWhole {e : ReportEntry} (whole : e.isWhole = true) :
    e.joined = e := by
  obtain ⟨message, path⟩ := Bool.and_eq_true_iff.mp whole
  have path : e.path.map Text.joined = e.path := by
    cases h : e.path with
    | none => rfl
    | some p =>
      rw [h] at path
      exact congrArg some (Text.joined_of_isWhole path)
  rw [joined, Text.joined_of_isWhole message, path]

theorem ReportFile.joined_of_isWhole {f : ReportFile} (whole : f.isWhole = true) : f.joined = f := by
  have each {es : List ReportEntry} (h : es.all (·.isWhole) = true) :
      es.map ReportEntry.joined = es :=
    (List.map_congr_left fun e he => e.joined_of_isWhole (List.all_eq_true.mp h e he)).trans
      (List.map_id es)
  rw [isWhole, Bool.and_eq_true, Bool.and_eq_true] at whole
  rw [joined, Text.joined_of_isWhole whole.1.1, each whole.1.2, each whole.2]

theorem ReportFile.length_errors_joined (fs : List ReportFile) :
    ((fs.map ReportFile.joined).flatMap (·.errors)).length = (fs.flatMap (·.errors)).length := by
  simp [List.flatMap_map, List.length_flatMap, joined]

theorem ReportFile.length_warnings_joined (fs : List ReportFile) :
    ((fs.map ReportFile.joined).flatMap (·.warnings)).length =
      (fs.flatMap (·.warnings)).length := by
  simp [List.flatMap_map, List.length_flatMap, joined]

/-! ### The text -/

namespace Json

theorem writeItems_eq_map (level : Nat) (items : List Json) :
    writeItems level items = items.map (write level) := by
  induction items with
  | nil => rfl
  | cons x xs ih => rw [writeItems, ih, List.map_cons]

theorem data_eq_map (items : List Json) : data items = items.map datum := by
  induction items with
  | nil => rfl
  | cons x xs ih => rw [data, ih, List.map_cons]

end Json

theorem ReportEntry.datum_json (e : ReportEntry) : e.json.datum = e.joined.datum := by
  obtain ⟨message, ⟨line, column⟩, path⟩ := e
  cases line <;> cases column <;> cases path <;> rfl

theorem ReportFile.datum_json (f : ReportFile) : f.json.datum = f.joined.datum := by
  have each (es : List ReportEntry) :
      Json.data (es.map ReportEntry.json) = (es.map ReportEntry.joined).map ReportEntry.datum := by
    rw [Json.data_eq_map, List.map_map, List.map_map]
    exact List.map_congr_left fun e _ => e.datum_json
  rw [ReportFile.datum, joined, ← each, ← each]
  rfl

theorem ReportEntry.write_joined (level : Nat) (e : ReportEntry) :
    e.joined.json.write level = e.json.write level := by
  obtain ⟨message, ⟨line, column⟩, path⟩ := e
  cases line <;> cases column <;> cases path <;>
    simp [joined, json, Json.write, Json.writeMembers, JsonText.quote_joined]

theorem ReportFile.write_joined (level : Nat) (f : ReportFile) :
    f.joined.json.write level = f.json.write level := by
  have each (level : Nat) (es : List ReportEntry) :
      Json.writeItems level ((es.map ReportEntry.joined).map ReportEntry.json) =
        Json.writeItems level (es.map ReportEntry.json) := by
    simp [Json.writeItems_eq_map, ReportEntry.write_joined, Function.comp_def]
  simp only [joined, json, Json.write, Json.writeMembers, JsonText.quote_joined, each]

/-- The report does not show which halves were joined. -/
theorem reportText_joined (fs : List ReportFile) :
    reportText (fs.map ReportFile.joined) = reportText fs := by
  have each (level : Nat) :
      Json.writeItems level ((fs.map ReportFile.joined).map ReportFile.json) =
        Json.writeItems level (fs.map ReportFile.json) := by
    simp [Json.writeItems_eq_map, ReportFile.write_joined, Function.comp_def]
  simp only [reportText, Json.write, Json.writeMembers, each, List.length_map,
    ReportFile.length_errors_joined, ReportFile.length_warnings_joined]

/-- The report is a JSON text for what it holds, with joined texts. -/
theorem exists_reportText (fs : List ReportFile) : ∃ t : JsonText,
    t.chars = (reportText fs).toList ∧ t.datum = reportDatum (fs.map ReportFile.joined) := by
  obtain ⟨t, chars, datum⟩ := Json.exists_jsonText (.object [("files", .number fs.length),
    ("errors", .number (fs.flatMap (·.errors)).length),
    ("warnings", .number (fs.flatMap (·.warnings)).length),
    ("results", .array (fs.map ReportFile.json))])
  refine ⟨t, chars, datum.trans ?_⟩
  have results : Json.data (fs.map ReportFile.json) =
      (fs.map ReportFile.joined).map ReportFile.datum := by
    rw [Json.data_eq_map, List.map_map, List.map_map]
    exact List.map_congr_left fun f _ => f.datum_json
  rw [reportDatum, ← results, ReportFile.length_errors_joined, ReportFile.length_warnings_joined,
    List.length_map]
  rfl

theorem exists_jsonReport (rs : List FileReport) : ∃ t : JsonText,
    t.chars = (jsonReport rs).toList ∧ t.datum = reportDatum (rs.map (·.listed.joined)) := by
  obtain ⟨t, chars, datum⟩ := exists_reportText (rs.map FileReport.listed)
  exact ⟨t, chars, by rw [datum, List.map_map, Function.comp_def]⟩

end Conform
