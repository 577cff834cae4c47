import Conform.Proofs.File.Path
import Conform.Proofs.Json.Unambiguous
import Conform.Proofs.Report.Annotations
import Conform.Proofs.Report.Json
/-!
# Nothing is lost in a report

The report is a JSON text, and a JSON text stands for one datum; so whoever decodes the report gets the
numbers of all entries and, in order, the files with what was found in them.  Of an entry it shows what
is known, and no more.  What it cannot show is whether two halves of a surrogate pair that stand next to
each other were the code point that they make up: reports have the same text if and only if they agree
once such halves are joined.  This is `writeReport_lossless`.
-/
namespace Conform

open Text (CodePoint codePoints)

/-! ### Entries -/

section Entries

variable {α : Type} {key : List CodePoint} {f : α → Datum} {o o' : Option α}
  {xs ys : List (List CodePoint × Datum)}

theorem fst_of_mem_entries {e : List CodePoint × Datum} (h : e ∈ (o.map fun a => (key, f a)).toList) :
    e.1 = key := by
  cases o with
  | none => cases h
  | some a =>
    obtain rfl := List.mem_singleton.mp h
    rfl

/-- An entry that may be left out is read off entries whose keys do not occur again. -/
theorem option_eq_of_entries (injective : Function.Injective f) (hx : ∀ e ∈ xs, e.1 ≠ key)
    (hy : ∀ e ∈ ys, e.1 ≠ key)
    (same : (o.map fun a => (key, f a)).toList ++ xs = (o'.map fun a => (key, f a)).toList ++ ys) :
    o = o' ∧ xs = ys := by
  cases o with
  | none =>
    cases o' with
    | none => exact ⟨rfl, same⟩
    | some b =>
      have present : (key, f b) ∈ xs := by
        change xs = (key, f b) :: ys at same
        rw [same]
        exact List.mem_cons_self ..
      exact absurd rfl (hx _ present)
  | some a =>
    cases o' with
    | none =>
      have present : (key, f a) ∈ ys := by
        change (key, f a) :: xs = ys at same
        rw [← same]
        exact List.mem_cons_self ..
      exact absurd rfl (hy _ present)
    | some b =>
      obtain ⟨entry, rest⟩ := List.cons.inj same
      exact ⟨congrArg some (injective (Prod.mk.inj entry).2), rest⟩

end Entries

/-- The datum of an entry shows all of it. -/
theorem ReportEntry.datum_injective : Function.Injective ReportEntry.datum := by
  rintro ⟨message, ⟨line, column⟩, path⟩ ⟨message', ⟨line', column'⟩, path'⟩ same
  simp only [datum, Datum.object.injEq, List.append_assoc, List.cons_append, List.nil_append,
    List.cons.injEq, Prod.mk.injEq, true_and, Datum.text.injEq] at same
  obtain ⟨rfl, entries⟩ := same
  -- The members are compared from the front; what is behind one has other names.
  have behindColumn (o : Option (List CodePoint)) :
      ∀ e ∈ (o.map fun p => (codePoints "path", Datum.text p)).toList, e.1 ≠ codePoints "column" := by
    intro e he
    rw [fst_of_mem_entries he]
    decide
  have behindLine (o : Option Int) (o' : Option (List CodePoint)) :
      ∀ e ∈ (o.map fun n => (codePoints "column", Datum.int n)).toList
        ++ (o'.map fun p => (codePoints "path", Datum.text p)).toList, e.1 ≠ codePoints "line" := by
    intro e he
    rcases List.mem_append.mp he with he | he
    · rw [fst_of_mem_entries he]
      decide
    · rw [fst_of_mem_entries he]
      decide
  have int : Function.Injective Datum.int := fun _ _ => Datum.int.inj
  have text : Function.Injective Datum.text := fun _ _ => Datum.text.inj
  obtain ⟨rfl, others⟩ :=
    option_eq_of_entries int (behindLine column path) (behindLine column' path') entries
  obtain ⟨rfl, last⟩ :=
    option_eq_of_entries int (behindColumn path) (behindColumn path') others
  have alone := congrArg (· ++ []) last
  obtain ⟨rfl, -⟩ := option_eq_of_entries text (by simp) (by simp) alone
  rfl

theorem ReportFile.datum_injective : Function.Injective ReportFile.datum := by
  rintro ⟨file, errors, warnings⟩ ⟨file', errors', warnings'⟩ same
  have entries := ReportEntry.datum_injective.list_map
  simp only [datum, Datum.object.injEq, List.cons.injEq, Prod.mk.injEq, true_and, and_true,
    Datum.text.injEq, Datum.array.injEq, entries.eq_iff] at same
  obtain ⟨rfl, rfl, rfl⟩ := same
  rfl

theorem reportDatum_injective : Function.Injective reportDatum := by
  intro fs gs same
  simp only [reportDatum, Datum.object.injEq, List.cons.injEq, Prod.mk.injEq, true_and, and_true,
    Datum.array.injEq] at same
  exact ReportFile.datum_injective.list_map same.2.2.2

/-! ### Checked files -/

theorem Finding.listed_injective : Function.Injective Finding.listed := by
  rintro ⟨message, position, path⟩ ⟨message', position', path'⟩ same
  have texts := Text.codePoints_injective
  simp only [listed, ReportEntry.mk.injEq, texts.eq_iff, (Option.map_injective texts).eq_iff] at same
  obtain ⟨rfl, rfl, rfl⟩ := same
  rfl

theorem FileReport.listed_eq_iff {r r' : FileReport} (hr : r.file.IsProper) (hr' : r'.file.IsProper) :
    r.listed = r'.listed ↔ r.file = r'.file ∧ r.errors = r'.errors ∧ r.warnings = r'.warnings := by
  have file : r.file.text = r'.file.text ↔ r.file = r'.file :=
    ⟨FilePath.eq_of_text_eq hr hr', congrArg FilePath.text⟩
  simp [listed, Finding.listed_injective.list_map.eq_iff, Text.codePoints_injective.eq_iff, file]

/-! ### The report -/

/-- The report is decoded in one way. -/
theorem decoded_reportText_iff (fs : List ReportFile) (d : Datum) :
    (∃ t : JsonText, t.chars = (reportText fs).toList ∧ t.datum = d) ↔
      d = reportDatum (fs.map ReportFile.joined) := by
  obtain ⟨u, chars, datum⟩ := exists_reportText fs
  constructor
  · rintro ⟨t, ht, rfl⟩
    rw [← datum]
    exact JsonText.datum_eq_of_chars_eq (ht.trans chars.symm)
  · rintro rfl
    exact ⟨u, chars, datum⟩

theorem reportText_eq_iff (fs gs : List ReportFile) : reportText fs = reportText gs ↔
    fs.map ReportFile.joined = gs.map ReportFile.joined := by
  constructor
  · intro same
    obtain ⟨t, chars, datum⟩ := (decoded_reportText_iff fs _).mpr rfl
    exact reportDatum_injective ((decoded_reportText_iff gs _).mp ⟨t, same ▸ chars, datum⟩)
  · intro same
    rw [← reportText_joined fs, same, reportText_joined]

theorem ReportFile.isWritable_joined (f : ReportFile) : f.joined.isWritable = f.isWritable := by
  simp [isWritable, joined, Function.comp_def, ReportEntry.isWritable, ReportEntry.joined]

theorem writeReport_eq_ok_iff {fs : List ReportFile} {text : String} : writeReport fs = .ok text ↔
    (∀ f ∈ fs, f.isWritable = true) ∧ reportText fs = text := by
  rw [writeReport, ← List.all_eq_true]
  split <;> simp_all

/-- What can be written does not depend on halves that are joined. -/
theorem writeReport_eq_ok_iff_of_ok {fs gs : List ReportFile} {text : String}
    (written : writeReport fs = .ok text) : writeReport gs = .ok text ↔
      fs.map ReportFile.joined = gs.map ReportFile.joined := by
  obtain ⟨writable, rfl⟩ := writeReport_eq_ok_iff.mp written
  rw [writeReport_eq_ok_iff, eq_comm, reportText_eq_iff]
  refine ⟨And.right, fun same => ⟨fun g hg => ?_, same⟩⟩
  obtain ⟨f, hf, joined⟩ := List.mem_map.mp (same ▸ List.mem_map_of_mem hg)
  rw [← g.isWritable_joined, ← joined, f.isWritable_joined]
  exact writable f hf

theorem map_joined_of_isWhole {fs : List ReportFile} (whole : ∀ f ∈ fs, f.isWhole = true) :
    fs.map ReportFile.joined = fs :=
  (List.map_congr_left fun f hf => f.joined_of_isWhole (whole f hf)).trans (List.map_id fs)

/-- **Nothing but halves is lost in a report.**  A report is written unless a number of a line or a
column has too many digits.  It is decoded as JSON to one datum only, which has the number of files, the
numbers of all errors and warnings, and the files in order, each with its errors and warnings in order;
in its texts, halves of surrogate pairs that stand next to each other are the code point that they make
up.  Reports are the same if and only if their files, errors and warnings are once such halves are
joined, and where there are none, nothing is joined. -/
theorem writeReport_lossless (fs : List ReportFile) :
    ((∃ text, writeReport fs = .ok text) ↔ ∀ f ∈ fs, f.isWritable = true) ∧
    ∀ text, writeReport fs = .ok text →
      (∀ d, (∃ t : JsonText, t.chars = text.toList ∧ t.datum = d) ↔ d = .object [
        (codePoints "files", .int fs.length),
        (codePoints "errors", .int (fs.flatMap (·.errors)).length),
        (codePoints "warnings", .int (fs.flatMap (·.warnings)).length),
        (codePoints "results", .array (fs.map fun f => f.joined.datum))]) ∧
      (∀ gs, writeReport gs = .ok text ↔
        fs.map ReportFile.joined = gs.map ReportFile.joined) ∧
      (∀ f ∈ fs, f.isWhole = true → f.joined = f) ∧
      ∀ gs, (∀ f ∈ fs ++ gs, f.isWhole = true) → (writeReport gs = .ok text ↔ fs = gs) := by
  refine ⟨⟨fun ⟨_, written⟩ => (writeReport_eq_ok_iff.mp written).1,
    fun writable => ⟨_, writeReport_eq_ok_iff.mpr ⟨writable, rfl⟩⟩⟩, fun text written => ?_⟩
  have decoded := decoded_reportText_iff fs
  simp only [reportDatum, ReportFile.length_errors_joined, ReportFile.length_warnings_joined,
    List.length_map, List.map_map, (writeReport_eq_ok_iff.mp written).2] at decoded
  refine ⟨decoded, fun gs => writeReport_eq_ok_iff_of_ok written,
    fun f _ whole => f.joined_of_isWhole whole, fun gs whole => ?_⟩
  rw [writeReport_eq_ok_iff_of_ok written,
    map_joined_of_isWhole fun f hf => whole f (List.mem_append_left gs hf),
    map_joined_of_isWhole fun f hf => whole f (List.mem_append_right fs hf)]

/-- A file with a warning that is a quote, a line feed and a character beyond the first plane. -/
def ReportFile.unescaped : ReportFile where
  file := codePoints "a b/é.yaml"
  warnings := [{ message := codePoints "\"\n😀" }]

/-- The same with the escapes of the three characters written out. -/
def ReportFile.escaped : ReportFile where
  file := codePoints "a b/é.yaml"
  warnings := [{ message := codePoints "\\\"\\n\\ud83d\\ude00" }]

theorem writeReport_lossless_escaped : ∃ text, writeReport [.unescaped] = .ok text ∧
    (∀ f ∈ [ReportFile.unescaped] ++ [.escaped], f.isWhole = true) ∧
    ReportFile.unescaped.joined = .unescaped ∧ writeReport [.escaped] ≠ .ok text := by
  obtain ⟨total, lossless⟩ := writeReport_lossless [.unescaped]
  obtain ⟨text, written⟩ := total.mpr (by decide)
  obtain ⟨-, -, kept, same⟩ := lossless text written
  have whole : ∀ f ∈ [ReportFile.unescaped] ++ [.escaped], f.isWhole = true := by decide
  refine ⟨text, written, whole, kept _ (List.mem_singleton_self _) (by decide), ?_⟩
  rw [Ne, same [.escaped] whole]
  decide

/-- A file with an error that names the two halves of a surrogate pair. -/
def ReportFile.halves : ReportFile where
  file := codePoints "a.json"
  errors := [{ message := codePoints "extraneous keys: " ++ [0xD83D, 0xDE00] }]

/-- The same with the character that they make up. -/
def ReportFile.character : ReportFile where
  file := codePoints "a.json"
  errors := [{ message := codePoints "extraneous keys: 😀" }]

/-- An object whose key is written with an escape for each half. -/
def halvesText : String := "\x7b\"\\ud83d\\ude00\": 1\x7d"

/-- Both are reported alike, and the first one has the error of a document that can be read. -/
theorem halves_reported_as_character : ReportFile.halves ≠ .character ∧
    (∃ text, writeReport [.halves] = .ok text ∧ writeReport [.character] = .ok text) ∧
    ∃ d, (∀ syntaxError origin, Document.ofText syntaxError origin halvesText.toList = .ok d) ∧
      ((Schema.object [] true).checkDocument { names := ["a.json"] } d).outcome.report.listed.errors.map
        (·.message) = ReportFile.halves.errors.map (·.message) := by
  refine ⟨by decide, ?_, ?_⟩
  · have written : writeReport [.halves] = .ok (reportText [.halves]) :=
      writeReport_eq_ok_iff.mpr ⟨by decide, rfl⟩
    exact ⟨_, written, (writeReport_eq_ok_iff_of_ok written).mpr (by decide)⟩
  -- The document is loaded with the halves, and the strict object names them in its rejection.
  · let halves := String.ofList [Text.ofCode 0xD83D, Text.ofCode 0xDE00]
    have composed : ∃ d, Yaml.Tree.ofText halvesText.toList = .ok (some d) ∧
        d.isPlain = true ∧ ∀ t ∈ d.nodes, ∀ k ∈ t.keyValues, k.isWritable = true := by
      apply Yaml.Tree.exists_of_any
      decide +kernel
    have loaded : Yaml.load halvesText.toList = .ok (.map [(.str halves, .int 1)]) :=
      Value.eq_ok_of_builtLike (by decide +kernel)
    obtain ⟨d, composed, plain, written⟩ := composed
    obtain ⟨-, -, document⟩ := Yaml.ofText_of_loaded composed plain loaded written
    refine ⟨_, document, ?_⟩
    have messages := Schema.checkDocument_messages (.object [] true) { names := ["a.json"] }
      ⟨.map [(.str halves, .int 1)], d.spotMap⟩
    have complaint : (Schema.object [] true).complaint (.map [(.str halves, .int 1)]) =
        some ("extraneous keys: " ++ halves) := rfl
    rw [complaint] at messages
    have listed (r : FileReport) : r.listed.errors.map (·.message) =
        (r.errors.map (·.message)).map codePoints := by
      simp only [FileReport.listed, List.map_map]
      rfl
    rw [listed, messages]
    decide +kernel

/-- Reports on checked files are the same if and only if the files are, with all that was found. -/
theorem jsonReport_eq_iff {rs rs' : List FileReport}
    (files : ∀ r ∈ rs ++ rs', ∃ s, r.file = .ofString s)
    (whole : ∀ r ∈ rs ++ rs', r.listed.isWhole = true) : jsonReport rs = jsonReport rs' ↔
      List.Forall₂ (fun r r' => r.file = r'.file ∧ r.errors = r'.errors ∧ r.warnings = r'.warnings)
        rs rs' := by
  have kept {qs : List FileReport} (within : ∀ r ∈ qs, r ∈ rs ++ rs') :
      (qs.map FileReport.listed).map ReportFile.joined = qs.map FileReport.listed :=
    map_joined_of_isWhole (List.forall_mem_map.mpr fun r hr => whole r (within r hr))
  rw [jsonReport, jsonReport, reportText_eq_iff, kept fun r => List.mem_append_left rs',
    kept fun r => List.mem_append_right rs, ← forall₂_map_eq_iff]
  refine forall₂_congr_of_mem fun r hr r' hr' => ?_
  obtain ⟨s, hs⟩ := files r (List.mem_append_left _ hr)
  obtain ⟨s', hs'⟩ := files r' (List.mem_append_right _ hr')
  exact r.listed_eq_iff (hs ▸ FilePath.isProper_ofString s) (hs' ▸ FilePath.isProper_ofString s')

end Conform
