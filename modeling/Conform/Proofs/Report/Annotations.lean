import Conform.Proofs.Independence
import Conform.Proofs.Schema.Shown
import Conform.Proofs.Value.Built
import Conform.Report.Format
/-!
# Annotations

Each finding of a report has a command that announces it, and the commands are put on lines of their
own.  A reader who cuts the report into lines again has one for each finding, unless the name of the
file or the message is broken.  What may break a message is what is shown as it is of the schema and
of the keys of the document, and what is said of a document that cannot be loaded; the main result,
`checkFiles_annotations`, traces it back to the files.
-/
namespace Conform

open Text

namespace FileReport

/-- A finding with the file that it is about, and whether it is an error. -/
structure Entry where
  file : FilePath
  isError : Bool
  finding : Finding

/-- The findings about a file, errors before warnings. -/
def entries (r : FileReport) : List Entry :=
  r.errors.map (⟨r.file, true, ·⟩) ++ r.warnings.map (⟨r.file, false, ·⟩)

namespace Entry

/-- The name of the command for a finding. -/
def command (e : Entry) : String := if e.isError then "error" else "warning"

/-- The command for a finding. -/
def annotation (e : Entry) : String := e.finding.annotation e.command e.file

/-- Whether a line announces a finding: by the command for its file at the start, and by its message
at the end. -/
structure AnnouncedBy (e : Entry) (line : String) : Prop where
  opening : ("::" ++ e.command ++ " file=").toList <+: line.toList
  message : e.finding.message.toList <:+ line.toList

/-- Whether a finding is about a file with an unbroken name, and its message is unbroken. -/
structure Unbroken (b : LineBreaks) (e : Entry) : Prop where
  file : b.Unbroken e.file.text
  message : b.Unbroken e.finding.message

theorem printable_command (e : Entry) : Printable e.command := by
  unfold command
  split <;> decide

theorem annotation_eq (e : Entry) : e.annotation = "::" ++ e.command ++ " file=" ++ e.file.text
    ++ ",line=" ++ toString (e.finding.position.line.getD 1) ++ "::" ++ e.finding.message := rfl

theorem announcedBy_annotation (e : Entry) : e.AnnouncedBy e.annotation := by
  constructor <;> rw [annotation_eq] <;> simp only [String.toList_append, List.append_assoc]
  · simp
  · simp only [← List.append_assoc]
    exact List.suffix_append ..

theorem annotation_ne_empty (e : Entry) : e.annotation ≠ "" := by
  rw [annotation_eq]
  simp

theorem unbroken_annotation_iff {b : LineBreaks} {e : Entry} :
    b.Unbroken e.annotation ↔ e.Unbroken b := by
  have command := b.unbroken_of_printable e.printable_command
  have line := b.unbroken_of_printable (printable_intText (e.finding.position.line.getD 1))
  have first := b.unbroken_of_printable (by decide : Printable "::")
  have second := b.unbroken_of_printable (by decide : Printable " file=")
  have third := b.unbroken_of_printable (by decide : Printable ",line=")
  have meaning : e.Unbroken b ↔ b.Unbroken e.file.text ∧ b.Unbroken e.finding.message :=
    ⟨fun h => ⟨h.file, h.message⟩, fun h => ⟨h.1, h.2⟩⟩
  rw [meaning, annotation_eq]
  simp only [LineBreaks.unbroken_append, command, line, first, second, third, true_and, and_true]

end Entry

/-- What is found is unbroken if the name of the file and each message are. -/
theorem forall_unbroken_iff {b : LineBreaks} {r : FileReport} :
    (∀ e ∈ r.entries, e.Unbroken b) ↔
      (∀ m ∈ r.errors.map (·.message), b.Unbroken r.file.text ∧ b.Unbroken m) ∧
      ∀ m ∈ r.warnings.map (·.message), b.Unbroken r.file.text ∧ b.Unbroken m := by
  have meaning : ∀ e : Entry, e.Unbroken b ↔
      b.Unbroken e.file.text ∧ b.Unbroken e.finding.message :=
    fun e => ⟨fun h => ⟨h.file, h.message⟩, fun h => ⟨h.1, h.2⟩⟩
  rw [entries, List.forall_mem_append]
  simp only [List.forall_mem_map, meaning]

theorem annotationReport_eq (rs : List FileReport) :
    annotationReport rs = "\n".intercalate ((rs.flatMap entries).map Entry.annotation) := by
  have each : ∀ r : FileReport, r.entries.map Entry.annotation =
      r.errors.map (Finding.annotation "error" r.file)
        ++ r.warnings.map (Finding.annotation "warning" r.file) := by
    intro r
    simp [entries, Entry.annotation, Entry.command, Function.comp_def]
  simp only [annotationReport, List.map_flatMap, each]

/-- The report is empty exactly if there are no findings. -/
theorem annotationReport_eq_empty_iff {rs : List FileReport} :
    annotationReport rs = "" ↔ rs.flatMap entries = [] := by
  rw [annotationReport_eq]
  cases rs.flatMap entries with
  | nil => simp
  | cons e es =>
    simp only [List.map_cons, reduceCtorEq, iff_false]
    exact LineBreaks.intercalate_ne_empty e.annotation_ne_empty

/-- The lines of the report announce the findings one by one exactly if all are unbroken. -/
theorem forall₂_announced_iff {b : LineBreaks} {rs : List FileReport} :
    List.Forall₂ Entry.AnnouncedBy (rs.flatMap entries) (b.lines (annotationReport rs)) ↔
      ∀ e ∈ rs.flatMap entries, e.Unbroken b := by
  have nonempty : ∀ t ∈ (rs.flatMap entries).map Entry.annotation, t ≠ "" :=
    List.forall_mem_map.mpr fun e _ => e.annotation_ne_empty
  rw [annotationReport_eq, LineBreaks.lines_intercalate nonempty]
  generalize rs.flatMap entries = es at nonempty
  constructor
  · intro announced e he
    have few : ((es.map Entry.annotation).flatMap b.lines).length ≤
        (es.map Entry.annotation).length := by
      rw [← announced.length_eq, List.length_map]
    exact Entry.unbroken_annotation_iff.mp
      (LineBreaks.unbroken_of_length_flatMap nonempty few _ (List.mem_map_of_mem he))
  · intro unbroken
    have single : (es.map Entry.annotation).flatMap b.lines = es.map Entry.annotation :=
      LineBreaks.flatMap_lines_of_unbroken nonempty (List.forall_mem_map.mpr fun e he =>
        Entry.unbroken_annotation_iff.mpr (unbroken e he))
    rw [single, List.forall₂_map_right_iff]
    exact List.forall₂_same.mpr fun e _ => e.announcedBy_annotation

end FileReport

namespace Schema

variable {fs : Files} {s : Schema} {l : Loader} {b : LineBreaks}

/-- Whether what is found in a file stays on one line: what is said of a document that cannot be
loaded, and what is shown as it is of one that is not accepted, with the name of the file. -/
structure StaysOnLine (b : LineBreaks) (fs : Files) (s : Schema) (l : Loader) (p : FilePath) :
    Prop where
  unloaded : ∀ m, (l.load fs p).outcome.2 = .error (.loading m) →
    b.Unbroken p.text ∧ b.Unbroken m
  empty : ∀ d, (l.load fs p).outcome.2 = .ok d → d.content.isNull = true → b.Unbroken p.text
  refused : ∀ d, (l.load fs p).outcome.2 = .ok d → s.complaint d.content ≠ none →
    b.Unbroken p.text ∧ ∀ text, s.Shows d.content text → b.Unbroken text

theorem checkDocument_messages (s : Schema) (p : FilePath) (d : Document) :
    (s.checkDocument p d).outcome.report.errors.map (·.message) =
      (s.complaint d.content).toList := by
  rw [checkDocument_errors, complaint, Traced.complaint]
  cases (s.trace d.content .root).result with
  | error f => rfl
  | ok n => cases hn : n.isValid <;> simp [hn]

theorem checkDocument_warnings (s : Schema) (p : FilePath) (d : Document) :
    (s.checkDocument p d).outcome.report.warnings =
      if d.content.isNull then [{ message := "Document is empty; checking it as null" }]
      else [] := by
  unfold checkDocument
  dsimp only
  cases d.content.isNull <;> cases (s.trace d.content .root).result with
  | error f => rfl
  | ok n => dsimp only; cases n.isValid <;> rfl

/-- What is found in a document that is loaded is unbroken exactly if it stays on one line. -/
theorem unbroken_checkDocument_iff {p : FilePath} {d : Document} :
    (∀ e ∈ (s.checkDocument p d).outcome.report.entries, e.Unbroken b) ↔
      (s.complaint d.content ≠ none →
        b.Unbroken p.text ∧ ∀ text, s.Shows d.content text → b.Unbroken text) ∧
      (d.content.isNull = true → b.Unbroken p.text) := by
  have warning := b.unbroken_of_printable
    (by decide : Printable "Document is empty; checking it as null")
  rw [FileReport.forall_unbroken_iff, checkDocument_messages, checkDocument_warnings,
    checkDocument_file]
  refine and_congr ?_ ?_
  · cases h : s.complaint d.content with
    | none => simp
    | some m => simp [← unbroken_complaint_iff h]
  · cases d.content.isNull <;> simp [warning]

/-- What is found in a file is unbroken exactly if it stays on one line. -/
theorem unbroken_checkFile_iff {p : FilePath} {c : Checked}
    (h : (s.checkFile fs p l).outcome.2 = .ok c) :
    (∀ e ∈ c.report.entries, e.Unbroken b) ↔ StaysOnLine b fs s l p := by
  rw [checkFile_outcome] at h
  cases hload : (l.load fs p).outcome.2 with
  | ok d =>
    rw [hload] at h
    -- A loaded file has no message of its own: its entries are those of the check.
    obtain rfl := Except.ok.inj h
    rw [unbroken_checkDocument_iff]
    refine ⟨fun found => ⟨by simp [hload], ?_, ?_⟩,
      fun stays => ⟨stays.refused d hload, stays.empty d hload⟩⟩
    · intro d' hd'
      obtain rfl := Except.ok.inj (hload.symm.trans hd')
      exact found.2
    · intro d' hd'
      obtain rfl := Except.ok.inj (hload.symm.trans hd')
      exact found.1
  | error f =>
    rw [hload] at h
    cases f with
    | loading m =>
      obtain rfl := Except.ok.inj h
      rw [FileReport.forall_unbroken_iff]
      refine ⟨fun found => ⟨fun m' hm' => ?_, by simp [hload], by simp [hload]⟩,
        fun stays => ?_⟩
      · obtain rfl : m = m' := by simpa [hload] using hm'
        simpa [FileReport.addError] using found.1
      · simpa [FileReport.addError] using stays.unloaded m hload
    | _ => cases h

/-- **One line for each finding.**  The annotations of the files that were checked are empty exactly
if nothing was found.  Cut into lines, wherever the reader breaks them, they announce the findings one
by one, file by file and errors before warnings, exactly if all that is found stays on one line. -/
theorem checkFiles_annotations {ps : List FilePath} {cs : List Checked}
    (checked : (s.checkFiles fs ps l).outcome.2 = .ok cs) (b : LineBreaks) :
    let reports := cs.map (·.report)
    (annotationReport reports = "" ↔ reports.flatMap FileReport.entries = []) ∧
    (List.Forall₂ FileReport.Entry.AnnouncedBy (reports.flatMap FileReport.entries)
      (b.lines (annotationReport reports)) ↔ ∀ p ∈ ps, StaysOnLine b fs s l p) := by
  refine ⟨FileReport.annotationReport_eq_empty_iff, FileReport.forall₂_announced_iff.trans ?_⟩
  rw [checkFiles_outcome (.refl fs l), mapM_eq_ok_iff] at checked
  have each : List.Forall₂ (fun p c => StaysOnLine b fs s l p ↔
      ∀ e ∈ c.report.entries, e.Unbroken b) ps cs :=
    checked.imp fun p c h => (unbroken_checkFile_iff h).symm
  rw [forall_iff_of_forall₂ each]
  simp only [List.mem_flatMap, List.mem_map]
  exact ⟨fun h c hc e he => h e ⟨_, ⟨c, hc, rfl⟩, he⟩,
    fun h e ⟨_, ⟨c, hc, hr⟩, he⟩ => h c hc e (hr ▸ he)⟩

/-- One file, with nothing in it. -/
def emptyFile : Files where
  here := .directory [("b.yaml", .file [])]

/-- An empty file and one that is not there, checked against an object without fields. -/
theorem checkFiles_annotations_missing : ∃ cs,
    (checkFiles emptyFile (object [] true) [{ names := ["b.yaml"] }, { names := ["c.yaml"] }]
      .plain).outcome.2 = .ok cs ∧
    ((cs.map (·.report)).flatMap FileReport.entries).length = 3 ∧
    List.Forall₂ FileReport.Entry.AnnouncedBy ((cs.map (·.report)).flatMap FileReport.entries)
      (LineBreaks.universal.lines (annotationReport (cs.map (·.report)))) := by
  have counted : (checkFiles emptyFile (object [] true)
      [{ names := ["b.yaml"] }, { names := ["c.yaml"] }] .plain).outcome.2.map
        (fun cs => ((cs.map (·.report)).flatMap FileReport.entries).length) = .ok 3 := by
    decide +kernel
  obtain ⟨cs, checked, three⟩ := of_map_eq_ok counted
  refine ⟨cs, checked, three, (checkFiles_annotations checked _).2.mpr ?_⟩
  have words : ∀ {t : String}, Printable t → LineBreaks.universal.Unbroken t :=
    LineBreaks.universal.unbroken_of_printable
  simp only [List.forall_mem_cons, List.not_mem_nil, false_implies, implies_true, and_true]
  constructor
  · have null : (Loader.plain.load emptyFile { names := ["b.yaml"] }).outcome.2.map
        (·.content.isNull) = .ok true := by
      decide +kernel
    obtain ⟨d, loaded, hd⟩ := of_map_eq_ok null
    refine ⟨by simp [loaded], fun _ _ _ => words (by decide), fun d' hd' _ =>
      ⟨words (by decide), fun text shown => ?_⟩⟩
    obtain rfl := Except.ok.inj (loaded.symm.trans hd')
    rw [isNull_iff.mp hd] at shown
    cases shown with
    | itself h =>
      cases h with
      | unknown named => cases named
    | part parts => cases parts
  · have missing : (Loader.plain.load emptyFile { names := ["c.yaml"] }).outcome.2 =
        .error (.loading "Instance file not found: c.yaml") := rfl
    refine ⟨fun m hm => ?_, by simp [missing], by simp [missing]⟩
    obtain rfl : "Instance file not found: c.yaml" = m := by simpa [missing] using hm
    exact ⟨words (by decide), words (by decide)⟩

/-- An object with one key, in which there is a line feed. -/
def brokenKeyText : String := "\x7b\"a\\nb\": 1\x7d\n"

/-- One file, with the object. -/
def brokenKeyFile : Files where
  here := .directory [("a.yaml", .file [123, 34, 97, 92, 110, 98, 34, 58, 32, 49, 125, 10])]

theorem load_brokenKeyFile : ∃ m, (Loader.plain.load brokenKeyFile
    { names := ["a.yaml"] }).outcome.2 = .ok ⟨.map [(.str "a\nb", .int 1)], m⟩ := by
  have composed : ∃ d, Yaml.Tree.ofText brokenKeyText.toList = .ok (some d) ∧
      d.isPlain = true ∧ ∀ t ∈ d.nodes, ∀ k ∈ t.keyValues, k.isWritable = true := by
    apply Yaml.Tree.exists_of_any
    decide +kernel
  have loaded : Yaml.load brokenKeyText.toList = .ok (.map [(.str "a\nb", .int 1)]) :=
    Value.eq_ok_of_builtLike (by decide +kernel)
  have decoded : Text.decodeUtf8 [123, 34, 97, 92, 110, 98, 34, 58, 32, 49, 125, 10] =
      .ok brokenKeyText.toList := by
    decide +kernel
  exact Loader.exists_load_of_text rfl rfl decoded (by decide +kernel) composed loaded

/-- An extraneous key is shown as it is, so that the annotation goes on on a further line. -/
theorem broken_key_breaks_annotation : ∃ cs,
    (checkFiles brokenKeyFile (object [] true) [{ names := ["a.yaml"] }] .plain).outcome.2 = .ok cs ∧
    ((cs.map (·.report)).flatMap FileReport.entries).map (·.finding.message) =
      ["extraneous keys: a\nb"] ∧
    ¬List.Forall₂ FileReport.Entry.AnnouncedBy ((cs.map (·.report)).flatMap FileReport.entries)
      (LineBreaks.lineFeeds.lines (annotationReport (cs.map (·.report)))) := by
  obtain ⟨m, loaded⟩ := load_brokenKeyFile
  generalize hd : (⟨.map [(.str "a\nb", .int 1)], m⟩ : Document) = d at loaded
  have complaint : (object [] true).complaint d.content = some "extraneous keys: a\nb" := by
    subst hd
    rfl
  have null : d.content.isNull = false := by
    subst hd
    rfl
  have messages : ((object [] true).checkDocument { names := ["a.yaml"] }
      d).outcome.report.entries.map (·.finding.message) = ["extraneous keys: a\nb"] := by
    have errors := checkDocument_messages (object [] true) { names := ["a.yaml"] } d
    rw [complaint] at errors
    simpa [FileReport.entries, checkDocument_warnings, null, Function.comp_def] using errors
  refine ⟨[((object [] true).checkDocument { names := ["a.yaml"] } d).outcome], ?_, ?_, ?_⟩
  · rw [checkFiles_outcome (.refl _ _), mapM_eq_ok_iff]
    exact .cons (by rw [checkFile_outcome, loaded]) .nil
  · simpa using messages
  · rw [FileReport.forall₂_announced_iff]
    intro unbroken
    obtain ⟨e, he, hm⟩ := List.mem_map.mp (messages ▸ List.mem_singleton_self _)
    have := (unbroken e (by simpa using he)).message
    rw [hm] at this
    exact absurd (this '\n' (by decide)) (by decide)

end Schema

end Conform
