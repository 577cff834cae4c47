import Conform.Proofs.CommandLine.Check
import Conform.Proofs.Loader
import Conform.Proofs.Json.Unambiguous
import Conform.Proofs.Log.Records
import Conform.Proofs.Report.Json
/-!
# The report on the output

The report is printed after what the log shows on the same stream.  As JSON it can be read by a
program that reads all of the output exactly if the log shows nothing there, and then the output is
one JSON text; the main result, `run_json_output`, says for which levels this is so.
-/
namespace Conform

namespace JsonText

/-! ### What no JSON text starts with -/

/-- A JSON text starts with a blank or with its value. -/
theorem exists_chars (t : JsonText) : ∃ c rest, t.chars = c :: rest ∧ c ≠ 's' := by
  rw [chars, List.append_assoc]
  cases t.before with
  | nil =>
    obtain ⟨c, rest, h, opens, -⟩ := t.root.exists_chars
    have other : 's' ∉ openingChars := by decide
    refine ⟨c, _, by rw [h]; rfl, ?_⟩
    rintro rfl
    exact other opens
  | cons b bs => exact ⟨b.char, _, rfl, by cases b <;> decide⟩

/-- No JSON text starts with the name of a logger. -/
theorem not_prefix_append (t : JsonText) (rest : List Char) :
    ¬Settings.programLogger.toList <+: t.chars ++ rest := by
  obtain ⟨c, cs, h, other⟩ := t.exists_chars
  rw [h]
  rintro ⟨behind, same⟩
  exact other (List.cons.inj same).1.symm

end JsonText

namespace CommandLine

variable {registry : Registry} {fs : Files} {o : Options} {l : Loader} {session : Session}
  {line : List String} {reference : String} {schema : Schema} {cs : List Checked}

theorem run_output (parsed : Command.ofTexts line = .ok (.check o)) (session : Session)
    {e : Ending} (ended : (check registry fs (settingsFor session.settings o) o
      session.loader).outcome.2 = .ok e) :
    (run registry fs line session).output =
      Log.shownOn (settingsFor session.settings o).routing .usual .output
        (check registry fs (settingsFor session.settings o) o session.loader).log ++ e.2 := by
  simp only [run, parsed, ended]

/-- What a run prints of its log is what the root writes when it is split under the settings of the
run, whatever handlers it had before. -/
theorem run_eq_textOn (parsed : Command.ofTexts line = .ok (.check o)) (session : Session)
    (root : Log.Root) :
    let settings := settingsFor session.settings o
    let result := check registry fs settings o session.loader
    let written := (settings.setLogging root).writeAll result.log
    (run registry fs line session).errors = Log.textOn .errors written ∧
    (run registry fs line session).output = Log.textOn .output written ++
      (match result.outcome.2 with
        | .ok (_, text) => text
        | .error _ => "") := by
  intro settings result written
  have shown (stream : Log.Stream) :
      Log.textOn stream written = Log.shownOn settings.routing .usual stream result.log :=
    Log.Root.textOn_split ..
  rw [shown, shown]
  simp only [run, parsed]
  exact ⟨rfl, rfl⟩

theorem ending_json {s : Settings} (format : reportFormat s o = .json) (name : String)
    {rs : List FileReport} (nonempty : jsonReport rs ≠ "") :
    (ending s o name rs).2 = jsonReport rs ++ "\n" := by
  have report : ReportFormat.json.write name rs = jsonReport rs := rfl
  simp only [ending, format, report, if_neg nonempty]
  split <;> simp

/-- Whether the log shows nothing on the output: records at the debug level go elsewhere, and so do
the warnings of the search if there are any. -/
structure Quiet (r : Log.Routing) (fs : Files) (o : Options) : Prop where
  debug : ¬(r.rootLevel ≤ Log.debugLevel ∧ Log.debugLevel < r.errorLevel)
  warning : (fs.search o.filePaths).log ≠ [] →
    ¬(r.rootLevel ≤ Log.warningLevel ∧ Log.warningLevel < r.errorLevel)

theorem Reports.isOwn (reports : Reports registry fs o l reference schema cs) (s : Settings) :
    ∀ record ∈ (check registry fs s o l).log, ∃ level, record.IsOwn level := by
  obtain ⟨first, resolved, own⟩ := Registry.log_resolve reports.resolved
  intro record h
  rw [reports.log, resolved, List.mem_append, List.mem_append] at h
  rcases h with h | h | h
  · obtain rfl := List.mem_singleton.mp h
    exact ⟨_, own⟩
  · exact ⟨_, fs.log_search _ record h⟩
  · exact ⟨_, Schema.log_checkFiles _ _ _ _ record h⟩

/-- The records on the output are those of the search, all others, both or none. -/
theorem Reports.meantFor_eq_nil_iff (reports : Reports registry fs o l reference schema cs)
    (s : Settings) (r : Log.Routing) :
    Log.meantFor r .output (check registry fs s o l).log = [] ↔ Quiet r fs o := by
  obtain ⟨first, resolved, own⟩ := Registry.log_resolve reports.resolved
  have debug := Log.Routing.stream?_eq_output_iff (r := r) (Int.le_refl Log.debugLevel)
  have warning := Log.Routing.stream?_eq_output_iff (r := r)
    (by decide : Log.debugLevel ≤ Log.warningLevel)
  have meaning : Quiet r fs o ↔ r.stream? Log.debugLevel ≠ some .output ∧
      ((fs.search o.filePaths).log ≠ [] → r.stream? Log.warningLevel ≠ some .output) := by
    simp only [Ne, debug, warning]
    exact ⟨fun h => ⟨h.debug, h.warning⟩, fun h => ⟨h.1, h.2⟩⟩
  rw [meaning, reports.log, Log.meantFor_append, Log.meantFor_append, resolved,
    Log.meantFor_own (List.forall_mem_singleton.mpr own), Log.meantFor_own (fs.log_search _),
    Log.meantFor_own (Schema.log_checkFiles _ _ _ _)]
  -- The record of the schema is always there; the warnings of the search need not be.
  by_cases hdebug : r.stream? Log.debugLevel = some .output
  · simp [hdebug]
  · by_cases hwarning : r.stream? Log.warningLevel = some .output <;> simp [hdebug, hwarning]

/-- Where the log is not quiet, the output starts with a line of the log and is no JSON text. -/
theorem Reports.output_ne (reports : Reports registry fs o session.loader reference schema cs)
    (parsed : Command.ofTexts line = .ok (.check o))
    (loud : ¬Quiet (settingsFor session.settings o).routing fs o) (t : JsonText) :
    (run registry fs line session).output ≠ String.ofList t.chars ++ "\n" := by
  intro same
  refine t.not_prefix_append ['\n'] ?_
  have whole : (run registry fs line session).output.toList = t.chars ++ ['\n'] := by simp [same]
  have shown := mt (reports.meantFor_eq_nil_iff (settingsFor session.settings o) _).mp loud
  rw [← whole, run_output parsed session (reports.ended _), String.toList_append]
  exact (Log.prefix_shownOn (reports.isOwn _) shown).trans (List.prefix_append ..)

/-- **The report on the output.**  A run whose report is in JSON prints what the log shows on the
output and then one JSON text, the report of its results, with a line break.  The text stands alone
as long as the log is quiet; otherwise the output is not a JSON text with a line break at all. -/
theorem run_json_output (parsed : Command.ofTexts line = .ok (.check o)) (session : Session)
    (format : reportFormat (settingsFor session.settings o) o = .json)
    (reports : Reports registry fs o session.loader reference schema cs) :
    let settings := settingsFor session.settings o
    let log := (check registry fs settings o session.loader).log
    let output := (run registry fs line session).output
    ∃ t : JsonText, t.datum = reportDatum (cs.map (·.report.listed.joined)) ∧
      output = Log.shownOn settings.routing .usual .output log ++ String.ofList t.chars ++ "\n" ∧
      (Quiet settings.routing fs o → output = String.ofList t.chars ++ "\n") ∧
      (¬Quiet settings.routing fs o → ∀ t' : JsonText, output ≠ String.ofList t'.chars ++ "\n") := by
  intro settings log output
  obtain ⟨t, chars, datum⟩ := exists_jsonReport (cs.map (·.report))
  -- An empty report would not be printed at all.
  have nonempty : jsonReport (cs.map (·.report)) ≠ "" := by
    obtain ⟨c, rest, h, -⟩ := t.exists_chars
    intro empty
    rw [empty, h] at chars
    cases chars
  have printed : output = Log.shownOn settings.routing .usual .output log
      ++ String.ofList t.chars ++ "\n" := by
    rw [chars, String.ofList_toList, String.append_assoc, ← ending_json format reference nonempty]
    exact run_output parsed session (reports.ended settings)
  refine ⟨t, by rw [datum, List.map_map, Function.comp_def], printed, fun quiet => ?_, reports.output_ne parsed⟩
  rw [printed, Log.shownOn, (reports.meantFor_eq_nil_iff settings settings.routing).mpr quiet]
  simp

/-- The options of a line that asks for JSON, given the level of the log. -/
def jsonOptions (level : Given String) : Options where
  paths := ["b.yaml"]
  schema := .value "m:s"
  format := .value .json
  logLevel := level

theorem exists_reports_jsonOptions (level : Given String) :
    ∃ cs, Reports oneSchema oneFile (jsonOptions level) .plain "m:s" (.optional none) cs ∧
      cs.length = 1 := by
  have named : (jsonOptions level).filePaths = [{ names := ["b.yaml"] }] := by
    change ["b.yaml"].map FilePath.ofString = _
    decide +kernel
  have found : (oneFile.search [{ names := ["b.yaml"] }]).outcome = [{ names := ["b.yaml"] }] := by
    decide +kernel
  have counted : ((Schema.optional none).checkFiles oneFile [{ names := ["b.yaml"] }]
      .plain).outcome.2.map List.length = .ok 1 := by
    decide +kernel
  obtain ⟨cs, checked, one⟩ := of_map_eq_ok counted
  exact ⟨cs, ⟨⟨rfl, oneSchema_resolve⟩, by simp [named, found], by rw [named, found, checked]⟩, one⟩

/-- One file, at the level that the log has if none is given. -/
theorem run_json_output_oneFile :
    let line := ["--schema", "m:s", "--format", "json", "b.yaml"]
    Command.ofTexts line = .ok (.check (jsonOptions .absent)) ∧
    ∃ cs, Reports oneSchema oneFile (jsonOptions .absent) .plain "m:s" (.optional none) cs ∧
      cs.length = 1 ∧ ∃ t : JsonText, t.datum = reportDatum (cs.map (·.report.listed.joined)) ∧
        (run oneSchema oneFile line { loader := .plain }).output = String.ofList t.chars ++ "\n" := by
  intro line
  have parsed : Command.ofTexts line = .ok (.check (jsonOptions .absent)) := by
    decide +kernel
  obtain ⟨cs, reports, one⟩ := exists_reports_jsonOptions .absent
  obtain ⟨t, datum, -, alone, -⟩ := run_json_output parsed { loader := .plain } rfl reports
  refine ⟨parsed, cs, reports, one, t, datum, alone ⟨by decide +kernel, fun warned => ?_⟩⟩
  exact absurd (by decide +kernel) warned

/-- At the debug level the report of the same file does not stand alone. -/
theorem debug_output_is_no_json :
    let line := ["--schema", "m:s", "--format", "json", "--log-level", "DEBUG", "b.yaml"]
    Command.ofTexts line = .ok (.check (jsonOptions (.value "DEBUG"))) ∧
    (∃ cs, Reports oneSchema oneFile (jsonOptions (.value "DEBUG")) .plain "m:s"
      (.optional none) cs) ∧
    ∀ t : JsonText, (run oneSchema oneFile line { loader := .plain }).output ≠
      String.ofList t.chars ++ "\n" := by
  intro line
  obtain ⟨cs, reports, -⟩ := exists_reports_jsonOptions (.value "DEBUG")
  have parsed : Command.ofTexts line = .ok (.check (jsonOptions (.value "DEBUG"))) := by
    decide +kernel
  exact ⟨parsed, ⟨cs, reports⟩,
    reports.output_ne parsed fun quiet => quiet.debug (by decide +kernel)⟩

end CommandLine

end Conform
