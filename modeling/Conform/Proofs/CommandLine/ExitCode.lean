import Conform.Proofs.CommandLine.Check
import Conform.Proofs.Independence
/-!
# The exit code

A run that ends by itself tells by its exit code what came of the check.  Neither the format of the
report nor the log nor any setting has a part in it; the main result is `run_exit`.
-/
namespace Conform

namespace Schema

variable {fs : Files} {s : Schema} {l : Loader} {p : FilePath} {c : Checked}

/-- Whether a file can be loaded and its instance is accepted. -/
def Passes (fs : Files) (s : Schema) (p : FilePath) : Prop :=
  ∃ bytes d, fs.find? p = some (.file bytes) ∧
    (∀ syntaxError, Document.ofBytes syntaxError p bytes = .ok d) ∧
    s.validate d.content = .ok true

theorem checkDocument_passes (s : Schema) (p : FilePath) (d : Document) :
    (s.checkDocument p d).outcome.report.passes = true ↔ s.validate d.content = .ok true := by
  rw [FileReport.passes, checkDocument_errors, validate]
  cases (s.trace d.content .root).result with
  | error f => simp [Except.map]
  | ok n => cases hn : n.isValid <;> simp [Except.map, hn]

/-- A file has no errors exactly if it passes. -/
theorem Alone.passes_iff (h : s.Alone fs l p c) : c.report.passes = true ↔ s.Passes fs p := by
  rw [Alone, checkFile_outcome] at h
  have passes : s.Passes fs p ↔
      ∃ d, (l.fresh.load fs p).outcome.2 = .ok d ∧ s.validate d.content = .ok true := by
    simp only [Passes, Loader.load_fresh_eq_ok_iff]
    constructor
    · rintro ⟨bytes, d, file, document, valid⟩
      exact ⟨d, ⟨bytes, file, document⟩, valid⟩
    · rintro ⟨d, ⟨bytes, file, document⟩, valid⟩
      exact ⟨bytes, d, file, document, valid⟩
  rw [passes]
  cases loaded : (l.fresh.load fs p).outcome.2 with
  | ok d =>
    rw [loaded] at h
    obtain rfl := Except.ok.inj h
    simp [checkDocument_passes]
  | error f =>
    rw [loaded] at h
    cases f with
    | loading m =>
      obtain rfl := Except.ok.inj h
      simp [FileReport.passes, FileReport.addError]
    -- Any other fault leaves the file without a result.
    | _ => cases h

end Schema

namespace CommandLine

variable {registry : Registry} {fs : Files} {o o' : Options} {s s' : Settings} {l l' : Loader}
  {line : List String} {reference : String} {schema : Schema} {cs : List Checked}

theorem ending_code (s : Settings) (o : Options) (name : String) (rs : List FileReport) :
    (ending s o name rs).1 = if FileReport.errorCount rs = 0 then 0 else 1 := by
  rw [ending]
  rcases Nat.eq_zero_or_pos (FileReport.errorCount rs) with none | some
  · rw [if_neg (Nat.not_lt_of_ge (Nat.le_of_eq none)), if_pos none]
    split <;> rfl
  · rw [if_pos some, if_neg (Nat.ne_of_gt some)]

/-- With a report the exit code is zero exactly if all files pass. -/
theorem Reports.code_eq_zero_iff (reports : Reports registry fs o l reference schema cs)
    (current : l.IsCurrent fs) (s : Settings) :
    (ending s o reference (cs.map (·.report))).1 = 0 ↔
      ∀ p ∈ (fs.search o.filePaths).outcome, schema.Passes fs p := by
  have each : List.Forall₂ (fun p c => schema.Passes fs p ↔ c.report.passes = true)
      (fs.search o.filePaths).outcome cs :=
    ((Schema.checkFiles_eq_ok_iff current).mp reports.checked).imp fun p c h => h.passes_iff.symm
  rw [forall_iff_of_forall₂ each, ending_code]
  simp [FileReport.errorCount_eq_zero_iff]

/-- The code of a check depends on the files, the paths and the schema only. -/
theorem check_code_congr (named : o'.schema = o.schema) (paths : o'.filePaths = o.filePaths)
    (words : l'.syntaxError = l.syntaxError)
    (current : l.IsCurrent fs) (current' : l'.IsCurrent fs) :
    (check registry fs s' o' l').outcome.2.map (·.1) =
      (check registry fs s o l).outcome.2.map (·.1) := by
  -- Format and settings decide on the text at the end, not on the code beside it.
  have against : ∀ reference schema,
      (checkAgainst fs s' o' reference schema l').outcome.2.map (·.1) =
        (checkAgainst fs s o reference schema l).outcome.2.map (·.1) := by
    intro reference schema
    rw [checkAgainst_outcome, checkAgainst_outcome, paths,
      Schema.checkFiles_eq_of_current words current current']
    split
    next => rfl
    next =>
      cases (schema.checkFiles fs (fs.search o.filePaths).outcome l).outcome.2 with
      | error f => rfl
      | ok cs => simp [Except.map, ending_code]
  cases name : o.schema with
  | value reference =>
    rw [check_outcome s l name, check_outcome s' l' (named.trans name)]
    cases (registry.resolve reference).outcome with
    | ok schema => exact against reference schema
    | error f => cases f <;> rfl
  | _ => simp [check_eq_error_of_unnamed, named, name]

/-- Whether a run refuses its reference to a schema. -/
def RefusesReference (registry : Registry) (o : Options) : Prop :=
  ∃ reference reason, Refuses registry o reference reason

/-- Whether a run accepts all that it is to check: the reference leads to a schema, instances are
found, and each of them passes. -/
def Accepts (registry : Registry) (fs : Files) (o : Options) : Prop :=
  ∃ reference schema, Resolves registry o reference schema ∧
    (fs.search o.filePaths).outcome ≠ [] ∧
    ∀ p ∈ (fs.search o.filePaths).outcome, schema.Passes fs p

/-- The code of a check that ends by itself. -/
theorem check_code {e : Ending} (current : l.IsCurrent fs)
    (h : (check registry fs s o l).outcome.2 = .ok e) :
    (e.1 = 2 ↔ RefusesReference registry o) ∧ (e.1 = 0 ↔ Accepts registry fs o) ∧
      (e.1 = 1 ↔ ¬RefusesReference registry o ∧ ¬Accepts registry fs o) := by
  rcases check_eq_ok_iff.mp h with ⟨reference, reason, refuses, rfl⟩ |
      ⟨reference, schema, resolves, nothing, rfl⟩ | ⟨reference, schema, cs, reports, rfl⟩
  · have refused : RefusesReference registry o := ⟨reference, reason, refuses⟩
    have not_accepted : ¬Accepts registry fs o :=
      fun ⟨_, _, resolves, _⟩ => refuses.not_resolves resolves
    simp [refused, not_accepted]
  -- Nothing was found: a search that comes up empty accepts nothing.
  · have not_refused : ¬RefusesReference registry o :=
      fun ⟨_, _, refuses⟩ => refuses.not_resolves resolves
    have not_accepted : ¬Accepts registry fs o := fun ⟨_, _, _, found, _⟩ => found nothing
    simp [not_refused, not_accepted]
  · have not_refused : ¬RefusesReference registry o :=
      fun ⟨_, _, refuses⟩ => refuses.not_resolves reports.toResolves
    have accepted : Accepts registry fs o ↔
        ∀ p ∈ (fs.search o.filePaths).outcome, schema.Passes fs p := by
      constructor
      · rintro ⟨_, schema', resolves, -, pass⟩
        exact resolves.unique reports.toResolves ▸ pass
      · exact fun pass => ⟨reference, schema, reports.toResolves, reports.found, pass⟩
    have zero := (reports.code_eq_zero_iff current s).trans accepted.symm
    -- A report ends with zero or one, so what is left of the three codes is arithmetic.
    have small : (ending s o reference (cs.map (·.report))).1 ≤ 1 := by
      rw [ending_code]
      split <;> decide
    refine ⟨iff_of_false (by omega) not_refused, zero, ?_⟩
    rw [← zero]
    exact ⟨fun h => ⟨not_refused, by omega⟩, fun h => by omega⟩

/-- **The exit code tells the verdict.**  A run of its own, for which the line can be read and which
no fault ends, has the code two exactly if it refuses its reference, zero exactly if it accepts all
that it is to check, and one otherwise.  A run for the same files, paths and schema ends in the same
way under every format, level of the log and environment. -/
theorem run_exit (parsed : Command.ofTexts line = .ok (.check o))
    (syntaxError : List Char → String) (e : Environment) :
    let exit := (run registry fs line (Session.ofEnvironment syntaxError e)).exit
    (∀ code, exit = .ok code → (code = 2 ↔ RefusesReference registry o) ∧
      (code = 0 ↔ Accepts registry fs o) ∧
      (code = 1 ↔ ¬RefusesReference registry o ∧ ¬Accepts registry fs o)) ∧
    ∀ line' o' e', Command.ofTexts line' = .ok (.check o') → o'.schema = o.schema →
      o'.filePaths = o.filePaths →
        (run registry fs line' (Session.ofEnvironment syntaxError e')).exit = exit := by
  have current : ∀ e, (Session.ofEnvironment syntaxError e).loader.IsCurrent fs :=
    fun e => Loader.isCurrent_new fs syntaxError _
  have exit_eq : ∀ {line o}, Command.ofTexts line = .ok (.check o) → ∀ e,
      (run registry fs line (Session.ofEnvironment syntaxError e)).exit =
        (check registry fs (settingsFor (Session.ofEnvironment syntaxError e).settings o) o
          (Session.ofEnvironment syntaxError e).loader).outcome.2.map (·.1) := by
    intro line o parsed e
    simp only [run, parsed]
  intro exit
  refine ⟨fun code h => ?_, fun line' o' e' parsed' named paths => ?_⟩
  · obtain ⟨ending, ended, rfl⟩ := of_map_eq_ok ((exit_eq parsed e).symm.trans h)
    exact check_code (current e) ended
  · have words : (Session.ofEnvironment syntaxError e').loader.syntaxError =
        (Session.ofEnvironment syntaxError e).loader.syntaxError := rfl
    rw [exit_eq parsed' e', check_code_congr named paths words (current e) (current e')]
    exact (exit_eq parsed e).symm

/-- An empty file passes, and it does so without a format or a level on the line and with them. -/
theorem run_exit_oneFile :
    let line := ["--schema", "m:s", "b.yaml"]
    let o : Options := { paths := ["b.yaml"], schema := .value "m:s" }
    let line' := ["b.yaml", "--format", "json", "--log-level=debug", "--schema", "m:s"]
    let e' : Environment := [("SCHEMATIZE_CACHE_ENABLED", "no"), ("SCHEMATIZE_PRINT_LEVEL", "ERROR")]
    let words (_ : List Char) := "malformed"
    Command.ofTexts line = .ok (.check o) ∧
    (run oneSchema oneFile line (Session.ofEnvironment words [])).exit = .ok 0 ∧
    Accepts oneSchema oneFile o ∧
    (run oneSchema oneFile line' (Session.ofEnvironment words e')).exit = .ok 0 := by
  intro line o line' e' words
  have parsed : Command.ofTexts line = .ok (.check o) := by decide +kernel
  have ended : (run oneSchema oneFile line (Session.ofEnvironment words [])).exit = .ok 0 := by
    decide +kernel
  obtain ⟨verdict, same⟩ := run_exit parsed words []
  refine ⟨parsed, ended, (verdict 0 ended).2.1.mp rfl, ?_⟩
  let o' : Options := { o with format := .value .json, logLevel := .value "debug" }
  have parsed' : Command.ofTexts line' = .ok (.check o') := by decide +kernel
  exact (same line' o' e' parsed' rfl rfl).trans ended

end CommandLine

end Conform
