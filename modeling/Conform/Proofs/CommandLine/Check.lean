import Conform.CommandLine.Run
import Conform.Proofs.Lists
/-!
# What a check comes to

A check ends at the reference to the schema, at the search, or with a report, unless a fault ends it
before.  `check_eq_ok_iff` tells the three ends apart.
-/
namespace Conform.CommandLine

variable {registry : Registry} {fs : Files} {s : Settings} {o : Options} {l : Loader}
  {reference : String} {schema : Schema} {cs : List Checked}

/-- Whether a check ends at the reference, which leads to no schema. -/
structure Refuses (registry : Registry) (o : Options) (reference reason : String) : Prop where
  named : o.schema = .value reference
  unresolved : (registry.resolve reference).outcome = .error (.reference reason)

/-- Whether a check gets as far as the search. -/
structure Resolves (registry : Registry) (o : Options) (reference : String) (schema : Schema) :
    Prop where
  named : o.schema = .value reference
  resolved : (registry.resolve reference).outcome = .ok schema

/-- Whether a check gets as far as its report: instances are found, and each of them has a result. -/
structure Reports (registry : Registry) (fs : Files) (o : Options) (l : Loader)
    (reference : String) (schema : Schema) (cs : List Checked) : Prop
    extends Resolves registry o reference schema where
  found : (fs.search o.filePaths).outcome ≠ []
  checked : (schema.checkFiles fs (fs.search o.filePaths).outcome l).outcome.2 = .ok cs

theorem Resolves.unique {reference' : String} {schema' : Schema}
    (h : Resolves registry o reference schema) (h' : Resolves registry o reference' schema') :
    schema = schema' := by
  obtain rfl : reference = reference' := by simpa [h.named] using h'.named
  simpa [h.resolved] using h'.resolved

theorem Refuses.not_resolves {reference' reason : String}
    (h : Refuses registry o reference reason) : ¬Resolves registry o reference' schema := by
  intro h'
  obtain rfl : reference = reference' := by simpa [h.named] using h'.named
  simpa [h.unresolved] using h'.resolved

/-! ### The search and the check of what it found -/

theorem checkAgainst_outcome (fs : Files) (s : Settings) (o : Options) (reference : String)
    (schema : Schema) (l : Loader) : (checkAgainst fs s o reference schema l).outcome.2 =
      if (fs.search o.filePaths).outcome = [] then .ok (1, "")
      else (schema.checkFiles fs (fs.search o.filePaths).outcome l).outcome.2.map fun cs =>
        ending s o reference (cs.map (·.report)) := by
  rw [checkAgainst, Logged.outcome_bind]
  split
  next => rfl
  next => rfl

theorem checkAgainst_log (s : Settings) (reference : String) (schema : Schema) (l : Loader)
    (found : (fs.search o.filePaths).outcome ≠ []) :
    (checkAgainst fs s o reference schema l).log =
      (fs.search o.filePaths).log
        ++ (schema.checkFiles fs (fs.search o.filePaths).outcome l).log := by
  simp [checkAgainst, found]

/-! ### The whole check -/

theorem check_outcome (s : Settings) (l : Loader) (named : o.schema = .value reference) :
    (check registry fs s o l).outcome.2 =
      match (registry.resolve reference).outcome with
      | .ok schema => (checkAgainst fs s o reference schema l).outcome.2
      | .error (.reference _) => .ok (2, "")
      | .error f => .error f := by
  simp only [check, named, Logged.outcome_bind]
  cases (registry.resolve reference).outcome with
  | ok schema => rfl
  | error f => cases f <;> rfl

theorem check_eq_error_of_unnamed (s : Settings) (l : Loader)
    (unnamed : ∀ reference, o.schema ≠ .value reference) :
    (check registry fs s o l).outcome.2 = .error .noReference := by
  unfold check
  split
  next reference named => exact absurd named (unnamed reference)
  next => rfl

/-- The ends of a check. -/
theorem check_eq_ok_iff {e : Ending} : (check registry fs s o l).outcome.2 = .ok e ↔
    (∃ reference reason, Refuses registry o reference reason ∧ e = (2, "")) ∨
    (∃ reference schema, Resolves registry o reference schema ∧
      (fs.search o.filePaths).outcome = [] ∧ e = (1, "")) ∨
    ∃ reference schema cs, Reports registry fs o l reference schema cs ∧
      e = ending s o reference (cs.map (·.report)) := by
  constructor
  · -- What the reference leads to comes first, what the search finds second.
    intro h
    cases named : o.schema with
    | value reference =>
      rw [check_outcome s l named] at h
      cases resolved : (registry.resolve reference).outcome with
      | error f =>
        rw [resolved] at h
        cases f with
        | reference reason =>
          exact Or.inl ⟨reference, reason, ⟨named, resolved⟩, (Except.ok.inj h).symm⟩
        | _ => cases h
      | ok schema =>
        rw [resolved] at h
        dsimp only at h
        rw [checkAgainst_outcome] at h
        split at h
        next nothing =>
          obtain rfl := Except.ok.inj h
          exact Or.inr (Or.inl ⟨reference, schema, ⟨named, resolved⟩, nothing, rfl⟩)
        next found =>
          obtain ⟨cs, checked, rfl⟩ := of_map_eq_ok h
          exact Or.inr (Or.inr ⟨reference, schema, cs, ⟨⟨named, resolved⟩, found, checked⟩, rfl⟩)
    | _ => simp [check_eq_error_of_unnamed, named] at h
  · rintro (⟨reference, reason, refuses, rfl⟩ | ⟨reference, schema, resolves, nothing, rfl⟩ |
      ⟨reference, schema, cs, reports, rfl⟩)
    · rw [check_outcome s l refuses.named, refuses.unresolved]
    · rw [check_outcome s l resolves.named, resolves.resolved]
      dsimp only
      rw [checkAgainst_outcome, if_pos nothing]
    · rw [check_outcome s l reports.named, reports.resolved]
      dsimp only
      rw [checkAgainst_outcome, if_neg reports.found, reports.checked]
      rfl

theorem Reports.ended (reports : Reports registry fs o l reference schema cs) (s : Settings) :
    (check registry fs s o l).outcome.2 = .ok (ending s o reference (cs.map (·.report))) :=
  check_eq_ok_iff.mpr (Or.inr (Or.inr ⟨reference, schema, cs, reports, rfl⟩))

/-- The log of a check that gets as far as its report. -/
theorem Reports.log (reports : Reports registry fs o l reference schema cs) (s : Settings) :
    (check registry fs s o l).log = (registry.resolve reference).log ++
      ((fs.search o.filePaths).log
        ++ (schema.checkFiles fs (fs.search o.filePaths).outcome l).log) := by
  rw [← checkAgainst_log s reference schema l reports.found]
  simp only [check, reports.named, Logged.log_bind, reports.resolved]

/-! ### A small program -/

/-- One module with one schema, which accepts everything. -/
def oneSchema : Registry := [("m", [("s", .schema (.optional none))])]

/-- One file, with nothing in it. -/
def oneFile : Files where
  here := .directory [("b.yaml", .file [])]

theorem oneSchema_resolve : (oneSchema.resolve "m:s").outcome = .ok (.optional none) := by
  rfl

end Conform.CommandLine
