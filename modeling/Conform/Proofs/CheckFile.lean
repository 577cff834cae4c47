import Conform.CheckFile
import Conform.Proofs.Lists
import Conform.Proofs.Loader
/-!
# What the check of many files comes to

Each file gets the result that it would get if it were checked alone: the documents that the loader
keeps on the way are those that it would read again.  So the check of many files has an answer
unless one of them `Breaks` it, and the main result, `checkFiles_result`, says what the answer is.
-/
namespace Conform

/-! ### What the loader keeps -/

/-- Whether a well-formed text has no document because a scalar of it, or a key that is looked at for
the source map, cannot be what its tag says. -/
def Document.Faults (text : List Char) (f : Fault) : Prop :=
  Yaml.load text = .error (.fault f) ∨
    (∃ v, Yaml.load text = .ok v) ∧ SourceMap.ofText text = .error f

theorem Document.ofBytes_eq_error_iff {syntaxError : List Char → String} {p : FilePath}
    {bytes : List UInt8} {f : Fault} (escapes : ∀ m, f ≠ .loading m) :
    Document.ofBytes syntaxError p bytes = .error f ↔
      ∃ text, Text.decodeUtf8 bytes = .ok text ∧ Faults (Text.normaliseBreaks text) f := by
  unfold Document.ofBytes Document.ofText Faults
  cases Text.decodeUtf8 bytes with
  | error e =>
    refine iff_of_false (fun h => escapes _ (Except.error.inj h).symm) ?_
    rintro ⟨text, htext, -⟩
    cases htext
  | ok text =>
    simp only [Except.ok.injEq, exists_eq_left']
    cases hload : Yaml.load (Text.normaliseBreaks text) with
    | error g =>
      cases g with
      | malformed => simpa using fun h => escapes _ h.symm
      | fault g => simp
    | ok v => cases SourceMap.ofText (Text.normaliseBreaks text) <;> simp [Except.map]

/-- A document is the same whatever is said of texts that are malformed. -/
theorem Document.ofBytes_of_words {syntaxError : List Char → String} {p : FilePath}
    {bytes : List UInt8} {d : Document} (h : Document.ofBytes syntaxError p bytes = .ok d)
    (words : List Char → String) : Document.ofBytes words p bytes = .ok d := by
  unfold Document.ofBytes Document.ofText at *
  cases decoded : Text.decodeUtf8 bytes with
  | error e => simp [decoded] at h
  | ok text =>
    cases loaded : Yaml.load (Text.normaliseBreaks text) with
    | error f => cases f <;> simp [decoded, loaded] at h
    | ok v => simpa [decoded, loaded] using h

namespace Loader

/-- Whether the check of a file has no answer: its document is not known, the file is there and its
text can be read, and yet there is no document, for a fault that is not one of loading. -/
structure Breaks (fs : Files) (l : Loader) (p : FilePath) (f : Fault) : Prop where
  unknown : l.kept? p = none
  read : ∃ bytes text, fs.find? p = some (.file bytes) ∧ Text.decodeUtf8 bytes = .ok text ∧
    Document.Faults (Text.normaliseBreaks text) f
  escapes : ∀ m, f ≠ .loading m

/-- Whether a loader keeps what another one does, and otherwise only what is in the files. -/
structure Extends (fs : Files) (l l' : Loader) : Prop where
  words : l'.syntaxError = l.syntaxError
  kept : ∀ p, l'.kept? p = l.kept? p ∨
    l.kept? p = none ∧ ∃ bytes d, fs.bytesAt p = .ok bytes ∧
      Document.ofBytes l.syntaxError p bytes = .ok d ∧ l'.kept? p = some d

namespace Extends

variable {fs : Files} {l l' : Loader}

theorem refl (fs : Files) (l : Loader) : Extends fs l l := ⟨rfl, fun _ => Or.inl rfl⟩

/-- What a loader has kept on the way it would read from the files. -/
theorem load_eq (h : Extends fs l l') (p : FilePath) :
    (l'.load fs p).outcome.2 = (l.load fs p).outcome.2 := by
  rcases h.kept p with same | ⟨new, bytes, d, file, document, kept⟩
  · exact load_eq_of_kept? same h.words fs
  · rw [Loader.load_eq, Loader.load_eq, file, new, kept]
    exact document.symm

/-- Loading keeps nothing but what is in the files. -/
theorem load (h : Extends fs l l') (p : FilePath) : Extends fs l (l'.load fs p).outcome.1 := by
  rcases load_cases fs p l' with same | ⟨bytes, d, file, unknown, document, read⟩
  · rw [same]
    exact h
  · rw [read]
    refine ⟨(keep_syntaxError ..).trans h.words, fun q => ?_⟩
    -- Only the file itself is known now that was not known before.
    by_cases hq : q = p
    · subst hq
      cases hc : l'.caching with
      | false => simpa [keep, hc] using h.kept q
      | true =>
        refine Or.inr ⟨?_, bytes, d, file, h.words ▸ document, kept?_keep_self hc q d⟩
        rcases h.kept q with same | ⟨new, -⟩
        · rw [← same, unknown]
        · exact new
    · rw [kept?_keep_of_ne l' hq]
      exact h.kept q

end Extends

end Loader

/-! ### Checks of one file and of many -/

namespace Schema

variable {fs : Files} {s : Schema} {l l' : Loader}

theorem checkFile_outcome (fs : Files) (s : Schema) (p : FilePath) (l : Loader) :
    (s.checkFile fs p l).outcome.2 =
      match (l.load fs p).outcome.2 with
      | .ok d => .ok (s.checkDocument p d).outcome
      | .error (.loading m) =>
        .ok ⟨({ file := p } : FileReport).addError { message := m }, []⟩
      | .error f => .error f := by
  unfold checkFile
  rw [Logged.outcome_bind]
  obtain ⟨l', loaded⟩ := (l.load fs p).outcome
  cases loaded with
  | ok d => rfl
  | error f => cases f <;> rfl

theorem checkFile_loader (fs : Files) (s : Schema) (p : FilePath) (l : Loader) :
    (s.checkFile fs p l).outcome.1 = (l.load fs p).outcome.1 := by
  unfold checkFile
  rw [Logged.outcome_bind]
  obtain ⟨l', loaded⟩ := (l.load fs p).outcome
  cases loaded with
  | ok d => rfl
  | error f => cases f <;> rfl

theorem checkFile_outcome_of_extends (h : Loader.Extends fs l l') (p : FilePath) :
    (s.checkFile fs p l').outcome.2 = (s.checkFile fs p l).outcome.2 := by
  rw [checkFile_outcome, checkFile_outcome, h.load_eq]

/-- Each file gets the result that it would get alone, up to the first one that has none. -/
theorem checkFiles_outcome (h : Loader.Extends fs l l') (ps : List FilePath) :
    (s.checkFiles fs ps l').outcome.2 = ps.mapM fun p => (s.checkFile fs p l).outcome.2 := by
  induction ps generalizing l' with
  | nil => rfl
  | cons p ps ih =>
    -- The loader that is handed on has kept nothing but what the files say.
    have first := checkFile_outcome_of_extends (s := s) h p
    have rest := ih (checkFile_loader fs s p l' ▸ h.load p)
    rw [List.mapM_cons, ← first, checkFiles, Logged.outcome_bind]
    generalize (s.checkFile fs p l').outcome = checked at rest
    obtain ⟨l'', c⟩ := checked
    cases c with
    | error f => rfl
    | ok c =>
      dsimp only
      rw [Logged.outcome_bind, ← rest]
      generalize (s.checkFiles fs ps l'').outcome = others
      obtain ⟨m, cs⟩ := others
      cases cs <;> rfl

theorem load_eq_error_iff {fs : Files} {l : Loader} {p : FilePath} {f : Fault}
    (escapes : ∀ m, f ≠ .loading m) :
    (l.load fs p).outcome.2 = .error f ↔ l.Breaks fs p f := by
  constructor
  · intro h
    have loads := l.loadsTo_load fs p
    generalize (l.load fs p).outcome = loaded at h loads
    cases loads with
    | absent noFile =>
      cases h
      exact absurd noFile (Files.bytesAt_ne_error escapes)
    | known file kept => cases h
    | read file new document => cases h
    | unread file new fault =>
      cases h
      obtain ⟨text, decoded, faults⟩ := (Document.ofBytes_eq_error_iff escapes).mp fault
      exact ⟨new, ⟨_, text, Files.bytesAt_eq_ok_iff.mp file, decoded, faults⟩, escapes⟩
  · rintro ⟨new, ⟨bytes, text, file, decoded, faults⟩, -⟩
    rw [Loader.load_eq, Files.bytesAt_eq_ok_iff.mpr file, new]
    exact (Document.ofBytes_eq_error_iff escapes).mpr ⟨text, decoded, faults⟩

theorem checkFile_eq_error_iff {p : FilePath} {f : Fault} :
    (s.checkFile fs p l).outcome.2 = .error f ↔ l.Breaks fs p f := by
  rw [checkFile_outcome]
  constructor
  · intro h
    cases hload : (l.load fs p).outcome.2 with
    | ok d => simp [hload] at h
    | error g =>
      rw [hload] at h
      -- A fault of loading would have become a result.
      have escapes : ∀ m, g ≠ .loading m := by
        rintro m rfl
        cases h
      have same : g = f := by
        cases g <;> simp_all
      exact same ▸ (load_eq_error_iff escapes).mp hload
  · intro h
    rw [(load_eq_error_iff h.escapes).mpr h]
    have := h.escapes
    cases f <;> simp_all

/-- What is found in one file: it has a result of its own, which is about no other file, and a file
that cannot be loaded or whose check meets a fault has one error. -/
structure IsResult (fs : Files) (s : Schema) (l : Loader) (p : FilePath) (c : Checked) : Prop where
  alone : (s.checkFile fs p l).outcome.2 = .ok c
  file : c.report.file = p
  unloaded : ∀ m, (l.load fs p).outcome.2 = .error (.loading m) →
    c.report = { file := p, errors := [{ message := m }] } ∧ c.calls = []
  faulty : ∀ d f, (l.load fs p).outcome.2 = .ok d → (s.trace d.content .root).result = .error f →
    c.report.errors = [{ message := s!"Unexpected error during check: {f.kind}: {f.message}" }]
  once : c.report.errors.length ≤ 1

theorem checkDocument_file (s : Schema) (p : FilePath) (d : Document) :
    (s.checkDocument p d).outcome.report.file = p := by
  unfold checkDocument
  dsimp only
  cases d.content.isNull <;> cases (s.trace d.content .root).result with
  | error f => rfl
  | ok n => dsimp only; cases n.isValid <;> rfl

theorem checkDocument_errors (s : Schema) (p : FilePath) (d : Document) :
    (s.checkDocument p d).outcome.report.errors =
      match (s.trace d.content .root).result with
      | .error f => [{ message := s!"Unexpected error during check: {f.kind}: {f.message}" }]
      | .ok n =>
        if n.isValid then []
        else [{ message := n.reason.getD "None",
                position := (Location.find d.sourceMap n.path (some p)).position,
                path := n.path }] := by
  unfold checkDocument
  dsimp only
  cases d.content.isNull <;> cases (s.trace d.content .root).result with
  | error f => rfl
  | ok n => dsimp only; cases n.isValid <;> rfl

theorem isResult_of_checkFile {p : FilePath} {c : Checked}
    (h : (s.checkFile fs p l).outcome.2 = .ok c) : IsResult fs s l p c := by
  have outcome := h
  rw [checkFile_outcome] at h
  -- By what loading gave: a document, an error that is reported, or one that is not.
  cases hload : (l.load fs p).outcome.2 with
  | ok d =>
    rw [hload] at h
    cases h
    refine ⟨outcome, checkDocument_file s p d, ?_, ?_, ?_⟩
    · intro m hm
      rw [hload] at hm
      cases hm
    · intro d' f hd hf
      rw [hload] at hd
      cases hd
      rw [checkDocument_errors, hf]
    · rw [checkDocument_errors]
      cases (s.trace d.content .root).result with
      | error f => exact Nat.le_refl 1
      | ok n =>
        dsimp only
        cases n.isValid <;> simp
  | error f =>
    rw [hload] at h
    cases f with
    | loading m =>
      cases h
      refine ⟨outcome, rfl, ?_, ?_, Nat.le_refl 1⟩
      · intro m' hm
        rw [hload] at hm
        cases hm
        exact ⟨rfl, rfl⟩
      · intro d f hd
        rw [hload] at hd
        cases hd
    | _ => cases h

/-- **One file and the others.**  The check of many files fails exactly if one of them breaks it, and
then with the fault of the first that does; otherwise it has one result for each file, in order, and
each is the result that the file has by itself. -/
theorem checkFiles_result (fs : Files) (s : Schema) (ps : List FilePath) (l : Loader) :
    (∀ f, (s.checkFiles fs ps l).outcome.2 = .error f ↔ ∃ before p after,
      ps = before ++ p :: after ∧ (∀ q ∈ before, ∀ g, ¬l.Breaks fs q g) ∧ l.Breaks fs p f) ∧
    ((∃ cs, (s.checkFiles fs ps l).outcome.2 = .ok cs) ↔ ∀ p ∈ ps, ∀ f, ¬l.Breaks fs p f) ∧
    ∀ cs, (s.checkFiles fs ps l).outcome.2 = .ok cs → List.Forall₂ (IsResult fs s l) ps cs := by
  rw [checkFiles_outcome (.refl fs l)]
  -- The files are checked as if each were alone with the loader, so the first fault is that of a file.
  have fails : ∀ f, (ps.mapM fun p => (s.checkFile fs p l).outcome.2) = .error f ↔
      ∃ before p after, ps = before ++ p :: after ∧
        (∀ q ∈ before, ∀ g, ¬l.Breaks fs q g) ∧ l.Breaks fs p f := by
    intro f
    simp only [mapM_eq_error_iff, Ne, checkFile_eq_error_iff]
  refine ⟨fails, ⟨?_, ?_⟩, ?_⟩
  · rintro ⟨cs, hcs⟩ p hp f hf
    obtain ⟨c, -, hc⟩ := exists_of_forall₂ (mapM_eq_ok_iff.mp hcs) hp
    rw [checkFile_eq_error_iff.mpr hf] at hc
    cases hc
  · intro h
    cases hps : ps.mapM fun p => (s.checkFile fs p l).outcome.2 with
    | ok cs => exact ⟨cs, rfl⟩
    | error f =>
      obtain ⟨before, p, after, rfl, -, hf⟩ := (fails f).mp hps
      exact absurd hf (h p (by simp) f)
  · intro cs hcs
    exact (mapM_eq_ok_iff.mp hcs).imp fun p c h => isResult_of_checkFile h

/-- Two files: one holds a date in the thirteenth month, the other one nothing. -/
def badDateFiles : Files where
  here := .directory
    [("a.yaml", .file [50, 48, 50, 48, 45, 49, 51, 45, 52, 53, 10]), ("b.yaml", .file [])]

theorem badDate_costs_the_others :
    (checkFiles badDateFiles (optional none)
      [{ names := ["a.yaml"] }, { names := ["b.yaml"] }] .plain).outcome.2 =
        .error (.calendar .month) ∧
    (checkFile badDateFiles (optional none) { names := ["b.yaml"] } .plain).outcome.2.map
      (·.report.passes) = .ok true := by
  constructor
  · have fault : ((checkFile badDateFiles (optional none) { names := ["a.yaml"] }
        .plain).outcome.2.map (·.report)) = .error (.calendar .month) := by
      decide +kernel
    rw [checkFiles_outcome (.refl _ _), mapM_eq_error_iff]
    refine ⟨[], _, _, rfl, by simp, ?_⟩
    generalize (checkFile badDateFiles (optional none) _ .plain).outcome.2 = checked at fault
    cases checked with
    | ok c => cases fault
    | error f => simpa [Except.map] using fault
  · decide +kernel

end Schema

end Conform
