import Conform.Proofs.CheckFile
import Conform.Proofs.Source.Kept
/-!
# Files are checked by themselves

A loader that keeps documents hands out the same document again.  As long as the files do not change
it `IsCurrent`: all that it keeps is what it would read.  So it makes no difference to the check of a
file which files were checked before, how often, and what came of it; each comes to what a loader
comes to that is new and keeps nothing.  The main result is `checkFiles_eq_alone`.
-/
namespace Conform

namespace Loader

/-- The loader with the same words that is new and keeps nothing. -/
def fresh (l : Loader) : Loader := { syntaxError := l.syntaxError, caching := false }

/-- Whether all that a loader keeps is what is in the files. -/
def IsCurrent (fs : Files) (l : Loader) : Prop :=
  ∀ p d, l.kept? p = some d →
    ∃ bytes, fs.find? p = some (.file bytes) ∧ Document.ofBytes l.syntaxError p bytes = .ok d

variable {fs : Files} {l : Loader}

/-- A new loader is current, whether it is going to keep documents or not. -/
theorem isCurrent_new (fs : Files) (syntaxError : List Char → String) (caching : Bool) :
    IsCurrent fs { syntaxError, caching } := by
  intro p d h
  cases caching <;> cases h

theorem kept?_fresh (l : Loader) (p : FilePath) : l.fresh.kept? p = none := rfl

/-- A loader is current if it goes beyond one that keeps nothing by what is in the files only. -/
theorem isCurrent_iff_extends : l.IsCurrent fs ↔ Extends fs l.fresh l := by
  constructor
  · intro current
    refine ⟨rfl, fun p => ?_⟩
    cases hkept : l.kept? p with
    | none => exact Or.inl (l.kept?_fresh p).symm
    | some d =>
      obtain ⟨bytes, file, document⟩ := current p d hkept
      exact Or.inr ⟨l.kept?_fresh p, bytes, d, Files.bytesAt_eq_ok_iff.mpr file, document, rfl⟩
  · intro beyond p d hkept
    rcases beyond.kept p with same | ⟨-, bytes, d', file, document, hkept'⟩
    · rw [same, kept?_fresh] at hkept
      cases hkept
    · rw [hkept] at hkept'
      cases hkept'
      exact ⟨bytes, Files.bytesAt_eq_ok_iff.mp file, document⟩

theorem fresh_load (fs : Files) (p : FilePath) (l : Loader) :
    (l.load fs p).outcome.1.fresh = l.fresh := by
  rw [fresh, load_syntaxError, fresh]

/-- A loader that knows nothing loads the document of a file that has one. -/
theorem load_fresh_eq_ok_iff {p : FilePath} {d : Document} :
    (l.fresh.load fs p).outcome.2 = .ok d ↔ ∃ bytes, fs.find? p = some (.file bytes) ∧
      ∀ syntaxError, Document.ofBytes syntaxError p bytes = .ok d := by
  rw [load_eq, kept?_fresh]
  constructor
  · intro loaded
    obtain ⟨bytes, file, document⟩ := of_bind_eq_ok loaded
    exact ⟨bytes, Files.bytesAt_eq_ok_iff.mp file, Document.ofBytes_of_words document⟩
  · rintro ⟨bytes, file, document⟩
    rw [Files.bytesAt_eq_ok_iff.mpr file]
    exact document _

/-- Loading leaves a loader current. -/
theorem IsCurrent.load (current : l.IsCurrent fs) (p : FilePath) :
    (l.load fs p).outcome.1.IsCurrent fs :=
  isCurrent_iff_extends.mpr (fresh_load fs p l ▸ (isCurrent_iff_extends.mp current).load p)

/-- The document of a file that is not known yet, where its text is plain. -/
theorem exists_load_of_text {p : FilePath} {bytes : List UInt8} {text : List Char} {v : Value}
    (file : fs.find? p = some (.file bytes)) (new : l.kept? p = none)
    (decoded : Text.decodeUtf8 bytes = .ok text) (breaks : Text.normaliseBreaks text = text)
    (composed : ∃ d, Yaml.Tree.ofText text = .ok (some d) ∧ d.isPlain = true ∧
      ∀ t ∈ d.nodes, ∀ k ∈ t.keyValues, k.isWritable = true)
    (loaded : Yaml.load text = .ok v) : ∃ m, (l.load fs p).outcome.2 = .ok ⟨v, m⟩ := by
  obtain ⟨d, composed, plain, written⟩ := composed
  obtain ⟨-, -, document⟩ := Yaml.ofText_of_loaded composed plain loaded written
  refine ⟨d.spotMap, ?_⟩
  rw [load_eq, Files.bytesAt_eq_ok_iff.mpr file, new]
  show Document.ofBytes l.syntaxError p bytes = _
  rw [Document.ofBytes, decoded]
  show Document.ofText l.syntaxError p.text (Text.normaliseBreaks text) = _
  rw [breaks]
  exact document l.syntaxError p.text

end Loader

namespace Schema

variable {fs : Files} {s : Schema} {l : Loader}

/-- Checking many files leaves a loader current, also where the check ends early. -/
theorem isCurrent_checkFiles (s : Schema) (current : l.IsCurrent fs) (ps : List FilePath) :
    (s.checkFiles fs ps l).outcome.1.IsCurrent fs := by
  induction ps generalizing l with
  | nil => exact current
  | cons p ps ih =>
    have first : (s.checkFile fs p l).outcome.1.IsCurrent fs :=
      checkFile_loader fs s p l ▸ current.load p
    rw [checkFiles, Logged.outcome_bind]
    generalize (s.checkFile fs p l).outcome = checked at first
    obtain ⟨l', c⟩ := checked
    cases c with
    | error f => exact first
    | ok c => exact ih first

/-- What a file comes to by itself: for a loader that is new and keeps nothing. -/
def Alone (fs : Files) (l : Loader) (s : Schema) (p : FilePath) (c : Checked) : Prop :=
  (s.checkFile fs p l.fresh).outcome.2 = .ok c

theorem checkFiles_eq_ok_iff (current : l.IsCurrent fs) {ps : List FilePath} {cs : List Checked} :
    (s.checkFiles fs ps l).outcome.2 = .ok cs ↔ List.Forall₂ (s.Alone fs l) ps cs := by
  rw [checkFiles_outcome (Loader.isCurrent_iff_extends.mp current), mapM_eq_ok_iff]
  rfl

/-- Loaders that are current come to the same results. -/
theorem checkFiles_eq_of_current {l' : Loader} (words : l'.syntaxError = l.syntaxError)
    (current : l.IsCurrent fs) (current' : l'.IsCurrent fs) (ps : List FilePath) :
    (s.checkFiles fs ps l').outcome.2 = (s.checkFiles fs ps l).outcome.2 := by
  rw [checkFiles_outcome (Loader.isCurrent_iff_extends.mp current),
    checkFiles_outcome (Loader.isCurrent_iff_extends.mp current'), Loader.fresh, words,
    Loader.fresh]

/-- **Files are checked by themselves.**  With a loader that is current the check of many files has
for each file the result that it has alone, whenever none of them leaves the check without an answer,
and the loader stays current.  So the results change places with the files, and further files, at
whatever places, make no difference to the results of the others. -/
theorem checkFiles_eq_alone (s : Schema) (current : l.IsCurrent fs) :
    (∀ ps cs, (s.checkFiles fs ps l).outcome.2 = .ok cs ↔ List.Forall₂ (s.Alone fs l) ps cs) ∧
    (∀ ps cs ps', (s.checkFiles fs ps l).outcome.2 = .ok cs → ps.Perm ps' →
      ∃ cs', (s.checkFiles fs ps' l).outcome.2 = .ok cs' ∧ (ps.zip cs).Perm (ps'.zip cs')) ∧
    (∀ ps cs ps' cs', (s.checkFiles fs ps l).outcome.2 = .ok cs →
      (s.checkFiles fs ps' l).outcome.2 = .ok cs' → ps.Sublist ps' →
        (ps.zip cs).Sublist (ps'.zip cs')) ∧
    ∀ ps, (s.checkFiles fs ps l).outcome.1.IsCurrent fs := by
  refine ⟨fun ps cs => checkFiles_eq_ok_iff current, ?_, ?_, isCurrent_checkFiles s current⟩
  · intro ps cs ps' checked perm
    obtain ⟨cs', checked', same⟩ :=
      forall₂_perm ((checkFiles_eq_ok_iff current).mp checked) perm
    exact ⟨cs', (checkFiles_eq_ok_iff current).mpr checked', same⟩
  · intro ps cs ps' cs' checked checked' sub
    -- A file has one result by itself, so that it has the same one in both lists.
    have one : ∀ p c c', s.Alone fs l p c → s.Alone fs l p c' → c = c' := by
      intro p c c' h h'
      exact Except.ok.inj (h.symm.trans h')
    exact forall₂_sublist one ((checkFiles_eq_ok_iff current).mp checked)
      ((checkFiles_eq_ok_iff current).mp checked') sub

/-- Three files: a number, nothing at all, and a list that does not end. -/
def threeFiles : Files where
  here := .directory [("a.yaml", .file [49, 10]), ("b.yaml", .file []), ("c.yaml", .file [91, 10])]

/-- A loader that has loaded the first of the files already. -/
def usedLoader : Loader := (Loader.plain.load threeFiles { names := ["a.yaml"] }).outcome.1

/-- Nothing, or a text that is not empty; a number has no length, so that there the predicate fails. -/
def measured : Schema :=
  let length : Predicate := {
    name := "len"
    literal := "<built-in function len>"
    test := fun
      | .str s => .ok (!s.isEmpty)
      | v => .error (.raised "TypeError" s!"object of type '{v.typeName}' has no len()") }
  optional (some (custom length))

/-- The numbers of errors and warnings of a file. -/
def findingCounts (c : Checked) : Nat × Nat := (c.report.errors.length, c.report.warnings.length)

/-- The file with the number is loaded, and its check ends in an error. -/
theorem exists_alone_number :
    ∃ c, measured.Alone threeFiles .plain { names := ["a.yaml"] } c ∧ findingCounts c = (1, 0) := by
  have composed : ∃ d, Yaml.Tree.ofText "1\n".toList = .ok (some d) ∧ d.isPlain = true ∧
      ∀ t ∈ d.nodes, ∀ k ∈ t.keyValues, k.isWritable = true := by
    apply Yaml.Tree.exists_of_any
    decide +kernel
  have loaded : Yaml.load "1\n".toList = .ok (.int 1) :=
    Value.eq_ok_of_builtLike (by decide +kernel)
  have decoded : Text.decodeUtf8 [49, 10] = .ok "1\n".toList := by decide +kernel
  obtain ⟨m, read⟩ := Loader.exists_load_of_text
    (show threeFiles.find? { names := ["a.yaml"] } = some (.file [49, 10]) from rfl)
    (Loader.kept?_fresh .plain _) decoded (by decide) composed loaded
  refine ⟨(measured.checkDocument { names := ["a.yaml"] } ⟨.int 1, m⟩).outcome, ?_, rfl⟩
  rw [Alone, checkFile_outcome, read]

/-- Each of the files twice or once, and one that is not there. -/
theorem checkFiles_eq_alone_repeated : usedLoader.IsCurrent threeFiles ∧
    ∃ cs, (measured.checkFiles threeFiles
        ([["a.yaml"], ["b.yaml"], ["a.yaml"], ["missing.yaml"], ["c.yaml"], ["b.yaml"]].map
          fun names => { names }) usedLoader).outcome.2 = .ok cs ∧
      cs.map findingCounts = [(1, 0), (0, 1), (1, 0), (1, 0), (1, 0), (0, 1)] := by
  have new : Loader.plain.IsCurrent threeFiles := Loader.isCurrent_new threeFiles _ true
  have current : usedLoader.IsCurrent threeFiles := new.load _
  have exists_alone : ∀ name counts, (measured.checkFile threeFiles { names := [name] }
      Loader.plain.fresh).outcome.2.map findingCounts = .ok counts →
      ∃ c, measured.Alone threeFiles .plain { names := [name] } c ∧ findingCounts c = counts := by
    intro name counts h
    obtain ⟨c, checked, counted⟩ := of_map_eq_ok h
    exact ⟨c, checked, counted⟩
  have unused : measured.Alone threeFiles .plain = measured.Alone threeFiles usedLoader := by
    unfold Alone
    rw [usedLoader, Loader.fresh_load]
  obtain ⟨a, ha, counts_a⟩ := exists_alone_number
  obtain ⟨b, hb, counts_b⟩ := exists_alone "b.yaml" (0, 1) (by decide +kernel)
  obtain ⟨c, hc, counts_c⟩ := exists_alone "c.yaml" (1, 0) (by decide +kernel)
  obtain ⟨m, hm, counts_m⟩ := exists_alone "missing.yaml" (1, 0) (by decide +kernel)
  rw [unused] at ha hb hc hm
  refine ⟨current, [a, b, a, m, c, b], ?_, by simp [counts_a, counts_b, counts_c, counts_m]⟩
  exact ((checkFiles_eq_alone measured current).1 _ _).mpr
    (.cons ha (.cons hb (.cons ha (.cons hm (.cons hc (.cons hb .nil))))))

end Schema

end Conform
