import Conform.Proofs.Independence
import Conform.Proofs.Loader
import Conform.Proofs.Report.Annotations
import Conform.Proofs.Schema.Judgement
import Conform.Proofs.Source.Closest
import Conform.Proofs.Source.Root
/-!
# The shape of a report

The check of a file ends in one of four ways: the file cannot be loaded, the check meets a fault, or
its instance is accepted or rejected.  What a report has of errors, warnings and an accepted reason
tells them apart (`IsShaped`).  An error has a position if it is a rejection in a document that is not
empty, since a lookup goes up to the root at last, and the source map of a document with a root has
its start.  The main result is `checkFile_isShaped`.
-/
namespace Conform

/-! ### Documents that have been read -/

namespace Document

/-- Whether a document is that of a text. -/
def IsRead (d : Document) : Prop :=
  ∃ syntaxError origin text, Document.ofText syntaxError origin text = .ok d

theorem isRead_of_ofBytes {syntaxError : List Char → String} {p : FilePath} {bytes : List UInt8}
    {d : Document} (h : ofBytes syntaxError p bytes = .ok d) : d.IsRead := by
  unfold ofBytes at h
  cases hdecoded : Text.decodeUtf8 bytes with
  | error e =>
    rw [hdecoded] at h
    cases h
  | ok text =>
    rw [hdecoded] at h
    exact ⟨_, _, _, h⟩

/-- Instance and source map are drawn from the same text. -/
theorem of_ofText {syntaxError : List Char → String} {origin : String} {text : List Char}
    {d : Document} (h : ofText syntaxError origin text = .ok d) :
    Yaml.load text = .ok d.content ∧ SourceMap.ofText text = .ok d.sourceMap := by
  unfold ofText at h
  cases hload : Yaml.load text with
  | error f =>
    rw [hload] at h
    cases f <;> cases h
  | ok v =>
    rw [hload] at h
    obtain ⟨m, hm, rfl⟩ := of_map_eq_ok h
    exact ⟨rfl, hm⟩

/-- The source map of a text without a node is empty; that of another one is drawn from its tree. -/
theorem sourceMap_cases {syntaxError : List Char → String} {origin : String} {text : List Char}
    {d : Document} (h : ofText syntaxError origin text = .ok d) :
    Yaml.Tree.ofText text = .ok none ∧ d.sourceMap = {} ∨
      ∃ t, Yaml.Tree.ofText text = .ok (some t) ∧ t.sourceMap = .ok d.sourceMap := by
  obtain ⟨loaded, drawn⟩ := of_ofText h
  rw [SourceMap.ofText] at drawn
  cases composed : Yaml.Tree.ofText text with
  | error f =>
    rw [Yaml.load, composed] at loaded
    cases loaded
  | ok t =>
    rw [composed] at drawn
    cases t with
    | none => exact Or.inl ⟨rfl, (Except.ok.inj drawn).symm⟩
    | some t => exact Or.inr ⟨t, rfl, drawn⟩

end Document

/-- A lookup in a source map with entries finds line and column of a node. -/
theorem Yaml.Tree.exists_mark_of_locate {t : Tree} {m : SourceMap} (hm : t.sourceMap = .ok m)
    (path : List Char) : ∃ mark, m.locate path = .ofMark mark := by
  obtain ⟨root, hroot⟩ := exists_mark_root hm
  cases h : m.closest? (Path.toDocument path) with
  | none =>
    -- The empty path is around every path.
    have unknown := SourceMap.closest?_eq_none_iff.mp h [] _ (Or.inr (Or.inr rfl)) hroot
    rw [Position.isKnown_ofMark] at unknown
    cases unknown
  | some p =>
    obtain ⟨key, closest⟩ := SourceMap.closest?_eq_some_iff.mp h
    obtain ⟨mark, rfl⟩ := exists_mark_of_get? hm closest.entry
    exact ⟨mark, by rw [SourceMap.locate, h, Option.getD_some]⟩

/-- A lookup finds line and column, or nothing if the source map is empty. -/
theorem Document.IsRead.locate_cases {d : Document} (h : d.IsRead) (path : List Char) :
    d.sourceMap.entries = [] ∧ d.sourceMap.locate path = {} ∨
      d.sourceMap.entries ≠ [] ∧ ∃ mark, d.sourceMap.locate path = .ofMark mark := by
  obtain ⟨syntaxError, origin, text, h⟩ := h
  rcases sourceMap_cases h with ⟨-, empty⟩ | ⟨t, -, hm⟩
  · refine Or.inl ⟨by rw [empty], ?_⟩
    have none : ∀ path, ({} : SourceMap).closest? path = none := fun path =>
      SourceMap.closest?_eq_none_iff.mpr fun key p _ entry => nomatch entry
    rw [empty, SourceMap.locate, none, Option.getD_none]
  · refine Or.inr ⟨fun empty => ?_, Yaml.Tree.exists_mark_of_locate hm path⟩
    obtain ⟨mark, hroot⟩ := Yaml.Tree.exists_mark_root hm
    rw [SourceMap.get?, empty] at hroot
    cases hroot

namespace Loader

/-- Whether all that a loader keeps has been read, from whatever was in the files then. -/
def HasRead (l : Loader) : Prop := ∀ p d, l.kept? p = some d → d.IsRead

variable {fs : Files} {l : Loader}

theorem hasRead_new (syntaxError : List Char → String) (caching : Bool) :
    HasRead { syntaxError, caching } := by
  intro p d h
  cases caching <;> cases h

theorem HasRead.keep (h : l.HasRead) {p : FilePath} {d : Document} (read : d.IsRead) :
    (l.keep p d).HasRead := by
  intro q d' hkept
  by_cases hq : q = p
  · subst hq
    cases hc : l.caching with
    | true =>
      rw [kept?_keep_self hc] at hkept
      exact Option.some.inj hkept ▸ read
    | false =>
      rw [Loader.keep, hc] at hkept
      exact h q d' hkept
  · rw [kept?_keep_of_ne l hq] at hkept
    exact h q d' hkept

/-- A document that is loaded has been read now or before. -/
theorem HasRead.isRead_of_load (h : l.HasRead) {p : FilePath} {d : Document}
    (loaded : (l.load fs p).outcome.2 = .ok d) : d.IsRead := by
  have loads := l.loadsTo_load fs p
  generalize (l.load fs p).outcome = result at loaded loads
  cases loads with
  | absent noFile => cases loaded
  | known file kept =>
    cases loaded
    exact h p d kept
  | read file new document =>
    cases loaded
    exact Document.isRead_of_ofBytes document
  | unread file new fault => cases loaded

theorem HasRead.load (h : l.HasRead) (p : FilePath) : (l.load fs p).outcome.1.HasRead := by
  rcases load_cases fs p l with same | ⟨bytes, d, -, -, read, loaded⟩
  · rw [same]
    exact h
  · rw [loaded]
    exact h.keep (Document.isRead_of_ofBytes read)

namespace Course

theorem hasRead_next {c : Course} (h : c.loader.HasRead) (u : Use) : (c.next u).loader.HasRead := by
  cases u with
  | change f => exact h
  | load p => exact h.load p
  | loadInstance p => exact h.load p
  | clear =>
    intro p d hkept
    rw [show (c.next .clear).loader = c.loader.clear.outcome from rfl, kept?_clear] at hkept
    cases hkept

/-- Whatever is done to a loader and the files under it, what it keeps has been read. -/
theorem hasRead_run {c : Course} (h : c.loader.HasRead) (uses : List Use) :
    (c.run uses).loader.HasRead := by
  induction uses generalizing c with
  | nil => exact h
  | cons u uses ih => exact ih (hasRead_next h u)

end Course

end Loader

/-! ### Reports -/

namespace Schema

variable {s : Schema}

/-- A check comes to a node with a reason. -/
theorem exists_reason {v : Value} {p n : Node} (h : (s.trace v p).result = .ok n) :
    ∃ reason, n.reason = some reason := by
  obtain ⟨outcome, -, hresult⟩ := (trace_uniform s v).result
  obtain ⟨j, -, rfl⟩ := of_map_eq_ok ((hresult p).symm.trans h)
  exact ⟨j.reason, rfl⟩

theorem checkDocument_acceptedReason (s : Schema) (p : FilePath) (d : Document) :
    (s.checkDocument p d).outcome.report.acceptedReason =
      match (s.trace d.content .root).result with
      | .error _ => none
      | .ok n => if n.isValid then n.reason else none := by
  unfold checkDocument
  dsimp only
  cases d.content.isNull <;> cases (s.trace d.content .root).result with
  | error f => rfl
  | ok n => dsimp only; cases n.isValid <;> rfl

/-- Whether the check of a document comes to a node with a verdict. -/
def ComesTo (s : Schema) (d : Document) (n : Node) (verdict : Bool) : Prop :=
  (s.trace d.content .root).result = .ok n ∧ n.isValid = verdict

/-- What the parts of a report say about the loading and the check of the file. -/
structure IsShaped (s : Schema) (loaded : Except Fault Document) (r : FileReport) : Prop where
  verdict : (∃ e, r.errors = [e]) ∧ r.acceptedReason = none ∨
    r.errors = [] ∧ ∃ reason, r.acceptedReason = some reason
  accepted : r.errors = [] ↔ ∃ d n, loaded = .ok d ∧ s.ComesTo d n true
  reason : ∀ d, loaded = .ok d → ∀ n, s.ComesTo d n true → r.acceptedReason = n.reason
  warned : (∃ w, r.warnings = [w]) ↔ ∃ d, loaded = .ok d ∧ d.content = .null
  unwarned : (¬∃ d, loaded = .ok d ∧ d.content = .null) → r.warnings = []
  whole : ∀ e ∈ r.errors, e.position.line.isSome = e.position.column.isSome
  placed : ∀ e ∈ r.errors, e.position.line.isSome = true ↔
    ∃ d n, loaded = .ok d ∧ s.ComesTo d n false ∧ d.sourceMap.entries ≠ []
  rejected : ∀ d, loaded = .ok d → ∀ n, s.ComesTo d n false →
    ∃ e, r.errors = [e] ∧ n.reason = some e.message ∧ e.path = n.path
  /-- The source map is empty if the document is. -/
  drawn : ∀ d, loaded = .ok d → ∃ syntaxError origin text,
    Document.ofText syntaxError origin text = .ok d ∧
    (d.sourceMap.entries = [] ↔ Yaml.Tree.ofText text = .ok none)

/-- A file that cannot be loaded has one error, which is nowhere in it. -/
theorem isShaped_unloaded (s : Schema) (p : FilePath) (m : String) (f : Fault) :
    s.IsShaped (.error f) (({ file := p } : FileReport).addError { message := m }) where
  verdict := Or.inl ⟨⟨_, rfl⟩, rfl⟩
  accepted := by simp [FileReport.addError]
  reason := by simp
  warned := by simp [FileReport.addError]
  unwarned := fun _ => rfl
  whole := by simp [FileReport.addError]
  placed := by simp [FileReport.addError]
  rejected := by simp
  drawn := by simp

/-- The source map of a document that has been read is empty if there is no node in the text. -/
theorem exists_drawn {d : Document} (read : d.IsRead) : ∃ syntaxError origin text,
    Document.ofText syntaxError origin text = .ok d ∧
      (d.sourceMap.entries = [] ↔ Yaml.Tree.ofText text = .ok none) := by
  obtain ⟨syntaxError, origin, text, h⟩ := read
  refine ⟨syntaxError, origin, text, h, ?_⟩
  rcases Document.sourceMap_cases h with ⟨composed, empty⟩ | ⟨t, composed, hm⟩
  · simp [empty, composed]
  · obtain ⟨mark, hroot⟩ := Yaml.Tree.exists_mark_root hm
    simp only [composed, Except.ok.injEq, reduceCtorEq, iff_false]
    intro empty
    rw [SourceMap.get?, empty] at hroot
    cases hroot

/-- A check comes to one node at most. -/
theorem comesTo_iff {d : Document} {n n' : Node} (h : (s.trace d.content .root).result = .ok n)
    (verdict : Bool) : s.ComesTo d n' verdict ↔ n' = n ∧ n.isValid = verdict := by
  rw [ComesTo, h, Except.ok.injEq]
  constructor <;> rintro ⟨rfl, hn⟩ <;> exact ⟨rfl, hn⟩

/-- The check of a document that has been read is told by what the trace comes to. -/
theorem isShaped_checkDocument (s : Schema) (p : FilePath) {d : Document} (read : d.IsRead) :
    s.IsShaped (.ok d) (s.checkDocument p d).outcome.report := by
  have errors := checkDocument_errors s p d
  have reason := checkDocument_acceptedReason s p d
  -- The warning and the source map do not depend on the trace.
  have warned : (∃ w, (s.checkDocument p d).outcome.report.warnings = [w]) ↔ d.content = .null := by
    rw [checkDocument_warnings, ← isNull_iff]
    cases d.content.isNull <;> simp
  have unwarned (h : d.content ≠ .null) :
      (s.checkDocument p d).outcome.report.warnings = [] := by
    rw [checkDocument_warnings, if_neg (isNull_iff.not.mpr h)]
  have drawn := exists_drawn read
  generalize (s.checkDocument p d).outcome.report = r at *
  cases hresult : (s.trace d.content .root).result with
  | error f =>
    rw [hresult] at errors reason
    have nowhere (n : Node) (verdict : Bool) : ¬s.ComesTo d n verdict := by
      rintro ⟨h, -⟩
      rw [hresult] at h
      cases h
    constructor <;> simp_all
  | ok n =>
    obtain ⟨why, hwhy⟩ := exists_reason hresult
    have comes (n' : Node) (verdict : Bool) :
        s.ComesTo d n' verdict ↔ n' = n ∧ n.isValid = verdict :=
      comesTo_iff hresult verdict
    simp only [hresult, hwhy] at errors reason
    cases hn : n.isValid with
    | true =>
      rw [if_pos hn] at errors reason
      constructor <;> simp_all
    | false =>
      rw [if_neg (by simp [hn])] at errors reason
      -- The error is where the path leads to, or closest around it.
      have position : (Location.find d.sourceMap n.path (some p)).position =
        d.sourceMap.locate (n.path.getD "").toList := rfl
      rcases read.locate_cases (n.path.getD "").toList with ⟨empty, none⟩ | ⟨nonempty, mark, here⟩
      · rw [position, none] at errors
        constructor <;> simp_all
      · rw [position, here] at errors
        constructor <;> simp_all [Position.ofMark]

/-- **The shape of a report.**  Whatever has been done to a loader and to the files under it, the check
of a file that has a result has a report of this shape: an error, or an accepted reason if the file
is loaded and its instance accepted; a warning if the instance is null; and the position of an error
is known, with line and column, if it is a rejection in a document that is not empty. -/
theorem checkFile_isShaped (s : Schema) (syntaxError : List Char → String) (caching : Bool)
    (fs : Files) (uses : List Loader.Use) (p : FilePath) :
    let c := Loader.Course.run { files := fs, loader := { syntaxError, caching } } uses
    ∀ r, (s.checkFile c.files p c.loader).outcome.2 = .ok r →
      s.IsShaped (c.loader.load c.files p).outcome.2 r.report := by
  intro c r checked
  have kept : c.loader.HasRead := Loader.Course.hasRead_run
    (Loader.hasRead_new syntaxError caching) uses
  rw [checkFile_outcome] at checked
  cases hload : (c.loader.load c.files p).outcome.2 with
  | ok d =>
    rw [hload] at checked
    cases checked
    exact isShaped_checkDocument s p (kept.isRead_of_load hload)
  | error f =>
    rw [hload] at checked
    cases f with
    | loading m =>
      cases checked
      exact isShaped_unloaded s p m _
    | _ => cases checked

/-- An empty file that is filled after it has been loaded is still checked as null: the rejection has a
warning beside it and no position. -/
theorem checkFile_isShaped_kept :
    let p : FilePath := { names := ["b.yaml"] }
    let c := Loader.Course.run { files := threeFiles, loader := .plain }
      [.load p, .change fun _ => { here := .directory [("b.yaml", .file [49, 10])] }]
    ∃ r, ((type (.kind .str)).checkFile c.files p c.loader).outcome.2 = .ok r ∧
      (type (.kind .str)).IsShaped (c.loader.load c.files p).outcome.2 r.report ∧
      r.report.errors.map (·.position) = [{}] ∧ findingCounts r = (1, 1) := by
  intro p c
  have checked : ((type (.kind .str)).checkFile c.files p c.loader).outcome.2.map
      (fun r => (r.report.errors.map (·.position), findingCounts r)) = .ok ([{}], (1, 1)) := by
    decide +kernel
  obtain ⟨r, hr, parts⟩ := of_map_eq_ok checked
  obtain ⟨positions, counts⟩ := Prod.ext_iff.mp parts
  exact ⟨r, hr, checkFile_isShaped _ _ true threeFiles _ p r hr, positions, counts⟩

end Schema

end Conform
