import Conform.Loader
/-!
# What a loader comes to in the course of time

A loader is used again and again while the files under it change.  What a load comes to is told by
the files of the moment and by the loads that there have been (`expected`): a path without a file is
refused, whether it is known or not; a path that has been loaded since the loader was last told to
forget gives the document of the first of these loads, whatever has been written since; any other
path is read.  That a loader does just this in every course of events is `load_eq_expected`.
-/
namespace Conform

theorem Files.bytesAt_eq_ok_iff {fs : Files} {p : FilePath} {bytes : List UInt8} :
    fs.bytesAt p = .ok bytes ↔ fs.find? p = some (.file bytes) := by
  unfold bytesAt
  split <;> simp_all

/-- Where there is no file, the fault is one of loading. -/
theorem Files.bytesAt_ne_error {fs : Files} {p : FilePath} {f : Fault}
    (escapes : ∀ m, f ≠ .loading m) : fs.bytesAt p ≠ .error f := by
  unfold bytesAt
  split <;> simp [Ne.symm (escapes _)]

namespace Loader

/-- A loader that has not been used and says the same of all malformed texts. -/
def plain : Loader := { syntaxError := fun _ => "malformed" }

/-! ### Courses of events -/

/-- What may be done to a loader and to the files under it. -/
inductive Use where
  | change (f : Files → Files)
  | load (p : FilePath)
  | loadInstance (p : FilePath)
  | clear

/-- What has happened to a loader. -/
inductive Event where
  | loaded (p : FilePath) (r : Except Fault Document)
  | cleared

/-- The files of the moment, a loader, and what has happened to it, the latest event first. -/
structure Course where
  files : Files
  loader : Loader
  history : List Event := []

namespace Course

/-- A loader that keeps documents and has not been used. -/
def start (fs : Files) (syntaxError : List Char → String) : Course :=
  { files := fs, loader := { syntaxError, caching := true } }

/-- The course after a use of the loader or a change of the files. -/
def next (c : Course) : Use → Course
  | .change f => { c with files := f c.files }
  | .load p =>
    let r := (c.loader.load c.files p).outcome
    { c with loader := r.1, history := .loaded p r.2 :: c.history }
  | .loadInstance p =>
    { c with
      loader := (c.loader.loadInstance c.files p).outcome.1
      history := .loaded p (c.loader.load c.files p).outcome.2 :: c.history }
  | .clear => { c with loader := c.loader.clear.outcome, history := .cleared :: c.history }

/-- The course after all uses in order. -/
def run (c : Course) (uses : List Use) : Course := uses.foldl next c

end Course

/-- The document of the first load of a path that succeeded since the loader was last told to
forget, if there has been one. -/
def firstLoad? (p : FilePath) : List Event → Option Document
  | [] => none
  | .cleared :: _ => none
  | .loaded q r :: before =>
    match firstLoad? p before with
    | some d => some d
    | none => if q = p then r.toOption else none

/-- What a load comes to, by the files of the moment and by what has happened. -/
def expected (syntaxError : List Char → String) (fs : Files) (history : List Event)
    (p : FilePath) : Except Fault Document :=
  match fs.find? p with
  | none => .error (.loading s!"Instance file not found: {p.text}")
  | some (.file _) =>
    match firstLoad? p history with
    | some d => .ok d
    | none => (({ syntaxError, caching := false } : Loader).load fs p).outcome.2
  | some _ => .error (.loading s!"Path is not a file: {p.text}")

/-! ### Single loads -/

variable {fs : Files} {l l' : Loader} {p q : FilePath}

theorem loadInstance_outcome (fs : Files) (p : FilePath) (l : Loader) :
    (l.loadInstance fs p).outcome =
      ((l.load fs p).outcome.1, (l.load fs p).outcome.2.map (·.content)) := rfl

@[simp] theorem kept?_clear (l : Loader) (p : FilePath) : l.clear.outcome.kept? p = none := by
  unfold kept?
  split <;> rfl

@[simp] theorem keep_caching (l : Loader) (p : FilePath) (d : Document) :
    (l.keep p d).caching = l.caching := by
  unfold keep
  split <;> rfl

@[simp] theorem keep_syntaxError (l : Loader) (p : FilePath) (d : Document) :
    (l.keep p d).syntaxError = l.syntaxError := by
  unfold keep
  split <;> rfl

/-- What a load comes to, with the loader afterwards: there is no file to read, its document is known
already, or it is read now, with success or not. -/
inductive LoadsTo (fs : Files) (p : FilePath) (l : Loader) : Loader × Except Fault Document → Prop
  | absent {f : Fault} (noFile : fs.bytesAt p = .error f) : LoadsTo fs p l (l, .error f)
  | known {bytes : List UInt8} {d : Document} (file : fs.bytesAt p = .ok bytes)
      (kept : l.kept? p = some d) : LoadsTo fs p l (l, .ok d)
  | read {bytes : List UInt8} {d : Document} (file : fs.bytesAt p = .ok bytes)
      (new : l.kept? p = none) (document : Document.ofBytes l.syntaxError p bytes = .ok d) :
      LoadsTo fs p l (l.keep p d, .ok d)
  | unread {bytes : List UInt8} {f : Fault} (file : fs.bytesAt p = .ok bytes)
      (new : l.kept? p = none) (fault : Document.ofBytes l.syntaxError p bytes = .error f) :
      LoadsTo fs p l (l, .error f)

theorem loadsTo_load (fs : Files) (p : FilePath) (l : Loader) :
    LoadsTo fs p l (l.load fs p).outcome := by
  unfold load
  cases file : fs.bytesAt p with
  | error f => exact .absent file
  | ok bytes =>
    cases kept : l.kept? p with
    | some d => exact .known file kept
    | none =>
      cases document : Document.ofBytes l.syntaxError p bytes with
      | ok d => simpa [Logged.after, document] using LoadsTo.read file kept document
      | error f => simpa [Logged.after, document] using LoadsTo.unread file kept document

/-- A load is told by the file, by what is kept under its path and by the words for malformed texts. -/
theorem load_eq (fs : Files) (p : FilePath) (l : Loader) : (l.load fs p).outcome.2 = (do
    let bytes ← fs.bytesAt p
    match l.kept? p with
    | some d => .ok d
    | none => Document.ofBytes l.syntaxError p bytes) := by
  have loads := loadsTo_load fs p l
  generalize (l.load fs p).outcome = loaded at loads
  cases loads with
  | absent noFile => rw [noFile]; rfl
  | known file kept => rw [file, kept]; rfl
  | read file new document => rw [file, new]; exact document.symm
  | unread file new fault => rw [file, new]; exact fault.symm

/-- The loader afterwards keeps what it kept before, with the document that was read if one was. -/
theorem load_cases (fs : Files) (p : FilePath) (l : Loader) :
    (l.load fs p).outcome = (l, (l.load fs p).outcome.2) ∨
      ∃ bytes d, fs.bytesAt p = .ok bytes ∧ l.kept? p = none ∧
        Document.ofBytes l.syntaxError p bytes = .ok d ∧
        (l.load fs p).outcome = (l.keep p d, .ok d) := by
  have loads := loadsTo_load fs p l
  generalize (l.load fs p).outcome = loaded at loads
  cases loads with
  | read file new document => exact Or.inr ⟨_, _, file, new, document, rfl⟩
  | _ => exact Or.inl rfl

theorem load_caching (fs : Files) (p : FilePath) (l : Loader) :
    (l.load fs p).outcome.1.caching = l.caching := by
  rcases load_cases fs p l with same | ⟨bytes, d, -, -, -, read⟩
  · rw [same]
  · rw [read, keep_caching]

theorem load_syntaxError (fs : Files) (p : FilePath) (l : Loader) :
    (l.load fs p).outcome.1.syntaxError = l.syntaxError := by
  rcases load_cases fs p l with same | ⟨bytes, d, -, -, -, read⟩
  · rw [same]
  · rw [read, keep_syntaxError]

/-- A load that fails leaves the loader as it is. -/
theorem load_of_error {f : Fault} (h : (l.load fs p).outcome.2 = .error f) :
    (l.load fs p).outcome.1 = l := by
  rcases load_cases fs p l with same | ⟨bytes, d, -, -, -, read⟩
  · rw [same]
  · rw [read] at h
    cases h

/-- What is kept under another path stays. -/
theorem kept?_load_of_ne (fs : Files) (l : Loader) (h : q ≠ p) :
    (l.load fs p).outcome.1.kept? q = l.kept? q := by
  rcases load_cases fs p l with same | ⟨bytes, d, -, -, -, read⟩
  · rw [same]
  · rw [read, kept?_keep_of_ne l h]

/-- What is kept under the path stays too; if nothing was, it is the document that was loaded. -/
theorem kept?_load_self (fs : Files) (p : FilePath) (caching : l.caching = true) :
    (l.load fs p).outcome.1.kept? p =
      match l.kept? p with
      | some d => some d
      | none => (l.load fs p).outcome.2.toOption := by
  have loads := loadsTo_load fs p l
  generalize (l.load fs p).outcome = loaded at loads
  cases loads with
  | absent noFile => cases l.kept? p <;> rfl
  | known file kept => rw [kept]
  | read file new document => rw [new, kept?_keep_self caching]; rfl
  | unread file new fault => rw [new]; rfl

/-- Two loaders that keep the same under a path load the same from it. -/
theorem load_eq_of_kept? (h : l'.kept? p = l.kept? p) (words : l'.syntaxError = l.syntaxError)
    (fs : Files) : (l'.load fs p).outcome.2 = (l.load fs p).outcome.2 := by
  rw [load_eq, load_eq, h, words]

/-! ### What is kept is what was loaded first -/

/-- Whether a loader keeps, under each path, the document of the first load since it was told to
forget. -/
structure Course.Remembers (syntaxError : List Char → String) (c : Course) : Prop where
  caching : c.loader.caching = true
  words : c.loader.syntaxError = syntaxError
  kept : ∀ p, c.loader.kept? p = firstLoad? p c.history

namespace Course

variable {c c' : Course} {syntaxError : List Char → String}

theorem remembers_start (fs : Files) (syntaxError : List Char → String) :
    (start fs syntaxError).Remembers syntaxError := ⟨rfl, rfl, fun _ => rfl⟩

theorem remembers_loaded (h : c.Remembers syntaxError) (p : FilePath) :
    ({ c with
      loader := (c.loader.load c.files p).outcome.1
      history := .loaded p (c.loader.load c.files p).outcome.2 :: c.history } :
        Course).Remembers syntaxError := by
  constructor
  · exact (load_caching c.files p c.loader).trans h.caching
  · exact (load_syntaxError c.files p c.loader).trans h.words
  · intro q
    rw [firstLoad?, ← h.kept q]
    by_cases hq : q = p
    · subst hq
      rw [kept?_load_self c.files q h.caching, if_pos rfl]
    · -- Another path keeps what it had, which is none where nothing was loaded.
      rw [kept?_load_of_ne c.files c.loader hq, if_neg (Ne.symm hq)]
      cases c.loader.kept? q <;> rfl

theorem Remembers.next (h : c.Remembers syntaxError) (u : Use) :
    (c.next u).Remembers syntaxError := by
  cases u with
  | change f => exact ⟨h.caching, h.words, h.kept⟩
  | load p => exact remembers_loaded h p
  | loadInstance p => exact remembers_loaded h p
  | clear => exact ⟨h.caching, h.words, fun p => kept?_clear c.loader p⟩

theorem Remembers.run (h : c.Remembers syntaxError) (uses : List Use) :
    (c.run uses).Remembers syntaxError := by
  induction uses generalizing c with
  | nil => exact h
  | cons u uses ih => exact ih (h.next u)

theorem Remembers.load_eq (h : c.Remembers syntaxError) (p : FilePath) :
    (c.loader.load c.files p).outcome.2 = expected syntaxError c.files c.history p := by
  -- A loader that keeps nothing at all loads what one does that keeps nothing here.
  have nothing : ({ syntaxError, caching := false } : Loader).kept? p = none := rfl
  rw [Loader.load_eq, expected, Loader.load_eq, ← h.kept p, h.words, nothing, Files.bytesAt]
  cases c.files.find? p with
  | none => rfl
  | some t => cases t <;> cases c.loader.kept? p <;> rfl

end Course

/-! ### Other paths -/

/-- Whether a use may make a difference to what is loaded from a path. -/
def Use.concerns (p : FilePath) : Use → Bool
  | .change _ => true
  | .load q => q = p
  | .loadInstance q => q = p
  | .clear => true

/-- Whether two courses are the same as far as a path is concerned. -/
structure Course.AlikeAt (p : FilePath) (c c' : Course) : Prop where
  files : c.files = c'.files
  words : c.loader.syntaxError = c'.loader.syntaxError
  caching : c.loader.caching = true ∧ c'.loader.caching = true
  kept : c.loader.kept? p = c'.loader.kept? p

namespace Course

variable {c c' : Course}

theorem AlikeAt.loaded (h : AlikeAt p c c') {history history' : List Event} :
    AlikeAt p { c with loader := (c.loader.load c.files p).outcome.1, history }
      { c' with loader := (c'.loader.load c'.files p).outcome.1, history := history' } := by
  refine ⟨h.files, ?_, ?_, ?_⟩
  · exact (load_syntaxError ..).trans (h.words.trans (load_syntaxError ..).symm)
  · exact ⟨(load_caching ..).trans h.caching.1, (load_caching ..).trans h.caching.2⟩
  · have same : (c.loader.load c.files p).outcome.2 = (c'.loader.load c'.files p).outcome.2 := by
      rw [h.files]
      exact load_eq_of_kept? h.kept h.words c'.files
    rw [kept?_load_self _ _ h.caching.1, kept?_load_self _ _ h.caching.2, h.kept, same]

/-- A use that concerns the path leaves alike what is alike. -/
theorem AlikeAt.next (h : AlikeAt p c c') {u : Use} (concerns : u.concerns p = true) :
    AlikeAt p (c.next u) (c'.next u) := by
  cases u with
  | change f => exact ⟨congrArg f h.files, h.words, h.caching, h.kept⟩
  | load q =>
    obtain rfl : q = p := of_decide_eq_true concerns
    exact h.loaded
  | loadInstance q =>
    obtain rfl : q = p := of_decide_eq_true concerns
    exact h.loaded
  | clear => exact ⟨h.files, h.words, h.caching, by simp [Course.next]⟩

/-- Any other use makes no difference. -/
theorem AlikeAt.skip (h : AlikeAt p c c') {u : Use} (concerns : u.concerns p = false) :
    AlikeAt p (c.next u) c' := by
  cases u with
  | change f => cases concerns
  | load q =>
    have hq : p ≠ q := Ne.symm (of_decide_eq_false concerns)
    exact ⟨h.files, (load_syntaxError ..).trans h.words,
      ⟨(load_caching ..).trans h.caching.1, h.caching.2⟩, (kept?_load_of_ne _ _ hq).trans h.kept⟩
  | loadInstance q =>
    have hq : p ≠ q := Ne.symm (of_decide_eq_false concerns)
    exact ⟨h.files, (load_syntaxError ..).trans h.words,
      ⟨(load_caching ..).trans h.caching.1, h.caching.2⟩, (kept?_load_of_ne _ _ hq).trans h.kept⟩
  | clear => cases concerns

/-- A course is alike to the one in which the uses are left out that do not concern the path. -/
theorem AlikeAt.run (h : AlikeAt p c c') (uses : List Use) :
    AlikeAt p (c.run uses) (c'.run (uses.filter (Use.concerns p))) := by
  induction uses generalizing c c' with
  | nil => exact h
  | cons u uses ih =>
    cases hu : u.concerns p with
    | true =>
      rw [List.filter_cons_of_pos hu]
      exact ih (h.next hu)
    | false =>
      rw [List.filter_cons_of_neg (by simp [hu])]
      exact ih (h.skip hu)

/-- **A loader comes to what is expected of it**, after any course of events: a load gives what the
files of the moment and the first successful load of its path say, whether it hands out the whole
document or the instance alone; one that fails leaves the loader as it was; and what is done to other
paths makes no difference. -/
theorem load_eq_expected (fs : Files) (syntaxError : List Char → String) (uses : List Use)
    (p : FilePath) :
    let c := (start fs syntaxError).run uses
    (c.loader.load c.files p).outcome.2 = expected syntaxError c.files c.history p ∧
    (c.loader.loadInstance c.files p).outcome.2 =
      (expected syntaxError c.files c.history p).map (·.content) ∧
    (∀ f, (c.loader.load c.files p).outcome.2 = .error f →
      (c.loader.load c.files p).outcome.1 = c.loader) ∧
    ∀ others, others.filter (Use.concerns p) = uses.filter (Use.concerns p) →
      let c' := (start fs syntaxError).run others
      (c'.loader.load c'.files p).outcome.2 = (c.loader.load c.files p).outcome.2 := by
  intro c
  have remembers : c.Remembers syntaxError := (remembers_start fs syntaxError).run uses
  have loaded := remembers.load_eq p
  refine ⟨loaded, ?_, fun f => load_of_error, fun others same => ?_⟩
  · rw [loadInstance_outcome, loaded]
  · -- Both courses are alike to the one with the uses that concern the path.
    have alike : AlikeAt p (start fs syntaxError) (start fs syntaxError) :=
      ⟨rfl, rfl, ⟨rfl, rfl⟩, rfl⟩
    have left := alike.run others
    have right := alike.run uses
    rw [same] at left
    dsimp only
    rw [left.files.trans right.files.symm]
    exact load_eq_of_kept? (left.kept.trans right.kept.symm) (left.words.trans right.words.symm) _

end Course

end Loader

end Conform
