import Conform.CheckFile
import Conform.File.Search
import Conform.Proofs.Log.Root
import Conform.Reference
import Conform.Settings
/-!
# The records of the operations

Each operation writes its records at one level and under loggers of the program: at the debug level
where a schema is found and files are loaded and checked, at the warning level where the search
passes over a path.  So a stream shows all records of an operation or none.  In the usual layout a
record is a line that starts with the name of its logger.
-/
namespace Conform

namespace Log

/-! ### Lines -/

theorem Layout.line_usual (r : Record) : usual.line r =
    r.logger ++ " - " ++ levelName r.level ++ " - " ++ r.message ++ "\n" := by
  have written : usual.write? r =
      some (r.logger ++ " - " ++ levelName r.level ++ " - " ++ r.message) := by
    have text : ∀ s : String, FieldStyle.write? {} (.text s) = some s.toList := by
      intro s
      simp [FieldStyle.write?, FieldStyle.cut, FieldStyle.shown, FieldStyle.pad]
    have dash : (" - " : String) = " " ++ ("-" ++ " ") := by decide
    simp [Layout.write?, usual, LayoutPart.write?, attribute?, text]
    simp only [dash, String.append_assoc]
  rw [line, written]
  rfl

/-! ### Streams -/

/-- From the debug level on the stream for output has what lies between the two levels. -/
theorem Routing.stream?_eq_output_iff {r : Routing} {level : Int} (h : debugLevel ≤ level) :
    r.stream? level = some .output ↔ r.rootLevel ≤ level ∧ level < r.errorLevel := by
  rw [stream?_eq_some_iff, shows_iff, side_eq_output_iff, and_iff_left h]

/-- Whether a record has a level and comes from a logger of the program. -/
structure Record.IsOwn (level : Int) (r : Record) : Prop where
  level : r.level = level
  logger : Settings.programLogger.toList <+: r.logger.toList

theorem meantFor_append (r : Routing) (stream : Stream) (log log' : List Record) :
    meantFor r stream (log ++ log') = meantFor r stream log ++ meantFor r stream log' :=
  List.filter_append ..

/-- Records of one level are meant for a stream all together or not at all. -/
theorem meantFor_own {r : Routing} {stream : Stream} {log : List Record} {level : Int}
    (own : ∀ record ∈ log, record.IsOwn level) :
    meantFor r stream log = if r.stream? level = some stream then log else [] := by
  unfold meantFor
  split
  next h => exact List.filter_eq_self.mpr fun x hx => by simp [(own x hx).level, h]
  next h => exact List.filter_eq_nil_iff.mpr fun x hx => by simp [(own x hx).level, h]

/-- What a stream shows of the records of the program starts with the name of a logger. -/
theorem prefix_shownOn {r : Routing} {stream : Stream} {log : List Record}
    (own : ∀ record ∈ log, ∃ level, record.IsOwn level) (shown : meantFor r stream log ≠ []) :
    Settings.programLogger.toList <+: (shownOn r .usual stream log).toList := by
  -- Only the first record counts, whatever else there is.
  obtain ⟨record, rest, first⟩ := List.exists_cons_of_ne_nil shown
  obtain ⟨level, -, logger⟩ := own record (mem_meantFor.mp (first ▸ List.mem_cons_self ..)).1
  rw [shownOn, first, List.map_cons, Layout.line_usual]
  simp only [String.join_cons, String.toList_append, List.append_assoc]
  exact logger.trans (List.prefix_append ..)

end Log

/-! ### Operations -/

namespace Registry

/-- Finding a schema is told of once. -/
theorem log_resolve {registry : Registry} {reference : String} {s : Schema}
    (h : (registry.resolve reference).outcome = .ok s) :
    ∃ record, (registry.resolve reference).log = [record] ∧ record.IsOwn Log.debugLevel := by
  unfold resolve at h ⊢
  cases hfind : registry.find reference with
  | error f => simp [hfind, Logged.silent] at h
  | ok m =>
    cases m with
    | schema s =>
      cases hs : s.writeDescription with
      | error f => simp [hfind, hs, Logged.silent] at h
      | ok text =>
        have own : Settings.programLogger.toList <+: logger.toList := by decide
        exact ⟨_, by simp only [hs]; rfl, rfl, own⟩
    | _ => simp [hfind, Logged.silent] at h

end Registry

namespace Files

theorem log_instancesAt (fs : Files) (p : FilePath) :
    ∀ record ∈ (fs.instancesAt p).log, record.IsOwn Log.warningLevel := by
  have program : Settings.programLogger.toList <+: searchLogger.toList := by decide
  have note : ∀ m : String, (Log.warning searchLogger m).IsOwn Log.warningLevel :=
    fun m => ⟨rfl, program⟩
  intro record h
  unfold instancesAt at h
  split at h
  · obtain rfl := List.mem_singleton.mp h
    exact note _
  · split at h
    · cases h
    · obtain rfl := List.mem_singleton.mp h
      exact note _
  · cases h
  · obtain rfl := List.mem_singleton.mp h
    exact note _

/-- The search warns, and writes nothing else. -/
theorem log_search (fs : Files) (ps : List FilePath) :
    ∀ record ∈ (fs.search ps).log, record.IsOwn Log.warningLevel := by
  intro record h
  simp only [search, List.mem_flatMap, List.mem_map] at h
  obtain ⟨-, ⟨p, -, rfl⟩, h⟩ := h
  exact fs.log_instancesAt p record h

end Files

theorem Loader.log_load (fs : Files) (p : FilePath) (l : Loader) :
    ∀ record ∈ (l.load fs p).log, record.IsOwn Log.debugLevel := by
  have program : Settings.programLogger.toList <+: logger.toList := by decide
  have own : ∀ m : String, (Log.debug logger m).IsOwn Log.debugLevel := fun m => ⟨rfl, program⟩
  intro record h
  unfold load at h
  split at h
  · cases h
  · split at h <;> obtain rfl := List.mem_singleton.mp h <;> exact own _

namespace Schema

theorem log_checkDocument (s : Schema) (p : FilePath) (d : Document) :
    ∀ record ∈ (s.checkDocument p d).log, record.IsOwn Log.debugLevel := by
  have program : Settings.programLogger.toList <+: checkerLogger.toList := by decide
  have own : ∀ m : String, (Log.debug checkerLogger m).IsOwn Log.debugLevel :=
    fun m => ⟨rfl, program⟩
  intro record h
  unfold checkDocument at h
  dsimp only at h
  cases hresult : (s.trace d.content .root).result with
  | error f =>
    rw [hresult] at h
    cases h
  | ok n =>
    rw [hresult] at h
    dsimp only at h
    split at h <;> obtain rfl := List.mem_singleton.mp h <;> exact own _

theorem log_checkFile (fs : Files) (s : Schema) (p : FilePath) (l : Loader) :
    ∀ record ∈ (s.checkFile fs p l).log, record.IsOwn Log.debugLevel := by
  intro record h
  rw [checkFile, Logged.log_bind, List.mem_append] at h
  rcases h with h | h
  · exact l.log_load fs p record h
  · generalize (l.load fs p).outcome = loaded at h
    obtain ⟨l', loaded⟩ := loaded
    cases loaded with
    | ok d => exact s.log_checkDocument p d record (by simpa using h)
    | error f => cases f <;> cases h

/-- Checking files is told of at the debug level only. -/
theorem log_checkFiles (fs : Files) (s : Schema) (ps : List FilePath) (l : Loader) :
    ∀ record ∈ (s.checkFiles fs ps l).log, record.IsOwn Log.debugLevel := by
  induction ps generalizing l with
  | nil => simp [checkFiles, Logged.silent]
  | cons p ps ih =>
    intro record h
    rw [checkFiles, Logged.log_bind, List.mem_append] at h
    rcases h with h | h
    · exact log_checkFile fs s p l record h
    · generalize (s.checkFile fs p l).outcome = checked at h
      obtain ⟨l', c⟩ := checked
      cases c with
      | error f => cases h
      | ok c => exact ih l' record (by simpa using h)

end Schema

end Conform
