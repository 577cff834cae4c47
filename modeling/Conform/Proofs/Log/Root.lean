import Conform.Log.Root
import Conform.Log.Shown
/-!
# Splitting the root

The two handlers of a split share the records from the debug level on: what one of them takes the
other one leaves, so that each record that reaches the level of the root as well is written once
(`write_split`).  Below the debug level neither takes any.  As a split starts with taking all handlers
away, only the last of several counts (`writeAll_splits`).
-/
namespace Conform.Log

namespace Routing

/-- Whether records of a level are shown. -/
def shows (r : Routing) (level : Int) : Bool := r.rootLevel ≤ level && debugLevel ≤ level

/-- The stream for records of a level, if they are shown. -/
def side (r : Routing) (level : Int) : Stream := if level < r.errorLevel then .output else .errors

variable {r : Routing} {level : Int} {stream : Stream}

theorem shows_iff : r.shows level = true ↔ r.rootLevel ≤ level ∧ debugLevel ≤ level := by
  simp [shows]

theorem side_eq_output_iff : r.side level = .output ↔ level < r.errorLevel := by
  simp [side]

theorem side_eq_errors_iff : r.side level = .errors ↔ r.errorLevel ≤ level := by
  simp [side]

theorem stream?_eq_some_iff :
    r.stream? level = some stream ↔ r.shows level = true ∧ r.side level = stream := by
  rw [shows_iff]
  unfold stream? threshold side
  grind

/-- The records for a stream are those that are shown, as far as the stream is theirs. -/
theorem meantFor_eq (r : Routing) (stream : Stream) (log : List Record) : meantFor r stream log =
    (log.filter fun record => r.shows record.level).filter
      fun record => r.side record.level = stream := by
  rw [List.filter_filter, meantFor]
  refine List.filter_congr fun record _ => ?_
  rw [Bool.eq_iff_iff]
  simp only [Bool.and_eq_true, decide_eq_true_iff, stream?_eq_some_iff]
  exact and_comm

end Routing

namespace Split

variable {s : Split} {r : Record}

/-- What is written for a record that is shown. -/
def entry (s : Split) (r : Record) : Entry := ⟨s.side r.level, r, s.shownIn.line r⟩

theorem takes_outputHandler_iff :
    s.outputHandler.takes r = true ↔ debugLevel ≤ r.level ∧ r.level < s.errorLevel := by
  have bounds : s.outputHandler.takes r = true ↔
      debugLevel ≤ r.level ∧ r.level < max s.errorLevel debugLevel := by
    simp [Handler.takes_iff, outputHandler, Routing.threshold]
  rw [bounds]
  omega

theorem takes_errorHandler_iff :
    s.errorHandler.takes r = true ↔ debugLevel ≤ r.level ∧ s.errorLevel ≤ r.level := by
  have bound : s.errorHandler.takes r = true ↔ max s.errorLevel debugLevel ≤ r.level := by
    simp [Handler.takes_iff, errorHandler, Routing.threshold]
  rw [bound]
  omega

/-- From the debug level on, one of the two handlers takes a record, and only that one. -/
theorem filter_takes (s : Split) (r : Record) :
    [s.outputHandler, s.errorHandler].filter (·.takes r) =
      if debugLevel ≤ r.level then [if r.level < s.errorLevel then s.outputHandler else s.errorHandler]
      else [] := by
  simp only [List.filter_cons, List.filter_nil, takes_outputHandler_iff, takes_errorHandler_iff]
  by_cases debug : debugLevel ≤ r.level
  · by_cases below : r.level < s.errorLevel
    · simp [debug, below]
    · simp [debug, below, Int.not_lt.mp below]
  · simp [debug]

end Split

/-- The records among the entries on a stream. -/
def recordsOn (stream : Stream) (entries : List Entry) : List Record :=
  (entries.filter (·.stream = stream)).map (·.record)

theorem textOn_eq {layout : Layout} {entries : List Entry}
    (lines : ∀ e ∈ entries, e.line = layout.line e.record) (stream : Stream) :
    textOn stream entries = String.join ((recordsOn stream entries).map layout.line) := by
  rw [textOn, recordsOn, List.map_map]
  congr 1
  exact List.map_congr_left fun e he => lines e (List.mem_filter.mp he).1

namespace Root

/-- Of several splits the last one counts, as it keeps nothing of what the root was before. -/
theorem foldl_split_concat (root : Root) (earlier : List Split) (s : Split) :
    (earlier ++ [s]).foldl split root = root.split s := by
  rw [List.foldl_append]
  rfl

/-- A record that is shown is written once, by one of the two handlers. -/
theorem write_split (root : Root) (s : Split) (r : Record) :
    (root.split s).write r = if s.shows r.level then [s.entry r] else [] := by
  have active : (root.split s).active = [s.outputHandler, s.errorHandler] := rfl
  have passes : (root.split s).passes r.level = true ↔ 0 < r.level ∧ s.rootLevel ≤ r.level :=
    passes_iff
  -- What is switched off for all loggers lies below the debug level.
  have positive : 0 < debugLevel := by decide
  rw [write, active, s.filter_takes]
  by_cases root : s.rootLevel ≤ r.level
  · by_cases debug : debugLevel ≤ r.level
    · have shown : s.shows r.level = true := Routing.shows_iff.mpr ⟨root, debug⟩
      rw [if_pos (passes.mpr ⟨by omega, root⟩), if_pos debug, if_pos shown, List.map_singleton]
      unfold Split.entry Routing.side
      split <;> rfl
    · have hidden : ¬s.shows r.level = true := fun h => debug (Routing.shows_iff.mp h).2
      rw [if_neg debug, if_neg hidden, List.map_nil, ite_self]
  · have hidden : ¬s.shows r.level = true := fun h => root (Routing.shows_iff.mp h).1
    rw [if_neg fun h => root (passes.mp h).2, if_neg hidden]

theorem writeAll_split (root : Root) (s : Split) (log : List Record) :
    (root.split s).writeAll log = (log.filter fun r => s.shows r.level).map s.entry := by
  induction log with
  | nil => rfl
  | cons r log ih =>
    rw [writeAll, List.flatMap_cons, ← writeAll, ih, write_split, List.filter_cons]
    split <;> rfl

theorem map_record_entry (s : Split) (log : List Record) :
    (log.map s.entry).map (·.record) = log := by
  rw [List.map_map]
  exact List.map_id log

theorem recordsOn_split (root : Root) (s : Split) (stream : Stream) (log : List Record) :
    recordsOn stream ((root.split s).writeAll log) =
      (log.filter fun r => s.shows r.level).filter fun r => s.side r.level = stream := by
  rw [recordsOn, writeAll_split, List.filter_map, map_record_entry]
  rfl

theorem line_eq_of_mem_writeAll {root : Root} {s : Split} {log : List Record} :
    ∀ e ∈ (root.split s).writeAll log, e.line = s.shownIn.line e.record := by
  rw [writeAll_split, List.forall_mem_map]
  exact fun _ _ => rfl

/-- The text on a stream is told by the levels of the split and its layout alone. -/
theorem textOn_split (root : Root) (s : Split) (stream : Stream) (log : List Record) :
    textOn stream ((root.split s).writeAll log) = shownOn s.toRouting s.shownIn stream log := by
  rw [textOn_eq line_eq_of_mem_writeAll, recordsOn_split, shownOn, Routing.meantFor_eq]

/-- **Records after splits.**  After any splits, each record that reaches the level of the last one and
the debug level is written once, and no other record is: to the output if it is below the level for
errors, and to the stream for errors otherwise.  Each stream has its records in order, each in the
line that the layout has for it. -/
theorem writeAll_splits (root : Root) (earlier : List Split) (s : Split) (log : List Record) :
    let written := ((earlier ++ [s]).foldl split root).writeAll log
    let shown := log.filter fun r => s.rootLevel ≤ r.level ∧ debugLevel ≤ r.level
    written.map (·.record) = shown ∧
    recordsOn .output written = shown.filter (·.level < s.errorLevel) ∧
    recordsOn .errors written = shown.filter (s.errorLevel ≤ ·.level) ∧
    ∀ stream, textOn stream written =
      String.join ((recordsOn stream written).map s.shownIn.line) := by
  intro written shown
  have last : written = (root.split s).writeAll log :=
    congrArg (·.writeAll log) (foldl_split_concat root earlier s)
  have all : (log.filter fun r => s.shows r.level) = shown :=
    List.filter_congr fun r _ => by rw [Bool.eq_iff_iff, decide_eq_true_iff, Routing.shows_iff]
  rw [last]
  refine ⟨?_, ?_, ?_, textOn_eq line_eq_of_mem_writeAll⟩
  · rw [writeAll_split, map_record_entry, all]
  · simp only [recordsOn_split, all, Routing.side_eq_output_iff]
  · simp only [recordsOn_split, all, Routing.side_eq_errors_iff]

/-- A record below the debug level is written nowhere, although it reaches the level of the root. -/
theorem writeAll_below_debugLevel :
    let s : Split := { rootLevel := 5 }
    let r : Record := ⟨5, "a", "m"⟩
    s.rootLevel ≤ r.level ∧ (({} : Root).split s).writeAll [r] = [] := by
  decide

end Root

end Conform.Log
