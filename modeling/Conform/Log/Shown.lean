import Conform.Log.Layout
import Conform.Log.Streams
/-!
# Shown records

Each stream shows the records that are meant for it, a line each and in order.
-/
namespace Conform.Log

def meantFor (r : Routing) (stream : Stream) (log : List Record) : List Record :=
  log.filter fun record => r.stream? record.level = some stream

def shownOn (r : Routing) (l : Layout) (stream : Stream) (log : List Record) : String :=
  String.join ((meantFor r stream log).map l.line)

@[simp] theorem mem_meantFor {r : Routing} {stream : Stream} {log : List Record}
    {record : Record} :
    record ∈ meantFor r stream log ↔ record ∈ log ∧ r.stream? record.level = some stream := by
  simp [meantFor]

/-- No record is shown on both streams. -/
theorem not_mem_both {r : Routing} {log : List Record} {record : Record}
    (h : record ∈ meantFor r .output log) : record ∉ meantFor r .errors log := by
  simp_all

end Conform.Log
