import Conform.Log.Basic
import Conform.Schema.Trace
/-!
# Asking for acceptance

`check` gives the accepting node of an instance and turns a rejection into a fault, after noting it
in the log.
-/
namespace Conform

namespace Schema

def logger : String := "schematize.schema.base"

/-- The accepting node of an instance; a rejection is a fault. -/
def check (s : Schema) (v : Value) : Logged (Except Fault Node) :=
  match (s.trace v .root).result with
  | .error e => ⟨[], .error e⟩
  | .ok n =>
    if n.isValid then ⟨[], .ok n⟩
    else ⟨[Log.debug logger s!"Instance rejected: {n.text}"], .error (.rejected n)⟩

end Schema

end Conform
