import Conform.Log.Layout
import Conform.Log.Streams
/-!
# The root of the loggers

All loggers hand their records to the root.  It passes on those that reach its level, and each of its
handlers writes the ones that it takes to a stream, a line each.  While the root has no handlers, a
handler of last resort stands in for them.

To split the root is to take its handlers away and to give it two others: one for the output, which
takes what is below a threshold, and one for errors, which takes the rest.
-/
namespace Conform.Log

/-- Lets records below a level through. -/
structure BelowLevel where
  level : Int
deriving DecidableEq, Repr, Inhabited

def BelowLevel.passes (f : BelowLevel) (r : Record) : Bool := r.level < f.level

/-- Writes records to a stream: those that reach its level and that all its filters let through. -/
structure Handler where
  stream : Stream
  level : Int := 0
  filters : List BelowLevel := []
  layout : Layout := .plain
deriving DecidableEq, Repr, Inhabited

/-- A record on a stream, and the line that shows it there. -/
structure Entry where
  stream : Stream
  record : Record
  line : String
deriving DecidableEq, Repr, Inhabited

namespace Handler

def takes (h : Handler) (r : Record) : Bool := h.level ≤ r.level && h.filters.all (·.passes r)

theorem takes_iff {h : Handler} {r : Record} :
    h.takes r = true ↔ h.level ≤ r.level ∧ ∀ f ∈ h.filters, r.level < f.level := by
  simp [takes, BelowLevel.passes]

def write (h : Handler) (r : Record) : Entry := ⟨h.stream, r, h.layout.line r⟩

/-- Shows the messages of warnings and of what is more severe. -/
def lastResort : Handler := { stream := .errors, level := warningLevel }

end Handler

def textOn (stream : Stream) (entries : List Entry) : String :=
  String.join ((entries.filter (·.stream = stream)).map (·.line))

/-- How the root is split: the levels, and the layout if it is not the usual one. -/
structure Split extends Routing where
  layout : Option Layout := none
deriving DecidableEq, Repr, Inhabited

namespace Split

/-- The layout of both handlers. -/
def shownIn (s : Split) : Layout := s.layout.getD .usual

/-- Writes to the output what is below the threshold. -/
def outputHandler (s : Split) : Handler where
  stream := .output
  level := debugLevel
  filters := [⟨s.threshold⟩]
  layout := s.shownIn

/-- Writes what reaches the threshold to the stream for errors. -/
def errorHandler (s : Split) : Handler where
  stream := .errors
  level := s.threshold
  layout := s.shownIn

end Split

/-- The root, with the level that records have to reach and the handlers in the order in which they
were added. -/
structure Root where
  level : Int := warningLevel
  handlers : List Handler := []
deriving DecidableEq, Repr, Inhabited

namespace Root

/-- Whether records of a level are passed on.  Levels that are not positive are switched off for all
loggers. -/
def passes (root : Root) (level : Int) : Bool := 0 < level && root.level ≤ level

theorem passes_iff {root : Root} {level : Int} :
    root.passes level = true ↔ 0 < level ∧ root.level ≤ level := by
  simp [passes]

/-- The handlers that records are passed on to. -/
def active (root : Root) : List Handler :=
  if root.handlers.isEmpty then [.lastResort] else root.handlers

def write (root : Root) (r : Record) : List Entry :=
  if root.passes r.level then (root.active.filter (·.takes r)).map (·.write r) else []

def writeAll (root : Root) (log : List Record) : List Entry := log.flatMap root.write

def clear (root : Root) : Root := { root with handlers := [] }

def setLevel (root : Root) (level : Int) : Root := { root with level }

def add (root : Root) (h : Handler) : Root := { root with handlers := root.handlers ++ [h] }

/-- Splits the root, whatever handlers it had before. -/
def split (root : Root) (s : Split) : Root :=
  ((root.clear.setLevel s.rootLevel).add s.outputHandler).add s.errorHandler

end Root

end Conform.Log
