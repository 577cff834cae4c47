import Conform.Log.Basic
import Conform.Text.Blank
/-!
# Where records are shown

Records below the level of the root are dropped.  Of the others, those below a threshold go to one
stream and the rest to the other; neither stream shows what is below the debug level, so that the
threshold has no effect below it.
-/
namespace Conform.Log

/-- A stream that records are shown on. -/
inductive Stream where
  | output
  | errors
deriving DecidableEq, Repr, Inhabited

/-- The levels that decide where a record is shown. -/
structure Routing where
  rootLevel : Int := infoLevel
  errorLevel : Int := warningLevel
deriving DecidableEq, Repr, Inhabited

namespace Routing

/-- The level from which on records go to the stream for errors. -/
def threshold (r : Routing) : Int := max r.errorLevel debugLevel

/-- The stream for a level, if records of this level are shown. -/
def stream? (r : Routing) (level : Int) : Option Stream :=
  if level < r.rootLevel ∨ level < debugLevel then none
  else if level < r.threshold then some .output
  else some .errors

end Routing

/-- The capital of a letter, as far as it is an ASCII letter; two letters beyond ASCII have one. -/
def capital (c : Char) : Char :=
  if c = '\u0131' then 'I' else if c = '\u017f' then 'S' else c.toUpper

/-- The level of a name in any mixture of cases, with blanks around it. -/
def levelOfName (name : Option String) (default : Int) : Int :=
  match name with
  | none => default
  | some s =>
    let key := (Text.strip Text.isBlank s.toList).map capital
    ((named.find? (·.1.toList == key)).map (·.2)).getD default

end Conform.Log
