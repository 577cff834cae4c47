import Conform.Entries
import Conform.Value.Members
/-!
# Building maps and sets

A new entry goes to the end.  An entry whose key is there already keeps the old key in its place
and takes the new value; an element that is there already is kept as it was.  A set holds its
elements in the order in which it lists them.
-/
namespace Conform.Value

/-- The entries of a map to which pairs are added in order. -/
def entriesOf (pairs : List (Value × Value)) : List (Value × Value) :=
  pairs.foldl (fun es p => setEntry sameKey p.1 p.2 es) []

/-- The map to which pairs are added in order. -/
def mapOf (pairs : List (Value × Value)) : Value := map (entriesOf pairs)

/-- The set to which elements are added in order. -/
def setOf (items : List Value) : Value := set (listed (keepFirst sameKey items))

end Conform.Value
