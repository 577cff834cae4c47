/-!
# Sets of characters given by ranges

The character classes of the Unicode standard (version 14) are tables of closed ranges of code
points.  This module says when a character belongs to one.
-/
namespace Conform.Text

/-- A set of characters as closed ranges of code points. -/
structure Ranges where
  spans : Array (Nat × Nat)

namespace Ranges

/-- The range that holds a character, if one does. -/
def find? (r : Ranges) (c : Char) : Option (Nat × Nat) :=
  r.spans.find? fun s => s.1 ≤ c.toNat && c.toNat ≤ s.2

def contains (r : Ranges) (c : Char) : Bool := (r.find? c).isSome

theorem contains_iff {r : Ranges} {c : Char} :
    r.contains c = true ↔ ∃ s ∈ r.spans, s.1 ≤ c.toNat ∧ c.toNat ≤ s.2 := by
  simp [contains, find?]

end Ranges

end Conform.Text
