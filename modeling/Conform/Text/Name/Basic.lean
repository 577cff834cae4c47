/-!
# Rows of names

Names of characters that follow one another are kept in rows.  A row holds what all of its names
begin with and, in the order of the characters, how they go on; the latter are separated by
semicolons and spread over several texts.
-/
namespace Conform.Text

/-- The names of characters that follow one another from the first one on. -/
structure NameRow where
  first : Nat
  start : String
  ends : List String

namespace NameRow

/-- How the names go on, in order. -/
def endings (r : NameRow) : List String := r.ends.flatMap (·.splitOn ";")

/-- The code point of a name in a row. -/
def find? (name : List Char) (r : NameRow) : Option Nat :=
  if r.start.toList.isPrefixOf name then
    let ending := String.ofList (name.drop r.start.length)
    (r.endings.idxOf? ending).map (r.first + ·)
  else none

end NameRow

end Conform.Text
