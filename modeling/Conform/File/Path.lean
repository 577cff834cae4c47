/-!
# File paths

A path is a root and the names below it.  Repeated separators, separators at the end and steps to
the same directory have no place in it; steps to the directory above are kept, because what they mean
depends on the files.
-/
namespace Conform

/-- Where a path starts; two separators at the front are a root of their own. -/
inductive FileRoot where
  | here
  | single
  | double
deriving DecidableEq, Repr, Inhabited

/-- A path to a file or directory. -/
structure FilePath where
  root : FileRoot := .here
  names : List String := []
deriving DecidableEq, Repr, Inhabited

namespace FileRoot

def text : FileRoot → String
  | here => ""
  | single => "/"
  | double => "//"

/-- The root of a text: three and more separators are as good as one. -/
def ofChars : List Char → FileRoot
  | '/' :: '/' :: '/' :: _ => single
  | '/' :: '/' :: _ => double
  | '/' :: _ => single
  | _ => here

end FileRoot

namespace FilePath

def ofString (s : String) : FilePath where
  root := .ofChars s.toList
  names := ((s.toList.splitOn '/').map String.ofList).filter fun n => n ≠ "" ∧ n ≠ "."

def text (p : FilePath) : String :=
  if p.root = .here ∧ p.names = [] then "."
  else p.root.text ++ "/".intercalate p.names

/-- The path of something in a directory. -/
def below (p : FilePath) (name : String) : FilePath := { p with names := p.names ++ [name] }

/-- The last name; a root has none. -/
def name (p : FilePath) : String := p.names.getLast?.getD ""

/-- The last part of the name with the point before it.  A point at either end of the name does not
count, so that a name like `.yaml` has no suffix. -/
def suffix (p : FilePath) : String :=
  let cs := p.name.toList
  let tail := cs.reverse.takeWhile (· ≠ '.')
  let start := cs.length - tail.length
  if tail.isEmpty ∨ start ≤ 1 then "" else String.ofList (cs.drop (start - 1))

/-- The names with that of the root, if there is one, in front; paths are ordered by them. -/
def parts (p : FilePath) : List String :=
  if p.root = .here then p.names else p.root.text :: p.names

/-- Whether a path comes before another or equals it. -/
def precedes (p q : FilePath) : Bool := !(q.parts < p.parts : Bool)

/-- The path seen from a directory above it; none if the directory is not above it. -/
def relativeTo? (p base : FilePath) : Option FilePath :=
  if p.root = base.root ∧ base.names = p.names.take base.names.length then
    some { names := p.names.drop base.names.length }
  else none

theorem relativeTo?_self (p : FilePath) : p.relativeTo? p = some {} := by
  simp [relativeTo?]

end FilePath

end Conform
