import Conform.Path
/-!
# Diagnostic nodes

A node says where in an instance a verdict was reached, which it is and why.  Nodes are values: each
operation gives a new one.
-/
namespace Conform

/-- A verdict at a path; without a path, or with an empty one, it is about the whole instance. -/
structure Node where
  path : Option String := none
  isValid : Bool := true
  reason : Option String := none
deriving DecidableEq, Repr, Inhabited

namespace Node

/-- The whole instance, not judged yet. -/
def root : Node := {}

/-- Names the whole instance in texts. -/
def rootLabel : String := "<root>"

/-- The path as text; the root has none. -/
def pathText (n : Node) : String := n.path.getD ""

/-- The node one segment below, with the verdict kept. -/
def child (n : Node) (segment : String) : Node :=
  { n with path := some (String.ofList (Path.child n.pathText.toList segment.toList)) }

/-- The accepting node at the same path. -/
def accept (n : Node) (reason : Option String) : Node := { n with isValid := true, reason }

/-- The rejecting node at the same path. -/
def reject (n : Node) (reason : Option String) : Node := { n with isValid := false, reason }

/-- Whether the node is about the whole instance. -/
def isRoot (n : Node) : Bool := n.pathText.isEmpty

/-- The segments of the path; the root has none. -/
def segments (n : Node) : List String :=
  if n.isRoot then [] else (Path.segments n.pathText.toList).map String.ofList

def shownPath (n : Node) : String := if n.isRoot then rootLabel else n.pathText

def text (n : Node) : String := n.shownPath ++ ": " ++ n.reason.getD "None"

@[simp] theorem accept_path (n : Node) (r : Option String) : (n.accept r).path = n.path := rfl

@[simp] theorem reject_path (n : Node) (r : Option String) : (n.reject r).path = n.path := rfl

@[simp] theorem accept_isValid (n : Node) (r : Option String) : (n.accept r).isValid = true := rfl

@[simp] theorem reject_isValid (n : Node) (r : Option String) : (n.reject r).isValid = false := rfl

end Node

end Conform
