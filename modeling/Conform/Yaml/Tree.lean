import Conform.Yaml.Token
/-!
# Trees of nodes

A document is a tree of nodes.  Every node but an alias has a number, its place in the order in
which nodes start, a tag and the place where it starts.  An alias holds the number of the node that
it stands for; that node comes earlier in the tree or encloses the alias, so that a tree may stand
for a graph with cycles.
-/
namespace Conform.Yaml

/-- A node of a document. -/
inductive Tree where
  | scalar (id : Nat) (tag : String) (mark : Mark) (text : String)
  | sequence (id : Nat) (tag : String) (mark : Mark) (items : List Tree)
  | mapping (id : Nat) (tag : String) (mark : Mark) (entries : List (Tree × Tree))
  | reference (target : Nat)
deriving Inhabited

namespace Tree

/-- The number of the node, or of the node that an alias stands for. -/
def id : Tree → Nat
  | scalar i .. => i
  | sequence i .. => i
  | mapping i .. => i
  | reference i => i

/-- The tag of a node; an alias has none. -/
def tag : Tree → String
  | scalar _ t .. => t
  | sequence _ t .. => t
  | mapping _ t .. => t
  | reference _ => ""

/-- The place where a node starts. -/
def mark : Tree → Mark
  | scalar _ _ m _ => m
  | sequence _ _ m _ => m
  | mapping _ _ m _ => m
  | reference _ => {}

mutual

/-- The number of nodes. -/
def size : Tree → Nat
  | sequence _ _ _ ts => sizeItems ts + 1
  | mapping _ _ _ es => sizeEntries es + 1
  | _ => 1

/-- The number of nodes of all items. -/
def sizeItems : List Tree → Nat
  | [] => 0
  | t :: ts => size t + sizeItems ts

/-- The number of nodes of all keys and values. -/
def sizeEntries : List (Tree × Tree) → Nat
  | [] => 0
  | (k, v) :: es => size k + size v + sizeEntries es

end

mutual

/-- The nodes of a tree in the order in which they start, aliases left out. -/
def nodes : Tree → List Tree
  | sequence i t m ts => sequence i t m ts :: nodesItems ts
  | mapping i t m es => mapping i t m es :: nodesEntries es
  | scalar i t m s => [scalar i t m s]
  | reference _ => []

def nodesItems : List Tree → List Tree
  | [] => []
  | t :: ts => nodes t ++ nodesItems ts

/-- The nodes of all keys and values. -/
def nodesEntries : List (Tree × Tree) → List Tree
  | [] => []
  | (k, v) :: es => nodes k ++ nodes v ++ nodesEntries es

end

/-- The node that a tree stands for inside a document: itself, or what an alias refers to. -/
def resolve (document : Tree) : Tree → Tree
  | reference i => (document.nodes.find? (·.id == i)).getD (reference i)
  | t => t

/-- The entries of a mapping; other nodes have none. -/
def entries : Tree → List (Tree × Tree)
  | mapping _ _ _ es => es
  | _ => []

def isMapping : Tree → Bool
  | mapping .. => true
  | _ => false

/-- Whether the node has parts. -/
def isCollection : Tree → Bool
  | sequence .. => true
  | mapping .. => true
  | _ => false

@[simp] theorem resolve_scalar (d : Tree) (i : Nat) (t : String) (m : Mark) (s : String) :
    d.resolve (scalar i t m s) = scalar i t m s := rfl

@[simp] theorem resolve_sequence (d : Tree) (i : Nat) (t : String) (m : Mark) (ts : List Tree) :
    d.resolve (sequence i t m ts) = sequence i t m ts := rfl

@[simp] theorem resolve_mapping (d : Tree) (i : Nat) (t : String) (m : Mark)
    (es : List (Tree × Tree)) : d.resolve (mapping i t m es) = mapping i t m es := rfl

end Tree

end Conform.Yaml
