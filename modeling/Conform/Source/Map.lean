import Conform.Entries
import Conform.Path
import Conform.Yaml.Key
/-!
# Source maps

A source map says where in a document the value at a diagnostic path starts.  It is drawn from the
tree of the document by a walk in reading order.  An alias is located at the node that it stands for,
and a node is walked into only once: every collection is taken out of those that remain before its
parts are pending, so the walk ends on a tree that stands for a graph with cycles too.

A lookup that finds nothing at a path goes on with the path cut before its last separator, down to
the empty path, so that a value which is missing is located at the closest value around it.
-/
namespace Conform

/-- A place in a document, counted from one; either number may be unknown. -/
structure Position where
  line : Option Int := none
  column : Option Int := none
deriving DecidableEq, Repr, Inhabited

namespace Position

/-- Whether any of the two numbers is known. -/
def isKnown (p : Position) : Bool := p.line.isSome || p.column.isSome

/-- The position of a mark, which is counted from zero. -/
def ofMark (m : Yaml.Mark) : Position := ⟨some (m.line + 1), some (m.column + 1)⟩

theorem isKnown_ofMark (m : Yaml.Mark) : (ofMark m).isKnown = true := rfl

end Position

/-- Diagnostic paths and the positions of the values there. -/
structure SourceMap where
  entries : List (List Char × Position) := []
deriving DecidableEq, Repr, Inhabited

namespace SourceMap

/-- Sets the position at a path, in place of an earlier one. -/
def insert (m : SourceMap) (path : List Char) (p : Position) : SourceMap :=
  ⟨setEntry (· == ·) path p m.entries⟩

/-- The map to which positions are added in order. -/
def ofList (es : List (List Char × Position)) : SourceMap :=
  es.foldl (fun m e => m.insert e.1 e.2) {}

def get? (m : SourceMap) (path : List Char) : Option Position :=
  (m.entries.find? (·.1 == path)).map (·.2)

/-- The position at a path, if anything of it is known. -/
def known? (m : SourceMap) (path : List Char) : Option Position :=
  (m.get? path).filter Position.isKnown

/-- The first known position at a path or at one that remains of it by cutting segments off its
end. -/
def closest? (m : SourceMap) (path : List Char) : Option Position :=
  match m.known? path with
  | some p => some p
  | none => if _h : path = [] then none else closest? m (Path.parent path)
termination_by path.length
decreasing_by exact Path.parent_length_lt _h

/-- The position of the value that a diagnostic path leads to, or of the closest one around it. -/
def locate (m : SourceMap) (path : List Char) : Position :=
  (m.closest? (Path.toDocument path)).getD {}

@[simp] theorem get?_insert_self (m : SourceMap) (path : List Char) (p : Position) :
    (m.insert path p).get? path = some p := by
  simp [get?, insert, find?_setEntry_self]

theorem get?_insert_of_ne (m : SourceMap) {path other : List Char} (h : other ≠ path)
    (p : Position) : (m.insert path p).get? other = m.get? other := by
  simp [get?, insert, find?_setEntry_of_ne h]

end SourceMap

namespace Yaml.Tree

/-- How a part of a collection is named in a path. -/
inductive Label where
  | index (n : Nat)
  | key (t : Tree)

/-- The name of a part.  Keys are made on the way, with what has been made of earlier ones. -/
def Label.name (document : Tree) (m : Making) : Label → Except Fault (List Char × Making)
  | .index n => .ok ((toString n).toList, m)
  | .key t => document.keyText m t

/-- A collection that is being walked into: its path, the list of entries that it had when the walk
came to it, the place in the collection where the walk goes on, and a bound on what is left. -/
structure Pending where
  path : List Char
  node : Tree
  age : Nat
  index : Nat
  left : Nat

namespace Pending

/-- The start of the walk into a node. -/
def enter (path : List Char) (e : Edits) (t : Tree) : Pending where
  path := path
  node := t
  age := e.age t
  index := 0
  left := match t with
    | sequence _ _ _ ts => ts.length
    | t => (e.entries t).length

/-- The part where the walk goes on.  A merge key that is resolved meanwhile leaves the list. -/
def part? (p : Pending) (e : Edits) : Option (Label × Tree) :=
  match p.node with
  | sequence _ _ _ ts => ts[p.index]?.map fun t => (.index p.index, t)
  | t => (e.entriesAt t p.age)[p.index]?.map fun entry => (.key entry.key, entry.value)

/-- A bound on the steps that are left. -/
def bound : List Pending → Nat
  | [] => 0
  | p :: ps => p.left + 1 + bound ps

end Pending

/-- A step of the walk: where it came to, and the node there. -/
structure Visit where
  path : List Char
  node : Tree

/-- Walks through the rest of the collections that are being walked into, the innermost first;
`remaining` holds the numbers of the nodes that have not been walked into. -/
def walk (document : Tree) (remaining : List Nat) (m : Making) :
    List Pending → Except Fault (List Visit)
  | [] => .ok []
  | p :: rest =>
    match _h : p.left with
    | 0 => walk document remaining m rest
    | left + 1 =>
      match p.part? m.edits with
      | none => walk document remaining m rest
      | some (label, part) =>
        match label.name document m with
        | .error f => .error f
        | .ok (name, m) =>
          let path := Path.child p.path name
          let t := document.resolve part
          let after := { p with index := p.index + 1, left } :: rest
          if t.id ∈ remaining then
            (walk document (remaining.erase t.id) m (.enter path m.edits t :: after)).map
              (⟨path, t⟩ :: ·)
          else (walk document remaining m after).map (⟨path, t⟩ :: ·)
termination_by pending => (remaining.length, Pending.bound pending)
decreasing_by
  · apply Prod.Lex.right
    simp [Pending.bound]
  · apply Prod.Lex.right
    simp [Pending.bound]
  · apply Prod.Lex.left
    rename_i h
    rw [List.length_erase_of_mem h]
    exact Nat.sub_lt (List.length_pos_of_mem h) Nat.one_pos
  · apply Prod.Lex.right
    simp [Pending.bound]
    omega

/-- The visits of a document from its root. -/
def visits (document : Tree) : Except Fault (List Visit) :=
  let remaining := (document.nodes.map id).erase document.id
  (walk document remaining {} [.enter [] {} document]).map (⟨[], document⟩ :: ·)

/-- The source map of a document; where two steps have the same path the later one counts. -/
def sourceMap (document : Tree) : Except Fault SourceMap := do
  let vs ← document.visits
  return SourceMap.ofList (vs.map fun v => (v.path, .ofMark v.node.mark))

end Yaml.Tree

/-- The source map of a text; there is none to draw without a tree. -/
def SourceMap.ofText (text : List Char) : Except Fault SourceMap :=
  match Yaml.Tree.ofText text with
  | .ok (some d) => d.sourceMap
  | .ok none => .ok {}
  | .error .malformed => .ok {}
  | .error (.fault f) => .error f

end Conform
