import Conform.Yaml.Instance
import Conform.Value.Text
/-!
# Keys by themselves

A key of a document can be asked for by itself, while the document is gone through.  Its value is
made at once, with all of its parts, and kept: a node is made only once.  A node whose making failed
stays unfinished, and so does what it is part of; asking for it again fails.  Resolving merge keys
edits the document for all who look at it later.

A key without a value of its own is named by its content.
-/
namespace Conform.Yaml

/-- What has been made of the nodes of a document so far. -/
structure Making where
  edits : Edits := {}
  made : List (Nat × Value) := []
  unfinished : List Nat := []
deriving Inhabited

/-- A step of making a value; what has been made is kept if it fails. -/
abbrev Maker := ExceptT Failure (StateM Making)

namespace Making

def value? (m : Making) (t : Tree) : Option Value := (m.made.find? (·.1 == t.id)).map (·.2)

/-- Sets about making the value of a node. -/
def start (m : Making) (t : Tree) : Making := { m with unfinished := t.id :: m.unfinished }

/-- Keeps the value of a node. -/
def finish (m : Making) (t : Tree) (v : Value) : Making :=
  { m with made := (t.id, v) :: m.made, unfinished := m.unfinished.erase t.id }

/-- Resolves the merge keys of a node, which has to be a mapping for it. -/
def resolveKeys (document t : Tree) : Maker Unit := do
  let (e, ok) := (← get).edits.flatten document t
  modify fun m => { m with edits := e }
  if !ok then throw .malformed

def begin (document t : Tree) : Maker Tree.Begun := do
  match Tree.begin document (← get).edits t with
  | .ok b => return b
  | .error f => throw f

end Making

namespace Tree

open Making

def canBeKey (v : Value) : Bool :=
  match v with
  | .list _ => false
  | .map _ => false
  | .set _ => false
  | _ => true

/-- Makes the value of a node with all of its parts.  Nodes that enclose one another differ, so that
their number bounds `fuel`. -/
def make (document : Tree) : Nat → Tree → Maker Value
  | 0, _ => throw .malformed
  | fuel + 1, t => do
    let t := document.resolve t
    if let some v := (← get).value? t then return v
    -- A key may not hold itself.
    if (← get).unfinished.contains t.id then throw .malformed
    modify (·.start t)
    let pair (e : Entry) : Maker (Value × Value) := do
      let k ← make document fuel e.key
      return (k, ← make document fuel e.value)
    let entry (e : Entry) : Maker (Value × Value) := do
      let k ← make document fuel e.key
      if !canBeKey k then throw .malformed
      return (k, ← make document fuel e.value)
    let v ← match ← Making.begin document t with
      | .value v => pure v
      | .container .list =>
        match t with
        | sequence _ _ _ ts => Value.list <$> ts.mapM (make document fuel)
        | _ => throw .malformed
      | .container .map => do
        resolveKeys document t
        Value.mapOf <$> ((← get).edits.entries t).mapM entry
      | .container .set => do
        resolveKeys document t
        (fun ps => Value.setOf (ps.map (·.1))) <$> ((← get).edits.entries t).mapM entry
      | .container .pairs =>
        match t with
        | sequence _ _ _ ts =>
          Value.list <$> ts.mapM fun t => do
            match (document.resolve t).single? (← get).edits with
            | some e => (fun p => Value.tuple [p.1, p.2]) <$> pair e
            | none => throw .malformed
        | _ => throw .malformed
    modify (·.finish t v)
    return v

/-- The name of a key: the text of its value or, where it has no value, that of its content. -/
def keyText (document : Tree) (m : Making) (key : Tree) : Except Fault (List Char × Making) :=
  match (document.make (document.size + 1) key).run m with
  | (.ok v, m) => v.writeText.map fun text => (text.toList, m)
  | (.error .malformed, m) => .ok ((document.contentText m.edits key).toList, m)
  | (.error (.fault f), _) => .error f

end Tree

end Conform.Yaml
