import Conform.Yaml.Document
import Conform.Yaml.Edits
import Conform.Yaml.Scalar
import Conform.Value.Entries
/-!
# From a tree to an instance

A document is filled in before values are made of it.  Collections are filled in the order in which
they are first met, one after the other, each part of a collection being begun when its turn comes;
so a scalar near the root fails before an earlier one that lies deeper.  The merge keys of a mapping
are resolved when it is filled, and a node is read with the edits of the moment: its tag when it is
begun, its entries when it is filled.

`construct` then builds the value of a node from the values of its parts, by what was recorded.  A
reference to a collection from inside it becomes a loop of the value.
-/
namespace Conform.Yaml

namespace Tree

/-- The containers that collections become. -/
inductive Container where
  | list
  | map
  | set
  | pairs
deriving DecidableEq, Repr

/-- What is known of a node before its parts are: the whole value, or the container to fill. -/
inductive Begun where
  | value (v : Value)
  | container (c : Container)

def container? : Meaning → Option Container
  | .seq => some .list
  | .map => some .map
  | .set => some .set
  | .omap => some .pairs
  | .pairs => some .pairs
  | _ => none

/-- What a node stands for. -/
def meaning? (e : Edits) (t : Tree) : Option Meaning := Yaml.meaning? (e.tagOf t)

/-- The text of a scalar; in place of one, a mapping may hold its text under a default key. -/
def scalarText? (document : Tree) (e : Edits) : Nat → Tree → Option String
  | 0, _ => none
  | fuel + 1, t =>
    match document.resolve t with
    | scalar _ _ _ text => some text
    | t =>
      ((e.entries t).find? fun entry => e.means .value (document.resolve entry.key)).bind
        fun entry => scalarText? document e fuel entry.value

/-- The value of a text under a tag that stands for one. -/
def scalarValue (t : Tree) (m : Meaning) (s : List Char) : Except Failure Value :=
  match m with
  | .null => .ok .null
  | .bool => Scalar.bool s
  | .int => Scalar.int s
  | .float => Scalar.float (t.id + 1) s
  | .binary => Scalar.binary s
  | .timestamp =>
    match t with
    | scalar .. => Scalar.timestamp s
    | _ => .error (.fault (.notText Kind.list.name))
  | .str => .ok (.str (String.ofList s))
  | _ => .error .malformed

/-- Begins a node that is no alias.  A default value stands for nothing by itself. -/
def begin (document : Tree) (e : Edits) (t : Tree) : Except Failure Begun :=
  match t.meaning? e with
  | none => .error .malformed
  | some m =>
    match container? m with
    | some c => .ok (.container c)
    | none =>
      match scalarText? document e (document.size + 1) t with
      | none => .error .malformed
      | some s => Begun.value <$> scalarValue t m s.toList

/-- Whether a node becomes a container, which cannot be a key. -/
def isContainer (e : Edits) (t : Tree) : Bool := ((t.meaning? e).bind container?).isSome

/-! ### Filling in -/

/-- A part of a container, as it comes up when the container is filled. -/
inductive Part where
  | key (t : Tree)
  | item (t : Tree)
  | refused

/-- The only entry of a mapping. -/
def single? (e : Edits) (t : Tree) : Option Entry :=
  match t.isMapping, e.entries t with
  | true, [entry] => some entry
  | _, _ => none

/-- The parts of a container in order, its merge keys being resolved. -/
def parts (document : Tree) (e : Edits) (c : Container) (t : Tree) : List Part :=
  match c, t with
  | .list, sequence _ _ _ ts => ts.map .item
  | .pairs, sequence _ _ _ ts => ts.flatMap fun t =>
    match (document.resolve t).single? e with
    | some entry => [.item entry.key, .item entry.value]
    | none => [.refused]
  | .list, _ => [.refused]
  | .pairs, _ => [.refused]
  | _, t => (e.entries t).flatMap fun entry => [.key entry.key, .item entry.value]

/-- The edits that nodes were read with, unless nothing had been changed. -/
structure History where
  begun : List (Nat × Edits) := []
  filled : List (Nat × Edits) := []
deriving Inhabited

namespace History

/-- The edits of the moment in which a node was begun. -/
def begunWith (h : History) (t : Tree) : Edits := ((h.begun.find? (·.1 == t.id)).map (·.2)).getD {}

/-- The edits of the moment in which a container was filled. -/
def filledWith (h : History) (t : Tree) : Edits :=
  ((h.filled.find? (·.1 == t.id)).map (·.2)).getD {}

def recordBegun (h : History) (t : Tree) (e : Edits) : History :=
  if e.isEmpty then h else { h with begun := (t.id, e) :: h.begun }

def recordFilled (h : History) (t : Tree) (e : Edits) : History :=
  if e.isEmpty then h else { h with filled := (t.id, e) :: h.filled }

end History

/-- What is known while a document is filled in: the nodes begun, the containers to fill, and the
changes of the document. -/
structure Filling where
  begun : List Nat := []
  queue : List (Container × Tree) := []
  edits : Edits := {}
  history : History := {}

namespace Filling

/-- Begins a node unless it has been. -/
def begin (document : Tree) (t : Tree) (f : Filling) : Except Failure Filling := do
  if f.begun.contains t.id then return f
  let known := { f with
    begun := t.id :: f.begun, history := f.history.recordBegun t f.edits }
  match ← Tree.begin document f.edits t with
  | .value _ => return known
  | .container c => return { known with queue := known.queue ++ [(c, t)] }

/-- Begins a part of a container. -/
def addPart (document : Tree) (f : Filling) : Part → Except Failure Filling
  | .key k => do
    let t := document.resolve k
    let f ← f.begin document t
    if t.isContainer f.edits then throw .malformed
    return f
  | .item t => f.begin document (document.resolve t)
  | .refused => throw .malformed

/-- Resolves the merge keys of a node that becomes a map or a set. -/
def resolveKeys (document : Tree) (c : Container) (t : Tree) (f : Filling) :
    Except Failure Filling :=
  match c with
  | .list => .ok f
  | .pairs => .ok f
  | _ =>
    match f.edits.flatten document t with
    | (e, true) => .ok { f with edits := e }
    | (_, false) => .error .malformed

def fill (document : Tree) (c : Container) (t : Tree) (f : Filling) : Except Failure Filling := do
  let f ← f.resolveKeys document c t
  let f := { f with history := f.history.recordFilled t f.edits }
  (document.parts f.edits c t).foldlM (addPart document) f

/-- Fills containers until none is left; each node is filled at most once. -/
def run (document : Tree) : Nat → Filling → Except Failure History
  | 0, f => return f.history
  | fuel + 1, f =>
    match f.queue with
    | [] => return f.history
    | (c, t) :: rest => do run document fuel (← { f with queue := rest }.fill document c t)

end Filling

def fillIn (document : Tree) : Except Failure History := do
  let f ← Filling.begin document document {}
  f.run document (document.size + 1)

/-! ### Values -/

/-- A container, as a loop if it is its own part.  A container that refers to itself or to one around
it, which leads back to it, is its own part; the others are closed. -/
def close (label : Nat) (body : Value) : Value :=
  if body.isClosed [] then body else .loop label body

/-- The value of a node.  `open_` holds the collections around it, to which a reference leads back.
The depth of nested collections, none of which is its own part, bounds `fuel`. -/
def construct (document : Tree) (h : History) :
    Nat → List Nat → Tree → Except Failure Value
  | 0, _, _ => .error .malformed
  | fuel + 1, open_, t => do
    let t := document.resolve t
    -- A node inside of itself is a reference to the container that is being made.
    if open_.contains t.id then return .back t.id
    let part := construct document h fuel (t.id :: open_)
    let pair (e : Entry) : Except Failure (Value × Value) := do
      let k ← part e.key
      return (k, ← part e.value)
    match ← begin document (h.begunWith t) t with
    | .value v => return v
    | .container .list =>
      match t with
      | sequence _ _ _ ts => return close t.id (.list (← ts.mapM part))
      | _ => throw .malformed
    | .container .map =>
      return close t.id (Value.mapOf (← ((h.filledWith t).entries t).mapM pair))
    | .container .set =>
      return close t.id (Value.setOf ((← ((h.filledWith t).entries t).mapM pair).map (·.1)))
    | .container .pairs =>
      match t with
      | sequence _ _ _ ts =>
        let item (t : Tree) : Except Failure Value :=
          match (document.resolve t).single? (h.filledWith t) with
          | some e => (pair e).map fun p => .tuple [p.1, p.2]
          | none => throw .malformed
        return close t.id (.list (← ts.mapM item))
      | _ => throw .malformed

def instance? (document : Tree) : Except Failure Value := do
  let h ← document.fillIn
  document.construct h (document.size + 1) [] document

end Tree

/-- The instance of a text; a text without a node stands for null. -/
def load (text : List Char) : Except Failure Value := do
  match ← Tree.ofText text with
  | none => return .null
  | some d => d.instance?

end Conform.Yaml
