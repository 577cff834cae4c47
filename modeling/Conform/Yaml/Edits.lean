import Conform.Yaml.Tree
import Conform.Yaml.Tag
import Conform.Text.Quoted
/-!
# Merged mappings

An entry of a mapping whose key has the merge tag stands for the entries of other mappings.  Such
entries are resolved when a value is made of the mapping, and what is done stays done: the merge
keys are gone, the entries that they stand for are in front of the others, and a key with the tag of
a default value is a text from then on.  Another look at the same node, through an alias or later,
sees the result, also where resolving failed halfway.

`Edits` is what has been changed in a document in this way; the tree itself stays as it is.  A
document without merge keys and default values is never edited.
-/
namespace Conform.Yaml

/-- An entry of a mapping.  Its place, by which it is the same entry in other mappings too, is the
mapping that it is written in and its number there. -/
structure Entry where
  place : Nat × Nat
  key : Tree
  value : Tree
deriving Inhabited

abbrev Entries := List Entry

def Tree.written (t : Tree) : Entries :=
  t.entries.mapIdx fun i entry => ⟨(t.id, i), entry.1, entry.2⟩

/-- What has been changed in a document: the lists of entries that a mapping has had, the latest
first, and the keys that have become texts. -/
structure Edits where
  lists : List (Nat × List Entries) := []
  texts : List Nat := []
deriving Inhabited

namespace Edits

/-- Whether nothing has been changed. -/
def isEmpty (e : Edits) : Bool := e.lists.isEmpty && e.texts.isEmpty

def tagOf (e : Edits) (t : Tree) : String :=
  if e.texts.contains t.id then Meaning.str.tag else t.tag

def means (e : Edits) (m : Meaning) (t : Tree) : Bool := e.tagOf t == m.tag

/-- The lists of entries that a mapping has had, the latest first. -/
def listsOf (e : Edits) (t : Tree) : List Entries :=
  ((e.lists.find? (·.1 == t.id)).map (·.2)).getD [t.written]

def entries (e : Edits) (t : Tree) : Entries := (e.listsOf t).headD []

/-- How many lists of entries a mapping has had. -/
def age (e : Edits) (t : Tree) : Nat := (e.listsOf t).length

/-- What the list that a mapping had at an age has become. -/
def entriesAt (e : Edits) (t : Tree) (age : Nat) : Entries :=
  ((e.listsOf t)[e.age t - age]?).getD []

def setLists (e : Edits) (t : Tree) (ls : List Entries) : Edits :=
  { e with lists := (t.id, ls) :: e.lists.filter (·.1 != t.id) }

/-- Removes an entry from the list that a mapping has. -/
def eraseEntry (e : Edits) (t : Tree) (i : Nat) : Edits :=
  e.setLists t ((e.entries t).eraseIdx i :: (e.listsOf t).tail)

/-- Gives a mapping a new list, with other entries in front of those that it has. -/
def prepend (e : Edits) (t : Tree) (es : Entries) : Edits :=
  if es.isEmpty then e else e.setLists t ((es ++ e.entries t) :: e.listsOf t)

/-- Makes a key a text. -/
def readAsText (e : Edits) (t : Tree) : Edits := { e with texts := t.id :: e.texts }

/-- Whether a key is one that resolving leaves alone. -/
def isPlainKey (e : Edits) (t : Tree) : Bool := !e.means .merge t && !e.means .value t

mutual

/-- Resolves the merge keys of a mapping; says whether all of them name mappings. -/
def mergeAll (document : Tree) : Nat → Edits → Tree → Edits × Bool
  | 0, e, _ => (e, false)
  | fuel + 1, e, t =>
    if (e.entries t).all fun entry => e.isPlainKey (document.resolve entry.key) then (e, true)
    else mergeFrom document fuel e t [] 0

/-- Goes through the entries of a mapping from one on, given the entries to be put in front. -/
def mergeFrom (document : Tree) : Nat → Edits → Tree → Entries → Nat → Edits × Bool
  | 0, e, _, _, _ => (e, false)
  | fuel + 1, e, t, merged, i =>
    match (e.entries t)[i]? with
    | none => (e.prepend t merged, true)
    | some entry =>
      let key := document.resolve entry.key
      if e.means .merge key then
        match mergeValue document fuel (e.eraseEntry t i)
            (document.resolve entry.value) with
        | (e, some more) => mergeFrom document fuel e t (merged ++ more) i
        | (e, none) => (e, false)
      else if e.means .value key then
        mergeFrom document fuel (e.readAsText key) t merged (i + 1)
      else mergeFrom document fuel e t merged (i + 1)

/-- The entries that a merge key with a value stands for: those of a mapping, or of a sequence of
mappings from the last to the first. -/
def mergeValue (document : Tree) : Nat → Edits → Tree → Edits × Option Entries
  | 0, e, _ => (e, none)
  | fuel + 1, e, v =>
    match v with
    | .sequence _ _ _ ts => mergeItems document fuel e [] ts
    | _ =>
      if v.isMapping then
        match mergeAll document fuel e v with
        | (e, true) => (e, some (e.entries v))
        | (e, false) => (e, none)
      else (e, none)

/-- The entries of mappings, those of the last one first, given those gone through so far. -/
def mergeItems (document : Tree) : Nat → Edits → Entries → List Tree → Edits × Option Entries
  | 0, e, _, _ => (e, none)
  | _ + 1, e, merged, [] => (e, some merged)
  | fuel + 1, e, merged, t :: ts =>
    let m := document.resolve t
    if m.isMapping then
      match mergeAll document fuel e m with
      | (e, true) => mergeItems document fuel e (e.entries m ++ merged) ts
      | (e, false) => (e, none)
    else (e, none)

end

/-- Enough for every step to be taken: each one goes on in a list or removes a merge key. -/
def fuelFor (document : Tree) : Nat := Nat.pow (document.size + 2) 3

/-- Resolves the merge keys of a node, which has to be a mapping for it. -/
def flatten (document : Tree) (e : Edits) (t : Tree) : Edits × Bool :=
  if t.isMapping then mergeAll document (fuelFor document) e t else (e, false)

end Edits

namespace Tree

/-! ### The text of a node -/

/-- A node as diagnostics show it: its form, its tag and its content. -/
def nodeText (form tag content : String) : String :=
  form ++ "Node(tag=" ++ Text.quoted tag ++ ", value=" ++ content ++ ")"

/-- What is met again inside itself when nodes are written: the content of a node or an entry. -/
inductive Writing where
  | content (node : Nat)
  | entry (place : Nat × Nat)
deriving DecidableEq

mutual

/-- A node as diagnostics show it.  What is being written already, in `open_`, is left out; `fuel`
bounds the depth, which grows only by contents that are not open. -/
def literalIn (document : Tree) (e : Edits) : Nat → List Writing → Tree → String
  | 0, _, _ => ""
  | fuel + 1, open_, t =>
    let node := document.resolve t
    match node with
    | scalar _ _ _ text => nodeText "Scalar" (e.tagOf node) (Text.quoted text)
    | sequence .. => nodeText "Sequence" (e.tagOf node) (contentIn document e fuel open_ node)
    | mapping .. => nodeText "Mapping" (e.tagOf node) (contentIn document e fuel open_ node)
    | reference _ => ""
termination_by fuel => (fuel, 0)

/-- The content of a node: the text of a scalar, or the parts of a collection. -/
def contentIn (document : Tree) (e : Edits) (fuel : Nat) (open_ : List Writing) : Tree → String
  | scalar _ _ _ text => text
  | sequence i _ _ ts =>
    if open_.contains (.content i) then "[...]"
    else
      let item := literalIn document e fuel (.content i :: open_)
      "[" ++ ", ".intercalate (ts.map fun t => item t) ++ "]"
  | mapping i tag m es =>
    if open_.contains (.content i) then "[...]"
    else
      let pair (entry : Entry) : String :=
        if open_.contains (.entry entry.place) then "(...)"
        else
          let part := literalIn document e fuel (.entry entry.place :: .content i :: open_)
          "(" ++ part entry.key ++ ", " ++ part entry.value ++ ")"
      "[" ++ ", ".intercalate ((e.entries (mapping i tag m es)).map pair) ++ "]"
  | reference _ => ""
termination_by (fuel, 1)

end

/-- The content of a node as diagnostics show it. -/
def contentText (document : Tree) (e : Edits) (t : Tree) : String :=
  contentIn document e (document.size + 1) [] (document.resolve t)

end Tree

end Conform.Yaml
