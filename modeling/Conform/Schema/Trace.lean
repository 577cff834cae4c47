import Conform.Node
import Conform.Schema.Number
import Conform.Schema.Text
/-!
# Tracing an instance

`trace` checks a value against a schema and gives the node of the verdict: the first rejection in
the order of the schema, or an acceptance.  A fault ends the check at once; among the faults is that a
value cannot be written into the reason.

A trace also records which predicates were called, in order, so that a caller can see how far the
check went whatever its outcome.
-/
namespace Conform

/-- A predicate and the value it was called with. -/
structure Call where
  predicate : Predicate
  value : Value

/-- An outcome together with the calls that were made up to it. -/
structure Traced (α : Type) where
  calls : List Call
  result : Except Fault α

namespace Traced

/-- An outcome without calls. -/
def ofResult {α : Type} (result : Except Fault α) : Traced α := ⟨[], result⟩

/-- Goes on after an answer, with the calls of both in order; a fault ends the check. -/
def bind {α β : Type} (x : Traced α) (f : α → Traced β) : Traced β :=
  match x.result with
  | .ok a => ⟨x.calls ++ (f a).calls, (f a).result⟩
  | .error e => ⟨x.calls, .error e⟩

instance : Monad Traced where
  pure a := ofResult (.ok a)
  bind := bind

end Traced

/-- The outcome of a schema that makes no calls. -/
abbrev Verdict := Except Fault Node

def ExpectedType.check (t : ExpectedType) (v : Value) (parent : Node) : Node :=
  if t = .kind v.kind then parent.accept s!"found {t.describe}"
  else parent.reject s!"expected {t.describe}, found {v.kind.shownName}"

def Pattern.check (p : Pattern) (s : String) (parent : Node) : Verdict :=
  let shown := (Value.str s).literal
  match p.isFoundIn? s with
  | none => .error .reversedGroup
  | some true => .ok (parent.accept shown)
  | some false =>
    .ok (parent.reject s!"value did not match (pattern: '{p.source}', actual: {shown})")

/-- Checks a string: its least length, its greatest length, its pattern. -/
def StringRule.check (r : StringRule) (v : Value) (parent : Node) : Verdict :=
  match v with
  | .str s =>
    let length : Int := s.length
    if length < r.minLength then do
      let least ← (Value.int r.minLength).writeText
      return parent.reject s!"value's length is too short (minimum: {least}, actual: {length})"
    else if r.maxLength.any (· < length) then do
      let greatest ← (Value.int (r.maxLength.getD 0)).writeText
      return parent.reject s!"value's length is too large (maximum: {greatest}, actual: {length})"
    else
      match r.pattern with
      | some p => p.check s parent
      | none => .ok (parent.accept v.literal)
  | _ => do return parent.reject s!"not a string: {← v.writeLiteral}"

/-- One constraint of a number rule: what fails it, and the words between value and option. -/
structure Constraint where
  option : Option Value
  fails : Value → Value → Except Fault Bool
  words : String

/-- The constraints of a number rule in the order in which they are checked. -/
def NumberRule.constraints (r : NumberRule) : List Constraint :=
  [⟨r.multipleOf, fun v m => (v.isMultipleOf m).map (!·), "is not divisible by"⟩,
    ⟨r.maximum, Value.exceeds, "is greater than"⟩,
    ⟨r.exclusiveMaximum, Value.reaches, "is greater or equal to"⟩,
    ⟨r.minimum, Value.fallsBelow, "is lesser than"⟩,
    ⟨r.exclusiveMinimum, Value.fallsTo, "is lesser or equal to"⟩]

/-- Checks a number against constraints in order. -/
def checkConstraints (v : Value) (parent : Node) : List Constraint → Verdict
  | [] => do return parent.accept s!"{← v.writeText} is valid"
  | c :: cs =>
    match c.option with
    | none => checkConstraints v parent cs
    | some bound => do
      if ← c.fails v bound then
        return parent.reject s!"{← v.writeText} {c.words} {← bound.writeText}"
      checkConstraints v parent cs

/-- Checks a number; a value of another type is rejected before any constraint. -/
def NumberRule.check (r : NumberRule) (v : Value) (parent : Node) : Verdict :=
  if v.isNumber then checkConstraints v parent r.constraints
  else do return parent.reject s!"not a number: {← v.writeLiteral}"

/-- Checks whether a value is equal to a candidate; the candidates are written first. -/
def checkEnumeration (candidates : List Value) (v : Value) (parent : Node) : Verdict := do
  let shown ← (Value.list candidates).writeLiteral
  if ← candidates.anyM v.compare then
    return parent.accept s!"{← v.writeLiteral} is in the enum {shown}"
  else return parent.reject s!"{← v.writeLiteral} is not in the enum {shown}"

/-- What is wrong with the number of items or with their difference, if anything is. -/
def SizeRule.check (r : SizeRule) (items : List Value) : Except Fault (Option String) :=
  let length : Int := items.length
  if length < r.minItems then do
    let least ← (Value.int r.minItems).writeText
    return some s!"value is too short (minimum: {least}, actual: {length})"
  else if r.maxItems.any (· < length) then do
    let greatest ← (Value.int (r.maxItems.getD 0)).writeText
    return some s!"value is too long (maximum: {greatest}, actual: {length})"
  else if r.uniqueItems then do
    let distinct ← Value.count items
    if distinct != items.length then
      return some s!"value is not unique (expected: {distinct}, actual: {length})"
    else return none
  else return none

/-- The entries of a list or tuple, labelled by position, or of a map, labelled by key. -/
def Value.labelled? (v : Value) : Option (List (String × Value)) :=
  match v.items?, v.entries? with
  | some xs, _ => some (xs.mapIdx fun i x => (toString i, x))
  | none, some es => some (es.map fun e => (e.1.text, e.2))
  | none, none => none

def Value.label (v : Value) : Except Fault (Option (List (String × Value))) :=
  if (v.entries?.getD []).all (·.1.isWritable) then .ok v.labelled? else .error .integerUnwritable

/-- The keys of a map that are no fields. -/
def extraneous (fields : List (String × Schema)) (entries : List (String × Value)) : List String :=
  (entries.map (·.1)).filter fun key => !fields.any (·.1 == key)

/-- The value of a field; one that is absent is null. -/
def fieldValue (name : String) (entries : List (String × Value)) : Value :=
  ((entries.find? (·.1 == name)).map (·.2)).getD .null

/-- Checks labelled entries in order, each below its label, up to the first rejection. -/
def traceEntries (step : Value → Node → Traced Node) (parent : Node) :
    List (String × Value) → Traced Node
  | [] => pure (parent.accept "value matched the wrapped schema")
  | (label, v) :: rest => do
    -- The first part that is rejected settles the verdict.
    let n ← step v (parent.child label)
    if n.isValid then traceEntries step parent rest else pure n

/-- Checks a collection: its size, then its entries. -/
def traceCollection (step : Value → Node → Traced Node) (r : SizeRule) (parent : Node)
    (entries : List (String × Value)) : Traced Node :=
  match r.check (entries.map (·.2)) with
  | .error f => .ofResult (.error f)
  | .ok (some reason) => pure (parent.reject reason)
  | .ok none => traceEntries step parent entries

def Predicate.trace (p : Predicate) (v : Value) (parent : Node) : Traced Node where
  calls := [⟨p, v⟩]
  result := do
    if ← p.test v then return parent.accept s!"callback {p.name} accepted"
    else return parent.reject s!"callback {p.name} rejected"

namespace Schema

/-- The segment that marks the step into an optional value. -/
def optionalSegment : String := String.ofList Path.optionalMarker

mutual

/-- Checks a value below a node. -/
def trace : Schema → Value → Node → Traced Node
  | type t, v, parent => pure (t.check v parent)
  | string r, v, parent => .ofResult (r.check v parent)
  | number r, v, parent => .ofResult (r.check v parent)
  | enumeration candidates, v, parent => .ofResult (checkEnumeration candidates v parent)
  | optional none, v, parent =>
    if v.isNull then pure (parent.accept "value is null")
    else .ofResult do
      return parent.accept s!"no wrapped schema was provided, accepted {← v.writeLiteral}"
  | optional (some s), v, parent =>
    if v.isNull then pure (parent.accept "value is null")
    else s.trace v (parent.child optionalSegment)
  | union members, v, parent =>
    let rejection : Verdict := do
      return parent.reject s!"no schema could be matched: {← writeDescriptions members}"
    traceUnion v parent rejection members
  | intersection members, v, parent => traceIntersection v parent members
  | object fields strict, v, parent =>
    match v.fields? with
    | none => .ofResult do return parent.reject s!"not an object: {← v.writeLiteral}"
    -- Other keys are looked for before any field is checked.
    | some entries =>
      let others := extraneous fields entries
      if strict && !others.isEmpty then
        pure (parent.reject ("extraneous keys: " ++ ", ".intercalate others))
      else traceFields entries parent fields
  | collection element r, v, parent =>
    match v.label with
    | .error f => .ofResult (.error f)
    | .ok none => .ofResult do
      return parent.reject s!"expected a Map or a List, found {← v.writeLiteral}"
    | .ok (some entries) => traceCollection (fun w n => element.trace w n) r parent entries
  | array element r, v, parent =>
    if v.isSequence then
      traceCollection (fun w n => element.trace w n) r parent (v.labelled?.getD [])
    else .ofResult do return parent.reject s!"not an array: {← v.writeLiteral}"
  | custom p, v, parent => p.trace v parent

/-- The verdict of the first member that accepts, or the given rejection. -/
def traceUnion (v : Value) (parent : Node) (rejection : Verdict) : List Schema → Traced Node
  | [] => .ofResult rejection
  | s :: ss => do
    let n ← s.trace v parent
    if n.isValid then pure n else traceUnion v parent rejection ss

/-- The verdict of the first member that rejects, or an acceptance. -/
def traceIntersection (v : Value) (parent : Node) : List Schema → Traced Node
  | [] => pure (parent.accept "all schemas matched")
  | s :: ss => do
    let n ← s.trace v parent
    if n.isValid then traceIntersection v parent ss else pure n

/-- The verdict of the first field that rejects, or an acceptance. -/
def traceFields (entries : List (String × Value)) (parent : Node) :
    List (String × Schema) → Traced Node
  | [] => pure (parent.accept "all matched")
  | (name, s) :: fs => do
    let n ← s.trace (fieldValue name entries) (parent.child name)
    if n.isValid then traceFields entries parent fs else pure n

end

def validate (s : Schema) (v : Value) : Except Fault Bool :=
  (s.trace v .root).result.map (·.isValid)

end Schema

end Conform
