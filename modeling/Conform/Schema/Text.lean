import Conform.Schema.Basic
import Conform.Value.Text
/-!
# The text of a schema

`describe` is the short form used in reasons: a call with the options that are set.  `literal` shows
every option of every part.  Both are written only if every value in them can be.
-/
namespace Conform

/-- A call with positional arguments and those named options that are set. -/
def callText (name : String) (arguments : List String) (options : List (String × Option String)) :
    String :=
  let named := options.filterMap fun o => o.2.map fun v => o.1 ++ "=" ++ v
  name ++ "(" ++ ", ".intercalate (arguments ++ named) ++ ")"

/-- The literal of an option, where leaving it out is `None`. -/
def optionLiteral {α : Type} (literal : α → String) : Option α → String
  | some x => literal x
  | none => "None"

def truthLiteral (b : Bool) : String := if b then "True" else "False"

def unlessZero (n : Int) : Option String := if n = 0 then none else some (toString n)

namespace ExpectedType

/-- The type as it is named in reasons. -/
def describe : ExpectedType → String
  | kind k => k.shownName
  | text s => s

/-- The type as it is shown inside a schema. -/
def literal : ExpectedType → String
  | kind .date => "<class 'datetime.date'>"
  | kind .datetime => "<class 'datetime.datetime'>"
  | kind k => s!"<class '{k.name}'>"
  | text s => Text.quoted s

end ExpectedType

namespace SizeRule

/-- The options that differ from the default. -/
def options (r : SizeRule) : List (String × Option String) :=
  [("min_items", unlessZero r.minItems), ("max_items", r.maxItems.map toString),
    ("unique_items", if r.uniqueItems then none else some "False")]

/-- All options. -/
def literals (r : SizeRule) : String :=
  s!"min_items={r.minItems}, max_items={optionLiteral toString r.maxItems}, "
    ++ s!"unique_items={truthLiteral r.uniqueItems}"

end SizeRule

def StringRule.options (r : StringRule) : List (String × Option String) :=
  [("min_length", unlessZero r.minLength), ("max_length", r.maxLength.map toString),
    ("pattern", r.pattern.map fun p => Text.quoted p.source)]

def StringRule.numbers (r : StringRule) : List Value :=
  .int r.minLength :: r.maxLength.toList.map .int

def SizeRule.numbers (r : SizeRule) : List Value :=
  .int r.minItems :: r.maxItems.toList.map .int

def NumberRule.options (r : NumberRule) : List (String × Option Value) :=
  [("multiple_of", r.multipleOf), ("maximum", r.maximum),
    ("exclusive_maximum", r.exclusiveMaximum), ("minimum", r.minimum),
    ("exclusive_minimum", r.exclusiveMinimum)]

namespace Schema

def variantName : Schema → String
  | type _ => "TypeSchema"
  | string _ => "StringSchema"
  | number _ => "NumberSchema"
  | enumeration _ => "EnumSchema"
  | optional _ => "OptionalSchema"
  | union _ => "UnionSchema"
  | intersection _ => "IntersectionSchema"
  | object .. => "ObjectSchema"
  | collection .. => "CollectionSchema"
  | array .. => "ArraySchema"
  | custom _ => "CustomSchema"

mutual

/-- The schema as a call with the options that are set. -/
def describe : Schema → String
  | type t => s!"of({t.describe})"
  | string r => callText "string" [] r.options
  | number r => callText "number" [] (r.options.map fun o => (o.1, o.2.map Value.literal))
  | enumeration vs => s!"enumeration({(Value.list vs).literal})"
  | optional none => "optional()"
  | optional (some s) => callText "optional" [s.describe] []
  | union members => callText "union" (describeAll members) []
  | intersection members => callText "intersection" (describeAll members) []
  | object fields strict =>
    let names := "\x7b" ++ ", ".intercalate (fields.map (·.1)) ++ "\x7d"
    callText "object" [names] [("strict", if strict then some "True" else none)]
  | collection element r => callText "collection" [element.describe] r.options
  | array element r => callText "array" [element.describe] r.options
  | custom p => s!"custom({p.name})"

/-- The members of a combination. -/
def describeAll : List Schema → List String
  | [] => []
  | s :: ss => s.describe :: describeAll ss

end

mutual

def literal : Schema → String
  | type t => s!"TypeSchema(type={t.literal})"
  | string r =>
    let pattern := optionLiteral (fun p => Text.quoted (Pattern.source p)) r.pattern
    s!"StringSchema(min_length={r.minLength}, max_length={optionLiteral toString r.maxLength}, "
      ++ s!"pattern={pattern})"
  | number r =>
    let options := r.options.map fun o => o.1 ++ "=" ++ optionLiteral Value.literal o.2
    "NumberSchema(" ++ ", ".intercalate options ++ ")"
  | enumeration vs => s!"EnumSchema(values={(Value.tuple vs).literal})"
  | optional none => "OptionalSchema(schema=None)"
  | optional (some s) => s!"OptionalSchema(schema={s.literal})"
  | union members => s!"UnionSchema(schemas={Value.tupleText (literalAll members)})"
  | intersection members => s!"IntersectionSchema(schemas={Value.tupleText (literalAll members)})"
  | object fields strict =>
    "ObjectSchema(fields=mappingproxy(\x7b" ++ ", ".intercalate (literalFields fields)
      ++ s!"\x7d), strict={truthLiteral strict})"
  | collection element r => s!"CollectionSchema(schema={element.literal}, {r.literals})"
  | array element r => s!"ArraySchema(schema={element.literal}, {r.literals})"
  | custom p => s!"CustomSchema(predicate={p.literal})"

/-- The members of a combination. -/
def literalAll : List Schema → List String
  | [] => []
  | s :: ss => s.literal :: literalAll ss

def literalFields : List (String × Schema) → List String
  | [] => []
  | (name, s) :: fs => (Text.quoted name ++ ": " ++ s.literal) :: literalFields fs

end

/-! ### Writing -/

mutual

/-- Whether every value that is shown of a schema can be written.  Of an object only the names of its
fields are shown, unless it is shown `inFull`. -/
def isWritable (inFull : Bool) : Schema → Bool
  | string r => Value.areWritable r.numbers
  | number r => Value.areWritable (r.options.filterMap (·.2))
  | enumeration vs => Value.areWritable vs
  | optional (some s) => s.isWritable inFull
  | union members => areWritable inFull members
  | intersection members => areWritable inFull members
  | object fields _ => !inFull || areWritableFields inFull fields
  | collection element r => element.isWritable inFull && Value.areWritable r.numbers
  | array element r => element.isWritable inFull && Value.areWritable r.numbers
  | _ => true

/-- `isWritable` for each member. -/
def areWritable (inFull : Bool) : List Schema → Bool
  | [] => true
  | s :: ss => s.isWritable inFull && areWritable inFull ss

def areWritableFields (inFull : Bool) : List (String × Schema) → Bool
  | [] => true
  | (_, s) :: fs => s.isWritable inFull && areWritableFields inFull fs

end

def writeDescription (s : Schema) : Except Fault String :=
  if s.isWritable false then .ok s.describe else .error .integerUnwritable

def writeDescriptions (members : List Schema) : Except Fault String :=
  if areWritable false members then .ok (", ".intercalate (describeAll members))
  else .error .integerUnwritable

def writeLiteral (s : Schema) : Except Fault String :=
  if s.isWritable true then .ok s.literal else .error .integerUnwritable

end Schema

end Conform
