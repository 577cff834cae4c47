import Conform.Attribute
import Conform.Log.Basic
import Conform.Schema.Text
/-!
# References to schemas

A reference names a module and, after a colon, an attribute of it; dots lead on to attributes of what
was found.  Modules are looked up by their full names in a registry.  An attribute may be a schema, a
value, or a space with attributes of its own, and the options of a schema are its attributes.  Beside
these everything has the attributes of its kind, and some of these lead back to what they are bound to.
-/
namespace Conform

/-- What a name may lead to; the last is anything else, of which only the kind is known. -/
inductive Member where
  | module (members : List (String × Member))
  | schema (s : Schema)
  | value (v : Value)
  | space (members : List (String × Member))
  | bound (typeName : String) (self : Member)
  | other (typeName : String)

/-- Modules by their full names, with their attributes. -/
abbrev Registry := List (String × List (String × Member))

namespace Member

def typeName : Member → String
  | module _ => "module"
  | schema s => s.variantName
  | value v => v.typeName
  | space _ => "type"
  | bound t _ => t
  | other t => t

/-- An integer option. -/
def ofInt (n : Int) : Member := value (.int n)

def ofOption {α : Type} (f : α → Member) : Option α → Member
  | some a => f a
  | none => value .null

def ofSize (r : SizeRule) : List (String × Member) :=
  [("min_items", ofInt r.minItems), ("max_items", ofOption ofInt r.maxItems),
    ("unique_items", value (.bool r.uniqueItems))]

def options : Schema → List (String × Member)
  | .type (.kind _) => [("type", other "type")]
  | .type (.text s) => [("type", value (.str s))]
  | .string r =>
    [("min_length", ofInt r.minLength), ("max_length", ofOption ofInt r.maxLength),
      ("pattern", ofOption (fun p => value (.str p.source)) r.pattern),
      ("_regex", ofOption (fun _ => other "Pattern") r.pattern)]
  | .number r =>
    [("multiple_of", ofOption value r.multipleOf), ("maximum", ofOption value r.maximum),
      ("exclusive_maximum", ofOption value r.exclusiveMaximum),
      ("minimum", ofOption value r.minimum),
      ("exclusive_minimum", ofOption value r.exclusiveMinimum)]
  | .enumeration vs => [("values", value (.tuple vs))]
  | .optional wrapped => [("schema", ofOption schema wrapped)]
  | .union _ => [("schemas", other "tuple")]
  | .intersection _ => [("schemas", other "tuple")]
  | .object _ strict => [("fields", other "mappingproxy"), ("strict", value (.bool strict))]
  | .collection element r => ("schema", schema element) :: ofSize r
  | .array element r => ("schema", schema element) :: ofSize r
  | .custom p => [("predicate", other p.typeName), ("predicate_name", value (.str p.name))]

def operations (s : Schema) : List (String × Member) :=
  let names := match s with
    | .string _ => ["__post_init__"]
    | .enumeration _ => ["__post_init__"]
    | .union _ => ["__post_init__"]
    | .intersection _ => ["__post_init__"]
    | .object .. => ["__post_init__"]
    | .collection .. => ["_trace_entries", "_options"]
    | .array .. => ["_trace_entries", "_options"]
    | _ => []
  names.map fun n => (n, bound "method" (schema s))

def attributes : Member → List (String × Member)
  | module ms => ms
  | schema s => options s ++ operations s
  | space ms => ms
  | bound t self => (Attribute.owner? t).toList.map fun n => (n, self)
  | _ => []

/-- The kind of an attribute that a member has because of its own kind. -/
def kindOf? (name : String) : Member → Option String
  | schema _ => Attribute.ofSchema? name
  | m => Attribute.kind? m.typeName name

def isClass : Member → Bool
  | space _ => true
  | other t => t = "type" ∨ t = "ABCMeta"
  | _ => false

/-- The class of a member that is none itself. -/
def ownClass : Member → Member
  | schema _ => other "ABCMeta"
  | _ => other "type"

/-- What an attribute of a member is bound to, which mostly is the member. -/
def receiver (m : Member) (name : String) : Member :=
  if name = "__new__" ∨ name = "__prepare__" then other "type"
  else if name = "maketrans" then value .null
  else if (name = "__init_subclass__" ∨ name = "__subclasshook__") ∧ !m.isClass then m.ownClass
  else if name ∈ Attribute.ofClass then m.ownClass
  else m

/-- An attribute that a member has because of its own kind. -/
def ofKind (m : Member) (name kind : String) : Member :=
  match Attribute.owner? kind with
  | some _ => bound kind (m.receiver name)
  | none => other kind

/-- The attribute of a name; where a name is given twice the later one counts. -/
def attribute? (name : String) (m : Member) : Option Member :=
  match m.attributes.reverse.find? (·.1 == name) with
  | some a => some a.2
  | none => (m.kindOf? name).map (m.ofKind name)

/-- Follows names from one attribute to the next; an error is the name that leads nowhere. -/
def follow (m : Member) : List String → Except String Member
  | [] => .ok m
  | n :: ns =>
    match m.attribute? n with
    | some m => follow m ns
    | none => .error n

end Member

namespace Registry

def logger : String := "schematize.checker"

def module? (r : Registry) (name : List Char) : Option (List (String × Member)) :=
  (r.reverse.find? fun m => m.1.toList == name).map (·.2)

/-- Why a module cannot be imported.  The modules that its name leads through are imported first;
the first that there is none of is named, together with the module that should contain it. -/
def importProblem (r : Registry) (name : List Char) : String :=
  let missing := s!"No module named {Text.quoted (String.ofList name)}"
  let parent := Path.parent name
  if parent = [] then missing
  else
    match r.module? parent with
    | some _ => s!"{missing}; {Text.quoted (String.ofList parent)} is not a package"
    | none => r.importProblem parent
termination_by name.length
decreasing_by
  rename_i h
  exact Path.parent_length_lt fun hn => h (by simp [parent, hn, Path.parent])

/-- The parts of a reference before and after its first colon; neither may be empty. -/
def split? (reference : String) : Option (List Char × List Char) :=
  let cs := reference.toList
  let name := cs.takeWhile (· ≠ ':')
  let rest := (cs.dropWhile (· ≠ ':')).drop 1
  if name.isEmpty ∨ rest.isEmpty then none else some (name, rest)

def find (r : Registry) (reference : String) : Except Fault Member :=
  match split? reference with
  | none =>
    .error (.reference (s!"Invalid schema reference '{reference}'. "
      ++ "Expected format: 'package.module:attribute'"))
  | some (name, rest) =>
    if name.head? = some '.' then .error (.relativeReference (String.ofList name))
    else
      match r.module? name with
      | none =>
        .error (.reference
          s!"Cannot import module '{String.ofList name}': {r.importProblem name}")
      | some ms =>
        match (Member.module ms).follow ((rest.splitOn '.').map String.ofList) with
        | .error n => .error (.reference s!"'{reference}' has no attribute '{n}'")
        | .ok m => .ok m

/-- The schema that a reference leads to, which is written to the log. -/
def resolve (r : Registry) (reference : String) : Logged (Except Fault Schema) :=
  match r.find reference with
  | .error f => .silent (.error f)
  | .ok (.schema s) =>
    match s.writeDescription with
    | .error f => .silent (.error f)
    | .ok text =>
      .after (Log.debug logger s!"Resolved schema reference {reference}: {text}") (.ok s)
  | .ok m => .silent (.error (.reference s!"'{reference}' is a {m.typeName}, not a schema"))

end Registry

end Conform
