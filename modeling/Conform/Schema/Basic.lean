import Conform.Fault
import Conform.Pattern.Basic
import Conform.Value.Entries
/-!
# Schemas

A schema is a tree of rules that an instance is checked against.  The trees are built by functions
that refuse unusable configurations: a pattern that cannot be compiled, candidates that cannot be
enumerated.
-/
namespace Conform

/-- What a type schema asks for: a kind of values, or a text that is the kind of no value. -/
inductive ExpectedType where
  | kind (k : Kind)
  | text (s : String)
deriving DecidableEq, Repr, Inhabited

/-- The rule of a string schema. -/
structure StringRule where
  minLength : Int := 0
  maxLength : Option Int := none
  pattern : Option Pattern := none

/-- The rule of a number schema.  The options are values: one that is no number makes the check
fail rather than reject. -/
structure NumberRule where
  multipleOf : Option Value := none
  maximum : Option Value := none
  exclusiveMaximum : Option Value := none
  minimum : Option Value := none
  exclusiveMinimum : Option Value := none
deriving Inhabited

/-- How many items a collection may have, and whether they have to differ. -/
structure SizeRule where
  minItems : Int := 0
  maxItems : Option Int := none
  uniqueItems : Bool := true
deriving DecidableEq, Repr, Inhabited

/-- A test of values, which may fail to have an answer.  Reasons show the name of a predicate and
schemas its literal, and two predicates are the same if their names are. -/
structure Predicate where
  name : String
  literal : String
  typeName : String := "function"
  test : Value → Except Fault Bool

/-- A tree of rules for instances. -/
inductive Schema where
  | type (expected : ExpectedType)
  | string (rule : StringRule)
  | number (rule : NumberRule)
  | enumeration (values : List Value)
  | optional (wrapped : Option Schema)
  | union (members : List Schema)
  | intersection (members : List Schema)
  | object (fields : List (String × Schema)) (strict : Bool)
  | collection (element : Schema) (rule : SizeRule)
  | array (element : Schema) (rule : SizeRule)
  | custom (predicate : Predicate)

namespace Schema

instance : Inhabited Schema := ⟨.optional none⟩

/-- The type schema for a name; a name of no kind is taken as a text. -/
def ofTypeName (s : String) : Schema :=
  .type (match Kind.ofName? s with
    | some k => .kind k
    | none => .text s)

/-- The string schema with a pattern, which is compiled here. -/
def ofPattern (release : Pattern.Release) (minLength : Int) (maxLength : Option Int)
    (pattern : Option String) : Except Fault Schema :=
  match pattern with
  | none => .ok (.string { minLength, maxLength })
  | some source =>
    match Pattern.compile release source with
    | .ok p => .ok (.string { minLength, maxLength, pattern := some p })
    | .error (.malformed problem position) => .error (.refusedPattern source problem position)
    | .error (.repetitionTooLong digits) => .error (.integerTooLong digits)
    | .error .repetitionTooLarge => .error .repetitionTooLarge
    | .error .characterTooLarge => .error .characterTooLarge
    | .error .twoAlphabets => .error .twoAlphabets
    | .error .lookbehindTooWide => .error .lookbehindTooWide

/-- What a value yields when it is enumerated: characters of a string, keys of a map. -/
def enumerate (v : Value) : Except Fault (List Value) :=
  match v.unroll with
  | .str s => .ok (s.toList.map fun c => .str (String.singleton c))
  | .bytes bs => .ok (bs.map fun b => .int b.toNat)
  | .list xs => .ok xs
  | .tuple xs => .ok xs
  | .map es => .ok (es.map (·.1))
  | .set xs => .ok xs
  | _ => .error (.notIterable v.typeName)

/-- The enumeration of candidates, each kept once. -/
def ofCandidates (candidates : List Value) : Except Fault Schema :=
  (candidates.foldlM Value.keepNew []).map .enumeration

/-- The enumeration of what a value yields. -/
def ofEnumerable (v : Value) : Except Fault Schema := enumerate v >>= ofCandidates

/-- The object schema of fields given in order. -/
def ofFields (fields : List (String × Schema)) (strict : Bool) : Schema :=
  .object (fields.foldl (fun fs f => setEntry (· == ·) f.1 f.2 fs) []) strict

end Schema

end Conform
