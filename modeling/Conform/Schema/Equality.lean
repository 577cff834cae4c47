import Conform.Schema.Basic
/-!
# Equality of schemas

Two schemas are equal if they are of one form and their options are the same keys: numbers by
value, whatever their type.  The order of fields does not matter, that of members does.
-/
namespace Conform

/-- Whether two options are both left out or the same key. -/
def sameOption : Option Value → Option Value → Bool
  | none, none => true
  | some v, some w => v.sameKey w
  | _, _ => false

/-- Whether two string rules are equal; patterns are by their texts. -/
def StringRule.same (r s : StringRule) : Bool :=
  r.minLength == s.minLength && r.maxLength == s.maxLength
    && r.pattern.map (·.source) == s.pattern.map (·.source)

def NumberRule.same (r s : NumberRule) : Bool :=
  sameOption r.multipleOf s.multipleOf && sameOption r.maximum s.maximum
    && sameOption r.exclusiveMaximum s.exclusiveMaximum && sameOption r.minimum s.minimum
    && sameOption r.exclusiveMinimum s.exclusiveMinimum

namespace Schema

mutual

def same : Schema → Schema → Bool
  | type a, type b => a == b
  | string a, string b => a.same b
  | number a, number b => a.same b
  | enumeration vs, enumeration ws => Value.sameKeys vs ws
  | optional none, optional none => true
  | optional (some a), optional (some b) => a.same b
  | union as, union bs => sameAll as bs
  | intersection as, intersection bs => sameAll as bs
  | object fs s, object gs t => fs.length == gs.length && sameFields fs gs && s == t
  | collection a r, collection b s => a.same b && r == s
  | array a r, array b s => a.same b && r == s
  | custom p, custom q => p.name == q.name
  | _, _ => false

/-- Equality of members, position by position. -/
def sameAll : List Schema → List Schema → Bool
  | [], [] => true
  | a :: as, b :: bs => a.same b && sameAll as bs
  | _, _ => false

def sameFields : List (String × Schema) → List (String × Schema) → Bool
  | [], _ => true
  | (name, a) :: fs, gs =>
    match gs.find? fun g => g.1 == name with
    | some g => a.same g.2 && sameFields fs gs
    | none => false

end

end Schema

end Conform
