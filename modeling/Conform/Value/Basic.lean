import Conform.Calendar
import Conform.Number.Binary64
/-!
# Instance values

The values that documents hold and schemas judge.  A map keeps its entries in order and a set its
elements; both are built so that no two keys or elements are equal.

A document may refer back to a container from inside it.  Such a container is written
`loop l body`, and `back l` inside the body stands for the whole again; `unroll` opens it by one
level, with the loop put in place of each reference, so that the parts of a closed value are closed.
A value without loops is a plain tree.
-/
namespace Conform

/-- The kinds of values.  No value is of the kind `object`, which a schema may still ask for. -/
inductive Kind where
  | null
  | bool
  | int
  | float
  | str
  | bytes
  | date
  | datetime
  | list
  | tuple
  | map
  | set
  | object
deriving DecidableEq, Repr, Inhabited

namespace Kind

def name : Kind → String
  | null => "NoneType"
  | bool => "bool"
  | int => "int"
  | float => "float"
  | str => "str"
  | bytes => "bytes"
  | date => "date"
  | datetime => "datetime"
  | list => "list"
  | tuple => "tuple"
  | map => "dict"
  | set => "set"
  | object => "object"

/-- The name of a kind in diagnostics, where null is named for its value. -/
def shownName (k : Kind) : String := if k = .null then "null" else k.name

/-- The kinds in the order in which they are searched for by name. -/
def all : List Kind :=
  [null, bool, int, float, str, bytes, date, datetime, list, tuple, map, set, object]

def ofName? (s : String) : Option Kind := all.find? (·.name == s)

end Kind

/-- A value of an instance document. -/
inductive Value where
  | null
  | bool (b : Bool)
  | int (n : Int)
  | float (x : Binary64)
  | str (s : String)
  | bytes (bs : List UInt8)
  | date (d : Date)
  | datetime (t : DateTime)
  | list (items : List Value)
  | tuple (items : List Value)
  | map (entries : List (Value × Value))
  | set (items : List Value)
  | loop (label : Nat) (body : Value)
  | back (label : Nat)
deriving Inhabited

namespace Value

mutual

/-- Puts `w` in place of the references to `label`. -/
def subst (label : Nat) (w : Value) : Value → Value
  | list xs => list (substItems label w xs)
  | tuple xs => tuple (substItems label w xs)
  | map es => map (substEntries label w es)
  | set xs => set (substItems label w xs)
  | loop l body => if l = label then loop l body else loop l (subst label w body)
  | back l => if l = label then w else back l
  | v => v

def substItems (label : Nat) (w : Value) : List Value → List Value
  | [] => []
  | x :: xs => subst label w x :: substItems label w xs

def substEntries (label : Nat) (w : Value) : List (Value × Value) → List (Value × Value)
  | [] => []
  | (k, x) :: es => (subst label w k, subst label w x) :: substEntries label w es

end

/-- Opens a loop by one level. -/
def unroll : Value → Value
  | loop l body => subst l (loop l body) body
  | v => v

mutual

/-- Opens every outermost loop by one level. -/
def expand : Value → Value
  | list xs => list (expandItems xs)
  | tuple xs => tuple (expandItems xs)
  | map es => map (expandEntries es)
  | set xs => set (expandItems xs)
  | loop l body => subst l (loop l body) body
  | v => v

def expandItems : List Value → List Value
  | [] => []
  | x :: xs => expand x :: expandItems xs

def expandEntries : List (Value × Value) → List (Value × Value)
  | [] => []
  | (k, x) :: es => (expand k, expand x) :: expandEntries es

end

mutual

/-- Whether the value is a plain tree, without loops and references. -/
def isTree : Value → Bool
  | list xs => isTreeItems xs
  | tuple xs => isTreeItems xs
  | map es => isTreeEntries es
  | set xs => isTreeItems xs
  | loop _ _ => false
  | back _ => false
  | _ => true

def isTreeItems : List Value → Bool
  | [] => true
  | x :: xs => isTree x && isTreeItems xs

/-- Whether each key and value is a plain tree. -/
def isTreeEntries : List (Value × Value) → Bool
  | [] => true
  | (k, x) :: es => isTree k && isTree x && isTreeEntries es

end

mutual

/-- Whether every reference is to a loop around it or to one of the given labels. -/
def isClosed (labels : List Nat) : Value → Bool
  | list xs => isClosedItems labels xs
  | tuple xs => isClosedItems labels xs
  | map es => isClosedEntries labels es
  | set xs => isClosedItems labels xs
  | loop l body => isClosed (l :: labels) body
  | back l => labels.contains l
  | _ => true

def isClosedItems (labels : List Nat) : List Value → Bool
  | [] => true
  | x :: xs => isClosed labels x && isClosedItems labels xs

/-- `isClosed` for each key and value. -/
def isClosedEntries (labels : List Nat) : List (Value × Value) → Bool
  | [] => true
  | (k, x) :: es => isClosed labels k && isClosed labels x && isClosedEntries labels es

end

mutual

/-- The number of levels of the value as it is written. -/
def depth : Value → Nat
  | list xs => depthItems xs + 1
  | tuple xs => depthItems xs + 1
  | map es => depthEntries es + 1
  | set xs => depthItems xs + 1
  | loop _ body => depth body + 1
  | _ => 1

def depthItems : List Value → Nat
  | [] => 0
  | x :: xs => max (depth x) (depthItems xs)

/-- The greatest depth of a key or value. -/
def depthEntries : List (Value × Value) → Nat
  | [] => 0
  | (k, x) :: es => max (max (depth k) (depth x)) (depthEntries es)

end

mutual

theorem expand_of_isTree : ∀ {v : Value}, v.isTree = true → v.expand = v
  | list xs, h => by simp only [expand]; rw [expandItems_of_isTree (by simpa [isTree] using h)]
  | tuple xs, h => by simp only [expand]; rw [expandItems_of_isTree (by simpa [isTree] using h)]
  | set xs, h => by simp only [expand]; rw [expandItems_of_isTree (by simpa [isTree] using h)]
  | map es, h => by simp only [expand]; rw [expandEntries_of_isTree (by simpa [isTree] using h)]
  | loop _ _, h => by simp [isTree] at h
  | back _, h => by simp [isTree] at h
  | null, _ | bool _, _ | int _, _ | float _, _ | str _, _ | bytes _, _ | date _, _
  | datetime _, _ => rfl

theorem expandItems_of_isTree : ∀ {xs : List Value}, isTreeItems xs = true → expandItems xs = xs
  | [], _ => rfl
  | x :: xs, h => by
    simp only [isTreeItems, Bool.and_eq_true] at h
    rw [expandItems, expand_of_isTree h.1, expandItems_of_isTree h.2]

theorem expandEntries_of_isTree : ∀ {es : List (Value × Value)},
    isTreeEntries es = true → expandEntries es = es
  | [], _ => rfl
  | (k, x) :: es, h => by
    simp only [isTreeEntries, Bool.and_eq_true] at h
    rw [expandEntries, expand_of_isTree h.1.1, expand_of_isTree h.1.2, expandEntries_of_isTree h.2]

end

theorem unroll_of_isTree {v : Value} (h : v.isTree = true) : v.unroll = v := by
  cases v <;> first | rfl | simp [isTree] at h

/-! ### Views -/

def items? (v : Value) : Option (List Value) :=
  match v.unroll with
  | list xs => some xs
  | tuple xs => some xs
  | _ => none

def entries? (v : Value) : Option (List (Value × Value)) :=
  match v.unroll with
  | map es => some es
  | _ => none

def isStr : Value → Bool
  | str _ => true
  | _ => false

def isNull : Value → Bool
  | null => true
  | _ => false

def isBool : Value → Bool
  | bool _ => true
  | _ => false

/-- Whether the value is a number; booleans are not. -/
def isNumber : Value → Bool
  | int _ => true
  | float _ => true
  | _ => false

/-- Whether the value is a list or tuple. -/
def isSequence (v : Value) : Bool := v.items?.isSome

def isMapping (v : Value) : Bool := v.entries?.isSome

/-- The entries under their names, if every key is a string. -/
def named? : List (Value × Value) → Option (List (String × Value))
  | [] => some []
  | (str s, x) :: es => (named? es).map ((s, x) :: ·)
  | _ :: _ => none

/-- The entries of a map whose keys are all strings, under their names. -/
def fields? (v : Value) : Option (List (String × Value)) := v.entries?.bind named?

def isStringKeyed (v : Value) : Bool := v.fields?.isSome

theorem named?_isSome_iff {es : List (Value × Value)} :
    (named? es).isSome = true ↔ ∀ e ∈ es, e.1.isStr = true := by
  fun_induction named? es with
  | case1 => simp
  | case2 s x es ih => simp [isStr, ih]
  | case3 k es h =>
    obtain ⟨k, x⟩ := k
    cases k <;> simp_all [isStr]

/-- The value as a quantity; booleans count as one and zero. -/
def quantity? : Value → Option Quantity
  | bool b => some (.ofInt (if b then 1 else 0))
  | int n => some (.ofInt n)
  | float x => some x.quantity
  | _ => none

def kind (v : Value) : Kind :=
  match v.unroll with
  | null => .null
  | bool _ => .bool
  | int _ => .int
  | float _ => .float
  | str _ => .str
  | bytes _ => .bytes
  | date _ => .date
  | datetime _ => .datetime
  | list _ => .list
  | tuple _ => .tuple
  | map _ => .map
  | set _ => .set
  | loop _ _ => .object
  | back _ => .object

def typeName (v : Value) : String := v.kind.name

end Value

end Conform
