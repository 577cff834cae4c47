import Conform.Fault
import Conform.Value.Basic
/-!
# Equality of values

There are two notions.  `sameKey` says when two values cannot both be keys of one map: numbers are
compared by value with booleans as one and zero, and a not-a-number is the same key only as itself.
`equals` is the equality of instances: booleans are kept apart from numbers at every depth, a list
equals a tuple with equal items, and maps are matched by key.

`countDistinct` counts values up to `equals`, with scalars collected as keys of a set.

Two values of which each holds itself may have parts that are compared without end.  `compare`, and what
is built on it, fails for them, and is `equals` for all others.
-/
namespace Conform.Value

/-- Whether two values are one and the same not-a-number. -/
def sameNan : Value → Value → Bool
  | float (.nan i), float (.nan j) => i == j
  | _, _ => false

/-- Numeric equality of numbers and booleans. -/
def sameQuantity (v w : Value) : Bool :=
  match v.quantity?, w.quantity? with
  | some p, some q => p.eq q
  | _, _ => false

mutual

/-- Whether two values are the same key. -/
def sameKey : Value → Value → Bool
  | null, null => true
  | str s, str t => s == t
  | bytes b, bytes c => b == c
  | date d, date e => d == e
  | datetime t, datetime u => t.sameTime u
  | list xs, list ys => sameKeys xs ys
  | tuple xs, tuple ys => sameKeys xs ys
  | map es, map fs => es.length == fs.length && sameKeyEntries es fs
  | set xs, set ys => xs.length == ys.length && allAmong xs ys
  | v, w => sameNan v w || sameQuantity v w

/-- Whether items are the same keys, position by position. -/
def sameKeys : List Value → List Value → Bool
  | [], [] => true
  | x :: xs, y :: ys => sameKey x y && sameKeys xs ys
  | _, _ => false

/-- Whether each item is the same key as one of the others. -/
def allAmong : List Value → List Value → Bool
  | [], _ => true
  | x :: xs, ys => ys.any (sameKey x) && allAmong xs ys

/-- Whether each entry has one of the others with the same key and value. -/
def sameKeyEntries : List (Value × Value) → List (Value × Value) → Bool
  | [], _ => true
  | (k, x) :: es, fs => fs.any (fun f => sameKey k f.1 && sameKey x f.2) && sameKeyEntries es fs

end

/-- Plain equality of values that are no lists, tuples or maps: a not-a-number equals nothing. -/
def equalScalar (v w : Value) : Bool := !(sameNan v w) && sameKey v w

mutual

def equalTree : Value → Value → Bool
  | bool a, bool b => a == b
  | list xs, list ys => equalItems xs ys
  | list xs, tuple ys => equalItems xs ys
  | tuple xs, list ys => equalItems xs ys
  | tuple xs, tuple ys => equalItems xs ys
  | map es, map fs => es.length == fs.length && equalEntries es fs
  | v, w => !v.isBool && !w.isBool && equalScalar v w

def equalItems : List Value → List Value → Bool
  | [], [] => true
  | x :: xs, y :: ys => equalTree x y && equalItems xs ys
  | _, _ => false

/-- Whether each entry has one of the others with the same key, and that one has an equal value. -/
def equalEntries : List (Value × Value) → List (Value × Value) → Bool
  | [], _ => true
  | (k, x) :: es, fs =>
    match fs.find? fun f => sameKey k f.1 with
    | some f => equalTree x f.2 && equalEntries es fs
    | none => false

end

/-- How often two values have to be expanded before a comparison of trees sees every difference
between them: not at all if both are trees, else beyond the depth of either. -/
def expansions (v w : Value) : Nat :=
  if v.isTree && w.isTree then 0
  else if v.isTree then v.depth
  else if w.isTree then w.depth
  else v.depth + w.depth

/-- Equality of instances. -/
def equals (v w : Value) : Bool :=
  let n := expansions v w
  equalTree (Nat.repeat expand n v) (Nat.repeat expand n w)

theorem equals_of_isTree {v w : Value} (hv : v.isTree = true) (hw : w.isTree = true) :
    v.equals w = equalTree v w := by
  simp [equals, expansions, hv, hw, Nat.repeat]

/-- Keeps the first of each group of related values, in order. -/
def keepFirst (r : Value → Value → Bool) (vs : List Value) : List Value :=
  vs.foldl (fun kept v => if kept.any (r v) then kept else kept ++ [v]) []

/-- The values that are collected in a set rather than compared in pairs. -/
def isScalar : Value → Bool
  | null => true
  | bool _ => true
  | int _ => true
  | float _ => true
  | str _ => true
  | _ => false

/-- Scalars are told apart as keys are, and booleans from numbers. -/
def sameScalar (v w : Value) : Bool := v.isBool == w.isBool && sameKey v w

/-- The number of values that differ from each other. -/
def countDistinct (vs : List Value) : Nat :=
  (keepFirst sameScalar (vs.filter isScalar)).length
    + (keepFirst equals (vs.filter fun v => !v.isScalar)).length

/-! ### Comparisons that do not end -/

/-- How two values are compared: at once, or by pairs of their parts, all of which have to be equal. -/
inductive Comparing where
  | done (equal : Bool)
  | pairs (parts : List (Value × Value))

/-- The first step of comparing two values. -/
def comparing (v w : Value) : Comparing :=
  if v.isBool || w.isBool then .done (equalTree v w)
  else
    match v.items?, w.items? with
    | some xs, some ys => if xs.length == ys.length then .pairs (xs.zip ys) else .done false
    | _, _ =>
      match v.entries?, w.entries? with
      | some es, some fs =>
        let found := es.filterMap fun e =>
          (fs.find? fun f => sameKey e.1 f.1).map fun f => (e.2, f.2)
        if es.length == fs.length && found.length == es.length then .pairs found else .done false
      | _, _ => .done (equalScalar v w)

/-- The answer of a comparison part by part, in order up to the first difference, if no pair of parts is
as deep as `depth`. -/
def compareWithin : Nat → Value → Value → Option Bool
  | 0, _, _ => none
  | depth + 1, v, w =>
    match comparing v w with
    | .done equal => some equal
    | .pairs parts => parts.allM fun p => compareWithin depth p.1 p.2

mutual

/-- The number of values that a value is made of, itself included. -/
def size : Value → Nat
  | list xs => sizeItems xs + 1
  | tuple xs => sizeItems xs + 1
  | map es => sizeEntries es + 1
  | set xs => sizeItems xs + 1
  | loop _ body => size body + 1
  | _ => 1

def sizeItems : List Value → Nat
  | [] => 0
  | x :: xs => size x + sizeItems xs

/-- The sum of the sizes of keys and values. -/
def sizeEntries : List (Value × Value) → Nat
  | [] => 0
  | (k, x) :: es => size k + size x + sizeEntries es

end

/-- Whether the comparison of two values never ends.  If it goes deeper than there are pairs of their
parts, then it has come to a pair for the second time, and will again. -/
def isEndless (v w : Value) : Bool :=
  !v.isTree && !w.isTree && (compareWithin (v.size * w.size + 1) v w).isNone

/-- Equality of instances, where the comparison ends. -/
def compare (v w : Value) : Except Fault Bool :=
  if isEndless v w then .error .endlessComparison else .ok (v.equals w)

/-- Adds a value to others unless it is equal to one of them. -/
def keepNew (kept : List Value) (v : Value) : Except Fault (List Value) := do
  if ← kept.anyM v.compare then return kept else return kept ++ [v]

/-- The number of values that differ from each other, where their comparisons end. -/
def count (vs : List Value) : Except Fault Nat := do
  let others ← (vs.filter fun v => !v.isScalar).foldlM keepNew []
  return (keepFirst sameScalar (vs.filter isScalar)).length + others.length

end Conform.Value
