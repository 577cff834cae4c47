import Conform.Fault
import Conform.Value.Basic
/-!
# Comparing values as they are built

Values can be compared constructor by constructor, so that what a text is loaded as can be computed.
This is neither of the equalities of instances: `1` and `1.0` are built differently.
-/
namespace Conform.Value

mutual

/-- Whether two values are built alike. -/
def builtLike : Value → Value → Bool
  | null, null => true
  | bool a, bool b => a == b
  | int m, int n => m == n
  | float x, float y => x == y
  | str s, str t => s == t
  | bytes bs, bytes cs => bs == cs
  | date d, date e => d == e
  | datetime t, datetime u => t == u
  | list xs, list ys => itemsBuiltLike xs ys
  | tuple xs, tuple ys => itemsBuiltLike xs ys
  | map es, map fs => entriesBuiltLike es fs
  | set xs, set ys => itemsBuiltLike xs ys
  | loop l v, loop k w => l == k && builtLike v w
  | back l, back k => l == k
  | _, _ => false

/-- Whether items are built alike, position by position. -/
def itemsBuiltLike : List Value → List Value → Bool
  | [], [] => true
  | x :: xs, y :: ys => builtLike x y && itemsBuiltLike xs ys
  | _, _ => false

/-- Whether keys and values are built alike, position by position. -/
def entriesBuiltLike : List (Value × Value) → List (Value × Value) → Bool
  | [], [] => true
  | (k, x) :: es, (l, y) :: fs => builtLike k l && builtLike x y && entriesBuiltLike es fs
  | _, _ => false

end

mutual

theorem eq_of_builtLike : ∀ {v w : Value}, builtLike v w = true → v = w := by
  intro v w h
  cases v <;> cases w <;> simp only [builtLike, beq_iff_eq, Bool.and_eq_true, reduceCtorEq] at h ⊢
  case list.list => rw [eq_of_itemsBuiltLike h]
  case tuple.tuple => rw [eq_of_itemsBuiltLike h]
  case set.set => rw [eq_of_itemsBuiltLike h]
  case map.map => rw [eq_of_entriesBuiltLike h]
  case loop.loop => rw [h.1, eq_of_builtLike h.2]
  all_goals simp only [h]

theorem eq_of_itemsBuiltLike : ∀ {xs ys : List Value}, itemsBuiltLike xs ys = true → xs = ys
  | [], [], _ => rfl
  | x :: xs, y :: ys, h => by
    simp only [itemsBuiltLike, Bool.and_eq_true] at h
    rw [eq_of_builtLike h.1, eq_of_itemsBuiltLike h.2]

theorem eq_of_entriesBuiltLike : ∀ {es fs : List (Value × Value)},
    entriesBuiltLike es fs = true → es = fs
  | [], [], _ => rfl
  | (k, x) :: es, (l, y) :: fs, h => by
    simp only [entriesBuiltLike, Bool.and_eq_true] at h
    rw [eq_of_builtLike h.1.1, eq_of_builtLike h.1.2, eq_of_entriesBuiltLike h.2]

end

theorem eq_some_of_builtLike {o : Option Value} {v : Value} (h : o.any (builtLike v) = true) :
    o = some v := by
  cases o with
  | none => cases h
  | some w => rw [eq_of_builtLike h]

theorem eq_ok_of_builtLike {ε : Type} {r : Except ε Value} {v : Value}
    (h : r.toOption.any (builtLike v) = true) : r = .ok v := by
  cases r with
  | error f => cases h
  | ok w => rw [eq_of_builtLike h]

end Conform.Value
