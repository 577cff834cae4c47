/-!
# Binary floating-point numbers

A number of the 64-bit binary format is kept as sign, significand and exponent, so that its value
is an exact rational and an integer of any size compares with it without rounding.

A not-a-number carries an identity.  Two of them never compare equal as numbers, yet a set keeps a
single copy of one and the same, so the identity has to be part of the value.

`Quantity` is the ordered view of every number, integer or floating-point: comparisons are defined
there once.
-/
namespace Conform

/-- A floating-point number: `finite s m e` stands for `±m · 2^e`, negative when `s` holds. -/
inductive Binary64 where
  | finite (negative : Bool) (significand : Nat) (exponent : Int)
  | infinite (negative : Bool)
  | nan (identity : Nat)
deriving DecidableEq, Inhabited

/-- The value of a number on the extended line; `undefined` compares with nothing. -/
inductive Quantity where
  | below
  | exact (q : Rat)
  | above
  | undefined
deriving DecidableEq, Inhabited

namespace Quantity

/-- An integer is an exact quantity. -/
def ofInt (n : Int) : Quantity := .exact n

/-- Whether the quantity is a point of the extended line. -/
def isDefined : Quantity → Bool
  | undefined => false
  | _ => true

/-- Numeric equality; an undefined quantity equals nothing, itself included. -/
def eq : Quantity → Quantity → Bool
  | below, below => true
  | above, above => true
  | exact p, exact q => p == q
  | _, _ => false

/-- Strict order of the extended line. -/
def lt : Quantity → Quantity → Bool
  | below, exact _ => true
  | below, above => true
  | exact _, above => true
  | exact p, exact q => decide (p < q)
  | _, _ => false

/-- Order of the extended line. -/
def le (a b : Quantity) : Bool := lt a b || eq a b

theorem eq_iff {a b : Quantity} : a.eq b = true ↔ a = b ∧ a ≠ .undefined := by
  cases a <;> cases b <;> simp [eq]

theorem eq_comm (a b : Quantity) : a.eq b = b.eq a := by
  cases a <;> cases b <;> simp [eq, BEq.comm]

theorem lt_irrefl (a : Quantity) : a.lt a = false := by
  cases a with
  | exact p => exact decide_eq_false Rat.lt_irrefl
  | _ => rfl

/-- Outside the undefined quantities the strict order is the complement of the reversed order. -/
theorem lt_eq_not_le {a b : Quantity} (ha : a ≠ .undefined) (hb : b ≠ .undefined) :
    a.lt b = !(b.le a) := by
  cases a <;> cases b <;> simp_all [lt, le, eq]
  rename_i p q
  by_cases hpq : p = q
  · subst hpq
    simp
  · rcases Rat.le_total (a := p) (b := q) with h | h
    · have hlt : p < q := Rat.lt_of_le_of_ne h hpq
      simp [hlt, Rat.not_lt.2 h, Ne.symm hpq]
    · have hlt : q < p := Rat.lt_of_le_of_ne h (Ne.symm hpq)
      simp [hlt, Rat.not_lt.2 h]

private theorem rat_lt_trans {p q r : Rat} (hpq : p < q) (hqr : q < r) : p < r :=
  Rat.not_le.1 fun h => Rat.not_le.2 hqr (Rat.le_trans h (Rat.le_of_lt hpq))

theorem lt_of_le_of_lt {a b c : Quantity} (hab : a.le b = true) (hbc : b.lt c = true) :
    a.lt c = true := by
  cases a <;> cases b <;> cases c <;> simp_all [lt, le, eq]
  rcases hab with h | h
  · exact rat_lt_trans h hbc
  · exact h ▸ hbc

theorem lt_of_lt_of_le {a b c : Quantity} (hab : a.lt b = true) (hbc : b.le c = true) :
    a.lt c = true := by
  cases a <;> cases b <;> cases c <;> simp_all [lt, le, eq]
  rcases hbc with h | h
  · exact rat_lt_trans hab h
  · exact h ▸ hab

theorem le_trans {a b c : Quantity} (hab : a.le b = true) (hbc : b.le c = true) :
    a.le c = true := by
  rw [le, Bool.or_eq_true] at hab
  rcases hab with h | h
  · simp [le, lt_of_lt_of_le h hbc]
  · rw [eq_iff] at h
    exact h.1 ▸ hbc

end Quantity

namespace Binary64

/-- The exact value `±m · 2^e`. -/
def valueOf (negative : Bool) (significand : Nat) (exponent : Int) : Rat :=
  let magnitude : Rat := significand * (2 : Rat) ^ exponent
  if negative then -magnitude else magnitude

/-- Where a floating-point number lies on the extended line. -/
def quantity : Binary64 → Quantity
  | finite s m e => .exact (valueOf s m e)
  | infinite true => .below
  | infinite false => .above
  | nan _ => .undefined

/-- The number with its sign flipped; a not-a-number has no sign. -/
def neg : Binary64 → Binary64
  | finite s m e => finite (!s) m e
  | infinite s => infinite (!s)
  | nan i => nan i

/-- Whether the number is a zero of either sign. -/
def isZero : Binary64 → Bool
  | finite _ m _ => m == 0
  | _ => false

def isNan : Binary64 → Bool
  | nan _ => true
  | _ => false

def zero : Binary64 := finite false 0 0

theorem quantity_eq_undefined_iff {x : Binary64} : x.quantity = .undefined ↔ x.isNan = true := by
  cases x with
  | finite => simp [quantity, isNan]
  | infinite s => cases s <;> simp [quantity, isNan]
  | nan => simp [quantity, isNan]

end Binary64

end Conform
