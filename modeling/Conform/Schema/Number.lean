import Conform.Schema.Basic
import Conform.Number.Rounding
/-!
# Arithmetic of the number schema

Bounds are compared exactly, whatever the types of the two numbers.  A remainder is taken among
integers if both operands are, and otherwise among floating-point numbers, to which an integer is
rounded first.
-/
namespace Conform.Value

/-- The number as an integer; booleans count as one and zero. -/
def asInt? : Value → Option Int
  | bool b => some (if b then 1 else 0)
  | int n => some n
  | _ => none

/-- The number rounded to a floating-point number, which has to be finite for an integer. -/
def asFloat? : Value → Except Fault (Option Binary64)
  | float x => .ok (some x)
  | v =>
    match v.asInt? with
    | none => .ok none
    | some n =>
      match Binary64.ofInt? n with
      | some x => .ok (some x)
      | none => .error .integerTooLarge

/-- Whether a number leaves no remainder by another. -/
def isMultipleOf (v m : Value) : Except Fault Bool :=
  match v.asInt?, m.asInt? with
  | some a, some b => if b = 0 then .error .integerRemainderByZero else .ok (a % b == 0)
  | _, _ =>
    match m.quantity? with
    | none => .error (.remainderOf v.typeName m.typeName)
    | some _ => do
      let x ← v.asFloat?
      let y ← m.asFloat?
      match x, y with
      | some x, some y => if y.isZero then .error .floatRemainderByZero else .ok (x.isMultipleOf y)
      | _, _ => .error (.remainderOf v.typeName m.typeName)

/-- A comparison of quantities, applied to two values by its operator. -/
def compareBy (operator : String) (test : Quantity → Quantity → Bool) (v bound : Value) :
    Except Fault Bool :=
  match v.quantity?, bound.quantity? with
  | some p, some q => .ok (test p q)
  | _, _ => .error (.unordered operator v.typeName bound.typeName)

/-- Whether a value is greater than a bound. -/
def exceeds : Value → Value → Except Fault Bool := compareBy ">" fun p q => q.lt p

/-- Whether a value is greater than a bound or equal to it. -/
def reaches : Value → Value → Except Fault Bool := compareBy ">=" fun p q => q.le p

/-- Whether a value is lesser than a bound. -/
def fallsBelow : Value → Value → Except Fault Bool := compareBy "<" fun p q => p.lt q

/-- Whether a value is lesser than a bound or equal to it. -/
def fallsTo : Value → Value → Except Fault Bool := compareBy "<=" fun p q => p.le q

end Conform.Value
