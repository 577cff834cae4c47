import Conform.Number.Binary64
/-!
# Rounding to the nearest floating-point number

Every inexact operation is an exact one on rationals followed by one rounding: to the nearest
number of the format, a tie going to the even significand, and to infinity beyond the largest.
-/
namespace Conform

/-- The integer nearest to `num / den`; a tie goes to the even neighbour. -/
def roundHalfEven (num den : Nat) : Nat :=
  let q := num / den
  let r := num % den
  if 2 * r < den then q
  else if den < 2 * r then q + 1
  else if q % 2 = 0 then q else q + 1

namespace Binary64

/-- Significands have 53 binary digits. -/
def precision : Nat := 53

/-- No exponent is lower: below it significands lose digits instead. -/
def minExponent : Int := -1074

/-- No exponent is higher: above it numbers are infinite. -/
def maxExponent : Int := 971

/-- The exponent `l` with `2^l ≤ num / den < 2^(l+1)`, for positive `num` and `den`. -/
def binaryOrder (num den : Nat) : Int :=
  let l : Int := (num.log2 : Int) - (den.log2 : Int)
  let reached :=
    if 0 ≤ l then den * Nat.pow 2 l.toNat ≤ num else den ≤ num * Nat.pow 2 (-l).toNat
  if reached then l else l - 1

/-- `num / den` in units of `2^e`, rounded. -/
def scaled (num den : Nat) (e : Int) : Nat :=
  if 0 ≤ e then roundHalfEven num (den * Nat.pow 2 e.toNat)
  else roundHalfEven (num * Nat.pow 2 (-e).toNat) den

/-- The number nearest to `±num / den`. -/
def nearest (negative : Bool) (num den : Nat) : Binary64 :=
  if num = 0 then .finite negative 0 minExponent
  else
    let e := max (binaryOrder num den - (precision - 1)) minExponent
    let m := scaled num den e
    let (m, e) := if m = Nat.pow 2 precision then (Nat.pow 2 (precision - 1), e + 1) else (m, e)
    if maxExponent < e then .infinite negative else .finite negative m e

/-- The number nearest to a rational; a zero gets the given sign. -/
def ofRat (zeroSign : Bool) (q : Rat) : Binary64 :=
  nearest (if q.num = 0 then zeroSign else q.num < 0) q.num.natAbs q.den

/-- The number nearest to an integer, if there is a finite one. -/
def ofInt? (n : Int) : Option Binary64 :=
  match nearest (n < 0) n.natAbs 1 with
  | .infinite _ => none
  | x => some x

/-- Rounded sum; the sum of opposite infinities is a not-a-number. -/
def add (x y : Binary64) : Binary64 :=
  match x, y with
  | .nan i, _ => .nan i
  | _, .nan i => .nan i
  | .infinite s, .infinite t => if s = t then .infinite s else .nan 0
  | .infinite s, _ => .infinite s
  | _, .infinite t => .infinite t
  | .finite s m e, .finite t n f => ofRat (s && t) (valueOf s m e + valueOf t n f)

/-- Rounded product; zero times infinity is a not-a-number. -/
def mul (x y : Binary64) : Binary64 :=
  match x, y with
  | .nan i, _ => .nan i
  | _, .nan i => .nan i
  | .infinite s, .infinite t => .infinite (s != t)
  | .infinite s, .finite t n _ => if n = 0 then .nan 0 else .infinite (s != t)
  | .finite s m _, .infinite t => if m = 0 then .nan 0 else .infinite (s != t)
  | .finite s m e, .finite t n f => ofRat (s != t) (valueOf s m e * valueOf t n f)

/-- Whether `x` leaves no remainder by `y`.  Only finite numbers are divided evenly by an
infinite one when they are zero; not-a-numbers leave a remainder always. -/
def isMultipleOf (x y : Binary64) : Bool :=
  match x, y with
  | .finite s m e, .finite t n f => (valueOf s m e / valueOf t n f).den == 1
  | .finite _ m _, .infinite _ => m == 0
  | _, _ => false

end Binary64

end Conform
