import Conform.Number.Rounding
/-!
# The shortest decimal text of a floating-point number

A finite number is written with the fewest decimal digits that read back as the same number, and
among those with the digits nearest to it.  All arithmetic is on natural numbers: the bounds of
the reals that round to `m · 2^e` are multiples of `2^(e-2)`, and a decimal grid is compared with
them after both are brought to a common denominator.
-/
namespace Conform

/-- A decimal number `digits · 10^exponent`. -/
structure Decimal where
  digits : Nat
  exponent : Int
deriving DecidableEq, Repr, Inhabited

namespace Decimal

/-- Drops trailing zeros from the digits; `fuel` bounds their number. -/
def trim : Nat → Decimal → Decimal
  | 0, d => d
  | fuel + 1, d =>
    if d.digits ≠ 0 ∧ d.digits % 10 = 0 then trim fuel ⟨d.digits / 10, d.exponent + 1⟩ else d

end Decimal

namespace Binary64

/-- The reals between `low / 4` and `high / 4` units of `2^e` round to `m · 2^e`; the ends do when
`closed` holds.  Below a power of two the numbers lie twice as dense. -/
structure RoundingInterval where
  low : Nat
  high : Nat
  closed : Bool

def roundingInterval (m : Nat) (e : Int) : RoundingInterval :=
  let low := if m = Nat.pow 2 (precision - 1) ∧ minExponent < e then 4 * m - 1 else 4 * m - 2
  ⟨low, 4 * m + 2, m % 2 = 0⟩

/-- Factors `(a, b)` that turn the comparison of `c · 10^k` with `x · 2^(e-2)` into that of
`c * a` with `x * b`. -/
def commonFactors (e k : Int) : Nat × Nat :=
  (Nat.pow 10 k.toNat * Nat.pow 2 (2 - e).toNat, Nat.pow 2 (e - 2).toNat * Nat.pow 10 (-k).toNat)

/-- The exponent `p` with `10^p ≤ m · 2^e < 10^(p+1)`, for positive `m`. -/
def decimalOrder (m : Nat) (e : Int) : Int :=
  let guess : Int := ((m.log2 + e) * 30103) / 100000
  let reaches (p : Int) : Bool :=
    let (a, b) := commonFactors e p
    a ≤ 4 * m * b
  if reaches (guess + 1) then guess + 1 else if reaches guess then guess else guess - 1

/-- The multiple of `10^k` nearest to `m · 2^e` among its two neighbours that read back as it. -/
def readingBack? (m : Nat) (e k : Int) : Option Decimal :=
  let i := roundingInterval m e
  let (a, b) := commonFactors e k
  let fits (c : Nat) : Bool :=
    if i.closed then i.low * b ≤ c * a && c * a ≤ i.high * b
    else i.low * b < c * a && c * a < i.high * b
  let c := 4 * m * b / a
  let below := 4 * m * b - c * a
  let above := (c + 1) * a - 4 * m * b
  match fits c, fits (c + 1) with
  | true, false => some ⟨c, k⟩
  | false, true => some ⟨c + 1, k⟩
  | true, true =>
    if below < above ∨ below = above ∧ c % 2 = 0 then some ⟨c, k⟩ else some ⟨c + 1, k⟩
  | false, false => none

/-- The shortest decimal that reads back as `m · 2^e`; seventeen digits always do. -/
def shortest (m : Nat) (e : Int) : Decimal :=
  if m = 0 then ⟨0, 0⟩
  else
    let p := decimalOrder m e
    ((List.range 17).findSome? fun (i : Nat) => readingBack? m e (p - i)).getD ⟨m, e⟩ |>.trim 20

end Binary64

namespace Decimal

/-- Numbers whose first digit stands for `10^-4` up to `10^15` are written positionally. -/
def isPositional (order : Int) : Bool := -4 ≤ order && order < 16

/-- The decimal text: positional with at least one digit after the point, or one digit before the
point and an exponent of a sign and at least two digits. -/
def toText (d : Decimal) : String :=
  let ds := (toString d.digits).toList
  let point : Int := ds.length + d.exponent
  let zeros (n : Int) : List Char := List.replicate n.toNat '0'
  let chars : List Char :=
    if isPositional (point - 1) then
      if point ≤ 0 then ['0', '.'] ++ zeros (-point) ++ ds
      else if (ds.length : Int) ≤ point then ds ++ zeros (point - ds.length) ++ ['.', '0']
      else ds.take point.toNat ++ '.' :: ds.drop point.toNat
    else
      let order := point - 1
      let exponent := (toString order.natAbs).toList
      let exponent := if exponent.length < 2 then '0' :: exponent else exponent
      let sign := if order < 0 then '-' else '+'
      let fraction := ds.drop 1
      ds.take 1 ++ (if fraction.isEmpty then [] else '.' :: fraction) ++ 'e' :: sign :: exponent
  String.ofList chars

end Decimal

namespace Binary64

/-- The text of a floating-point number. -/
def toText : Binary64 → String
  | .finite s m e => (if s then "-" else "") ++ (if m = 0 then "0.0" else (shortest m e).toText)
  | .infinite s => if s then "-inf" else "inf"
  | .nan _ => "nan"

end Binary64

end Conform
