import Conform.Number.Rounding
/-!
# Whole numbers as decimal fractions

A whole number can be written with a number of places after the point, or as a decimal fraction with
one digit before the point and an exponent of at least two digits.  Digits that do not fit are
rounded off, a tie going to the even digit.  The texts are without a sign.
-/
namespace Conform.Places

/-- Digits of a number and the exponent of the first of them. -/
structure Scientific where
  digits : List Char
  exponent : Nat
deriving DecidableEq, Repr, Inhabited

def digitsOf (n : Nat) : List Char := Nat.toDigits 10 n

/-- The first `count` digits of a number, rounded; there are as many even if zeros have to be
added. -/
def significant (count n : Nat) : Scientific :=
  let length := (digitsOf n).length
  if length ≤ count then
    ⟨digitsOf n ++ List.replicate (count - length) '0', length - 1⟩
  else
    let rounded := digitsOf (roundHalfEven n (Nat.pow 10 (length - count)))
    ⟨rounded.take count, length - 1 + (rounded.length - count)⟩

/-- A point with the digits after it; where there are none it is left out unless it is `kept`. -/
def pointed (kept : Bool) (whole fraction : List Char) : List Char :=
  if fraction.isEmpty && !kept then whole else whole ++ '.' :: fraction

/-- An exponent with its sign and at least two digits. -/
def exponentText (n : Nat) : List Char :=
  'e' :: '+' :: (List.replicate (2 - (digitsOf n).length) '0' ++ digitsOf n)

def fixed (kept : Bool) (places n : Nat) : List Char :=
  pointed kept (digitsOf n) (List.replicate places '0')

/-- A number with one digit before the point, a number of places and an exponent. -/
def exponential (kept : Bool) (places n : Nat) : List Char :=
  let s := significant (places + 1) n
  pointed kept (s.digits.take 1) (s.digits.drop 1) ++ exponentText s.exponent

/-- The digits without zeros at the end. -/
def dropZeros (ds : List Char) : List Char := (ds.reverse.dropWhile (· == '0')).reverse

/-- A number with a number of digits, without an exponent if they reach to the point.  Zeros after
the point are left out unless they are `kept`. -/
def general (kept : Bool) (count n : Nat) : List Char :=
  let count := max count 1
  let s := significant count n
  let fraction (ds : List Char) : List Char := if kept then ds else dropZeros ds
  if s.exponent < count then
    pointed kept (s.digits.take (s.exponent + 1)) (fraction (s.digits.drop (s.exponent + 1)))
  else
    pointed kept (s.digits.take 1) (fraction (s.digits.drop 1)) ++ exponentText s.exponent

end Conform.Places
