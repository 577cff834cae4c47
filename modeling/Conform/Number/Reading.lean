import Conform.Number.Rounding
import Conform.Text.Blank
import Conform.Text.Digit
import Conform.Text.Case
/-!
# Reading numbers

Numbers are read from text that may have blanks around it and decimal digits of any script in it.
The text is first brought to ASCII, and then has to match the number grammar as a whole.
-/
namespace Conform

open Text

namespace NumberText

/-- Blanks that may surround a number: those of ASCII, and all blank characters beyond it. -/
def isMargin (c : Char) : Bool :=
  if c.toNat < 0x80 then c == ' ' || (9 ≤ c.toNat && c.toNat ≤ 13) else isBlank c

/-- A digit of another script becomes the ASCII digit of the same value. -/
def toAsciiDigit (c : Char) : Char :=
  if c.toNat < 0x80 then c
  else match digitValue? c with
    | some d => Char.ofNat (d + '0'.toNat)
    | none => c

/-- The text without surrounding blanks and with ASCII digits. -/
def normalise (s : List Char) : List Char := (strip isMargin s).map toAsciiDigit

/-- A leading sign, and the text after it. -/
def splitSign : List Char → Bool × List Char
  | '-' :: s => (true, s)
  | '+' :: s => (false, s)
  | s => (false, s)

def isDigitOf (base : Nat) (c : Char) : Bool := (baseValue? c).any (· < base)

def digitsValue (base : Nat) (ds : List Char) : Nat :=
  ds.foldl (fun n c => n * base + (baseValue? c).getD 0) 0

def baseMarker? : Nat → Option Char
  | 2 => some 'b'
  | 8 => some 'o'
  | 16 => some 'x'
  | _ => none

/-- The text without the base marker `0b`, `0o` or `0x` of its own base. -/
def dropMarker (base : Nat) : List Char → List Char
  | '0' :: m :: s => if baseMarker? base = some m.toLower then s else '0' :: m :: s
  | s => s

/-- An integer in a base, possibly with a sign and a base marker. -/
def integer? (base : Nat) (s : List Char) : Option Int :=
  let (negative, rest) := splitSign (normalise s)
  let ds := dropMarker base rest
  if ds.isEmpty || !ds.all (isDigitOf base) then none
  else some (if negative then -(digitsValue base ds) else digitsValue base ds)

/-- Removes underscores, each of which has to stand between two digits. -/
def dropUnderscores? : Option Char → List Char → Option (List Char)
  | _, [] => some []
  | before, '_' :: rest =>
    match before, rest.head? with
    | some b, some a =>
      if b.isDigit && a.isDigit then dropUnderscores? none rest else none
    | _, _ => none
  | _, c :: rest => (dropUnderscores? (some c) rest).map (c :: ·)

/-- The greatest number of digits of an integer that is read from text. -/
def digitLimit : Nat := 4300

/-- The least number with more digits; it is not written as text either. -/
@[irreducible] def leastTooLong : Nat := Nat.pow 10 digitLimit

/-- A decimal integer, possibly with a sign, whose digits may be grouped by underscores. -/
def grouped? (s : List Char) : Option Int := do
  let digits ← dropUnderscores? none (normalise s)
  if digitLimit < digits.countP Char.isDigit then none else integer? 10 digits

/-- The digits at the front, and the text after them. -/
def spanDigits (s : List Char) : List Char × List Char :=
  (s.takeWhile Char.isDigit, s.dropWhile Char.isDigit)

/-- The exponent at the end of a decimal number; none is zero. -/
def exponent? : List Char → Option Int
  | [] => some 0
  | e :: s =>
    if e = 'e' ∨ e = 'E' then
      let (negative, ds) := splitSign s
      if ds.isEmpty || !ds.all Char.isDigit then none
      else some (if negative then -(digitsValue 10 ds) else digitsValue 10 ds)
    else none

/-- The number nearest to `digits · 10^exponent`.  Exponents far beyond the range of the format
give zero or infinity without the power being formed. -/
def nearestDecimal (negative : Bool) (digits : Nat) (exponent : Int) : Binary64 :=
  let order : Int := (Nat.toDigits 10 digits).length + exponent
  if digits = 0 ∨ order < -400 then .finite negative 0 Binary64.minExponent
  else if 400 < order then .infinite negative
  else if 0 ≤ exponent then Binary64.nearest negative (digits * Nat.pow 10 exponent.toNat) 1
  else Binary64.nearest negative digits (Nat.pow 10 (-exponent).toNat)

/-- A decimal number without sign: digits with or without a point, then an exponent. -/
def decimal? (negative : Bool) (s : List Char) : Option Binary64 :=
  let (whole, rest) := spanDigits s
  let (fraction, rest) := match rest with
    | '.' :: r => spanDigits r
    | r => ([], r)
  if whole.isEmpty && fraction.isEmpty then none
  else (exponent? rest).map fun e =>
    nearestDecimal negative (digitsValue 10 (whole ++ fraction)) (e - fraction.length)

/-- A floating-point number: decimal, infinite or not a number.  A not-a-number that is read gets
the given identity. -/
def float? (identity : Nat) (s : List Char) : Option Binary64 := do
  let s ← dropUnderscores? none (normalise s)
  let (negative, rest) := splitSign s
  match rest.map Char.toLower with
  | ['i', 'n', 'f'] => some (.infinite negative)
  | ['i', 'n', 'f', 'i', 'n', 'i', 't', 'y'] => some (.infinite negative)
  | ['n', 'a', 'n'] => some (.nan identity)
  | _ => decimal? negative rest

end NumberText

end Conform
