import Conform.Number.Places
import Conform.Text.Quoted
import Conform.Value.Basic
/-!
# Fields of a layout

A field shows an attribute of a record: a text, a whole number, or something that is only ever shown
in one way.  The letter at the end of the field says how: as a text, plain, quoted or quoted in
ASCII; as a number in one of three bases, or as a decimal fraction; or as a single character.

A text is cut to the precision, a whole number has at least as many digits, a decimal fraction has
as many places.  The field is then filled up to its width.  A value that cannot be shown in the way
asked for leaves the field without a text.
-/
namespace Conform.Log

/-- What a field can show. -/
inductive Attribute where
  | text (s : String)
  | number (n : Int)
  | fixed (s : String)
deriving DecidableEq, Repr, Inhabited

/-- How a field is written. -/
structure FieldStyle where
  left : Bool := false
  plus : Bool := false
  blank : Bool := false
  alternate : Bool := false
  zeros : Bool := false
  width : Nat := 0
  precision : Option Nat := none
  letter : Char := 's'
deriving DecidableEq, Repr, Inhabited

namespace FieldStyle

/-- Fills a text up with blanks. -/
def pad (style : FieldStyle) (s : List Char) : List Char :=
  let blanks := List.replicate (style.width - s.length) ' '
  if style.left then s ++ blanks else blanks ++ s

/-- A text that is cut and filled up. -/
def cut (style : FieldStyle) (s : String) : List Char :=
  style.pad ((style.precision.map (s.toList.take ·)).getD s.toList)

def sign (style : FieldStyle) (negative : Bool) : List Char :=
  if negative then ['-'] else if style.plus then ['+'] else if style.blank then [' '] else []

/-- Digits with a sign and a marker in front, filled up with blanks or, after sign and marker, with
zeros. -/
def padNumber (style : FieldStyle) (negative : Bool) (marker digits : List Char) : List Char :=
  let front := style.sign negative ++ marker
  let missing := style.width - (front ++ digits).length
  if style.zeros && !style.left then front ++ List.replicate missing '0' ++ digits
  else style.pad (front ++ digits)

def whole (style : FieldStyle) (base : Nat) (n : Int) : List Char :=
  let ds := Nat.toDigits base n.natAbs
  let ds := List.replicate (style.precision.getD 0 - ds.length) '0' ++ ds
  let capital : List Char → List Char := if style.letter = 'X' then (·.map Char.toUpper) else id
  let marker : List Char :=
    if style.alternate then (if base = 16 then ['0', 'x'] else if base = 8 then ['0', 'o'] else [])
    else []
  style.padNumber (n < 0) (capital marker) (capital ds)

/-- A whole number as a decimal fraction; one that is too large for a floating-point number is
none. -/
def fraction? (style : FieldStyle) (n : Int) : Option (List Char) := do
  let .finite _ m e ← Binary64.ofInt? n | none
  let size := if 0 ≤ e then m * Nat.pow 2 e.toNat else m / Nat.pow 2 (-e).toNat
  let precision := style.precision.getD 6
  let digits := match style.letter.toLower with
    | 'e' => Places.exponential style.alternate precision size
    | 'f' => Places.fixed style.alternate precision size
    | _ => Places.general style.alternate precision size
  some (style.padNumber (n < 0) []
    (if style.letter.isUpper then digits.map Char.toUpper else digits))

def shown (style : FieldStyle) : Attribute → String
  | .number n => toString n
  | .fixed s => s
  | .text s =>
    if style.letter = 'r' then Text.quoted s
    else if style.letter = 'a' then Text.quotedAscii s
    else s

def single? : Attribute → Option Char
  | .number n => if 0 ≤ n ∧ n < 0x110000 then some (Text.ofCode n.toNat) else none
  | .text s => match s.toList with
    | [c] => some c
    | _ => none
  | .fixed _ => none

def write? (style : FieldStyle) (a : Attribute) : Option (List Char) :=
  match style.letter, a with
  | '%', _ => some ['%']
  | 's', a => some (style.cut (style.shown a))
  | 'r', a => some (style.cut (style.shown a))
  | 'a', a => some (style.cut (style.shown a))
  | 'c', a => (single? a).map fun c => style.pad [c]
  | 'd', .number n => some (style.whole 10 n)
  | 'i', .number n => some (style.whole 10 n)
  | 'u', .number n => some (style.whole 10 n)
  | 'o', .number n => some (style.whole 8 n)
  | 'x', .number n => some (style.whole 16 n)
  | 'X', .number n => some (style.whole 16 n)
  | l, .number n => if "eEfFgG".toList.contains l then style.fraction? n else none
  | _, _ => none

end FieldStyle

end Conform.Log
