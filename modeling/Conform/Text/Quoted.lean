import Conform.Text.CodePoint
import Conform.Text.Printable
/-!
# Quoted text

Text is shown between single quotes, or between double quotes when it holds a single quote and no
double one.  The enclosing quote and the backslash are escaped by a backslash; characters that are
not printable are written by number, in the shortest of the forms `\xhh`, `\uhhhh`, `\Uhhhhhhhh`.
-/
namespace Conform.Text

/-- A number in lower-case hexadecimal with at least `width` digits. -/
def hexDigits (width n : Nat) : List Char :=
  let ds := Nat.toDigits 16 n
  List.replicate (width - ds.length) '0' ++ ds

/-- The escape that names a character by its code point. -/
def escapeByNumber (c : Char) : List Char :=
  if code c ≤ 0xFF then '\\' :: 'x' :: hexDigits 2 (code c)
  else if code c ≤ 0xFFFF then '\\' :: 'u' :: hexDigits 4 (code c)
  else '\\' :: 'U' :: hexDigits 8 (code c)

def enclosingQuote (s : List Char) : Char :=
  if s.contains '\x27' && !s.contains '\x22' then '\x22' else '\x27'

/-- One character between quotes; `shown` tells which characters may stand for themselves. -/
def escapeChar (shown : Char → Bool) (quote c : Char) : List Char :=
  if c = quote ∨ c = '\\' then ['\\', c]
  else if c = '\t' then ['\\', 't']
  else if c = '\n' then ['\\', 'n']
  else if c = '\r' then ['\\', 'r']
  else if shown c then [c]
  else escapeByNumber c

def quotedChars (shown : Char → Bool) (s : List Char) : List Char :=
  let quote := enclosingQuote s
  quote :: s.flatMap (escapeChar shown quote) ++ [quote]

def quoted (s : String) : String := String.ofList (quotedChars isPrintable s.toList)

/-- A string between quotes, in which only printable ASCII stands for itself. -/
def quotedAscii (s : String) : String :=
  String.ofList (quotedChars (fun c => ' ' ≤ c && c.toNat < 0x7F) s.toList)

/-- Bytes between quotes, marked by a `b`; only printable ASCII stands for itself. -/
def quotedBytes (bytes : List UInt8) : String :=
  "b" ++ quotedAscii (String.ofList (bytes.map fun b => Char.ofNat b.toNat))

end Conform.Text
