/-!
# Bytes as text

Decoding of the variable-length encoding of Unicode.  What is wrong is told by the first byte
sequence that cannot be continued: a byte that starts none, a byte that does not continue one, or
the end of the bytes inside one.
-/
namespace Conform.Text

/-- Why bytes are no text: where, at how many bytes, and which of the three reasons. -/
inductive DecodeError where
  | invalidStart (position : Nat) (byte : UInt8)
  | invalidContinuation (position length : Nat) (byte : UInt8)
  | endInside (position length : Nat) (byte : UInt8)
deriving DecidableEq, Repr, Inhabited

/-- The value of a hexadecimal digit. -/
def hexValue? (c : Char) : Option Nat :=
  if '0' ≤ c ∧ c ≤ '9' then some (c.toNat - '0'.toNat)
  else if 'a' ≤ c ∧ c ≤ 'f' then some (c.toNat - 'a'.toNat + 10)
  else if 'A' ≤ c ∧ c ≤ 'F' then some (c.toNat - 'A'.toNat + 10)
  else none

/-- What a first byte announces: the number of bytes to follow, the range of the first of them, and
the bits that it holds itself. -/
structure Lead where
  more : Nat
  low : UInt8
  high : UInt8
  bits : Nat

/-- What a first byte announces; overlong forms, surrogates and numbers beyond the last character
are excluded by the range of the second byte. -/
def lead? (b : UInt8) : Option Lead :=
  let n := b.toNat
  if n < 0x80 then some ⟨0, 0, 0, n⟩
  else if 0xC2 ≤ n ∧ n ≤ 0xDF then some ⟨1, 0x80, 0xBF, n % 0x20⟩
  else if n = 0xE0 then some ⟨2, 0xA0, 0xBF, n % 0x10⟩
  else if n = 0xED then some ⟨2, 0x80, 0x9F, n % 0x10⟩
  else if 0xE1 ≤ n ∧ n ≤ 0xEF then some ⟨2, 0x80, 0xBF, n % 0x10⟩
  else if n = 0xF0 then some ⟨3, 0x90, 0xBF, n % 0x08⟩
  else if n = 0xF4 then some ⟨3, 0x80, 0x8F, n % 0x08⟩
  else if 0xF1 ≤ n ∧ n ≤ 0xF3 then some ⟨3, 0x80, 0xBF, n % 0x08⟩
  else none

/-- The character that is being decoded: where it starts, its first byte, how many of its bytes are
read and wanted, the range of the next and the bits so far. -/
structure Partial where
  position : Nat
  first : UInt8
  read : Nat
  wanted : Nat
  low : UInt8
  high : UInt8
  bits : Nat

/-- Decodes bytes from a position on, with a character begun or not. -/
def decodeFrom : Nat → Option Partial → List UInt8 → Except DecodeError (List Char)
  | _, none, [] => .ok []
  | _, some p, [] => .error (.endInside p.position p.read p.first)
  | i, none, b :: rest =>
    match lead? b with
    | none => .error (.invalidStart i b)
    | some l =>
      if l.more = 0 then (decodeFrom (i + 1) none rest).map (Char.ofNat l.bits :: ·)
      else decodeFrom (i + 1) (some ⟨i, b, 1, l.more, l.low, l.high, l.bits⟩) rest
  | i, some p, b :: rest =>
    if p.low ≤ b ∧ b ≤ p.high then
      let bits := p.bits * 0x40 + b.toNat % 0x40
      if p.wanted = 1 then (decodeFrom (i + 1) none rest).map (Char.ofNat bits :: ·)
      else
        decodeFrom (i + 1)
          (some { p with read := p.read + 1, wanted := p.wanted - 1, low := 0x80, high := 0xBF,
                         bits }) rest
    else .error (.invalidContinuation p.position p.read p.first)

def decodeUtf8 (bytes : List UInt8) : Except DecodeError (List Char) := decodeFrom 0 none bytes

/-- A byte in two hexadecimal digits. -/
def byteText (b : UInt8) : String :=
  let ds := Nat.toDigits 16 b.toNat
  String.ofList (List.replicate (2 - ds.length) '0' ++ ds)

/-- One byte with its value, or a range of positions. -/
def placeText (position length : Nat) (byte : UInt8) : String :=
  if length = 1 then s!"byte 0x{byteText byte} in position {position}"
  else s!"bytes in position {position}-{position + length - 1}"

namespace DecodeError

def message (e : DecodeError) : String :=
  let (position, length, byte, reason) := match e with
    | invalidStart p b => (p, 1, b, "invalid start byte")
    | invalidContinuation p n b => (p, n, b, "invalid continuation byte")
    | endInside p n b => (p, n, b, "unexpected end of data")
  s!"'utf-8' codec can't decode {placeText position length byte}: {reason}"

end DecodeError

/-- Text with every line break written as a line feed. -/
def normaliseBreaks : List Char → List Char
  | [] => []
  | '\r' :: '\n' :: rest => '\n' :: normaliseBreaks rest
  | '\r' :: rest => '\n' :: normaliseBreaks rest
  | c :: rest => c :: normaliseBreaks rest

end Conform.Text
