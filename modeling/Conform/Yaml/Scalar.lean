import Conform.Yaml.Tag
import Conform.Number.Reading
import Conform.Text.LowerText
import Conform.Value.Basic
/-!
# Scalars

What a text stands for under a tag.  A tag may be given to any text, so that each reading can fail:
the text of a number that is none is a fault of its own, while bytes that cannot be decoded make the
document malformed.
-/
namespace Conform.Yaml

namespace Scalar

def withoutUnderscores (s : List Char) : List Char := s.filter (· != '_')

/-- A number without its sign, which has to have a character of its own. -/
def signed? : List Char → Option (Bool × List Char)
  | '-' :: s => some (true, s)
  | '+' :: s => some (false, s)
  | [] => none
  | s => some (false, s)

/-- The parts between colons. -/
def byColons (s : List Char) : List (List Char) := s.splitOn ':'

/-- An integer, which has to be one as a whole.  The number of decimal digits is limited. -/
def wholeInt (base : Nat) (s : List Char) : Except Failure Int :=
  match NumberText.integer? base s with
  | some n =>
    let digits := (NumberText.normalise s).countP Char.isDigit
    if base = 10 ∧ NumberText.digitLimit < digits then .error (.fault (.integerTooLong digits))
    else .ok n
  | none => .error (.fault (.badInteger base (String.ofList s)))

/-- An integer without its sign: in one of four bases by how it starts, or in groups of sixty. -/
def unsignedInt : List Char → Except Failure Int
  | [] => .error (.fault .emptyNumber)
  | ['0'] => .ok 0
  | '0' :: 'b' :: ds => wholeInt 2 ds
  | '0' :: 'x' :: ds => wholeInt 16 ds
  | '0' :: ds => wholeInt 8 ('0' :: ds)
  | s =>
    if s.contains ':' then do
      let parts ← (byColons s).mapM (wholeInt 10)
      return parts.foldl (fun n d => n * 60 + d) 0
    else wholeInt 10 s

/-- An integer. -/
def int (s : List Char) : Except Failure Value :=
  match signed? (withoutUnderscores s) with
  | none => .error (.fault .emptyNumber)
  | some (negative, s) => do
    let n ← unsignedInt s
    return .int (if negative then -n else n)

/-- A floating-point number, which has to be one as a whole. -/
def wholeFloat (identity : Nat) (s : List Char) : Except Failure Binary64 :=
  match NumberText.float? identity s with
  | some x => .ok x
  | none => .error (.fault (.badFloat (String.ofList s)))

/-- The sum of digits in groups of sixty, the last of them first, rounded at each step.  The weights
are exact until they are rounded for a product. -/
def sixtiesSum (sum : Binary64) (weight : Nat) : List Binary64 → Except Failure Binary64
  | [] => .ok sum
  | d :: ds =>
    match Binary64.ofInt? weight with
    | none => .error (.fault .integerTooLarge)
    | some w => sixtiesSum (sum.add (d.mul w)) (weight * 60) ds

/-- A floating-point number.  All that are written as the word for a not-a-number with a point are
one and the same; any other not-a-number has the given identity. -/
def float (identity : Nat) (s : List Char) : Except Failure Value :=
  match signed? (Text.lowerText (withoutUnderscores s)) with
  | none => .error (.fault .emptyNumber)
  | some (negative, s) => do
    let sign (x : Binary64) : Value := .float (if negative then x.neg else x)
    if s = ['.', 'i', 'n', 'f'] then return sign (.infinite false)
    else if s = ['.', 'n', 'a', 'n'] then return .float (.nan 0)
    else if s.contains ':' then
      let parts ← (byColons s).mapM (wholeFloat identity)
      return sign (← sixtiesSum Binary64.zero 1 parts.reverse)
    else return sign (← wholeFloat identity s)

/-- A truth value, by a word in any mixture of cases. -/
def bool (s : List Char) : Except Failure Value :=
  let word := String.ofList (Text.lowerText s)
  if ["yes", "true", "on"].contains word then .ok (.bool true)
  else if ["no", "false", "off"].contains word then .ok (.bool false)
  else .error (.fault (.badBoolean word))

/-! ### Bytes -/

/-- The six bits of a character. -/
def sextet? (c : Char) : Option Nat :=
  if 'A' ≤ c ∧ c ≤ 'Z' then some (c.toNat - 'A'.toNat)
  else if 'a' ≤ c ∧ c ≤ 'z' then some (c.toNat - 'a'.toNat + 26)
  else if c.isDigit then some (c.toNat - '0'.toNat + 52)
  else if c = '+' then some 62
  else if c = '/' then some 63
  else none

/-- Decodes groups of four characters.  `place` is the place in the group, `bits` what is left of
the character before, `padding` the number of padding characters before.  Characters without a value
are skipped; padding that completes a group ends the text. -/
def decodeGroups (place bits padding : Nat) : List Char → Option (List UInt8)
  | [] => if place = 0 then some [] else none
  | '=' :: s =>
    if 2 ≤ place then
      if 4 ≤ place + padding + 1 then some [] else decodeGroups place bits (padding + 1) s
    else decodeGroups place bits padding s
  | c :: s =>
    match sextet? c with
    | none => decodeGroups place bits padding s
    | some d =>
      match place with
      | 0 => decodeGroups 1 d 0 s
      | 1 => (decodeGroups 2 (d % 16) 0 s).map (UInt8.ofNat (bits * 4 + d / 16) :: ·)
      | 2 => (decodeGroups 3 (d % 4) 0 s).map (UInt8.ofNat (bits * 16 + d / 4) :: ·)
      | _ => (decodeGroups 0 0 0 s).map (UInt8.ofNat (bits * 64 + d) :: ·)

/-- Bytes written with six bits to a character. -/
def binary (s : List Char) : Except Failure Value :=
  if s.all (·.toNat < 0x80) then
    match decodeGroups 0 0 0 s with
    | some bs => .ok (.bytes bs)
    | none => .error .malformed
  else .error .malformed

/-! ### Dates and times -/

def natural (ds : List Char) : Nat := NumberText.digitsValue 10 ds

/-- The first six digits of a fraction, as millionths. -/
def millionths (ds : List Char) : Nat :=
  natural ((ds ++ List.replicate 6 '0').take 6)

/-- A fault of the calendar is a fault of the scalar. -/
def ofCalendar {α : Type} : Except CalendarError α → Except Failure α
  | .ok a => .ok a
  | .error e => .error (.fault (.calendar e))

/-- The seconds that a zone is ahead of universal time. -/
def zoneSeconds (behind : Bool) (hours minutes : List Char) : Int :=
  let s : Int := natural hours * 3600 + natural minutes * 60
  if behind then -s else s

/-- A date, or a date with a time of day. -/
def ofTimeParts (p : Form.TimeParts) : Except Failure Value :=
  match p.time with
  | none => do
    return .date (← ofCalendar (Date.make (natural p.year) (natural p.month) (natural p.day)))
  | some (hour, minute, second) => do
    let offset ← match p.zone with
      | some (behind, h, m) =>
        some <$> ofCalendar (DateTime.checkOffset (zoneSeconds behind h m))
      | none => pure (if p.utc then some 0 else none)
    return .datetime (← ofCalendar (DateTime.make (natural p.year) (natural p.month)
      (natural p.day) (natural hour) (natural minute) (natural second) (millionths p.fraction)
      offset))

/-- A date or time; one line feed may follow it. -/
def timestamp (s : List Char) : Except Failure Value :=
  match Form.timeParts? (if s.getLast? = some '\n' then s.dropLast else s) with
  | some p => ofTimeParts p
  | none => .error (.fault .notATime)

end Scalar

end Conform.Yaml
