import Conform.Yaml.Token
/-!
# Tags

A tag says what a node stands for.  A plain scalar without a tag gets one by its text: each core tag
has a form, and the forms are told apart by the first character before anything else, so that a text
whose first character is foreign to a form never has it.

A form may be followed by one line feed.
-/
namespace Conform.Yaml

/-- What the tags of the core stand for. -/
inductive Meaning where
  | null
  | bool
  | int
  | float
  | binary
  | timestamp
  | str
  | seq
  | map
  | set
  | omap
  | pairs
  | merge
  | value
deriving DecidableEq, Repr, Inhabited

namespace Meaning

/-- The last part of the tag. -/
def name : Meaning → String
  | null => "null"
  | bool => "bool"
  | int => "int"
  | float => "float"
  | binary => "binary"
  | timestamp => "timestamp"
  | str => "str"
  | seq => "seq"
  | map => "map"
  | set => "set"
  | omap => "omap"
  | pairs => "pairs"
  | merge => "merge"
  | value => "value"

def all : List Meaning :=
  [null, bool, int, float, binary, timestamp, str, seq, map, set, omap, pairs, merge, value]

end Meaning

def corePart : String := "tag:yaml.org,2002:"

def Meaning.tag (m : Meaning) : String := corePart ++ m.name

/-- The tag of characters that start a node of another kind; it stands for nothing. -/
def indicatorTag : String := corePart ++ "yaml"

/-- What a tag stands for, if it is one of the core. -/
def meaning? (tag : String) : Option Meaning := Meaning.all.find? fun m => m.tag == tag

/-! ### Forms of plain scalars -/

namespace Form

/-- Drops a sign, if there is one. -/
def unsigned : List Char → List Char
  | '-' :: s => s
  | '+' :: s => s
  | s => s

def isOctal (c : Char) : Bool := '0' ≤ c && c ≤ '7'

def isHex (c : Char) : Bool := c.isDigit || ('a' ≤ c && c ≤ 'f') || ('A' ≤ c && c ≤ 'F')

/-- Whether a run of digits of a kind, with underscores among them, makes up the whole text. -/
def isRun (digit : Char → Bool) (s : List Char) : Bool :=
  !s.isEmpty && s.all fun c => digit c || c == '_'

/-- Decimal digits with underscores after the first. -/
def spanNumber (s : List Char) : List Char × List Char :=
  match s with
  | c :: _ => if c.isDigit then s.span fun c => c.isDigit || c == '_' else ([], s)
  | [] => ([], [])

/-- What follows groups of a colon and one or two digits up to 59; there has to be a group. -/
def sixties? : List Char → Option (List Char)
  | ':' :: a :: b :: s =>
    if '0' ≤ a ∧ a ≤ '5' ∧ b.isDigit then some ((sixties? s).getD s)
    else if a.isDigit then some ((sixties? (b :: s)).getD (b :: s))
    else none
  | [':', a] => if a.isDigit then some [] else none
  | _ => none

/-- The form of an integer. -/
def isInt (s : List Char) : Bool :=
  match unsigned s with
  | '0' :: 'b' :: ds => isRun (fun c => c == '0' || c == '1') ds
  | '0' :: 'x' :: ds => isRun isHex ds
  | '0' :: ds => ds.isEmpty || isRun isOctal ds
  | ds =>
    match spanNumber ds with
    | ([], _) => false
    | (_, rest) => rest.isEmpty || sixties? rest == some []

/-- Nothing, or an exponent, whose sign has to be written. -/
def isExponent : List Char → Bool
  | [] => true
  | e :: sign :: ds =>
    (e == 'e' || e == 'E') && (sign == '-' || sign == '+') && !ds.isEmpty && ds.all Char.isDigit
  | _ => false

/-- Digits and underscores after a point, and perhaps an exponent. -/
def isFraction (s : List Char) : Bool := isExponent (s.dropWhile fun c => c.isDigit || c == '_')

/-- The form of a floating-point number: it has a point. -/
def isFloat (s : List Char) : Bool :=
  let u := unsigned s
  [".inf", ".Inf", ".INF"].any (·.toList == u)
    || [".nan", ".NaN", ".NAN"].any (·.toList == s)
    || (match s with
        | '.' :: d :: rest => d.isDigit && isFraction rest
        | _ => false)
    || (match spanNumber u with
        | ([], _) => false
        | (_, '.' :: rest) => isFraction rest
        | (_, rest) =>
          match sixties? rest with
          | some ('.' :: ds) => ds.all fun c => c.isDigit || c == '_'
          | _ => false)

/-- A number of digits at the front, between two bounds; as many as there are. -/
def digits? (least most : Nat) (s : List Char) : Option (List Char × List Char) :=
  let ds := (s.take most).takeWhile Char.isDigit
  if least ≤ ds.length then some (ds, s.drop ds.length) else none

/-- Drops a character that has to be there. -/
def expect? (c : Char) : List Char → Option (List Char)
  | d :: s => if c = d then some s else none
  | [] => none

/-- The parts of a date or of a date with a time, as digits. -/
structure TimeParts where
  year : List Char
  month : List Char
  day : List Char
  time : Option (List Char × List Char × List Char) := none
  fraction : List Char := []
  utc : Bool := false
  zone : Option (Bool × List Char × List Char) := none

/-- Whether a character separates the parts of a time. -/
def isGap (c : Char) : Bool := c == ' ' || c == '\t'

/-- A time zone up to the end: the letter for universal time, or a sign, hours and perhaps
minutes. -/
def zone? (parts : TimeParts) : List Char → Option TimeParts
  | ['Z'] => some { parts with utc := true }
  | sign :: s => do
    if sign ≠ '-' ∧ sign ≠ '+' then none
    let (hours, s) ← digits? 1 2 s
    match s with
    | [] => some { parts with zone := some (sign == '-', hours, []) }
    | s => do
      let (minutes, s) ← digits? 2 2 (← expect? ':' s)
      if s.isEmpty then some { parts with zone := some (sign == '-', hours, minutes) } else none
  | [] => none

/-- A time of day up to the end, after what separates it from the date. -/
def time? (parts : TimeParts) (s : List Char) : Option TimeParts := do
  let (hour, s) ← digits? 1 2 s
  let (minute, s) ← digits? 2 2 (← expect? ':' s)
  let (second, s) ← digits? 2 2 (← expect? ':' s)
  let parts := { parts with time := some (hour, minute, second) }
  let (fraction, s) := match s with
    | '.' :: s => s.span Char.isDigit
    | s => ([], s)
  let parts := { parts with fraction }
  match s.dropWhile isGap with
  | [] => if s.isEmpty then some parts else none
  | rest => zone? parts rest

/-- The parts of a date, alone or with a time. -/
def timeParts? (s : List Char) : Option TimeParts := do
  let (year, s) ← digits? 4 4 s
  let (month, s) ← digits? 1 2 (← expect? '-' s)
  let (day, s) ← digits? 1 2 (← expect? '-' s)
  let parts : TimeParts := { year, month, day }
  match s with
  | [] => some parts
  | 'T' :: s => time? parts s
  | 't' :: s => time? parts s
  | c :: s => if isGap c then time? parts (s.dropWhile isGap) else none

/-- The form of a date or time; a date that stands alone has two digits for month and day. -/
def isTimestamp (s : List Char) : Bool :=
  match timeParts? s with
  | some p => p.time.isSome || (p.month.length == 2 && p.day.length == 2)
  | none => false

end Form

/-- The words for true and for false. -/
def boolWords : List String :=
  ["yes", "Yes", "YES", "no", "No", "NO", "true", "True", "TRUE", "false", "False", "FALSE",
    "on", "On", "ON", "off", "Off", "OFF"]

def nullWords : List String := ["~", "null", "Null", "NULL", ""]

/-- The tag of a plain text that has one of the forms; any other text is a string. -/
def plainTag (s : List Char) : String :=
  let body := if s.getLast? = some '\n' ∧ 1 < s.length then s.dropLast else s
  if boolWords.any (·.toList == body) then Meaning.bool.tag
  else if Form.isFloat body then Meaning.float.tag
  else if Form.isInt body then Meaning.int.tag
  else if body == ['<', '<'] then Meaning.merge.tag
  else if nullWords.any (·.toList == body) then Meaning.null.tag
  else if Form.isTimestamp body then Meaning.timestamp.tag
  else if body == ['='] then Meaning.value.tag
  else if body == ['!'] || body == ['&'] || body == ['*'] then indicatorTag
  else Meaning.str.tag

end Conform.Yaml
