import Conform.Number.Reading
import Conform.Proofs.Text.CodePoint
import Conform.Value.Entries
import Conform.Yaml.Token
/-!
# JSON texts

A JSON text is given as a tree of what it is written with: the blanks between its tokens, the digits of
its numbers, the escapes of its strings.  The tree has a text, and stands for a datum, in which strings
are lists of code points, and for a value.  An escape may name half of a surrogate pair; two halves next
to each other are one code point.

The loader reads all texts as documents of another format, of which JSON texts are nearly a part.
`isPortable` tells the texts that lie in it as they are.
-/
namespace Conform

/-- What a JSON text stands for: strings are lists of code points, and the members of an object are
listed as they are, with names that may occur again. -/
inductive Datum where
  | null
  | bool (b : Bool)
  | int (n : Int)
  | float (x : Binary64)
  | text (s : List Text.CodePoint)
  | array (items : List Datum)
  | object (members : List (List Text.CodePoint × Datum))

namespace JsonText

open Text

/-! ### Blanks -/

/-- What may stand between tokens. -/
inductive Blank where
  | space
  | tab
  | lineFeed
  | carriageReturn
deriving DecidableEq, Repr

/-- The character of a blank. -/
def Blank.char : Blank → Char
  | space => ' '
  | tab => '\t'
  | lineFeed => '\n'
  | carriageReturn => '\r'

/-- The blanks between two tokens. -/
abbrev Gap := List Blank

namespace Gap

/-- The text of a gap. -/
def chars (g : Gap) : List Char := g.map Blank.char

/-- Whether a gap is free of tabs. -/
def isPortable (g : Gap) : Bool := g.all (· != .tab)

/-- Whether a gap stays on its line and is free of tabs. -/
def isInLine (g : Gap) : Bool := g.all (· == .space)

end Gap

/-! ### Numbers -/

/-- The character of a decimal digit. -/
def digitChar (d : Fin 10) : Char := Char.ofNat ('0'.toNat + d)

/-- The number that decimal digits stand for. -/
def decimal (ds : List (Fin 10)) : Nat := ds.foldl (fun n d => n * 10 + d.val) 0

/-- One digit or more. -/
structure Digits where
  first : Fin 10
  rest : List (Fin 10)
deriving DecidableEq, Repr

/-- All digits. -/
def Digits.all (ds : Digits) : List (Fin 10) := ds.first :: ds.rest

/-- The digits before the point: a zero that stands alone, or digits of which the first is none. -/
inductive Whole where
  | zero
  | nonzero (first : Fin 9) (rest : List (Fin 10))
deriving DecidableEq, Repr

/-- All digits before the point. -/
def Whole.digits : Whole → List (Fin 10)
  | zero => [0]
  | nonzero first rest => first.succ :: rest

/-- The power of ten behind a number; a sign may be written, minus or plus. -/
structure Exponent where
  upper : Bool
  sign : Option Bool
  digits : Digits
deriving DecidableEq, Repr

namespace Exponent

/-- The text of an exponent. -/
def chars (e : Exponent) : List Char :=
  (if e.upper then 'E' else 'e') :: (match e.sign with
    | some true => ['-']
    | some false => ['+']
    | none => []) ++ e.digits.all.map digitChar

/-- The power. -/
def power (e : Exponent) : Int :=
  if e.sign = some true then -(decimal e.digits.all) else decimal e.digits.all

end Exponent

/-- A number as it is written. -/
structure Number where
  negative : Bool
  whole : Whole
  fraction : Option Digits
  exponent : Option Exponent
deriving DecidableEq, Repr

namespace Number

/-- The digits behind the point. -/
def decimals (n : Number) : List (Fin 10) :=
  match n.fraction with
  | some ds => ds.all
  | none => []

/-- The text of a number without its sign. -/
def unsignedChars (n : Number) : List Char :=
  n.whole.digits.map digitChar ++ (match n.fraction with
    | some ds => '.' :: ds.all.map digitChar
    | none => []) ++ (match n.exponent with
    | some e => e.chars
    | none => [])

/-- The text of a number. -/
def chars (n : Number) : List Char := (if n.negative then ['-'] else []) ++ n.unsignedChars

/-- Whether a number is written without fraction and exponent. -/
def isInteger (n : Number) : Bool := n.fraction.isNone && n.exponent.isNone

/-- The integer before the point. -/
def integer (n : Number) : Int :=
  if n.negative then -(decimal n.whole.digits) else decimal n.whole.digits

/-- The floating-point number that is nearest. -/
def nearest (n : Number) : Binary64 :=
  NumberText.nearestDecimal n.negative (decimal (n.whole.digits ++ n.decimals))
    ((n.exponent.map (·.power)).getD 0 - n.decimals.length)

/-- The value of a number: an integer if it is written as one. -/
def value (n : Number) : Value := if n.isInteger then .int n.integer else .float n.nearest

/-- What a number stands for. -/
def datum (n : Number) : Datum := if n.isInteger then .int n.integer else .float n.nearest

/-- Whether a number is read as one: an exponent needs its sign and a fraction before it, and an
integer is not longer than the greatest that is read. -/
def isPortable (n : Number) : Bool :=
  match n.fraction, n.exponent with
  | none, none => n.whole.digits.length ≤ NumberText.digitLimit
  | none, some _ => false
  | some _, none => true
  | some _, some e => e.sign.isSome

end Number

/-! ### Strings -/

/-- A hexadecimal digit in either case. -/
structure HexDigit where
  value : Fin 16
  upper : Bool
deriving DecidableEq, Repr

/-- The character of a hexadecimal digit. -/
def HexDigit.char (d : HexDigit) : Char :=
  if d.value < 10 then Char.ofNat ('0'.toNat + d.value)
  else Char.ofNat ((if d.upper then 'A'.toNat else 'a'.toNat) + (d.value - 10))

/-- Four hexadecimal digits. -/
structure HexQuad where
  first : HexDigit
  second : HexDigit
  third : HexDigit
  fourth : HexDigit
deriving DecidableEq, Repr

namespace HexQuad

/-- The digits in order. -/
def chars (q : HexQuad) : List Char := [q.first.char, q.second.char, q.third.char, q.fourth.char]

/-- The number that the digits stand for. -/
def code (q : HexQuad) : Nat :=
  ((q.first.value * 16 + q.second.value) * 16 + q.third.value) * 16 + q.fourth.value

theorem code_lt (q : HexQuad) : q.code < 0x10000 := by
  unfold code
  omega

end HexQuad

/-- Escapes of one letter. -/
inductive ShortEscape where
  | quote
  | backslash
  | slash
  | backspace
  | formFeed
  | lineFeed
  | carriageReturn
  | tab
deriving DecidableEq, Repr

namespace ShortEscape

/-- The letter behind the backslash. -/
def letter : ShortEscape → Char
  | quote => '\x22'
  | backslash => '\\'
  | slash => '/'
  | backspace => 'b'
  | formFeed => 'f'
  | lineFeed => 'n'
  | carriageReturn => 'r'
  | tab => 't'

/-- The character that the escape stands for. -/
def char : ShortEscape → Char
  | quote => '\x22'
  | backslash => '\\'
  | slash => '/'
  | backspace => '\x08'
  | formFeed => '\x0c'
  | lineFeed => '\n'
  | carriageReturn => '\r'
  | tab => '\t'

end ShortEscape

/-- Whether a character may stand in a string as it is. -/
def isUnescaped (c : Char) : Bool := ' ' ≤ c && c != '\x22' && c != '\\'

/-- A code point of a string as it is written. -/
inductive Piece where
  | plain (c : Char) (unescaped : isUnescaped c = true)
  | short (e : ShortEscape)
  | unit (q : HexQuad)

namespace Piece

/-- The text of a code point inside quotes. -/
def chars : Piece → List Char
  | plain c _ => [c]
  | short e => ['\\', e.letter]
  | unit q => '\\' :: 'u' :: q.chars

/-- The code point by itself. -/
def point : Piece → CodePoint
  | plain c _ => ⟨c.toNat, toNat_lt c⟩
  | short e => ⟨e.char.toNat, toNat_lt e.char⟩
  | unit q => ⟨q.code, Nat.lt_trans q.code_lt (by decide)⟩

/-- The character that stands for the code point in a string. -/
def char : Piece → Char
  | plain c _ => c
  | short e => e.char
  | unit q => ofCode q.code

theorem ofCode_point (p : Piece) : ofCode p.point = p.char := by
  cases p with
  | plain c _ => exact ofCode_toNat c
  | short e => exact ofCode_toNat e.char
  | unit q => rfl

/-- Whether a code point may stand in a document as it is written: without an escape it is a character
that a document may hold and no line break. -/
def isPortable : Piece → Bool
  | plain c _ => Yaml.isAllowed c && !Yaml.isBreak c
  | short _ => true
  | unit _ => true

end Piece

/-- The characters between the quotes of a string. -/
def inQuotes (ps : List Piece) : List Char := ps.flatMap Piece.chars

@[simp] theorem inQuotes_cons (p : Piece) (ps : List Piece) :
    inQuotes (p :: ps) = p.chars ++ inQuotes ps := List.flatMap_cons

@[simp] theorem inQuotes_append (ps qs : List Piece) :
    inQuotes (ps ++ qs) = inQuotes ps ++ inQuotes qs := List.flatMap_append

/-- The text of a string. -/
def quoted (ps : List Piece) : List Char := '\x22' :: inQuotes ps ++ ['\x22']

/-- The code points that the pieces make up. -/
def points (ps : List Piece) : List CodePoint := joined (ps.map Piece.point)

/-- The string that the pieces make up. -/
def content (ps : List Piece) : String := String.ofList ((points ps).map fun c => ofCode c.val)

/-- Whether a string is read as it is meant: its halves of surrogate pairs make up no code points. -/
def isPortableText (ps : List Piece) : Bool :=
  ps.all (·.isPortable) && isWhole (ps.map Piece.point)

theorem content_of_isPortableText {ps : List Piece} (h : isPortableText ps = true) :
    content ps = String.ofList (ps.map Piece.char) := by
  rw [content, points, joined_of_isWhole (Bool.and_eq_true_iff.mp h).2, List.map_map]
  exact congrArg String.ofList (List.map_congr_left fun p _ => p.ofCode_point)

/-! ### Values -/

/-- The words of the language. -/
inductive Word where
  | null
  | true
  | false
deriving DecidableEq, Repr

namespace Word

/-- The text of a word. -/
def chars : Word → List Char
  | null => ['n', 'u', 'l', 'l']
  | true => ['t', 'r', 'u', 'e']
  | false => ['f', 'a', 'l', 's', 'e']

/-- The value of a word. -/
def value : Word → Value
  | null => .null
  | true => .bool Bool.true
  | false => .bool Bool.false

/-- What a word stands for. -/
def datum : Word → Datum
  | null => .null
  | true => .bool Bool.true
  | false => .bool Bool.false

end Word

mutual

/-- A value as it is written. -/
inductive Element where
  | word (w : Word)
  | number (n : Number)
  | string (ps : List Piece)
  | emptyArray (inside : Gap)
  | array (items : Items)
  | emptyObject (inside : Gap)
  | object (members : Members)

/-- The items of an array with the gaps around them. -/
inductive Items where
  | last (before : Gap) (item : Element) (after : Gap)
  | cons (before : Gap) (item : Element) (after : Gap) (rest : Items)

/-- The members of an object with the gaps around names and values. -/
inductive Members where
  | last (before : Gap) (name : List Piece) (behindName behindColon : Gap) (item : Element)
      (after : Gap)
  | cons (before : Gap) (name : List Piece) (behindName behindColon : Gap) (item : Element)
      (after : Gap) (rest : Members)

end

mutual

/-- The text of a value. -/
def Element.chars : Element → List Char
  | .word w => w.chars
  | .number n => n.chars
  | .string ps => quoted ps
  | .emptyArray inside => '[' :: inside.chars ++ [']']
  | .array items => '[' :: items.chars ++ [']']
  | .emptyObject inside => '\x7b' :: inside.chars ++ ['\x7d']
  | .object members => '\x7b' :: members.chars ++ ['\x7d']

/-- The text of items. -/
def Items.chars : Items → List Char
  | .last before item after => before.chars ++ item.chars ++ after.chars
  | .cons before item after rest => before.chars ++ item.chars ++ after.chars ++ ',' :: rest.chars

/-- The text of members. -/
def Members.chars : Members → List Char
  | .last before name behindName behindColon item after =>
    before.chars ++ quoted name ++ behindName.chars ++ ':' :: behindColon.chars ++ item.chars
      ++ after.chars
  | .cons before name behindName behindColon item after rest =>
    before.chars ++ quoted name ++ behindName.chars ++ ':' :: behindColon.chars ++ item.chars
      ++ after.chars ++ ',' :: rest.chars

end

mutual

/-- The value that is written: of members with one name the last counts. -/
def Element.value : Element → Value
  | .word w => w.value
  | .number n => n.value
  | .string ps => .str (content ps)
  | .emptyArray _ => .list []
  | .array items => .list items.values
  | .emptyObject _ => .map []
  | .object members => Value.mapOf members.pairs

/-- The values of items. -/
def Items.values : Items → List Value
  | .last _ item _ => [item.value]
  | .cons _ item _ rest => item.value :: rest.values

/-- The names and values of members. -/
def Members.pairs : Members → List (Value × Value)
  | .last _ name _ _ item _ => [(.str (content name), item.value)]
  | .cons _ name _ _ item _ rest => (.str (content name), item.value) :: rest.pairs

end

mutual

/-- What is written, with all that distinguishes texts. -/
def Element.datum : Element → Datum
  | .word w => w.datum
  | .number n => n.datum
  | .string ps => .text (points ps)
  | .emptyArray _ => .array []
  | .array items => .array items.data
  | .emptyObject _ => .object []
  | .object members => .object members.data

/-- What items stand for. -/
def Items.data : Items → List Datum
  | .last _ item _ => [item.datum]
  | .cons _ item _ rest => item.datum :: rest.data

/-- The names of members and what their items stand for. -/
def Members.data : Members → List (List CodePoint × Datum)
  | .last _ name _ _ item _ => [(points name, item.datum)]
  | .cons _ name _ _ item _ rest => (points name, item.datum) :: rest.data

end

/-- Whether a name is found to be one: it ends in time for the colon to come within 1024 characters
on the line where it starts. -/
def isPortableName (name : List Piece) (behindName : Gap) : Bool :=
  isPortableText name && behindName.isInLine &&
    (quoted name).length + behindName.length ≤ 1024

mutual

/-- Whether a value is read as it is meant. -/
def Element.isPortable : Element → Bool
  | .word _ => true
  | .number n => n.isPortable
  | .string ps => isPortableText ps
  | .emptyArray inside => inside.isPortable
  | .array items => items.isPortable
  | .emptyObject inside => inside.isPortable
  | .object members => members.isPortable

/-- `isPortable` for items. -/
def Items.isPortable : Items → Bool
  | .last before item after => before.isPortable && item.isPortable && after.isPortable
  | .cons before item after rest =>
    before.isPortable && item.isPortable && after.isPortable && rest.isPortable

/-- `isPortable` for members. -/
def Members.isPortable : Members → Bool
  | .last before name behindName behindColon item after =>
    before.isPortable && isPortableName name behindName && behindColon.isPortable &&
      item.isPortable && after.isPortable
  | .cons before name behindName behindColon item after rest =>
    before.isPortable && isPortableName name behindName && behindColon.isPortable &&
      item.isPortable && after.isPortable && rest.isPortable

end

end JsonText

/-- A JSON text: a value with the gaps around it. -/
structure JsonText where
  before : JsonText.Gap
  root : JsonText.Element
  after : JsonText.Gap

namespace JsonText

/-- The text itself. -/
def chars (t : JsonText) : List Char := t.before.chars ++ t.root.chars ++ t.after.chars

/-- The value that the text stands for. -/
def value (t : JsonText) : Value := t.root.value

/-- What the text stands for. -/
def datum (t : JsonText) : Datum := t.root.datum

/-- Whether the text is read as it is meant. -/
def isPortable (t : JsonText) : Bool :=
  t.before.isPortable && t.root.isPortable && t.after.isPortable

end JsonText

end Conform
