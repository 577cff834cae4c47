import Conform.Log.Basic
import Conform.Log.Field
import Conform.Fault
import Conform.Text.Word
import Conform.Text.Digit
/-!
# Layouts of records

A layout is a text with fields, each written as a percent sign, the name of an attribute in
parentheses, flags, a width, a precision and a letter.  A doubled percent sign stands for one.  A
text without anything like a field is refused, but the empty one stands for the message alone.

Being like a field is decided before the text is taken apart, so that a text may be accepted and yet
be of no use: a record is not shown in a layout with a field that it cannot fill.
-/
namespace Conform.Log

/-- A part of a layout. -/
inductive LayoutPart where
  | text (c : Char)
  | field (name : String) (style : FieldStyle)
  | unusable
deriving DecidableEq, Repr, Inhabited

/-- A layout in parts. -/
structure Layout where
  parts : List LayoutPart
deriving DecidableEq, Repr, Inhabited

namespace Layout

/-- The flags that may stand before the width. -/
def isFlag (c : Char) : Bool := c == '#' || c == '0' || c == '+' || c == ' ' || c == '-'

/-! ### What is like a field -/

/-- The letters that something like a field ends with, in any case. -/
def isConversion (c : Char) : Bool :=
  c == 'ı' || c == 'İ' || c == 'ſ' || "diouxefgcrsa%".toList.contains c.toLower

/-- The text after a number of any script or a star; none if there is neither. -/
def afterNumber? : List Char → Option (List Char)
  | '*' :: s => some s
  | s => if s.head?.any Text.isDigit then some (s.dropWhile Text.isDigit) else none

/-- Whether a text starts with something like a field after its percent sign. -/
def startsField : List Char → Bool
  | '(' :: s =>
    let rest := s.dropWhile Text.isWord
    match s.head?.any Text.isWord, rest with
    | true, ')' :: s =>
      let s := s.dropWhile isFlag
      let s := (afterNumber? s).getD s
      let s := match s with
        | '.' :: r => (afterNumber? r).getD s
        | s => s
      s.head?.any isConversion
    | _, _ => false
  | _ => false

/-- Whether a text holds something like a field. -/
def holdsField : List Char → Bool
  | [] => false
  | c :: s => (c == '%' && startsField s) || holdsField s

/-! ### Parts -/

/-- A name up to the parenthesis that closes it, and the text after it; parentheses inside of the
name are in pairs. -/
def name? (depth : Nat) : List Char → Option (List Char × List Char)
  | [] => none
  | ')' :: s =>
    match depth with
    | 0 => some ([], s)
    | d + 1 => (name? d s).map fun (n, rest) => (')' :: n, rest)
  | '(' :: s => (name? (depth + 1) s).map fun (n, rest) => ('(' :: n, rest)
  | c :: s => (name? depth s).map fun (n, rest) => (c :: n, rest)

/-- Digits at the front as a number, and the text after them. -/
def spanNumber (s : List Char) : Nat × List Char :=
  ((s.takeWhile Char.isDigit).foldl (fun n d => n * 10 + (d.toNat - '0'.toNat)) 0,
    s.dropWhile Char.isDigit)

/-- The style of a field after its name, and the text after it.  A letter for the size of a number
may stand before the last one and means nothing. -/
def style? (s : List Char) : Option (FieldStyle × List Char) := do
  let flags := s.takeWhile isFlag
  let (width, s) := spanNumber (s.drop flags.length)
  let (precision, s) := match s with
    | '.' :: s => let (n, s) := spanNumber s; (some n, s)
    | s => (none, s)
  let s := match s with
    | 'h' :: s => s
    | 'l' :: s => s
    | 'L' :: s => s
    | s => s
  let letter :: s := s | none
  some ({
    left := flags.contains '-', plus := flags.contains '+', blank := flags.contains ' '
    alternate := flags.contains '#', zeros := flags.contains '0', width, precision, letter }, s)

/-- The part after a percent sign, and the text after it.  Without a name there can only be another
percent sign. -/
def part : List Char → LayoutPart × List Char
  | '(' :: s =>
    match name? 0 s with
    | none => (.unusable, [])
    | some (name, s) =>
      match style? s with
      | none => (.unusable, [])
      | some (style, s) => (.field (String.ofList name) style, s)
  | s =>
    match style? s with
    | some ({ letter := '%', .. }, s) => (.text '%', s)
    | _ => (.unusable, [])

/-- The parts of a text, of which there are at most as many as characters. -/
def partsOf : Nat → List Char → List LayoutPart
  | 0, _ => []
  | _, [] => []
  | n + 1, '%' :: s => (part s).1 :: partsOf n (part s).2
  | n + 1, c :: s => .text c :: partsOf n s

/-- The message alone. -/
def plain : Layout where
  parts := [.field "message" {}]

/-- The layout of a text, which has to hold something like a field unless it is empty. -/
def ofString (s : String) : Except Fault Layout :=
  if s = "" then .ok plain
  else if holdsField s.toList then .ok ⟨partsOf s.length s.toList⟩
  else .error (.raised "ValueError" s!"Invalid format '{s}' for '%' style")

/-! ### Writing -/

/-- The attributes of a record.  Nothing is known of a failure behind it. -/
def attribute? (r : Record) (name : String) : Option Attribute :=
  match name with
  | "name" => some (.text r.logger)
  | "levelname" => some (.text (levelName r.level))
  | "levelno" => some (.number r.level)
  | "message" => some (.text r.message)
  | "msg" => some (.text r.message)
  | "args" => some (.fixed "()")
  | "exc_info" => some (.fixed "None")
  | "exc_text" => some (.fixed "None")
  | "stack_info" => some (.fixed "None")
  | "threadName" => some (.text "MainThread")
  | "processName" => some (.text "MainProcess")
  | _ => none

end Layout

def LayoutPart.write? (r : Record) : LayoutPart → Option (List Char)
  | .text c => some [c]
  | .field name style => (Layout.attribute? r name).bind style.write?
  | .unusable => none

namespace Layout

/-- A record in a layout, unless some field cannot be filled. -/
def write? (l : Layout) (r : Record) : Option String :=
  (l.parts.mapM (LayoutPart.write? r)).map fun parts => String.ofList parts.flatten

/-- Logger, level and message with dashes between them. -/
def usual : Layout where
  parts :=
    .field "name" {} :: (" - ".toList.map .text ++ .field "levelname" {}
      :: (" - ".toList.map .text ++ [.field "message" {}]))

def line (l : Layout) (r : Record) : String := ((l.write? r).map (· ++ "\n")).getD ""

end Layout

end Conform.Log
