import Conform.Fault
import Conform.Value.Basic
import Conform.Number.Shortest
/-!
# The text of a value

`literal` writes a value as it appears inside diagnostics, strings in quotes.  `text` is the same
but for a value standing alone: a string is its own text and a date or time is in ISO form.

A container that is met again inside itself is shown as an ellipsis in its own brackets.

An integer with too many digits has no text, and a value that holds one has none either.  So a value is
written by `writeLiteral` and `writeText`, which fail for it.
-/
namespace Conform.Value

/-- The ellipsis of a container that is being written already. -/
def ellipsis : Value → String
  | map _ => "\x7b...\x7d"
  | set _ => "\x7b...\x7d"
  | tuple _ => "(...)"
  | _ => "[...]"

/-- The ellipsis for a label, if its container is being written. -/
def ellipsis? (open_ : List (Nat × String)) (label : Nat) : Option String :=
  (open_.find? (·.1 == label)).map (·.2)

/-- Items between parentheses; a single one is followed by a comma. -/
def tupleText (items : List String) : String :=
  match items with
  | [x] => "(" ++ x ++ ",)"
  | xs => "(" ++ ", ".intercalate xs ++ ")"

mutual

/-- A value as it appears inside diagnostics; `open_` holds the loops that are being written. -/
def literalIn (open_ : List (Nat × String)) : Value → String
  | null => "None"
  | bool true => "True"
  | bool false => "False"
  | int n => toString n
  | float x => x.toText
  | str s => Text.quoted s
  | bytes bs => Text.quotedBytes bs
  | date d => d.literal
  | datetime t => t.literal
  | list xs => "[" ++ ", ".intercalate (literalItems open_ xs) ++ "]"
  | tuple xs => tupleText (literalItems open_ xs)
  | map es => "\x7b" ++ ", ".intercalate (literalEntries open_ es) ++ "\x7d"
  | set [] => "set()"
  | set (x :: xs) =>
    "\x7b" ++ ", ".intercalate (literalIn open_ x :: literalItems open_ xs) ++ "\x7d"
  | loop l body =>
    match ellipsis? open_ l with
    | some e => e
    | none => literalIn ((l, ellipsis body) :: open_) body
  | back l => (ellipsis? open_ l).getD "..."

def literalItems (open_ : List (Nat × String)) : List Value → List String
  | [] => []
  | x :: xs => literalIn open_ x :: literalItems open_ xs

def literalEntries (open_ : List (Nat × String)) : List (Value × Value) → List String
  | [] => []
  | (k, x) :: es => (literalIn open_ k ++ ": " ++ literalIn open_ x) :: literalEntries open_ es

end

/-- A value as it appears inside diagnostics. -/
def literal (v : Value) : String := literalIn [] v

/-- A value standing alone. -/
def text : Value → String
  | str s => s
  | date d => d.isoText
  | datetime t => t.isoText " "
  | v => v.literal

/-! ### Writing -/

mutual

/-- Whether no integer in the value has more digits than can be written. -/
def isWritable : Value → Bool
  | int n => decide (n.natAbs < NumberText.leastTooLong)
  | list xs => areWritable xs
  | tuple xs => areWritable xs
  | map es => areWritableEntries es
  | set xs => areWritable xs
  | loop _ body => isWritable body
  | _ => true

/-- `isWritable` for each item. -/
def areWritable : List Value → Bool
  | [] => true
  | x :: xs => isWritable x && areWritable xs

/-- `isWritable` for each key and value. -/
def areWritableEntries : List (Value × Value) → Bool
  | [] => true
  | (k, x) :: es => isWritable k && isWritable x && areWritableEntries es

end

/-- Writes a value as it appears inside diagnostics. -/
def writeLiteral (v : Value) : Except Fault String :=
  if v.isWritable then .ok v.literal else .error .integerUnwritable

def writeText (v : Value) : Except Fault String :=
  if v.isWritable then .ok v.text else .error .integerUnwritable

end Conform.Value
