import Conform.Fault
/-!
# Tokens of a document

A document is read in three steps: characters to tokens, tokens to a tree of nodes, nodes to values.
This module holds what the steps share: places in the text, the ways of failing, and the tokens.
-/
namespace Conform.Yaml

/-- A place in a text; lines and columns are counted from zero. -/
structure Mark where
  index : Nat := 0
  line : Nat := 0
  column : Nat := 0
deriving DecidableEq, Repr, Inhabited

/-- Why a document yields no value: it breaks the rules of the format, or a scalar of it cannot be
what its tag says, which is a fault of that scalar. -/
inductive Failure where
  | malformed
  | fault (f : Fault)
deriving DecidableEq, Repr, Inhabited

/-- What a token is. -/
inductive TokenKind where
  | version (major : Nat)
  | tagHandle (handle expansion : String)
  | otherDirective
  | documentStart
  | documentEnd
  | blockSequenceStart
  | blockMappingStart
  | blockEnd
  | flowSequenceStart
  | flowSequenceEnd
  | flowMappingStart
  | flowMappingEnd
  | blockEntry
  | flowEntry
  | key
  | value
  | reference (name : String)
  | anchor (name : String)
  | tag (handle : Option String) (suffix : String)
  | scalar (text : String) (plain : Bool)
  | textEnd
deriving DecidableEq, Repr, Inhabited

/-- A token and the places where it starts and ends. -/
structure Token where
  kind : TokenKind
  start : Mark
  stop : Mark
deriving DecidableEq, Repr, Inhabited

/-- Whether a character ends a line. -/
def isBreak (c : Char) : Bool :=
  c == '\n' || c == '\r' || c == '\u0085' || c == '\u2028' || c == '\u2029'

/-- The character that is seen after the last one; no document holds it. -/
def endOfText : Char := '\x00'

def isBreakOrEnd (c : Char) : Bool := c == endOfText || isBreak c

/-- Whether a character ends a word that may be followed by a blank. -/
def isSpaceOrEnd (c : Char) : Bool := c == ' ' || isBreakOrEnd c

def isSeparator (c : Char) : Bool := c == '\t' || isSpaceOrEnd c

/-- Whether a document may hold a character. -/
def isAllowed (c : Char) : Bool :=
  let n := c.toNat
  n == 0x09 || n == 0x0A || n == 0x0D || (0x20 ≤ n && n ≤ 0x7E) || n == 0x85
    || (0xA0 ≤ n && n ≤ 0xFFFD) || 0x10000 ≤ n

/-- Whether a character may be part of the name of an anchor, a directive or a tag handle. -/
def isNameChar (c : Char) : Bool := c.isAlphanum || c == '-' || c == '_'

def isTagChar (c : Char) : Bool := c.isAlphanum || "-;/?:@&=+$,_.!~*\x27()[]%".toList.contains c

/-- The place after a character, given the character that follows it: a carriage return does not
end its line before a line feed, and a byte order mark takes up no column. -/
def Mark.after (m : Mark) (c : Char) (next : Option Char) : Mark :=
  if isBreak c && !(c == '\r' && next == some '\n') then ⟨m.index + 1, m.line + 1, 0⟩
  else if c == '\uFEFF' then { m with index := m.index + 1 }
  else { m with index := m.index + 1, column := m.column + 1 }

end Conform.Yaml
