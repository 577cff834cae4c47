import Conform.Yaml.Token
import Conform.Text.CodePoint
import Conform.Text.Utf8
/-!
# From characters to tokens

The lexer goes through the text once.  It knows the indentation of the block collections that are
open, how many flow collections are, and where a key may have started: that a scalar was a key shows
only at the colon after it, when a key token and perhaps the start of a mapping are put in front of
it.  A key has to end on the line where it started and within 1024 characters.

Loops are bounded by the length of the text, of which each round takes up a character at least.
-/
namespace Conform.Yaml

/-- A place where a key may have started. -/
structure PendingKey where
  number : Nat
  required : Bool
  mark : Mark
deriving Repr, Inhabited

/-- Whether a key that started here cannot end at a place. -/
def PendingKey.isStale (k : PendingKey) (m : Mark) : Bool :=
  k.mark.line != m.line || 1024 < m.index - k.mark.index

/-- What the lexer knows. -/
structure Lexer where
  text : List Char
  limit : Nat
  mark : Mark := {}
  tokens : Array Token := #[]
  indent : Int := -1
  indents : List Int := []
  flow : Nat := 0
  keyAllowed : Bool := true
  keys : List (Nat × PendingKey) := []
deriving Inhabited

abbrev Lex := StateT Lexer (Except Failure)

namespace Lex

/-- Refuses the document. -/
def fail {α : Type} : Lex α := throw .malformed

def peekAt (k : Nat) : Lex Char := do return ((← get).text[k]?).getD endOfText

def peek : Lex Char := peekAt 0

/-- The place of the next character. -/
def mark : Lex Mark := do return (← get).mark

/-- The column of the next character. -/
def column : Lex Nat := do return (← get).mark.column

/-- Takes a character. -/
def advance : Lex Unit := modify fun s =>
  match s.text with
  | c :: rest => { s with text := rest, mark := s.mark.after c rest.head? }
  | [] => s

/-- Takes a number of characters. -/
def skip : Nat → Lex Unit
  | 0 => return
  | n + 1 => do advance; skip n

/-- The longest run of characters of a kind, and what follows it. -/
def spanFrom (p : Char → Bool) : List Char → Mark → List Char × List Char × Mark
  | [], m => ([], [], m)
  | c :: rest, m =>
    if p c then
      let (taken, others, m') := spanFrom p rest (m.after c rest.head?)
      (c :: taken, others, m')
    else ([], c :: rest, m)

/-- Takes the longest run of characters of a kind. -/
def takeWhile (p : Char → Bool) : Lex (List Char) := do
  let s ← get
  let (taken, rest, m) := spanFrom p s.text s.mark
  set { s with text := rest, mark := m }
  return taken

def skipSpaces : Lex Unit := do let _ ← takeWhile (· == ' ')

/-- A bound on the rounds of a loop. -/
def limit : Lex Nat := do return (← get).limit

/-- Takes a line break, if one is ahead; a line or paragraph separator stays what it is, any other
break becomes a line feed. -/
def lineBreak : Lex (List Char) := do
  let c ← peek
  if c == '\r' then
    if (← peekAt 1) == '\n' then skip 2 else advance
    return ['\n']
  if c == '\n' ∨ c == '\u0085' then
    advance
    return ['\n']
  if c == '\u2028' ∨ c == '\u2029' then
    advance
    return [c]
  return []

def skipComment : Lex Unit := do
  if (← peek) == '#' then let _ ← takeWhile fun c => !isBreakOrEnd c

/-- Skips the rest of a line, which may hold a comment only. -/
def restOfLine : Lex Unit := do
  skipSpaces
  skipComment
  if !isBreakOrEnd (← peek) then fail
  let _ ← lineBreak

/-- Whether a line of three equal characters and a separator is ahead. -/
def markerAhead (c : Char) : Lex Bool := do
  return (← peek) == c && (← peekAt 1) == c && (← peekAt 2) == c && isSeparator (← peekAt 3)

/-- Whether the mark of a document's start or end is ahead. -/
def documentMarkAhead : Lex Bool := do return (← markerAhead '-') || (← markerAhead '.')

def emit (kind : TokenKind) (start : Mark) : Lex Unit := do
  let stop ← mark
  modify fun s => { s with tokens := s.tokens.push ⟨kind, start, stop⟩ }

/-- Adds a token in front of the token with a number. -/
def emitBefore (number : Nat) (kind : TokenKind) (m : Mark) : Lex Unit := modify fun s =>
  { s with tokens := (s.tokens.extract 0 number).push ⟨kind, m, m⟩ ++ s.tokens.extract number }

/-- Allows or forbids that the next token starts a key. -/
def allowKey (b : Bool) : Lex Unit := modify fun s => { s with keyAllowed := b }

/-! ### Keys and indentation -/

/-- Gives up the places where a key can no longer have started. -/
def dropStaleKeys : Lex Unit := do
  let s ← get
  if s.keys.any fun k => k.2.isStale s.mark && k.2.required then fail
  set { s with keys := s.keys.filter fun k => !k.2.isStale s.mark }

/-- Gives up the place where a key of this flow level may have started. -/
def dropKey : Lex Unit := do
  let s ← get
  if s.keys.any fun k => k.1 == s.flow && k.2.required then fail
  set { s with keys := s.keys.filter fun k => k.1 != s.flow }

/-- Notes that a key may start here; it has to where a block mapping goes on. -/
def noteKey : Lex Unit := do
  let s ← get
  if s.keyAllowed then
    let required := s.flow == 0 && s.indent == s.mark.column
    dropKey
    modify fun s => { s with keys := (s.flow, ⟨s.tokens.size, required, s.mark⟩) :: s.keys }

/-- Closes block collections that are indented deeper than a column. -/
def unwind (column : Int) : Lex Unit := do
  if (← get).flow == 0 then close ((← get).indents.length + 1)
where
  close : Nat → Lex Unit
    | 0 => return
    | n + 1 => do
      let s ← get
      if column < s.indent then
        emit .blockEnd s.mark
        modify fun s => { s with indent := s.indents.headD (-1), indents := s.indents.drop 1 }
        close n

/-- Opens a block collection at a column, if it lies deeper than the one that is open. -/
def indentTo (column : Nat) : Lex Bool := do
  let s ← get
  if s.indent < column then
    set { s with indent := column, indents := s.indent :: s.indents }
    return true
  return false

/-! ### Tokens of one or a few characters -/

/-- Skips blanks, comments and line breaks up to the next token. -/
def toNextToken : Nat → Lex Unit
  | 0 => return
  | n + 1 => do
    skipSpaces
    skipComment
    if !(← lineBreak).isEmpty then
      if (← get).flow == 0 then allowKey true
      toNextToken n

/-- Takes a token of a number of characters. -/
def indicator (kind : TokenKind) (n : Nat) : Lex Unit := do
  let start ← mark
  skip n
  emit kind start

def documentMark (kind : TokenKind) : Lex Unit := do
  unwind (-1)
  dropKey
  allowKey false
  indicator kind 3

def flowStart (kind : TokenKind) : Lex Unit := do
  noteKey
  modify fun s => { s with flow := s.flow + 1 }
  allowKey true
  indicator kind 1

def flowEnd (kind : TokenKind) : Lex Unit := do
  dropKey
  modify fun s => { s with flow := s.flow - 1 }
  allowKey false
  indicator kind 1

def flowEntry : Lex Unit := do
  allowKey true
  dropKey
  indicator .flowEntry 1

/-- Opens a block collection where one may start. -/
def openBlock (kind : TokenKind) : Lex Unit := do
  let s ← get
  if s.flow == 0 then
    if !s.keyAllowed then fail
    if ← indentTo s.mark.column then emit kind s.mark

def blockEntry : Lex Unit := do
  openBlock .blockSequenceStart
  allowKey true
  dropKey
  indicator .blockEntry 1

def explicitKey : Lex Unit := do
  openBlock .blockMappingStart
  allowKey ((← get).flow == 0)
  dropKey
  indicator .key 1

/-- A colon: it makes a key of what may have been one, or starts a value on its own. -/
def value : Lex Unit := do
  let s ← get
  match s.keys.find? fun k => k.1 == s.flow with
  | some (_, key) =>
    set { s with keys := s.keys.filter fun k => k.1 != s.flow }
    emitBefore key.number .key key.mark
    if s.flow == 0 then
      if ← indentTo key.mark.column then emitBefore key.number .blockMappingStart key.mark
    allowKey false
  | none =>
    openBlock .blockMappingStart
    allowKey (s.flow == 0)
    dropKey
  indicator .value 1

/-! ### Directives, anchors and tags -/

/-- A name, which has to be there and to end at one of the given characters. -/
def name (ends : Char → Bool) : Lex String := do
  let cs ← takeWhile isNameChar
  if cs.isEmpty || !ends (← peek) then fail
  return String.ofList cs

def anchor (kind : String → TokenKind) : Lex Unit := do
  noteKey
  allowKey false
  let start ← mark
  advance
  let ends (c : Char) : Bool := isSeparator c || "?:,]\x7d%@\x60".toList.contains c
  emit (kind (← name ends)) start

/-- A tag handle: an exclamation mark alone, or a name between two. -/
def tagHandle : Lex String := do
  if (← peek) != '!' then fail
  advance
  if (← peek) == ' ' then return "!"
  let cs ← takeWhile isNameChar
  if (← peek) != '!' then fail
  advance
  return String.ofList ('!' :: cs ++ ['!'])

/-- Bytes written as hexadecimal escapes. -/
def uriEscapes : Nat → Lex (List UInt8)
  | 0 => return []
  | n + 1 => do
    if (← peek) != '%' then return []
    advance
    let high := Text.hexValue? (← peek)
    let low := Text.hexValue? (← peekAt 1)
    match high, low with
    | some h, some l =>
      skip 2
      return UInt8.ofNat (h * 16 + l) :: (← uriEscapes n)
    | _, _ => fail

/-- The characters of a tag, with escapes decoded. -/
def tagText : Nat → Lex (List Char)
  | 0 => return []
  | n + 1 => do
    let cs ← takeWhile fun c => isTagChar c && c != '%'
    if (← peek) == '%' then
      match Text.decodeUtf8 (← uriEscapes (← limit)) with
      | .ok decoded => return cs ++ decoded ++ (← tagText n)
      | .error _ => fail
    else return cs

/-- The text of a tag, which may not be empty; an escape counts as text. -/
def tagUri : Lex String := do
  let first ← peek
  if !isTagChar first then fail
  return String.ofList (← tagText (← limit))

/-- A tag: verbatim between angle brackets, an exclamation mark alone, or a suffix after a
handle. -/
def tag : Lex Unit := do
  noteKey
  allowKey false
  let start ← mark
  let c ← peekAt 1
  let (handle, suffix) ← if c == '<' then do
      skip 2
      let suffix ← tagUri
      if (← peek) != '>' then fail
      advance
      pure (none, suffix)
    else if isSeparator c then do
      advance
      pure (none, "!")
    else do
      let word := ((← get).text.drop 1).takeWhile fun c => !isSpaceOrEnd c
      let handle ← if word.contains '!' then tagHandle else do
        advance
        pure "!"
      pure (some handle, ← tagUri)
  if !isSpaceOrEnd (← peek) then fail
  emit (.tag handle suffix) start

def versionNumber : Lex Nat := do
  let ds ← takeWhile Char.isDigit
  if ds.isEmpty then fail
  return ds.foldl (fun n d => n * 10 + (d.toNat - '0'.toNat)) 0

/-- A directive up to the end of its line. -/
def directive : Lex Unit := do
  unwind (-1)
  dropKey
  allowKey false
  let start ← mark
  advance
  let kind ← match ← name isSpaceOrEnd with
    | "YAML" => do
      skipSpaces
      let major ← versionNumber
      if (← peek) != '.' then fail
      advance
      let _ ← versionNumber
      if !isSpaceOrEnd (← peek) then fail
      pure (TokenKind.version major)
    | "TAG" => do
      skipSpaces
      let handle ← tagHandle
      if (← peek) != ' ' then fail
      skipSpaces
      let expansion ← tagUri
      if !isSpaceOrEnd (← peek) then fail
      pure (TokenKind.tagHandle handle expansion)
    | _ => do
      let _ ← takeWhile fun c => !isBreakOrEnd c
      pure TokenKind.otherDirective
  restOfLine
  emit kind start

/-! ### Block scalars -/

/-- The digit of an indentation indicator, which may not be zero. -/
def increment? : Lex (Option Nat) := do
  let c ← peek
  if !c.isDigit then return none
  if c == '0' then fail
  advance
  return some (c.toNat - '0'.toNat)

/-- Whether final line breaks are kept, stripped or reduced to one. -/
def chomping? : Lex (Option Bool) := do
  let c ← peek
  if c == '+' then
    advance
    return some true
  if c == '-' then
    advance
    return some false
  return none

/-- The indicators after the start of a block scalar, in either order. -/
def blockIndicators : Lex (Option Bool × Option Nat) := do
  let (chomping, increment) ← match ← chomping? with
    | some b => pure (some b, ← increment?)
    | none => do
      let i ← increment?
      let b ← if i.isSome then chomping? else pure none
      pure (b, i)
  if !isSpaceOrEnd (← peek) then fail
  return (chomping, increment)

/-- Leading empty lines of a block scalar, and the deepest column that spaces reach in them and in
the first line with text. -/
def blockIndentation : Nat → List Char → Nat → Lex (List Char × Nat)
  | 0, breaks, deepest => return (breaks, deepest)
  | n + 1, breaks, deepest => do
    let c ← peek
    if c == ' ' then
      advance
      blockIndentation n breaks (max deepest (← column))
    else if isBreak c then blockIndentation n (breaks ++ (← lineBreak)) deepest
    else return (breaks, deepest)

/-- Skips spaces up to a column. -/
def spacesTo (indent : Int) : Nat → Lex Unit
  | 0 => return
  | n + 1 => do
    if (← column) < indent ∧ (← peek) == ' ' then
      advance
      spacesTo indent n

/-- Empty lines inside or after a block scalar. -/
def blockBreaks (indent : Int) : Nat → Lex (List Char)
  | 0 => return []
  | n + 1 => do
    spacesTo indent (← limit)
    if isBreak (← peek) then return (← lineBreak) ++ (← blockBreaks indent n)
    return []

/-- Whether a line of a block scalar goes on here. -/
def lineAhead (indent : Int) : Lex Bool := do
  return (← column) == indent && (← peek) != endOfText

/-- Whether a character starts a line that is not folded. -/
def isBlankChar (c : Char) : Bool := c == ' ' || c == '\t'

/-- The lines of a block scalar; gives the text, the last line break and the empty lines after. -/
def blockLines (folded : Bool) (indent : Int) : Nat → List Char → List Char →
    Lex (List Char × List Char × List Char)
  | 0, text, breaks => return (text, [], breaks)
  | n + 1, text, breaks => do
    let plainStart := !isBlankChar (← peek)
    let line ← takeWhile fun c => !isBreakOrEnd c
    let text := text ++ breaks ++ line
    let ending ← lineBreak
    let breaks ← blockBreaks indent (← limit)
    if ← lineAhead indent then
      let joined :=
        if folded && ending == ['\n'] && plainStart && !isBlankChar (← peek) then
          if breaks.isEmpty then [' '] else []
        else ending
      blockLines folded indent n (text ++ joined) breaks
    else return (text, ending, breaks)

def blockScalar (folded : Bool) : Lex Unit := do
  allowKey true
  dropKey
  let start ← mark
  advance
  let (chomping, increment) ← blockIndicators
  restOfLine
  let least := max ((← get).indent + 1) 1
  let (breaks, indent) ← match increment with
    | none => do
      let (breaks, deepest) ← blockIndentation (← limit) [] 0
      pure (breaks, max least deepest)
    | some i => do
      let indent := least + i - 1
      pure (← blockBreaks indent (← limit), indent)
  let (text, ending, breaks) ←
    if ← lineAhead indent then blockLines folded indent (← limit) [] breaks
    else pure ([], [], breaks)
  let text := if chomping == some false then text else text ++ ending
  let text := if chomping == some true then text ++ breaks else text
  emit (.scalar (String.ofList text) false) start

/-! ### Quoted scalars -/

def escape? : Char → Option Char
  | '0' => some '\x00'
  | 'a' => some '\x07'
  | 'b' => some '\x08'
  | 't' => some '\t'
  | '\t' => some '\t'
  | 'n' => some '\n'
  | 'v' => some '\x0b'
  | 'f' => some '\x0c'
  | 'r' => some '\r'
  | 'e' => some '\x1b'
  | ' ' => some ' '
  | '\x22' => some '\x22'
  | '\\' => some '\\'
  | '/' => some '/'
  | 'N' => some '\u0085'
  | '_' => some '\u00a0'
  | 'L' => some '\u2028'
  | 'P' => some '\u2029'
  | _ => none

/-- The number of hexadecimal digits after an escape letter. -/
def escapeLength? : Char → Option Nat
  | 'x' => some 2
  | 'u' => some 4
  | 'U' => some 8
  | _ => none

/-- Hexadecimal digits, all of which have to be there. -/
def hexNumber : Nat → Nat → Lex Nat
  | 0, value => return value
  | n + 1, value => do
    match Text.hexValue? (← peek) with
    | some d =>
      advance
      hexNumber n (value * 16 + d)
    | none => fail

/-- Empty lines inside a quoted scalar, which may not run into another document. -/
def quotedBreaks : Nat → Lex (List Char)
  | 0 => return []
  | n + 1 => do
    if ← documentMarkAhead then fail
    let _ ← takeWhile isBlankChar
    if isBreak (← peek) then return (← lineBreak) ++ (← quotedBreaks n)
    return []

/-- How a line break and the empty lines after it read inside a scalar: a single break is a
space. -/
def folded (ending breaks : List Char) : List Char :=
  if ending != ['\n'] then ending ++ breaks
  else if breaks.isEmpty then [' ']
  else breaks

/-- An escape in double quotes, after its backslash. -/
def quotedEscape : Lex (List Char) := do
  let c ← peek
  match escape? c, escapeLength? c with
  | some e, _ =>
    advance
    return [e]
  | none, some n =>
    advance
    let code ← hexNumber n 0
    if 0x7FFFFFFF < code then throw (.fault .characterTooLarge)
    if 0x10FFFF < code then throw (.fault .badCharacter)
    return [Text.ofCode code]
  | none, none =>
    if isBreak c then
      let _ ← lineBreak
      quotedBreaks (← limit)
    else fail

/-- The text of a quoted scalar up to its closing quote. -/
def quotedText (double : Bool) : Nat → Lex (List Char)
  | 0 => fail
  | n + 1 => do
    let quote := if double then '\x22' else '\x27'
    let c ← peek
    if c == endOfText then fail
    else if c == quote then
      -- A single quote inside single quotes is written twice.
      if !double && (← peekAt 1) == quote then
        skip 2
        return quote :: (← quotedText double n)
      return []
    else if double && c == '\\' then
      advance
      let e ← quotedEscape
      return e ++ (← quotedText double n)
    else if isBlankChar c || isBreak c then
      let blanks ← takeWhile isBlankChar
      let next ← peek
      if next == endOfText then fail
      -- Blanks before a line break go, and the break is folded with those that follow.
      if isBreak next then
        let ending ← lineBreak
        let breaks ← quotedBreaks (← limit)
        return folded ending breaks ++ (← quotedText double n)
      return blanks ++ (← quotedText double n)
    else
      let cs ← takeWhile fun c =>
        c != '\x22' && c != '\x27' && c != '\\' && !isSeparator c
      if cs.isEmpty then
        advance
        return c :: (← quotedText double n)
      return cs ++ (← quotedText double n)

def quotedScalar (double : Bool) : Lex Unit := do
  noteKey
  allowKey false
  let start ← mark
  advance
  let text ← quotedText double (← limit)
  advance
  emit (.scalar (String.ofList text) false) start

/-! ### Plain scalars -/

/-- Whether a plain scalar ends before a character; a colon ends it before a separator, and in a
flow collection before an indicator too. -/
def endsPlain (inFlow : Bool) (c : Char) (next : Option Char) : Bool :=
  isSeparator c
    || (c == ':' && (isSeparator (next.getD endOfText)
      || (inFlow && ",[]\x7b\x7d".toList.contains (next.getD endOfText))))
    || (inFlow && ",?[]\x7b\x7d".toList.contains c)

/-- The characters of a plain scalar up to a blank or its end. -/
def plainRun (inFlow : Bool) : List Char → List Char
  | [] => []
  | c :: rest => if endsPlain inFlow c rest.head? then [] else c :: plainRun inFlow rest

/-- Line breaks inside a plain scalar; none if a document mark is ahead. -/
def plainBreaks : Nat → Lex (Option (List Char))
  | 0 => return some []
  | n + 1 => do
    let c ← peek
    if c == ' ' then
      advance
      plainBreaks n
    else if isBreak c then
      let b ← lineBreak
      if ← documentMarkAhead then return none
      return (← plainBreaks n).map (b ++ ·)
    else return some []

/-- Blanks and line breaks after a part of a plain scalar, as they read if it goes on. -/
def plainSpaces : Lex (List Char) := do
  let spaces ← takeWhile (· == ' ')
  if !isBreak (← peek) then return spaces
  let ending ← lineBreak
  allowKey true
  if ← documentMarkAhead then return []
  match ← plainBreaks (← limit) with
  | none => return []
  | some breaks => return folded ending breaks

/-- The text of a plain scalar, and the place after its last character. -/
def plainText (indent : Int) : Nat → List Char → List Char → Mark → Lex (List Char × Mark)
  | 0, text, _, stop => return (text, stop)
  | n + 1, text, spaces, stop => do
    if (← peek) == '#' then return (text, stop)
    let s ← get
    let run := plainRun (s.flow != 0) s.text
    if run.isEmpty then return (text, stop)
    allowKey false
    skip run.length
    let stop ← mark
    let text := text ++ spaces ++ run
    let spaces ← plainSpaces
    if spaces.isEmpty || (← peek) == '#' || (s.flow == 0 && (← column) < indent) then
      return (text, stop)
    plainText indent n text spaces stop

def plainScalar : Lex Unit := do
  noteKey
  allowKey false
  let start ← mark
  let indent := (← get).indent + 1
  let (text, stop) ← plainText indent (← limit) [] [] start
  modify fun s =>
    { s with tokens := s.tokens.push ⟨.scalar (String.ofList text) true, start, stop⟩ }

/-- Whether a plain scalar may start here. -/
def plainAhead : Lex Bool := do
  let c ← peek
  let next ← peekAt 1
  let inFlow := (← get).flow != 0
  return !(isSeparator c || "-?:,[]\x7b\x7d#&*!|>\x27\x22%@\x60".toList.contains c)
    || (!isSeparator next && (c == '-' || (!inFlow && (c == '?' || c == ':'))))

/-! ### The whole text -/

/-- Takes the token that starts here; says whether there may be more. -/
def token : Lex Bool := do
  let c ← peek
  let after ← peekAt 1
  let atStart := (← column) == 0
  let inFlow := (← get).flow != 0
  if c == endOfText then
    -- The end of the text ends all blocks.
    unwind (-1)
    dropKey
    emit .textEnd (← mark)
    return false
  if c == '%' && atStart then directive
  else if c == '-' && atStart && (← markerAhead '-') then documentMark .documentStart
  else if c == '.' && atStart && (← markerAhead '.') then documentMark .documentEnd
  else if c == '[' then flowStart .flowSequenceStart
  else if c == '\x7b' then flowStart .flowMappingStart
  else if c == ']' then flowEnd .flowSequenceEnd
  else if c == '\x7d' then flowEnd .flowMappingEnd
  else if c == ',' then flowEntry
  else if c == '-' && isSeparator after then blockEntry
  -- In flow collections these two need no separator behind them.
  else if c == '?' && (inFlow || isSeparator after) then explicitKey
  else if c == ':' && (inFlow || isSeparator after) then value
  else if c == '*' then anchor .reference
  else if c == '&' then anchor .anchor
  else if c == '!' then tag
  else if c == '|' && !inFlow then blockScalar false
  else if c == '>' && !inFlow then blockScalar true
  else if c == '\x27' then quotedScalar false
  else if c == '\x22' then quotedScalar true
  else if ← plainAhead then plainScalar
  else fail
  return true

/-- Takes the next token; says whether there may be more. -/
def next : Lex Bool := do
  if (← mark).index == 0 && (← peek) == '\uFEFF' then advance
  toNextToken (← limit)
  dropStaleKeys
  unwind (← column)
  token

end Lex

/-- The tokens of a text, up to a failure of the lexer if there is one. -/
structure Lexed where
  tokens : List Token
  failure : Option Failure

/-- The tokens that are settled: from the first place on where a key may have started, a key token
may still come in between. -/
def Lexer.settled (s : Lexer) : List Token :=
  let open_ := s.keys.filter fun k => !k.2.isStale s.mark
  s.tokens.toList.take (open_.foldl (fun n k => min n k.2.number) s.tokens.size)

/-- Takes tokens until the end of the text or a failure. -/
def lexFrom : Nat → Lexer → Lexed
  | 0, s => ⟨s.settled, some .malformed⟩
  | n + 1, s =>
    match Lex.next.run s with
    | .error f => ⟨s.settled, some f⟩
    | .ok (true, s') => lexFrom n s'
    | .ok (false, s') => ⟨s'.tokens.toList, none⟩

/-- The tokens of a text.  A character that no document may hold fails it as a whole. -/
def lex (text : List Char) : Lexed :=
  if text.all isAllowed then
    let n := text.length + 2
    lexFrom n { text, limit := n }
  else ⟨[], some .malformed⟩

end Conform.Yaml
