import Conform.Pattern.Syntax
import Conform.Pattern.Error
import Conform.Number.Reading
import Conform.Text.CharacterName
import Conform.Text.CodePoint
import Conform.Text.Identifier
/-!
# Reading a pattern

A pattern is read token by token, a token being one character or a backslash with the character
after it.  The reader always holds the next token, so a lone backslash at the end is found one
token early.

`Scope` is what the reader knows of groups: how many there are, which are named, the widths of those
that are closed, and where a group that need not exist yet was mentioned.  Each nested construct
uses up one unit of the depth that `read` computes from the length of the pattern, which is enough
for every pattern since no construct is written without a token.
-/
namespace Conform.Pattern

/-- What the reader knows besides the remaining text. -/
structure Scope where
  release : Release
  flags : Flags := {}
  names : List (String × Nat) := []
  widths : List (Option Width) := [none]
  lookbehind : Option Nat := none
  mentions : List (Nat × Nat) := []
deriving Inhabited

/-- The next token, the text after it, and the position of that text. -/
structure Cursor where
  next : List Char
  rest : List Char
  index : Nat
  scope : Scope
deriving Inhabited

abbrev Reader := StateT Cursor (Except Refusal)

/-- Takes up the next token of a text. -/
def load (scope : Scope) (index : Nat) : List Char → Except Refusal Cursor
  | [] => .ok ⟨[], [], index, scope⟩
  | ['\\'] => .error (.malformed .endOfEscape (some index))
  | '\\' :: c :: rest => .ok ⟨['\\', c], rest, index + 2, scope⟩
  | c :: rest => .ok ⟨[c], rest, index + 1, scope⟩

namespace Reader

/-- The position of the next token. -/
def position : Reader Nat := do
  let c ← get
  return c.index - c.next.length

/-- Refuses the pattern at `back` characters before the next token. -/
def fail {α : Type} (problem : Problem) (back : Nat) : Reader α := do
  let p ← position
  throw (.malformed problem (some (p - back)))

/-- The next token; empty at the end. -/
def peek : Reader (List Char) := do return (← get).next

/-- Takes the next token. -/
def take : Reader (List Char) := do
  let c ← get
  set (← liftM (load c.scope c.index c.rest))
  return c.next

/-- Takes the next token if it is the given character. -/
def accept (ch : Char) : Reader Bool := do
  if (← peek) = [ch] then
    let _ ← take
    return true
  return false

/-- Goes back to a position whose following text is known. -/
def reset (index : Nat) (text : List Char) : Reader Unit := do
  let c ← get
  set (← liftM (load c.scope index text))

/-- Up to `n` tokens that are single characters of a kind. -/
def takeWhile (p : Char → Bool) : Nat → Reader (List Char)
  | 0 => return []
  | n + 1 => do
    match ← peek with
    | [c] =>
      if p c then
        let _ ← take
        return c :: (← takeWhile p n)
      return []
    | _ => return []

/-- The tokens before a closing character, which is taken too; there has to be one at least. -/
def takeUntil (close : Char) (what : String) : Nat → List Char → Reader String
  | 0, _ => fail .tooDeep 0
  | n + 1, got => do
    match ← take with
    | [] =>
      if got.isEmpty then fail (.missing what) 0
      else fail (.unterminated (String.singleton close) "name") got.length
    | token =>
      if token = [close] then
        if got.isEmpty then fail (.missing what) 1
        return String.ofList got
      takeUntil close what n (got ++ token)

/-- A bound on the number of tokens that are left. -/
def bound : Reader Nat := do
  let c ← get
  return c.rest.length + c.next.length + 1

/-- Changes what is known of groups and flags. -/
def modifyScope (f : Scope → Scope) : Reader Unit := modify fun c => { c with scope := f c.scope }

/-- What is known of groups and flags. -/
def scope : Reader Scope := do return (← get).scope

end Reader

open Reader

namespace Scope

/-- The width of a closed group; an open or unknown one has none. -/
def width? (s : Scope) (group : Nat) : Option Width := (s.widths[group]?).join

/-- What the widths of pieces depend on. -/
def known (s : Scope) : Widths where
  release := s.release
  group g := (s.width? g).getD ⟨0, 0⟩

/-- The number of the named group. -/
def named? (s : Scope) (name : String) : Option Nat :=
  (s.names.find? (·.1 == name)).map (·.2)

end Scope

def isGroupName (s : String) : Bool := Text.isIdentifier s.toList

/-- Fails unless a text can name a group. -/
def checkGroupName (name : String) : Reader Unit := do
  if !isGroupName name then fail (.badGroupName name) (name.length + 1)

/-- Inside a look-behind only groups closed before it may be referred to. -/
def checkLookbehind (group : Nat) : Reader Unit := do
  let s ← scope
  match s.lookbehind with
  | none => return
  | some limit =>
    if (s.width? group).isNone then fail .openGroup 0
    if limit ≤ group then fail .lookbehindGroup 0

def isOctal (c : Char) : Bool := '0' ≤ c && c ≤ '7'

/-- A member of a set, or the single character that an escape names. -/
inductive Escaped where
  | code (n : Nat)
  | category (negated : Bool) (c : Category)
deriving Inhabited

def controlEscape? : Char → Option Nat
  | 'a' => some 7
  | 'b' => some 8
  | 'f' => some 12
  | 'n' => some 10
  | 'r' => some 13
  | 't' => some 9
  | 'v' => some 11
  | '\\' => some 92
  | _ => none

/-- The character classes with an escape of one letter. -/
def categoryEscape? : Char → Option Escaped
  | 'd' => some (.category false .digit)
  | 'D' => some (.category true .digit)
  | 's' => some (.category false .space)
  | 'S' => some (.category true .space)
  | 'w' => some (.category false .word)
  | 'W' => some (.category true .word)
  | _ => none

/-- The value of hexadecimal or octal digits. -/
def valueOf (base : Nat) (ds : List Char) : Nat := NumberText.digitsValue base ds

/-- An escape of exactly `n` hexadecimal digits. -/
def hexEscape (letter : Char) (n : Nat) : Reader Nat := do
  let ds ← Reader.takeWhile (NumberText.isDigitOf 16) n
  let text := '\\' :: letter :: ds
  if ds.length ≠ n then fail (.incompleteEscape (String.ofList text)) text.length
  let code := valueOf 16 ds
  if 0x7FFFFFFF < code then throw .characterTooLarge
  if 0x10FFFF < code then fail (.badEscape (String.ofList text)) text.length
  return code

def namedEscape : Reader Nat := do
  if !(← accept '{') then fail (.missing "\x7b") 0
  let name ← takeUntil '}' "character name" (← bound) []
  match Text.namedCharacter? name with
  | some code => return code
  | none => fail (.undefinedName name) (name.length + 4)

/-- An octal escape, which has to stay within one byte. -/
def octalEscape (ds : List Char) : Reader Nat := do
  let text := '\\' :: ds
  let code := valueOf 8 ds
  if 0o377 < code then fail (.octalTooLarge (String.ofList text)) text.length
  return code

/-- The escapes that mean the same inside and outside of a set. -/
def commonEscape (c : Char) : Reader Escaped := do
  match c with
  | 'x' => return .code (← hexEscape 'x' 2)
  | 'u' => return .code (← hexEscape 'u' 4)
  | 'U' => return .code (← hexEscape 'U' 8)
  | 'N' => return .code (← namedEscape)
  | _ =>
    if c.isAlphanum then fail (.badEscape (String.ofList ['\\', c])) 2
    return .code (Text.code c)

def setEscape (c : Char) : Reader Escaped := do
  if let some n := controlEscape? c then return .code n
  if let some e := categoryEscape? c then return e
  if isOctal c then return .code (← octalEscape (c :: (← Reader.takeWhile isOctal 2)))
  commonEscape c

/-- A reference to a group by number, or an octal escape of three digits. -/
def numberEscape (c : Char) : Reader Piece := do
  let mut ds := [c]
  match ← peek with
  | [d] =>
    if d.isDigit then
      let _ ← take
      ds := [c, d]
      match ← peek with
      | [e] =>
        if isOctal c && isOctal d && isOctal e then
          let _ ← take
          return .char (← octalEscape [c, d, e])
      | _ => pure ()
  | _ => pure ()
  let group := valueOf 10 ds
  let s ← scope
  if s.widths.length ≤ group then fail (.invalidGroup group) ds.length
  if (s.width? group).isNone then fail .openGroup (ds.length + 1)
  checkLookbehind group
  return .backref group

/-- An escape outside of sets. -/
def pieceEscape (c : Char) : Reader Piece := do
  match c with
  | 'A' => return .anchor .textStart
  | 'b' => return .anchor .boundary
  | 'B' => return .anchor .notBoundary
  | 'Z' => return .anchor .textEnd
  | _ =>
    if let some (.category n k) := categoryEscape? c then return .charSet false [.category n k]
    if let some n := controlEscape? c then return .char n
    if c = '0' then return .char (valueOf 8 (← Reader.takeWhile isOctal 2))
    if c.isDigit then numberEscape c
    else
      match ← commonEscape c with
      | .code n => return .char n
      | .category n k => return .charSet false [.category n k]

/-- The member of a set that an escape or character stands for. -/
def Escaped.item : Escaped → SetItem
  | .code n => .single n
  | .category n c => .category n c

def setToken (token : List Char) : Reader Escaped := do
  match token with
  | ['\\', c] => setEscape c
  | c :: _ => return .code (Text.code c)
  | [] => return .code 0

/-- The members of a set up to its closing bracket; `start` is the position of the opening one. -/
def setItems (start : Nat) : Nat → List SetItem → Reader (List SetItem)
  | 0, _ => fail .tooDeep 0
  | n + 1, items => do
    let unterminated {α : Type} : Reader α := do fail .unterminatedSet ((← position) - start)
    let this ← take
    if this.isEmpty then unterminated
    if this = [']'] ∧ ¬ items.isEmpty then return items
    let first ← setToken this
    if ← accept '-' then
      let that ← take
      if that.isEmpty then unterminated
      if that = [']'] then return items ++ [first.item, .single '-'.toNat]
      let last ← setToken that
      let bad {α : Type} : Reader α :=
        fail (.badRange (String.ofList this) (String.ofList that)) (this.length + 1 + that.length)
      match first, last with
      | .code low, .code high =>
        if high < low then bad
        setItems start n (items ++ [.range low high])
      | _, _ => bad
    else setItems start n (items ++ [first.item])

/-- A set after its opening bracket.  A set of one character is that character. -/
def charSet : Reader Piece := do
  let start := (← position) - 1
  let negated ← accept '^'
  let items := (← setItems start (← bound) []).eraseDups
  match items with
  | [.single n] => return if negated then .notChar n else .char n
  | _ => return .charSet negated items

def flag? : Char → Option Flags
  | 'i' => some { ignoreCase := true }
  | 'm' => some { multiLine := true }
  | 's' => some { dotAll := true }
  | 'x' => some { verbose := true }
  | 'a' => some { ascii := true }
  | 't' => some { template := true }
  | 'u' => some { unicode := true }
  | _ => none

def isFlagToken : List Char → Bool
  | [c] => c = 'L' || (flag? c).isSome
  | _ => false

/-- Whether a token is a letter, an escape counting by both its characters. -/
def isLetterToken (token : List Char) : Bool :=
  !token.isEmpty && token.all Text.isLetter

/-- Letters of flags that are set, up to a closing token. -/
def setFlags : Nat → List Char → Flags → Reader (Flags × List Char)
  | 0, _, _ => fail .tooDeep 0
  | n + 1, token, got => do
    let c := token.headD ' '
    if c = 'L' then fail .localeFlag 0
    let flag := (flag? c).getD {}
    let got := got.union flag
    if flag.inter .alphabet ≠ .none ∧ got.inter .alphabet ≠ flag then fail .alphabets 0
    let next ← take
    if next.isEmpty then fail (.missing "-, : or )") 0
    if next = [')'] ∨ next = ['-'] ∨ next = [':'] then return (got, next)
    if !isFlagToken next then
      fail (if isLetterToken next then .unknownFlag else .missing "-, : or )") next.length
    setFlags n next got

/-- Letters of flags that are cleared, up to a colon. -/
def clearFlags : Nat → List Char → Flags → Reader Flags
  | 0, _, _ => fail .tooDeep 0
  | n + 1, token, got => do
    let c := token.headD ' '
    let flag := (flag? c).getD {}
    if c = 'L' ∨ flag.inter .alphabet ≠ .none then fail .turnsOffAlphabet 0
    let got := got.union flag
    let next ← take
    if next.isEmpty then fail (.missing ":") 0
    if next = [':'] then return got
    if !isFlagToken next then
      fail (if isLetterToken next then .unknownFlag else .missing ":") next.length
    clearFlags n next got

/-- Flags after `(?`: either for the whole pattern, or set and cleared for a group. -/
def flags (token : List Char) : Reader (Option (Flags × Flags)) := do
  let (set, close) ← if token = ['-'] then pure (Flags.none, token)
    else setFlags (← bound) token {}
  if close = [')'] then
    modifyScope fun s => { s with flags := s.flags.union set }
    return none
  if set.template then fail .turnsOnGlobal 1
  let mut clear := Flags.none
  if close = ['-'] then
    let next ← take
    if next.isEmpty then fail (.missing "flag") 0
    if !isFlagToken next then
      fail (if isLetterToken next then .unknownFlag else .missing "flag") next.length
    clear ← clearFlags (← bound) next {}
  if clear.template then fail .turnsOffGlobal 1
  if set.inter clear ≠ .none then fail .turnedOnAndOff 1
  return some (set, clear)

/-- What follows `(?`. -/
inductive Opening where
  | group (capture : Bool) (name : Option String) (set clear : Flags)
  | atomic
  | look (behind negated : Bool)
  | conditional (group : Nat)
  | piece (p : Piece)
  | nothing
deriving Inhabited

/-- The group that a conditional asks for; one that is given by number may come later. -/
def conditionalGroup : Reader Nat := do
  let name ← takeUntil ')' "group name" (← bound) []
  let back := name.length + 1
  let group ←
    if isGroupName name then
      match (← scope).named? name with
      | some g => pure g
      | none => fail (.unknownGroup name) back
    else
      match NumberText.grouped? name.toList with
      | none => fail (.badGroupName name) back
      | some i =>
        if i < 0 then fail (.badGroupName name) back
        let g := i.toNat
        if g = 0 then fail .badGroupNumber back
        if 1073741823 ≤ g then fail (.invalidGroup g) back
        let p ← position
        modifyScope fun s =>
          if s.mentions.any (·.1 == g) then s
          else { s with mentions := s.mentions ++ [(g, p - name.length - 1)] }
        pure g
  checkLookbehind group
  return group

/-- A comment, up to its closing parenthesis. -/
def comment (start : Nat) : Nat → Reader Unit
  | 0 => fail .tooDeep 0
  | n + 1 => do
    if (← peek).isEmpty then fail (.unterminated ")" "comment") ((← position) - start)
    if (← take) = [')'] then return
    comment start n

/-- What kind of group `(?` opens; `start` is the position of the parenthesis. -/
def opening (start : Nat) : Reader Opening := do
  let token ← take
  match token with
  | [] => fail .endOfPattern 0
  | ['P'] =>
    if ← accept '<' then
      let name ← takeUntil '>' "group name" (← bound) []
      checkGroupName name
      return .group true (some name) {} {}
    if ← accept '=' then
      let name ← takeUntil ')' "group name" (← bound) []
      checkGroupName name
      match (← scope).named? name with
      | none => fail (.unknownGroup name) (name.length + 1)
      | some g =>
        if ((← scope).width? g).isNone then fail .openGroup (name.length + 1)
        checkLookbehind g
        return .piece (.backref g)
    let other ← take
    if other.isEmpty then fail .endOfPattern 0
    fail (.unknownExtension (String.ofList ('P' :: other))) (other.length + 2)
  | [':'] => return .group false none {} {}
  | ['#'] =>
    comment start (← bound)
    return .nothing
  | ['='] => return .look false false
  | ['!'] => return .look false true
  | ['<'] =>
    let other ← take
    if other.isEmpty then fail .endOfPattern 0
    if other = ['='] then return .look true false
    if other = ['!'] then return .look true true
    fail (.unknownExtension (String.ofList ('<' :: other))) (other.length + 2)
  | ['('] => return .conditional (← conditionalGroup)
  | ['>'] => return .atomic
  | _ =>
    -- Flags stand for the whole pattern or, before a colon, for a group.
    if token = ['-'] ∨ isFlagToken token then
      match ← flags token with
      | none => return .nothing
      | some (set, clear) => return .group false none set clear
    fail (.unknownExtension (String.ofList token)) (token.length + 1)

/-- Opens a capturing group and gives its number. -/
def openGroup (name : Option String) : Reader Nat := do
  let s ← scope
  let g := s.widths.length
  modifyScope fun s => { s with widths := s.widths ++ [none] }
  match name with
  | none => return g
  | some n =>
    match s.named? n with
    | some before => fail (.redefinedGroup n g before) (n.length + 1)
    | none =>
      modifyScope fun s => { s with names := s.names ++ [(n, g)] }
      return g

/-- Closes a capturing group, whose width is known from then on. -/
def closeGroup (group : Nat) (body : List Piece) : Reader Unit :=
  modifyScope fun s => { s with widths := s.widths.set group (some (widthOf s.known body)) }

/-- The closing parenthesis of what was opened at a position. -/
def closing (start : Nat) : Reader Unit := do
  if !(← accept ')') then fail (.unterminated ")" "subpattern") ((← position) - start)

/-- What the parenthesis at a position opens; flags for the whole pattern have to be `early`. -/
def parenthesisOpening (start : Nat) (early : Bool) : Reader Opening := do
  let before := (← scope).flags
  if ← accept '?' then
    let question ← peek
    let kind ← opening start
    match kind with
    | .nothing =>
      if question ≠ ['#'] ∧ ¬early then
        modifyScope fun s => { s with flags := before }
        fail .lateFlags ((← position) - start)
      return kind
    | _ => return kind
  else return .group true none {} {}

/-- What is looked at, up to the closing parenthesis.  The outermost look-behind is noted while it is
read. -/
def lookaround (start : Nat) (behind negated : Bool) (inside : Reader (List Piece)) :
    Reader Piece := do
  let outer := (← scope).lookbehind
  if behind && outer.isNone then
    modifyScope fun s => { s with lookbehind := some s.widths.length }
  let body ← inside
  if behind && outer.isNone then modifyScope fun s => { s with lookbehind := none }
  closing start
  return .look behind negated body

/-- What is matched depending on a group, up to the closing parenthesis. -/
def conditional (start group : Nat) (inside : Reader (List Piece)) : Reader Piece := do
  let yes ← inside
  let mut no := []
  if ← accept '|' then
    no ← inside
    if (← peek) = ['|'] then fail .tooManyBranches 0
  closing start
  return .conditional group yes no

/-- What is grouped, up to the closing parenthesis. -/
def grouped (start : Nat) (capture : Bool) (name : Option String) (set clear : Flags)
    (inside : Reader (List Piece)) : Reader Piece := do
  let number ← if capture then some <$> openGroup name else pure none
  let body ← inside
  closing start
  if let some g := number then closeGroup g body
  return .group number set clear body

/-- The count that digits write; none write zero. -/
def count (digits : List Char) : Reader Nat := do
  if NumberText.digitLimit < digits.length then throw (.repetitionTooLong digits.length)
  let n := valueOf 10 digits
  if countLimit ≤ n then throw .repetitionTooLarge
  return n

/-- The counts of a repetition, unless the brace stands for itself. -/
def counts (token : List Char) : Reader (Option (Nat × Option Nat)) := do
  match token with
  | ['?'] => return some (0, some 1)
  | ['*'] => return some (0, none)
  | ['+'] => return some (1, none)
  | _ =>
    let here ← position
    let c ← get
    let text := c.next ++ c.rest
    if c.next = ['}'] then return none
    let low ← Reader.takeWhile Char.isDigit (← bound)
    let high ← if ← accept ',' then Reader.takeWhile Char.isDigit (← bound) else pure low
    if !(← accept '}') then
      Reader.reset here text
      return none
    let least ← count low
    let most ← count high
    if ¬ high.isEmpty ∧ most < least then fail .repetitionOrder ((← position) - here)
    return some (least, if high.isEmpty then none else some most)

/-- The mode of a repetition, which follows its counts. -/
def mode : Reader Mode := do
  if ← accept '?' then return .lazy
  if ← accept '+' then return .possessive
  return .greedy

/-- Puts the last piece under a repetition; `start` is the position of the quantifier. -/
def repeatLast (start least : Nat) (most : Option Nat) (before : List Piece) :
    Reader (List Piece) := do
  let fails {α : Type} (p : Problem) : Reader α := do fail p ((← position) - start)
  let body ← match before.getLast? with
    | none => fails .nothingToRepeat
    | some (.anchor _) => fails .nothingToRepeat
    | some (.repeated ..) => fails .multipleRepeat
    -- A group that does nothing but hold its parts together is left out.
    | some (.group none set clear body) =>
      if set = {} ∧ clear = {} then pure body else pure [.group none set clear body]
    | some p => pure [p]
  return before.dropLast ++ [.repeated (← mode) least most body]

/-- Skips a comment of a verbose pattern, to the end of its line. -/
def lineComment : Nat → Reader Unit
  | 0 => return
  | n + 1 => do
    let token ← take
    if token.isEmpty ∨ token = ['\n'] then return
    lineComment n

/-- Blanks that a verbose pattern ignores. -/
def isVerboseBlank : List Char → Bool
  | [c] => c = ' ' || (9 ≤ c.toNat && c.toNat ≤ 13)
  | _ => false

/-- Whether two pieces of one character or no character at all are the same.  Pieces that hold others
are never taken for the same. -/
def Piece.isSame : Piece → Piece → Bool
  | .char m, .char n => m == n
  | .notChar m, .notChar n => m == n
  | .any, .any => true
  | .charSet b is, .charSet c js => b == c && is == js
  | .anchor a, .anchor b => a == b
  | .backref g, .backref h => g == h
  | _, _ => false

/-- The pieces that the first and all other alternatives begin with, and what is left of them. -/
def splitCommon : List Piece → List (List Piece) → List Piece × List (List Piece)
  | [], others => ([], [] :: others)
  | p :: ps, others =>
    if others.all fun qs => qs.head?.any p.isSame then
      let (common, left) := splitCommon ps (others.map List.tail)
      (p :: common, left)
    else ([], (p :: ps) :: others)

/-- The members of the set that an alternative of one character stands for. -/
def memberItems? : List Piece → Option (List SetItem)
  | [.char n] => some [.single n]
  | [.charSet false items] => some items
  | _ => none

/-- The pieces of an alternation.  What all alternatives begin with comes before it, and
alternatives of one character each make up a set. -/
def joinAlternatives : List (List Piece) → List Piece
  | [] => []
  | [one] => one
  | first :: others =>
    let (common, left) := splitCommon first others
    match left.mapM memberItems? with
    | some items => common ++ [.charSet false items.flatten.eraseDups]
    | none => common ++ [.branch left]

/-- A sequence without parentheses that only group. -/
def ungroup (ps : List Piece) : List Piece :=
  ps.flatMap fun
    | .group none set clear body =>
      if set = {} ∧ clear = {} then body else [.group none set clear body]
    | p => [p]

mutual

/-- Alternatives separated by bars. -/
def alternatives (depth : Nat) (verbose nested : Bool) (got : List (List Piece)) :
    Reader (List Piece) := do
  match depth with
  | 0 => fail .tooDeep 0
  | depth + 1 =>
    let ps ← pieces depth verbose (!nested && got.isEmpty) []
    let got := got ++ [ps]
    if ← accept '|' then
      let s ← scope
      let verbose := if nested then verbose else s.flags.verbose
      alternatives depth verbose nested got
    else return joinAlternatives got

/-- Pieces up to a bar, a closing parenthesis or the end; `first` where flags for the whole pattern
may still be set.  A token of two characters is an escape. -/
def pieces (depth : Nat) (verbose first : Bool) (got : List Piece) : Reader (List Piece) := do
  match depth with
  | 0 => fail .tooDeep 0
  | depth + 1 =>
    let token ← peek
    if token.isEmpty ∨ token = ['|'] ∨ token = [')'] then return ungroup got
    let start ← position
    let _ ← take
    if verbose && isVerboseBlank token then pieces depth verbose first got
    else if verbose && token = ['#'] then
      lineComment (← bound)
      pieces depth verbose first got
    else
      match token with
      -- An escape is one token of two characters.
      | [_, c] => pieces depth verbose first (got ++ [← pieceEscape c])
      | ['['] => pieces depth verbose first (got ++ [← charSet])
      | ['.'] => pieces depth verbose first (got ++ [.any])
      | ['^'] => pieces depth verbose first (got ++ [.anchor .lineStart])
      | ['$'] => pieces depth verbose first (got ++ [.anchor .lineEnd])
      | ['('] =>
        match ← parenthesis depth verbose first start got.isEmpty with
        | some p => pieces depth verbose first (got ++ [p])
        | none =>
          let s ← scope
          -- Flags at the front may have made the rest of the pattern verbose.
          let verbose := if first && got.isEmpty then verbose || s.flags.verbose else verbose
          pieces depth verbose first got
      | [c] =>
        if c = '?' ∨ c = '*' ∨ c = '+' ∨ c = '{' then
          match ← counts token with
          | none => pieces depth verbose first (got ++ [.char (Text.code c)])
          | some (least, most) => pieces depth verbose first (← repeatLast start least most got)
        else pieces depth verbose first (got ++ [.char (Text.code c)])
      | _ => fail .tooDeep 0

/-- What a parenthesis opens, up to its closing one; flags and comments leave nothing. -/
def parenthesis (depth : Nat) (verbose first : Bool) (start : Nat) (leading : Bool) :
    Reader (Option Piece) := do
  match depth with
  | 0 => fail .tooDeep 0
  | depth + 1 =>
    match ← parenthesisOpening start (first && leading) with
    | .nothing => return none
    | .piece p => return some p
    | .look behind negated =>
      return some (← lookaround start behind negated (alternatives depth verbose true []))
    | .conditional group => return some (← conditional start group (pieces depth verbose false []))
    | .atomic =>
      let body ← alternatives depth verbose true []
      closing start
      return some (.atomic body)
    | .group capture name set clear =>
      let verbose := (verbose || set.verbose) && !clear.verbose
      return some (← grouped start capture name set clear (alternatives depth verbose true []))

end

mutual

/-- The first problem of a piece that shows only when all groups are known. -/
def Piece.problem? (ws : Widths) (template : Bool) : Piece → Option Problem
  | .group _ _ _ body => problemIn? ws template body
  | .atomic body => problemIn? ws template body
  | .look behind _ body =>
    let w := widthOf ws body
    if behind && countLimit < w.least then some .farLookbehind
    else if behind && w.least != w.most then some .variableLookbehind
    else problemIn? ws template body
  | .branch alternatives => problemInAny? ws template alternatives
  | .conditional _ yes no =>
    (problemIn? ws template yes).or (problemIn? ws template no)
  | .repeated mode _ _ body =>
    if template then
      some (.template (match mode with
        | .greedy => "MAX_REPEAT"
        | .lazy => "MIN_REPEAT"
        | .possessive => "POSSESSIVE_REPEAT"))
    else problemIn? ws template body
  | _ => none

/-- The first problem of a sequence. -/
def problemIn? (ws : Widths) (template : Bool) : List Piece → Option Problem
  | [] => none
  | p :: ps => (p.problem? ws template).or (problemIn? ws template ps)

/-- The first problem of an alternation. -/
def problemInAny? (ws : Widths) (template : Bool) : List (List Piece) → Option Problem
  | [] => none
  | ps :: rest => (problemIn? ws template ps).or (problemInAny? ws template rest)

end

mutual

/-- Whether a look-behind inside a piece is wider than `limit`. -/
def Piece.looksBeyond (ws : Widths) (limit : Nat) : Piece → Bool
  | .group _ _ _ body => looksBeyondIn ws limit body
  | .atomic body => looksBeyondIn ws limit body
  | .look behind _ body =>
    (behind && limit < (widthOf ws body).least) || looksBeyondIn ws limit body
  | .branch alternatives => looksBeyondInAny ws limit alternatives
  | .conditional _ yes no => looksBeyondIn ws limit yes || looksBeyondIn ws limit no
  | .repeated _ _ _ body => looksBeyondIn ws limit body
  | _ => false

/-- Whether a look-behind inside a sequence is wider than `limit`. -/
def looksBeyondIn (ws : Widths) (limit : Nat) : List Piece → Bool
  | [] => false
  | p :: ps => p.looksBeyond ws limit || looksBeyondIn ws limit ps

/-- Whether a look-behind inside an alternation is wider than `limit`. -/
def looksBeyondInAny (ws : Widths) (limit : Nat) : List (List Piece) → Bool
  | [] => false
  | ps :: rest => looksBeyondIn ws limit ps || looksBeyondInAny ws limit rest

end

/-- A pattern that has been read. -/
structure Program where
  flags : Flags
  body : List Piece
  widths : Widths

def readAll (depth : Nat) : Reader Program := do
  let body ← alternatives depth false false []
  let s ← scope
  if s.flags.ascii && s.flags.unicode then throw .twoAlphabets
  if !(← peek).isEmpty then fail .unbalanced 0
  match s.mentions.find? fun m => s.widths.length ≤ m.1 with
  | some (g, p) => throw (.malformed (.invalidGroup g) (some p))
  | none =>
    match problemIn? s.known s.flags.template body with
    | some p => throw (.malformed p none)
    | none =>
      if looksBeyondIn s.known s.release.lookbehind body then throw .lookbehindTooWide
      let flags := if s.flags.ascii then s.flags else { s.flags with unicode := true }
      return ⟨flags, body, s.known⟩

def read (release : Release) (source : List Char) : Except Refusal Program := do
  let start ← load { release } 0 source
  let (program, _) ← (readAll (4 * source.length + 8)).run start
  return program

end Conform.Pattern
