import Conform.Yaml.Lexer
import Conform.Yaml.Tag
import Conform.Yaml.Tree
/-!
# From tokens to a tree

A document is read by descent on its tokens.  An anchor is known from where its node starts, so that
a node may be referred to from inside itself.  Where the tokens run out because the lexer failed, the
reading fails for the same reason; whatever is wrong before that place is found first.

Of any four nested calls in the descent one takes a token, which bounds the depth by four times the
number of tokens.
-/
namespace Conform.Yaml

/-- What the reader knows. -/
structure Reader where
  tokens : List Token
  failure : Failure
  anchors : List (String × Nat) := []
  handles : List (String × String) := []
  nextId : Nat := 0

abbrev Read := StateT Reader (Except Failure)

namespace Read

def fail {α : Type} : Read α := throw .malformed

def peek : Read Token := do
  let s ← get
  match s.tokens with
  | t :: _ => return t
  | [] => throw s.failure

def take : Read Token := do
  let t ← peek
  modify fun s => { s with tokens := s.tokens.drop 1 }
  return t

def ahead (kinds : List TokenKind) : Read Bool := do return kinds.contains (← peek).kind

/-- Takes a token that has to be there. -/
def expect (kind : TokenKind) : Read Unit := do
  if (← take).kind != kind then fail

/-- A new number for a node, which its anchor stands for from now on. -/
def number (anchor : Option String) : Read Nat := do
  let s ← get
  let id := s.nextId
  match anchor with
  | none => set { s with nextId := id + 1 }
  | some a =>
    if s.anchors.any (·.1 == a) then fail
    set { s with nextId := id + 1, anchors := (a, id) :: s.anchors }
  return id

/-- A scalar without text and properties. -/
def missing (m : Mark) : Read Tree := do
  return .scalar (← number none) (plainTag []) m ""

/-- What stands before a node: an anchor, a tag and the places where they start and end. -/
structure Properties where
  anchor : Option String := none
  tag : Option String := none
  start : Option Mark := none

/-- The tag of a handle and a suffix; the handle has to be known. -/
def expanded (handle : Option String) (suffix : String) : Read String := do
  match handle with
  | none => return suffix
  | some h =>
    match (← get).handles.find? (·.1 == h) with
    | some (_, expansion) => return expansion ++ suffix
    | none => fail

/-- An anchor and a tag in either order, each at most once. -/
def properties : Read Properties := do
  let t ← peek
  match t.kind with
  | .anchor a => do
    let _ ← take
    match (← peek).kind with
    | .tag h s => do
      let _ ← take
      return ⟨some a, some (← expanded h s), some t.start⟩
    | _ => return ⟨some a, none, some t.start⟩
  | .tag h s => do
    let _ ← take
    match (← peek).kind with
    | .anchor a => do
      let _ ← take
      return ⟨some a, some (← expanded h s), some t.start⟩
    | _ => return ⟨none, some (← expanded h s), some t.start⟩
  | _ => return {}

/-- Whether a node goes without a tag of its own. -/
def Properties.isUntagged (p : Properties) : Bool := p.tag.isNone || p.tag == some "!"

def Properties.collectionTag (p : Properties) (usual : Meaning) : String :=
  if p.isUntagged then usual.tag else p.tag.getD ""

/-- The tag of a scalar: its own, the tag that its form gives, or that of a string. -/
def Properties.scalarTag (p : Properties) (text : String) (plain : Bool) : String :=
  if (plain && p.tag.isNone) || p.tag == some "!" then plainTag text.toList
  else p.tag.getD Meaning.str.tag

/-- A node that an alias stands for. -/
def reference (name : String) : Read Tree := do
  match (← get).anchors.find? (·.1 == name) with
  | some (_, id) => return .reference id
  | none => fail

/-- Whether a block sequence may start without being indented, and whether a block collection may
start at all. -/
structure Allowed where
  block : Bool := true
  indentless : Bool := false

mutual

def node (allowed : Allowed) : Nat → Read Tree
  | 0 => fail
  | fuel + 1 => do
    let t ← peek
    if let .reference name := t.kind then
      let _ ← take
      -- A reference stands alone: it has neither an anchor nor a tag.
      return ← reference name
    let p ← properties
    let t ← peek
    let start := p.start.getD t.start
    match t.kind with
    | .blockEntry =>
      -- A value of a mapping may be a sequence that is indented no deeper than its key.
      if allowed.indentless then
        let id ← number p.anchor
        return .sequence id (p.collectionTag .seq) start (← indentlessItems fuel)
      else empty p
    | .scalar text plain => do
      let _ ← take
      return .scalar (← number p.anchor) (p.scalarTag text plain) start text
    | .flowSequenceStart => do
      let id ← number p.anchor
      let _ ← take
      return .sequence id (p.collectionTag .seq) start (← flowItems true fuel)
    | .flowMappingStart => do
      let id ← number p.anchor
      let _ ← take
      return .mapping id (p.collectionTag .map) start (← flowEntries true fuel)
    | .blockSequenceStart =>
      if allowed.block then
        let id ← number p.anchor
        let _ ← take
        return .sequence id (p.collectionTag .seq) start (← blockItems fuel)
      else empty p
    | .blockMappingStart =>
      if allowed.block then
        let id ← number p.anchor
        let _ ← take
        return .mapping id (p.collectionTag .map) start (← blockEntries fuel)
      else empty p
    | _ => empty p
where
  /-- A node without content, which has to have properties. -/
  empty (p : Properties) : Read Tree := do
    match p.start with
    | none => fail
    | some m =>
      let tag := if p.isUntagged then plainTag [] else p.tag.getD ""
      return .scalar (← number p.anchor) tag m ""

/-- The items of an indented block sequence. -/
def blockItems : Nat → Read (List Tree)
  | 0 => fail
  | fuel + 1 => do
    let t ← take
    match t.kind with
    | .blockEntry => do
      let item ←
        if ← ahead [.blockEntry, .blockEnd] then missing t.stop
        else node {} fuel
      return item :: (← blockItems fuel)
    | .blockEnd => return []
    | _ => fail

/-- The items of a block sequence that is not indented; what follows it is left. -/
def indentlessItems : Nat → Read (List Tree)
  | 0 => fail
  | fuel + 1 => do
    if ← ahead [.blockEntry] then
      let t ← take
      let item ←
        if ← ahead [.blockEntry, .key, .value, .blockEnd] then missing t.stop
        else node {} fuel
      return item :: (← indentlessItems fuel)
    else return []

def blockEntries : Nat → Read (List (Tree × Tree))
  | 0 => fail
  | fuel + 1 => do
    let t ← take
    match t.kind with
    | .key => do
      let key ← blockPart t fuel
      let value ←
        if ← ahead [.value] then blockPart (← take) fuel
        else missing (← peek).start
      return (key, value) :: (← blockEntries fuel)
    | .blockEnd => return []
    | _ => fail

/-- A key or value of a block mapping, after the token that announces it. -/
def blockPart (t : Token) : Nat → Read Tree
  | 0 => fail
  | fuel + 1 => do
    if ← ahead [.key, .value, .blockEnd] then missing t.stop
    else node { indentless := true } fuel

/-- The items of a flow sequence; a key there starts a mapping with a single entry. -/
def flowItems (first : Bool) : Nat → Read (List Tree)
  | 0 => fail
  | fuel + 1 => do
    if ← ahead [.flowSequenceEnd] then
      let _ ← take
      return []
    if !first then expect .flowEntry
    let t ← peek
    match t.kind with
    | .flowSequenceEnd => do
      let _ ← take
      return []
    | .key => do
      let id ← number none
      let _ ← take
      let key ← flowPart t [.value, .flowEntry, .flowSequenceEnd] fuel
      let value ← flowValue .flowSequenceEnd fuel
      return .mapping id Meaning.map.tag t.start [(key, value)] :: (← flowItems false fuel)
    | _ => do
      let item ← node { block := false } fuel
      return item :: (← flowItems false fuel)

/-- The entries of a flow mapping; a key may stand without a value, announced or not. -/
def flowEntries (first : Bool) : Nat → Read (List (Tree × Tree))
  | 0 => fail
  | fuel + 1 => do
    if ← ahead [.flowMappingEnd] then
      let _ ← take
      return []
    if !first then expect .flowEntry
    let t ← peek
    match t.kind with
    | .flowMappingEnd => do
      let _ ← take
      return []
    | .key => do
      let _ ← take
      let key ← flowPart t [.value, .flowEntry, .flowMappingEnd] fuel
      let value ← flowValue .flowMappingEnd fuel
      return (key, value) :: (← flowEntries false fuel)
    | _ => do
      let key ← node { block := false } fuel
      let value ← missing (← peek).start
      return (key, value) :: (← flowEntries false fuel)

/-- The value of an entry of a flow collection, if it is announced. -/
def flowValue (closing : TokenKind) : Nat → Read Tree
  | 0 => fail
  | fuel + 1 => do
    if ← ahead [.value] then
      let t ← take
      flowPart t [.flowEntry, closing] fuel
    else missing (← peek).start

/-- A key or value of a flow collection, after the token that announces it. -/
def flowPart (t : Token) (ends : List TokenKind) : Nat → Read Tree
  | 0 => fail
  | fuel + 1 => do
    if ← ahead ends then missing t.stop
    else node { block := false } fuel

end

/-- Tag handles that every document knows. -/
def usualHandles : List (String × String) := [("!", "!"), ("!!", corePart)]

def directives : Nat → Bool → List (String × String) → Read Unit
  | 0, _, _ => fail
  | fuel + 1, versioned, handles => do
    match (← peek).kind with
    | .version major => do
      let _ ← take
      if versioned || major != 1 then fail
      directives fuel true handles
    | .tagHandle h e => do
      let _ ← take
      if handles.any (·.1 == h) then fail
      directives fuel versioned ((h, e) :: handles)
    | .otherDirective => do
      let _ ← take
      directives fuel versioned handles
    | _ => modify fun s => { s with handles := handles ++ usualHandles }

def skipEnds : Nat → Read Unit
  | 0 => fail
  | fuel + 1 => do
    if ← ahead [.documentEnd] then
      let _ ← take
      skipEnds fuel

/-- The start of a document that has to be announced; says whether there is one. -/
def announced (fuel : Nat) : Read Bool := do
  skipEnds fuel
  if ← ahead [.textEnd] then return false
  directives fuel false []
  expect .documentStart
  return true

def isDirective : TokenKind → Bool
  | .version _ => true
  | .tagHandle .. => true
  | .otherDirective => true
  | _ => false

/-- The single document of a text, if there is one. -/
def document (fuel : Nat) : Read (Option Tree) := do
  let t ← peek
  let root? ←
    if isDirective t.kind || t.kind == .documentStart || t.kind == .textEnd then
      if ← announced fuel then
        let t ← peek
        if isDirective t.kind || [.documentStart, .documentEnd, .textEnd].contains t.kind then
          some <$> missing t.start
        else some <$> node {} fuel
      else pure none
    else do
      modify fun s => { s with handles := usualHandles }
      some <$> node {} fuel
  if root?.isSome then
    if ← announced fuel then fail
  return root?

end Read

/-- The tree of a text; a text without a node has none. -/
def Tree.ofText (text : List Char) : Except Failure (Option Tree) := do
  let lexed := lex text
  let reader : Reader :=
    { tokens := lexed.tokens, failure := lexed.failure.getD .malformed }
  (Read.document (4 * lexed.tokens.length + 16)).run' reader

end Conform.Yaml
