import Conform.Pattern.Repetition
/-!
# Matching

Matching backtracks.  A piece is tried at a place of the text and hands each place where it can end
to its continuation, best first, until one succeeds.  Bodies of assertions, and of groups that keep
no way back, are matched by themselves, in the first way that succeeds.

Failing does not undo marks by itself.  An alternation, a repetition and a negative assertion take
back the marks of what they tried: inside a repetition all that changed, elsewhere only those that
were new.
-/
namespace Conform.Pattern

/-- A text that is searched, with the widths of the groups of the pattern. -/
structure Subject where
  text : Array Char
  widths : Widths

/-- What holds for a piece because of where it stands: the flags, whether it is inside a repetition
of a body of several characters, and what the text after it begins with. -/
structure Setting where
  flags : Flags
  repeating : Bool := false
  next : Lead := .unknown

namespace Subject

/-- Goes one character on, if that character passes a test. -/
def step (s : Subject) (test : Nat → Bool) (place : Nat) (k : Continuation) : Attempt :=
  if (codeAt? s.text place).any test then k (place + 1) else Attempt.fail

/-- The number of characters. -/
def size (s : Subject) : Nat := s.text.size

def isAt (s : Subject) (flags : Flags) (place : Nat) : Anchor → Bool
  | .textStart => place == 0
  | .textEnd => place == s.size
  | .lineStart => place == 0 || (flags.multiLine && s.text[place - 1]? == some '\n')
  | .lineEnd =>
    place == s.size || (place + 1 == s.size && s.text[place]? == some '\n')
      || (flags.multiLine && s.text[place]? == some '\n')
  | .boundary => s.size != 0 && wordBefore != wordAfter
  | .notBoundary => s.size != 0 && wordBefore == wordAfter
where
  word (c : Char) : Bool := Category.word.admits (!flags.unicode) (Text.code c)
  wordBefore : Bool := place != 0 && s.text[place - 1]?.any word
  wordAfter : Bool := s.text[place]?.any word

/-- Whether the text between two places stands at a third one too. -/
def repeatsAt (s : Subject) (f : Folding) (first last place : Nat) : Bool :=
  place + (last - first) ≤ s.size && (List.range (last - first)).all fun i =>
    (codeAt? s.text (first + i)).map f.fold == (codeAt? s.text (place + i)).map f.fold

mutual

def matchPiece (s : Subject) (here : Setting) : Piece → Nat → Continuation → Attempt
  | .char n, place, k => s.step (here.flags.folding.admits n) place k
  | .notChar n, place, k => s.step (fun given => !here.flags.folding.admits n given) place k
  | .any, place, k => s.step (fun given => here.flags.dotAll || given != 10) place k
  | .charSet negated items, place, k =>
    let f := setFolding here.flags.folding items
    s.step (setAdmits (!here.flags.unicode) f negated items) place k
  | .anchor a, place, k => if s.isAt here.flags place a then k place else Attempt.fail
  | .backref g, place, k => fun m =>
    match m.group? g with
    | some (first, last) =>
      if s.repeatsAt here.flags.folding first last place then k (place + (last - first)) m
      else (false, m)
    | none => (false, m)
  | .group none set clear body, place, k =>
    s.matchAll { here with flags := here.flags.within set clear } body place k
  | .group (some g) set clear body, place, k => fun m =>
    s.matchAll { here with flags := here.flags.within set clear, next := .unknown } body place
      (fun last m => k last (m.mark (2 * g - 1) last)) (m.mark (2 * g - 2) place)
  | .atomic body, place, k => fun m =>
    -- What follows goes on from the first match of the body and never back into it.
    match s.matchAll { here with next := .unknown } body place stop (m.moveTo place) with
    | (true, n) => k n.cursor n
    | (false, n) => (false, n.moveTo place)
  | .look behind negated body, place, k => fun m =>
    let back := if behind then (widthOf s.widths body).least else 0
    -- With less before the place than the body takes, there is nothing to match.
    if place < back then if negated then k place m else (false, m)
    else
      let start := place - back
      match s.matchAll { here with next := .unknown } body start stop (m.moveTo start) with
      | (true, n) => if negated then (false, n) else k place n
      -- Nothing that a body has marked in vain is kept.
      | (false, n) => if negated then k place (n.takeBack m here.repeating) else (false, n)
  | .branch alternatives, place, k => s.matchAny { here with next := .unknown } alternatives place k
  | .conditional g yes no, place, k => fun m =>
    if (m.group? g).isSome then
      s.matchAll { here with next := if no.isEmpty then here.next else .unknown } yes place k m
    else s.matchAll here no place k m
  | .repeated mode least most body, place, k =>
    match single? here.flags body with
    -- A single character leaves no marks and is counted instead.
    | some c => c.repeated s.text here.repeating here.next mode least most place k
    | none =>
      let inside : Setting :=
        { here with repeating := here.repeating || mode != .possessive, next := .unknown }
      repeatBody (fun place k => s.matchAll inside body place k) s.size here.repeating mode least
        most place k

/-- Matches a sequence, then what follows it. -/
def matchAll (s : Subject) (here : Setting) : List Piece → Nat → Continuation → Attempt
  | [], place, k => k place
  | p :: ps, place, k =>
    s.matchPiece { here with next := leadOf here.flags here.next ps } p place fun q =>
      s.matchAll here ps q k

/-- Matches the first alternative with which the rest can be matched too.  Alternatives that the
next character rules out are passed over. -/
def matchAny (s : Subject) (here : Setting) : List (List Piece) → Nat → Continuation → Attempt
  | [], _, _ => Attempt.fail
  | ps :: rest, place, k =>
    let first : Attempt :=
      if (leadOf here.flags .unknown ps).admits (codeAt? s.text place) then
        attemptAt here.repeating (fun q => s.matchAll here ps q k) place
      else Attempt.fail
    first.orElse fun m => s.matchAny here rest place k m

end

/-- Searches from a place on, at a number of places: what the match remembers at the first place
from which there is one. -/
def searchFrom (s : Subject) (flags : Flags) (body : List Piece) (place : Nat) :
    Nat → Option Memory
  | 0 => none
  | n + 1 =>
    match s.matchAll { flags } body place stop { cursor := place } with
    | (true, m) => some m
    | (false, _) => s.searchFrom flags body (place + 1) n

/-- Searches a text.  At the last places there is too little text left for any match. -/
def search (s : Subject) (flags : Flags) (body : List Piece) : Option Memory :=
  s.searchFrom flags body 0 (s.size + 1 - (widthOf s.widths body).least)

end Subject

end Conform.Pattern
