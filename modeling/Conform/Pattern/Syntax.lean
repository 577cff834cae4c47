/-!
# Patterns

The syntax tree of a pattern.  Characters are kept as code points, since a pattern may name one
that no text can hold.  A pattern is a sequence of pieces; groups, repetitions and assertions hold
sequences of their own.
-/
namespace Conform.Pattern

/-- What a pattern pays regard to; flags may be set for a part of a pattern only. -/
structure Flags where
  ignoreCase : Bool := false
  multiLine : Bool := false
  dotAll : Bool := false
  verbose : Bool := false
  ascii : Bool := false
  unicode : Bool := false
  template : Bool := false
deriving DecidableEq, Repr, Inhabited

namespace Flags

/-- The flags that are set in either. -/
def union (f g : Flags) : Flags where
  ignoreCase := f.ignoreCase || g.ignoreCase
  multiLine := f.multiLine || g.multiLine
  dotAll := f.dotAll || g.dotAll
  verbose := f.verbose || g.verbose
  ascii := f.ascii || g.ascii
  unicode := f.unicode || g.unicode
  template := f.template || g.template

/-- The flags that are set in the first and not in the second. -/
def without (f g : Flags) : Flags where
  ignoreCase := f.ignoreCase && !g.ignoreCase
  multiLine := f.multiLine && !g.multiLine
  dotAll := f.dotAll && !g.dotAll
  verbose := f.verbose && !g.verbose
  ascii := f.ascii && !g.ascii
  unicode := f.unicode && !g.unicode
  template := f.template && !g.template

/-- The flags that are set in both. -/
def inter (f g : Flags) : Flags := f.without (f.without g)

def none : Flags := {}

def alphabet : Flags := { ascii := true, unicode := true }

/-- The flags of a group that sets some flags and clears others: choosing an alphabet replaces the
one chosen before. -/
def within (f set clear : Flags) : Flags :=
  let f := if set.inter alphabet = none then f else f.without alphabet
  (f.union set).without clear

end Flags

/-- A class of characters. -/
inductive Category where
  | digit
  | space
  | word
deriving DecidableEq, Repr, Inhabited

/-- One member of a bracketed set of characters. -/
inductive SetItem where
  | single (code : Nat)
  | range (low high : Nat)
  | category (negated : Bool) (c : Category)
deriving DecidableEq, Repr, Inhabited

/-- A place in a text. -/
inductive Anchor where
  | lineStart
  | lineEnd
  | textStart
  | textEnd
  | boundary
  | notBoundary
deriving DecidableEq, Repr, Inhabited

/-- How a repetition tries its counts: most first, fewest first, or most without reconsidering. -/
inductive Mode where
  | greedy
  | lazy
  | possessive
deriving DecidableEq, Repr, Inhabited

/-- A piece of a pattern. -/
inductive Piece where
  | char (code : Nat)
  | notChar (code : Nat)
  | any
  | charSet (negated : Bool) (items : List SetItem)
  | anchor (a : Anchor)
  | backref (group : Nat)
  | group (number : Option Nat) (set clear : Flags) (body : List Piece)
  | atomic (body : List Piece)
  | look (behind : Bool) (negated : Bool) (body : List Piece)
  | branch (alternatives : List (List Piece))
  | conditional (group : Nat) (yes no : List Piece)
  | repeated (mode : Mode) (least : Nat) (most : Option Nat) (body : List Piece)
deriving Inhabited

/-- Repetition counts stay below this number. -/
def countLimit : Nat := 4294967295

/-- The least and greatest number of characters that a piece takes up. -/
structure Width where
  least : Nat
  most : Nat
deriving DecidableEq, Repr, Inhabited

namespace Width

def add (v w : Width) : Width := ⟨v.least + w.least, v.most + w.most⟩

def either (v w : Width) : Width := ⟨min v.least w.least, max v.most w.most⟩

/-- The bounds of a sequence, cut off where widths are no longer told apart. -/
def clamp (w widest : Width) : Width := ⟨min w.least widest.least, min w.most widest.most⟩

/-- The bounds of a repetition, of which the upper one may be missing. -/
def times (w : Width) (least : Nat) (most : Option Nat) (widest : Width) : Width :=
  ⟨w.least * least, w.most * most.getD widest.most⟩

end Width

/-- What tells the releases of the language apart: the greatest bounds that a width has, and how wide a
look-behind may be to be translated. -/
structure Release where
  widest : Width
  lookbehind : Nat
deriving DecidableEq, Repr, Inhabited

/-- Releases in which widths are bounded as counts are.  Having no upper bound is more than any least
width. -/
def Release.early : Release := ⟨⟨countLimit - 1, countLimit⟩, 2147483647⟩

/-- Releases in which widths have a bound of their own. -/
def Release.late : Release := ⟨⟨18446744073709551616, 18446744073709551616⟩, countLimit⟩

/-- What widths depend on: the release, and the widths of the groups that are closed. -/
structure Widths where
  release : Release
  group : Nat → Width

mutual

def Piece.width (ws : Widths) : Piece → Width
  | .char _ => ⟨1, 1⟩
  | .notChar _ => ⟨1, 1⟩
  | .any => ⟨1, 1⟩
  | .charSet _ _ => ⟨1, 1⟩
  | .anchor _ => ⟨0, 0⟩
  | .backref g => ws.group g
  | .group _ _ _ body => widthOf ws body
  | .atomic body => widthOf ws body
  | .look _ _ _ => ⟨0, 0⟩
  | .branch alternatives => widthOfAny ws alternatives
  | .conditional _ yes no => (widthOf ws yes).either (widthOf ws no)
  | .repeated _ least most body => (widthOf ws body).times least most ws.release.widest

def widthOf (ws : Widths) : List Piece → Width
  | [] => ⟨0, 0⟩
  | p :: ps => ((p.width ws).add (widthOf ws ps)).clamp ws.release.widest

def widthOfAny (ws : Widths) : List (List Piece) → Width
  | [] => ⟨ws.release.widest.least, 0⟩
  | ps :: rest => (widthOf ws ps).either (widthOfAny ws rest)

end

end Conform.Pattern
