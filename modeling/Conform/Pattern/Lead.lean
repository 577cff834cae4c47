import Conform.Pattern.Fold
/-!
# Single characters

A repetition of a single character counts how often it fits before anything else is tried.  A piece
that begins with a single character can be told to fail by the next character alone.
-/
namespace Conform.Pattern

/-- Which characters a piece of one character admits; `moves` if the cursor follows while they are
counted, as it does where siblings are looked up. -/
structure Single where
  admits : Nat → Bool
  moves : Bool

/-- Whether a character is looked up among its siblings. -/
def hasSiblings (f : Folding) (n : Nat) : Bool :=
  f == .full && f.hasCase n n && siblings (Text.lowerCode n) != [Text.lowerCode n]

mutual

def Piece.single? (flags : Flags) : Piece → Option Single
  | .char n => some ⟨flags.folding.admits n, hasSiblings flags.folding n⟩
  | .notChar n => some ⟨fun given => !flags.folding.admits n given, hasSiblings flags.folding n⟩
  | .any => some ⟨fun given => flags.dotAll || given != 10, false⟩
  | .charSet negated items =>
    let f := setFolding flags.folding items
    some ⟨setAdmits (!flags.unicode) f negated items, f != .exact⟩
  | .group none set clear body => single? (flags.within set clear) body
  | _ => none

/-- The single character that a sequence stands for. -/
def single? (flags : Flags) : List Piece → Option Single
  | [p] => p.single? flags
  | _ => none

end

/-- What a sequence begins with, as far as it can be told by comparing the next character. -/
inductive Lead where
  | char (code : Nat)
  | charSet (ascii negated : Bool) (items : List SetItem)
  | unknown
deriving DecidableEq, Repr, Inhabited

namespace Lead

/-- Whether the next character, if there is one, can follow. -/
def admits (l : Lead) (next : Option Nat) : Bool :=
  match l with
  | char code => next == some code
  | charSet ascii negated items => next.any (setAdmits ascii .exact negated items)
  | unknown => true

/-- Only what begins with a character; other beginnings are not told. -/
def onlyChar : Lead → Lead
  | char code => char code
  | _ => unknown

end Lead

mutual

/-- What a piece begins with, given what the text after it begins with. -/
def Piece.lead (flags : Flags) (next : Lead) : Piece → Lead
  | .char n => if flags.folding.hasCase n n then .unknown else .char n
  | .charSet negated items =>
    if setFolding flags.folding items = .exact then .charSet (!flags.unicode) negated items
    else .unknown
  | .group none set clear body => leadOf (flags.within set clear) next body
  | _ => .unknown

/-- What a sequence begins with, given what the text after it begins with. -/
def leadOf (flags : Flags) (next : Lead) : List Piece → Lead
  | [] => next
  | p :: ps => p.lead flags (leadOf flags next ps)

end

end Conform.Pattern
