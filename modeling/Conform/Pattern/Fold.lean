import Conform.Pattern.Syntax
import Conform.Text.Blank
import Conform.Text.Digit
import Conform.Text.Word
import Conform.Text.Case
import Conform.Text.CodePoint
/-!
# Which characters a piece admits

Without regard to case a character is compared by its lower case.  Some lower-case letters share
their capital with others (`s` and the long s); `siblings` lists them, and a pattern that names one
admits them all.
-/
namespace Conform.Pattern

open Text

/-- Groups of lower-case letters with one capital. -/
def siblingGroups : List (List Nat) :=
  [[0x69, 0x131], [0x73, 0x17F], [0xB5, 0x3BC], [0x345, 0x3B9, 0x1FBE], [0x390, 0x1FD3],
    [0x3B0, 0x1FE3], [0x3B2, 0x3D0], [0x3B5, 0x3F5], [0x3B8, 0x3D1], [0x3BA, 0x3F0],
    [0x3C0, 0x3D6], [0x3C1, 0x3F1], [0x3C2, 0x3C3], [0x3C6, 0x3D5], [0x432, 0x1C80],
    [0x434, 0x1C81], [0x43E, 0x1C82], [0x441, 0x1C83], [0x442, 0x1C84, 0x1C85],
    [0x44A, 0x1C86], [0x463, 0x1C87], [0x1C88, 0xA64B], [0x1E61, 0x1E9B], [0xFB05, 0xFB06]]

/-- A lower-case letter and its siblings. -/
def siblings (n : Nat) : List Nat := (siblingGroups.find? (·.contains n)).getD [n]

/-- The lower case of a code point of ASCII. -/
def asciiLower (n : Nat) : Nat := if 0x41 ≤ n ∧ n ≤ 0x5A then n + 0x20 else n

/-- How the case of characters is treated. -/
inductive Folding where
  | exact
  | ascii
  | full
deriving DecidableEq, Repr

/-- The treatment of case under given flags. -/
def Flags.folding (f : Flags) : Folding :=
  if !f.ignoreCase then .exact else if f.unicode then .full else .ascii

def Folding.hasCase (f : Folding) (low high : Nat) : Bool :=
  match f with
  | .exact => false
  | .ascii => (low ≤ 0x5A && 0x41 ≤ high) || (low ≤ 0x7A && 0x61 ≤ high)
  | .full => Text.hasCase low high

/-- The code point by which a character is compared. -/
def Folding.fold : Folding → Nat → Nat
  | .exact, n => n
  | .ascii, n => asciiLower n
  | .full, n => lowerCode n

/-- Whether a character matches one that the pattern names. -/
def Folding.admits (f : Folding) (named given : Nat) : Bool :=
  match f with
  | .exact => named == given
  | .ascii => asciiLower named == asciiLower given
  | .full =>
    if f.hasCase named named then (siblings (lowerCode named)).contains (lowerCode given)
    else named == given

/-- Whether a character belongs to a class. -/
def Category.admits (ascii : Bool) (c : Category) (n : Nat) : Bool :=
  let ch := ofCode n
  if ascii then
    match c with
    | .digit => ch.isDigit
    | .space => n == 32 || (9 ≤ n && n ≤ 13)
    | .word => ch.isAlphanum || ch == '_'
  else
    match c with
    | .digit => isDigit ch
    | .space => isBlank ch
    | .word => isWord ch

/-- The code points that are compared as the given one is: itself, its capitals, and those of its
siblings. -/
def foldedFrom (folded : Nat) : List Nat :=
  (siblings folded).flatMap fun n => n :: capitals n

/-- The last code point of the basic plane.  Beyond it a set lists no siblings: a character is
sought as it is and, in a range, by its capital. -/
def basicLast : Nat := 0xFFFF

/-- Whether case is ignored in a set on account of one of its members. -/
def SetItem.hasCase (f : Folding) : SetItem → Bool
  | .single n => f != .exact && (f.hasCase n n || basicLast < n)
  | .range low high => f != .exact && (f.hasCase low high || basicLast < high)
  | .category _ _ => false

/-- Whether a range admits a character that is compared by the code point `n`. -/
def rangeAdmits (f : Folding) (low high n : Nat) : Bool :=
  let basic := match f with
    | .exact => [n]
    | .ascii => if 0x61 ≤ n ∧ n ≤ 0x7A then [n, n - 0x20] else [n]
    | .full => foldedFrom n
  let beyond := if f != .exact && basicLast < high then [n, upperCode n] else []
  (basic.any fun m => low ≤ m && m ≤ min high (if f = .exact then high else basicLast))
    || beyond.any fun m => low ≤ m && m ≤ high

/-- Whether a member of a set admits a character. -/
def SetItem.admits (ascii : Bool) (f : Folding) (item : SetItem) (given : Nat) : Bool :=
  match item with
  | .category negated c => (c.admits ascii (f.fold given)) != negated
  | .single n =>
    match f with
    | .exact => n == given
    | .ascii => asciiLower n == asciiLower given
    | .full =>
      if basicLast < n then n == lowerCode given
      else (siblings (lowerCode n)).contains (lowerCode given)
  | .range low high => rangeAdmits f low high (f.fold given)

/-- How a set treats case: it pays no regard to it as soon as some member has another case. -/
def setFolding (f : Folding) (items : List SetItem) : Folding :=
  if items.any (·.hasCase f) then f else .exact

def setAdmits (ascii : Bool) (f : Folding) (negated : Bool) (items : List SetItem) (given : Nat) :
    Bool :=
  (items.any fun i => i.admits ascii f given) != negated

end Conform.Pattern
