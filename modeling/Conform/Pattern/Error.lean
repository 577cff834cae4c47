import Conform.Text.Quoted
/-!
# Why a pattern is refused

Most problems are found at a place in the pattern, which the message names; in a pattern of several
lines it names line and column too.  The other ways of being refused have no place: a repetition
count with too many digits to be read or out of range, a character number out of range, a choice of
two alphabets at once, and a look-behind that is too wide.
-/
namespace Conform.Pattern

/-- What is wrong with a pattern. -/
inductive Problem where
  | endOfEscape
  | incompleteEscape (escape : String)
  | badEscape (escape : String)
  | octalTooLarge (escape : String)
  | missing (what : String)
  | unterminated (close what : String)
  | undefinedName (name : String)
  | openGroup
  | lookbehindGroup
  | invalidGroup (number : Nat)
  | unknownGroup (name : String)
  | badGroupName (name : String)
  | badGroupNumber
  | redefinedGroup (name : String) (number before : Nat)
  | unterminatedSet
  | badRange (low high : String)
  | repetitionOrder
  | nothingToRepeat
  | multipleRepeat
  | endOfPattern
  | unknownExtension (text : String)
  | tooManyBranches
  | lateFlags
  | unknownFlag
  | localeFlag
  | alphabets
  | turnsOnGlobal
  | turnsOffGlobal
  | turnsOffAlphabet
  | turnedOnAndOff
  | unbalanced
  | farLookbehind
  | variableLookbehind
  | template (operator : String)
  | tooDeep
deriving DecidableEq, Repr, Inhabited

namespace Problem

def message : Problem → String
  | endOfEscape => "bad escape (end of pattern)"
  | incompleteEscape e => s!"incomplete escape {e}"
  | badEscape e => s!"bad escape {e}"
  | octalTooLarge e => s!"octal escape value {e} outside of range 0-0o377"
  | missing what => s!"missing {what}"
  | unterminated close what => s!"missing {close}, unterminated {what}"
  | undefinedName name => s!"undefined character name {Text.quoted name}"
  | openGroup => "cannot refer to an open group"
  | lookbehindGroup => "cannot refer to group defined in the same lookbehind subpattern"
  | invalidGroup n => s!"invalid group reference {n}"
  | unknownGroup name => s!"unknown group name {Text.quoted name}"
  | badGroupName name => s!"bad character in group name {Text.quoted name}"
  | badGroupNumber => "bad group number"
  | redefinedGroup name n before =>
    s!"redefinition of group name {Text.quoted name} as group {n}; was group {before}"
  | unterminatedSet => "unterminated character set"
  | badRange low high => s!"bad character range {low}-{high}"
  | repetitionOrder => "min repeat greater than max repeat"
  | nothingToRepeat => "nothing to repeat"
  | multipleRepeat => "multiple repeat"
  | endOfPattern => "unexpected end of pattern"
  | unknownExtension text => s!"unknown extension ?{text}"
  | tooManyBranches => "conditional backref with more than two branches"
  | lateFlags => "global flags not at the start of the expression"
  | unknownFlag => "unknown flag"
  | localeFlag => "bad inline flags: cannot use 'L' flag with a str pattern"
  | alphabets => "bad inline flags: flags 'a', 'u' and 'L' are incompatible"
  | turnsOnGlobal => "bad inline flags: cannot turn on global flag"
  | turnsOffGlobal => "bad inline flags: cannot turn off global flag"
  | turnsOffAlphabet => "bad inline flags: cannot turn off flags 'a', 'u' and 'L'"
  | turnedOnAndOff => "bad inline flags: flag turned on and off"
  | unbalanced => "unbalanced parenthesis"
  | farLookbehind => "looks too much behind"
  | variableLookbehind => "look-behind requires fixed-width pattern"
  | template operator => s!"internal: unsupported template operator {operator}"
  | tooDeep => "pattern is nested too deeply"

end Problem

/-- Why a pattern is refused. -/
inductive Refusal where
  | malformed (problem : Problem) (position : Option Nat)
  | repetitionTooLong (digits : Nat)
  | repetitionTooLarge
  | characterTooLarge
  | twoAlphabets
  | lookbehindTooWide
deriving DecidableEq, Repr, Inhabited

/-- Line and column of a position, both counted from one. -/
def lineAndColumn (source : List Char) (position : Nat) : Nat × Nat :=
  let before := source.take position
  (before.count '\n' + 1, (before.reverse.takeWhile (· ≠ '\n')).length + 1)

def placedMessage (source : List Char) (problem : Problem) : Option Nat → String
  | none => problem.message
  | some position =>
    let text := s!"{problem.message} at position {position}"
    if source.contains '\n' then
      let (line, column) := lineAndColumn source position
      text ++ s!" (line {line}, column {column})"
    else text

end Conform.Pattern
