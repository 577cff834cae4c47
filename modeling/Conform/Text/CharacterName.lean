import Conform.Text.Digit
import Conform.Text.Ranges
import Conform.Text.Name.Latin
import Conform.Text.Name.Alphabets
import Conform.Text.Name.SouthAsian
import Conform.Text.Name.Syllables
import Conform.Text.Name.Phonetic
import Conform.Text.Name.Symbols
import Conform.Text.Name.EastAsian
import Conform.Text.Name.Modern
import Conform.Text.Name.Presentation
import Conform.Text.Name.Ancient
import Conform.Text.Name.Brahmic
import Conform.Text.Name.Pictorial
import Conform.Text.Name.Musical
import Conform.Text.Name.Mathematical
import Conform.Text.Name.Pictographs
import Conform.Text.Name.Alias
/-!
# Names of characters

Characters by their names in the standard.  Most names stand in rows, and may be written in any
mixture of cases.  Ideographs and some other characters are named by their number.  The names of
Korean syllables are put together from the names of their letters; these and the names of unified
ideographs have to be written in capitals.
-/
namespace Conform.Text

def nameRows : List (List NameRow) :=
  [latinNames, alphabetsNames, southAsianNames, syllablesNames, phoneticNames, symbolsNames,
    eastAsianNames, modernNames, presentationNames, ancientNames, brahmicNames, pictorialNames,
    musicalNames, mathematicalNames, pictographsNames, furtherNames]

/-- The rest of a text after what it begins with. -/
def afterStart? (start : String) (s : List Char) : Option (List Char) :=
  if start.toList.isPrefixOf s then some (s.drop start.length) else none

/-! ### Characters named by their number -/

/-- The number of four or five hexadecimal digits, letters being capitals. -/
def capitalHex? (ds : List Char) : Option Nat :=
  if (ds.length = 4 ∨ ds.length = 5) ∧ ds.all fun d => d.isDigit || ('A' ≤ d && d ≤ 'F') then
    some (ds.foldl (fun n d => n * 16 + (baseValue? d).getD 0) 0)
  else none

def unifiedIdeographs : Ranges := ⟨#[
  (0x3400, 0x4DBF), (0x4E00, 0x9FFF), (0x20000, 0x2A6DF), (0x2A700, 0x2B738), (0x2B740, 0x2B81D),
  (0x2B820, 0x2CEA1), (0x2CEB0, 0x2EBE0), (0x30000, 0x3134A)]⟩

/-- The unified ideograph of a number. -/
def ideograph? (digits : List Char) : Option Nat :=
  (capitalHex? digits).filter fun n => unifiedIdeographs.contains (Char.ofNat n)

/-- Other characters that are named by their number, by what the name begins with. -/
def numberedCharacters : List (String × Ranges) :=
  [("CJK COMPATIBILITY IDEOGRAPH-", ⟨#[(0xF900, 0xFA6D), (0xFA70, 0xFAD9), (0x2F800, 0x2FA1D)]⟩),
    ("KHITAN SMALL SCRIPT CHARACTER-", ⟨#[(0x18B00, 0x18CD5)]⟩),
    ("NUSHU CHARACTER-", ⟨#[(0x1B170, 0x1B2FB)]⟩)]

/-- The code point of a name in capitals that ends in the number, which has no needless digit. -/
def numbered? (name : List Char) : Option Nat :=
  numberedCharacters.findSome? fun (start, ranges) => do
    let digits ← afterStart? start name
    let n ← capitalHex? digits
    if ranges.contains (Char.ofNat n) && (digits.length == 4 || 0x10000 ≤ n) then some n else none

/-! ### Korean syllables -/

/-- The names of the consonants that a syllable begins with. -/
def leadingConsonants : List String :=
  ["G", "GG", "N", "D", "DD", "R", "M", "B", "BB", "S", "SS", "", "J", "JJ", "C", "K", "T", "P", "H"]

def vowels : List String :=
  ["A", "AE", "YA", "YAE", "EO", "E", "YEO", "YE", "O", "WA", "WAE", "OE", "YO", "U", "WEO", "WE",
    "WI", "YU", "EU", "YI", "I"]

/-- The names of the consonants that a syllable ends with, of which the first is none. -/
def trailingConsonants : List String :=
  ["", "G", "GG", "GS", "N", "NJ", "NH", "D", "L", "LG", "LM", "LB", "LS", "LT", "LP", "LH", "M",
    "B", "BS", "S", "SS", "NG", "J", "C", "K", "T", "P", "H"]

/-- The longest of some names that a text begins with: its place among them, and the text after
it. -/
def longest? (names : List String) (s : List Char) : Option (Nat × List Char) :=
  let fitting := (names.mapIdx fun i n => (i, n)).filterMap fun (i, n) =>
    (afterStart? n s).map fun rest => (i, rest)
  fitting.foldl (fun best x =>
    match best with
    | none => some x
    | some b => if x.2.length < b.2.length then some x else best) none

def syllable? (name : List Char) : Option Nat := do
  let (l, rest) ← longest? leadingConsonants name
  let (v, rest) ← longest? vowels rest
  let (t, rest) ← longest? trailingConsonants rest
  if rest.isEmpty then
    some (0xAC00 + (l * vowels.length + v) * trailingConsonants.length + t)
  else none

/-- The code point of the character of a name. -/
def namedCharacter? (name : String) : Option Nat :=
  let name := name.toList
  match afterStart? "HANGUL SYLLABLE " name, afterStart? "CJK UNIFIED IDEOGRAPH-" name with
  | some rest, _ => syllable? rest
  | none, some digits => ideograph? digits
  | none, none =>
    let upper := name.map Char.toUpper
    (nameRows.findSome? (·.findSome? (NameRow.find? upper))).or (numbered? upper)

end Conform.Text
