/-!
# Code points

A text is a list of code points, and some of them are no characters: the halves of surrogate pairs,
which a text gets by an escape that names one.  In a string a private character of the last plane stands
for a half; `code` and `ofCode` translate between the two.  Only what is written or compared by number
shows the difference.
-/
namespace Conform.Text

/-- The numbers of characters and of halves of surrogate pairs. -/
abbrev CodePoint := Fin 0x110000

/-- Whether a number is that of the first half of a surrogate pair. -/
def isHigh (n : Nat) : Bool := 0xD800 ≤ n && n < 0xDC00

/-- Whether a number is that of the second half of a surrogate pair. -/
def isLow (n : Nat) : Bool := 0xDC00 ≤ n && n < 0xE000

def isHalf (n : Nat) : Bool := isHigh n || isLow n

theorem isHigh_iff {n : Nat} : isHigh n = true ↔ 0xD800 ≤ n ∧ n < 0xDC00 := by
  rw [isHigh, Bool.and_eq_true, decide_eq_true_eq, decide_eq_true_eq]

theorem isLow_iff {n : Nat} : isLow n = true ↔ 0xDC00 ≤ n ∧ n < 0xE000 := by
  rw [isLow, Bool.and_eq_true, decide_eq_true_eq, decide_eq_true_eq]

theorem isHalf_iff {n : Nat} : isHalf n = true ↔ 0xD800 ≤ n ∧ n < 0xE000 := by
  rw [isHalf, Bool.or_eq_true, isHigh_iff, isLow_iff]
  omega

/-- How far the character that stands for a half is from it. -/
def standInDistance : Nat := 0x100000

/-- Whether a character of a string stands for a half. -/
def isStandIn (c : Char) : Bool :=
  0xD800 + standInDistance ≤ c.toNat && c.toNat < 0xE000 + standInDistance

/-- The code point that a character of a string stands for. -/
def code (c : Char) : Nat := if isStandIn c then c.toNat - standInDistance else c.toNat

/-- The character of a string that stands for a code point. -/
def ofCode (n : Nat) : Char := Char.ofNat (if isHalf n then n + standInDistance else n)

theorem toNat_lt (c : Char) : c.toNat < 0x110000 := by
  have valid := c.valid
  simp only [UInt32.isValidChar, Nat.isValidChar] at valid
  change c.val.toNat < _
  omega

theorem code_lt (c : Char) : code c < 0x110000 := by
  have bound := toNat_lt c
  unfold code
  split <;> omega

def codePoints (s : String) : List CodePoint := s.toList.map fun c => ⟨code c, code_lt c⟩

end Conform.Text
