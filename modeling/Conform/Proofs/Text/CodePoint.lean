import Conform.Text.CodePoint
import Mathlib.Data.List.Basic
/-!
# Halves of surrogate pairs

A text that writes code points by number shows a code point beyond the first plane as the two halves
that make it up, and so cannot tell it from two halves next to each other.  `joined` is what remains of
such a text: two halves that make up a code point are this one.
-/
namespace Conform.Text

/-! ### Characters -/

/-- No character has the number of a half. -/
theorem not_isHalf (c : Char) : isHalf c.toNat = false := by
  have valid := c.valid
  simp only [UInt32.isValidChar, Nat.isValidChar] at valid
  change c.toNat < 0xD800 ∨ 0xDFFF < c.toNat ∧ _ at valid
  rw [← Bool.not_eq_true, isHalf_iff]
  omega

theorem ofCode_toNat (c : Char) : ofCode c.toNat = c := by
  rw [ofCode, not_isHalf, if_neg Bool.false_ne_true, Char.ofNat_toNat]

theorem ofCode_code (c : Char) : ofCode (code c) = c := by
  unfold code
  split
  · rename_i standIn
    rw [isStandIn, Bool.and_eq_true, decide_eq_true_eq, decide_eq_true_eq] at standIn
    rw [ofCode, if_pos (isHalf_iff.mpr (by omega)), Nat.sub_add_cancel (by omega), Char.ofNat_toNat]
  · exact ofCode_toNat c

theorem code_injective : Function.Injective code := fun c d same => by
  rw [← ofCode_code c, same, ofCode_code]

theorem codePoints_injective : Function.Injective codePoints := by
  intro s t same
  have points : Function.Injective fun c : Char => (⟨code c, code_lt c⟩ : CodePoint) :=
    fun _ _ h => code_injective (Fin.mk.inj h)
  exact String.toList_inj.mp (List.map_injective_iff.mpr points same)

/-! ### Pairs -/

/-- The code point that two halves make up. -/
def paired (high low : CodePoint) : CodePoint :=
  ⟨0x10000 + high.val % 0x400 * 0x400 + low.val % 0x400, by omega⟩

/-- The first half of a code point beyond the first plane. -/
def highHalf (c : CodePoint) : CodePoint := ⟨0xD800 + (c.val - 0x10000) / 0x400, by omega⟩

/-- The second half of a code point beyond the first plane. -/
def lowHalf (c : CodePoint) : CodePoint := ⟨0xDC00 + (c.val - 0x10000) % 0x400, by omega⟩

/-- A text with a code point in front, which is joined with the first one if they are halves. -/
def joinTo (c : CodePoint) : List CodePoint → List CodePoint
  | d :: cs => if isHigh c && isLow d then paired c d :: cs else c :: d :: cs
  | [] => [c]

/-- A text in which two halves next to each other are the code point that they make up. -/
def joined (cs : List CodePoint) : List CodePoint := cs.foldr joinTo []

/-- Whether no first half is directly followed by a second one. -/
def isWhole : List CodePoint → Bool
  | c :: d :: cs => !(isHigh c && isLow d) && isWhole (d :: cs)
  | _ => true

@[simp] theorem joined_cons (c : CodePoint) (cs : List CodePoint) :
    joined (c :: cs) = joinTo c (joined cs) := rfl

theorem joinTo_of_not_isHigh {c : CodePoint} (h : isHigh c = false) (cs : List CodePoint) :
    joinTo c cs = c :: cs := by
  cases cs with
  | nil => rfl
  | cons d cs => rw [joinTo, h, Bool.false_and, if_neg Bool.false_ne_true]

theorem joined_of_isWhole {cs : List CodePoint} (whole : isWhole cs = true) : joined cs = cs := by
  induction cs with
  | nil => rfl
  | cons c cs ih =>
    cases cs with
    | nil => rfl
    | cons d cs =>
      rw [isWhole, Bool.and_eq_true, Bool.not_eq_true'] at whole
      rw [joined_cons, ih whole.2, joinTo, whole.1, if_neg Bool.false_ne_true]

theorem isHigh_highHalf (c : CodePoint) : isHigh (highHalf c).val = true := by
  refine isHigh_iff.mpr ?_
  simp only [highHalf]
  omega

theorem isLow_lowHalf (c : CodePoint) : isLow (lowHalf c).val = true := by
  refine isLow_iff.mpr ?_
  simp only [lowHalf]
  omega

theorem isHigh_of_ge {n : Nat} (h : 0xDC00 ≤ n) : isHigh n = false := by
  rw [← Bool.not_eq_true, isHigh_iff]
  omega

theorem paired_halves {c : CodePoint} (h : 0x10000 ≤ c.val) : paired (highHalf c) (lowHalf c) = c := by
  apply Fin.ext
  simp only [paired, highHalf, lowHalf]
  omega

theorem highHalf_paired {high low : CodePoint} (h : isHigh high.val = true) :
    highHalf (paired high low) = high := by
  have bounds := isHigh_iff.mp h
  apply Fin.ext
  simp only [paired, highHalf]
  omega

theorem lowHalf_paired {high low : CodePoint} (h : isLow low.val = true) :
    lowHalf (paired high low) = low := by
  have bounds := isLow_iff.mp h
  apply Fin.ext
  simp only [paired, lowHalf]
  omega

/-- The halves of a code point make it up again, whatever follows them. -/
theorem joined_halves {c : CodePoint} (h : 0x10000 ≤ c.val) (cs : List CodePoint) :
    joined (highHalf c :: lowHalf c :: cs) = joined (c :: cs) := by
  have low : isHigh (lowHalf c).val = false := isHigh_of_ge (Nat.le_add_right _ _)
  have beyond : isHigh c.val = false := isHigh_of_ge (by omega)
  rw [joined_cons, joined_cons, joined_cons, joinTo_of_not_isHigh low, joinTo_of_not_isHigh beyond,
    joinTo, isHigh_highHalf, isLow_lowHalf, Bool.and_self, if_pos rfl, paired_halves h]

end Conform.Text
