import Conform.Number.Rounding
import Mathlib.Algebra.Order.Field.Rat
import Mathlib.Tactic.Linarith
import Mathlib.Tactic.Positivity
import Mathlib.Tactic.Ring
/-!
# Integers as floating-point numbers

An integer with more than 53 binary digits is rounded, and one of too great a magnitude has no number
nearest to it that is finite: `ofInt?_eq_none_iff` says from where on.  An integer that is the value
of some floating-point number is not changed by rounding, which is `ofInt?_of_valueOf`.
-/
namespace Conform

/-! ### Rounding to an integer -/

theorem div_le_roundHalfEven (num den : Nat) : num / den ≤ roundHalfEven num den := by
  unfold roundHalfEven
  dsimp only
  split_ifs <;> omega

theorem roundHalfEven_le (num den : Nat) : roundHalfEven num den ≤ num / den + 1 := by
  unfold roundHalfEven
  dsimp only
  split_ifs <;> omega

theorem roundHalfEven_mul {den : Nat} (hden : 0 < den) (k : Nat) :
    roundHalfEven (k * den) den = k := by
  simp [roundHalfEven, Nat.mul_div_cancel k hden, hden]

/-- An even number is reached from one half below it on, as a tie goes to it. -/
theorem le_roundHalfEven_iff {num den k : Nat} (hden : 0 < den) (even : k % 2 = 0) :
    k ≤ roundHalfEven num den ↔ 2 * (k * den) ≤ 2 * num + den := by
  have split := Nat.div_add_mod num den
  have small := Nat.mod_lt num hden
  rcases Nat.lt_trichotomy k (num / den + 1) with below | rfl | above
  · have reached : k ≤ roundHalfEven num den :=
      (Nat.lt_succ_iff.mp below).trans (div_le_roundHalfEven num den)
    have := Nat.mul_le_mul_right den (Nat.lt_succ_iff.mp below)
    rw [Nat.mul_comm (num / den)] at this
    exact iff_of_true reached (by omega)
  -- The quotient is odd here, and so a tie goes up.
  · have odd : num / den % 2 ≠ 0 := by omega
    have expand : (num / den + 1) * den = den * (num / den) + den := by ring
    rw [expand]
    unfold roundHalfEven
    dsimp only
    split_ifs <;> omega
  · have unreached : ¬k ≤ roundHalfEven num den := by
      have := roundHalfEven_le num den
      omega
    have := Nat.mul_le_mul_right den above
    have expand : (num / den + 1 + 1) * den = den * (num / den) + 2 * den := by ring
    rw [Nat.succ_eq_add_one, expand] at this
    exact iff_of_false unreached (by omega)

namespace Binary64

/-! ### The number nearest to an integer -/

theorem binaryOrder_one {n : Nat} (hn : n ≠ 0) : binaryOrder n 1 = n.log2 := by
  have reached := Nat.log2_self_le hn
  have one : Nat.log2 1 = 0 := rfl
  simp [binaryOrder, one, reached]

/-- An integer of up to 53 binary digits is scaled up to a full significand. -/
theorem nearest_of_log2_le {n : Nat} (hn : n ≠ 0) (h : n.log2 ≤ 52) (s : Bool) :
    nearest s n 1 = .finite s (n * 2 ^ (52 - n.log2)) (n.log2 - 52) := by
  have exponent : max (binaryOrder n 1 - (precision - 1)) minExponent = (n.log2 : Int) - 52 := by
    rw [binaryOrder_one hn, precision, minExponent]
    omega
  have digits : scaled n 1 ((n.log2 : Int) - 52) = n * 2 ^ (52 - n.log2) := by
    have places : (-((n.log2 : Int) - 52)).toNat = 52 - n.log2 := by omega
    unfold scaled
    split_ifs with full
    · have : n.log2 = 52 := by omega
      simpa [this] using roundHalfEven_mul Nat.one_pos n
    · simpa [places] using roundHalfEven_mul Nat.one_pos (n * 2 ^ (52 - n.log2))
  have bound : n * 2 ^ (52 - n.log2) < 2 ^ 53 := by
    have := Nat.mul_lt_mul_of_pos_right (Nat.lt_log2_self (n := n))
      (Nat.two_pow_pos (52 - n.log2))
    rwa [← Nat.pow_add, show n.log2 + 1 + (52 - n.log2) = 53 by omega] at this
  have full : n * 2 ^ (52 - n.log2) ≠ Nat.pow 2 precision := Nat.ne_of_lt bound
  have inRange : ¬maxExponent < (n.log2 : Int) - 52 := by
    rw [maxExponent]
    omega
  simp only [nearest, if_neg hn, exponent, digits, if_neg full, if_neg inRange]

/-- An integer of more binary digits is rounded to a multiple of a power of two, which has one digit
more if the significand overflows. -/
theorem nearest_of_log2_eq {n k : Nat} (h : n.log2 = 52 + k) (s : Bool) :
    nearest s n 1 =
      if roundHalfEven n (2 ^ k) = 2 ^ 53 then
        if 971 < k + 1 then .infinite s else .finite s (2 ^ 52) (k + 1 : Nat)
      else if 971 < k then .infinite s else .finite s (roundHalfEven n (2 ^ k)) k := by
  have hn : n ≠ 0 := by
    rintro rfl
    simp at h
    omega
  have exponent : max (binaryOrder n 1 - (precision - 1)) minExponent = (k : Int) := by
    rw [binaryOrder_one hn, precision, minExponent]
    omega
  have digits : scaled n 1 k = roundHalfEven n (2 ^ k) := by simp [scaled]
  have limit : ∀ e : Nat, maxExponent < (e : Int) ↔ 971 < e := by
    intro e
    rw [maxExponent]
    omega
  have succ : ((k : Int) + 1) = (k + 1 : Nat) := by omega
  simp only [nearest, if_neg hn, exponent, digits]
  by_cases full : roundHalfEven n (2 ^ k) = 2 ^ 53
  · have full' : roundHalfEven n (2 ^ k) = Nat.pow 2 precision := full
    simp only [if_pos full', if_pos full, succ, limit]
    rfl
  · have full' : roundHalfEven n (2 ^ k) ≠ Nat.pow 2 precision := full
    simp only [if_neg full', if_neg full, limit]

/-- A full significand is the last one before the digits of an integer overflow. -/
theorem roundHalfEven_log2_le {n k : Nat} (h : n.log2 = 52 + k) :
    roundHalfEven n (2 ^ k) ≤ 2 ^ 53 := by
  have digits : n < 2 ^ 53 * 2 ^ k := by
    have := Nat.lt_log2_self (n := n)
    rwa [h, show 52 + k + 1 = 53 + k by omega, Nat.pow_add] at this
  have := (Nat.div_lt_iff_lt_mul (Nat.two_pow_pos k)).mpr digits
  have := roundHalfEven_le n (2 ^ k)
  omega

/-- The least magnitude that is rounded to infinity: half a unit more than the largest number, whose
significand has only ones. -/
def leastInfinite : Nat := (2 ^ 54 - 1) * 2 ^ 970

theorem nearest_infinite_iff {n : Nat} (s : Bool) :
    nearest s n 1 = .infinite s ↔ leastInfinite ≤ n := by
  -- The exponent is named, for the powers of two are not to be computed.
  obtain ⟨e, he⟩ : ∃ e, e = 970 := ⟨_, rfl⟩
  rw [leastInfinite, ← he]
  have positive := Nat.two_pow_pos e
  by_cases hn : n = 0
  · subst hn
    exact iff_of_false (by simp [nearest]) (by omega)
  have low := Nat.log2_self_le hn
  have high := Nat.lt_log2_self (n := n)
  rcases Nat.lt_or_ge n.log2 52 with short | long
  · have : 2 ^ (n.log2 + 1) ≤ 2 ^ e := Nat.pow_le_pow_right (by decide) (by omega)
    rw [nearest_of_log2_le hn short.le]
    exact iff_of_false (by simp) (by omega)
  obtain ⟨k, hk⟩ := Nat.exists_eq_add_of_le long
  rw [nearest_of_log2_eq hk]
  rcases Nat.lt_trichotomy k (e + 1) with finite | rfl | infinite
  · have : 2 ^ (n.log2 + 1) ≤ 2 ^ 53 * 2 ^ e := by
      rw [← Nat.pow_add]
      exact Nat.pow_le_pow_right (by decide) (by omega)
    rw [if_neg (show ¬971 < k + 1 by omega), if_neg (show ¬971 < k by omega)]
    refine iff_of_false ?_ (by omega)
    split_ifs <;> simp
  -- With the greatest exponent it is the rounding that decides.
  · have most := roundHalfEven_log2_le hk
    have reached : 2 ^ 53 ≤ roundHalfEven n (2 ^ (e + 1)) ↔ _ :=
      le_roundHalfEven_iff (Nat.two_pow_pos (e + 1)) (by decide)
    have double : 2 ^ (e + 1) = 2 * 2 ^ e := Nat.pow_succ'
    by_cases full : roundHalfEven n (2 ^ (e + 1)) = 2 ^ 53
    · rw [if_pos full, if_pos (by omega)]
      have := reached.mp full.ge
      exact iff_of_true rfl (by omega)
    · rw [if_neg full, if_neg (by omega)]
      exact iff_of_false (by simp) fun h => full (Nat.le_antisymm most (reached.mpr (by omega)))
  · have : 2 ^ 54 * 2 ^ e ≤ 2 ^ n.log2 := by
      rw [← Nat.pow_add]
      exact Nat.pow_le_pow_right (by decide) (by omega)
    rw [if_pos (show 971 < k + 1 by omega), if_pos (show 971 < k by omega)]
    refine iff_of_true ?_ (by omega)
    split_ifs <;> rfl

theorem nearest_isZero {n : Nat} (hn : n ≠ 0) (s : Bool) : (nearest s n 1).isZero = false := by
  rcases Nat.le_total n.log2 52 with short | long
  · rw [nearest_of_log2_le hn short]
    simp [isZero, hn]
  · obtain ⟨k, hk⟩ := Nat.exists_eq_add_of_le long
    have digits : 2 ^ 52 * 2 ^ k ≤ n := by
      rw [← Nat.pow_add, ← hk]
      exact Nat.log2_self_le hn
    have := (Nat.le_div_iff_mul_le (Nat.two_pow_pos k)).mpr digits
    have := div_le_roundHalfEven n (2 ^ k)
    have nonzero : roundHalfEven n (2 ^ k) ≠ 0 := by omega
    rw [nearest_of_log2_eq hk]
    split_ifs <;> simp [isZero, nonzero]

/-! ### Conversion -/

theorem sign_of_nearest_infinite {s t : Bool} {num den : Nat}
    (h : nearest s num den = .infinite t) : s = t := by
  simp only [nearest] at h
  split_ifs at h <;> simpa using h

theorem ofInt?_eq_ite (n : Int) : ofInt? n =
    if leastInfinite ≤ n.natAbs then none else some (nearest (n < 0) n.natAbs 1) := by
  have infinite := nearest_infinite_iff (n := n.natAbs) (n < 0)
  unfold ofInt?
  split_ifs with large
  · rw [infinite.mpr large]
  · split
    · rename_i t h
      have sign := sign_of_nearest_infinite h
      exact absurd (infinite.mp (sign ▸ h)) large
    · rfl

/-- There is no finite number nearest to an integer from a certain magnitude on. -/
theorem ofInt?_eq_none_iff {n : Int} : ofInt? n = none ↔ leastInfinite ≤ n.natAbs := by
  rw [ofInt?_eq_ite]
  split_ifs with large <;> simp [large]

/-- No other integer than zero is rounded to a zero. -/
theorem isZero_of_ofInt? {n : Int} {x : Binary64} (h : ofInt? n = some x) (hn : n ≠ 0) :
    x.isZero = false := by
  rw [ofInt?_eq_ite] at h
  split_ifs at h
  cases h
  exact nearest_isZero (by omega) _

/-! ### Integers that are not changed -/

theorem valueOf_mul_two_pow (s : Bool) (m j : Nat) (e : Int) :
    valueOf s (m * 2 ^ j) e = valueOf s m (e + j) := by
  have scale : (2 : Rat) ^ (e + j) = 2 ^ e * 2 ^ j := by
    rw [zpow_add₀ (by norm_num), zpow_natCast]
  simp only [valueOf, scale, Nat.cast_mul, Nat.cast_pow, Nat.cast_ofNat]
  split_ifs <;> ring

theorem valueOf_natAbs (n : Int) : valueOf (n < 0) n.natAbs 0 = n := by
  obtain ⟨k, rfl | rfl⟩ := n.eq_nat_or_neg
  · simp [valueOf]
  · rcases Nat.eq_zero_or_pos k with rfl | pos
    · simp [valueOf]
    · simp [valueOf, pos]

theorem abs_valueOf (s : Bool) (m : Nat) (e : Int) : |valueOf s m e| = m * 2 ^ e := by
  have nonneg : (0 : Rat) ≤ m * 2 ^ e := mul_nonneg m.cast_nonneg (zpow_nonneg (by norm_num) e)
  cases s <;> simp [valueOf, abs_of_nonneg nonneg]

/-- A significand has a place for each digit of a short integer. -/
theorem quantity_nearest_of_log2_le {n : Nat} (h : n.log2 ≤ 52) (s : Bool) :
    (nearest s n 1).quantity = .exact (valueOf s n 0) := by
  by_cases hn : n = 0
  · subst hn
    simp [nearest, quantity, valueOf]
  · rw [nearest_of_log2_le hn h, quantity, valueOf_mul_two_pow]
    congr 2
    omega

/-- A longer integer that ends in enough zeros keeps its digits. -/
theorem quantity_nearest_mul {m e : Nat} (hm : m < 2 ^ 53) (he : e ≤ 971)
    (long : 52 ≤ (m * 2 ^ e).log2) (s : Bool) :
    (nearest s (m * 2 ^ e) 1).quantity = .exact (valueOf s (m * 2 ^ e) 0) := by
  obtain ⟨k, hk⟩ := Nat.exists_eq_add_of_le long
  have nonzero : m * 2 ^ e ≠ 0 := by
    intro zero
    rw [zero, Nat.log2_zero] at hk
    omega
  have low : 2 ^ (52 + k) ≤ m * 2 ^ e := hk ▸ Nat.log2_self_le nonzero
  have high : m * 2 ^ e < 2 ^ 53 * 2 ^ k := by
    have := Nat.lt_log2_self (n := m * 2 ^ e)
    rwa [hk, show 52 + k + 1 = 53 + k by omega, Nat.pow_add] at this
  have unit : k ≤ e := by
    have : 2 ^ (52 + k) < 2 ^ (53 + e) := by
      rw [Nat.pow_add 2 53]
      exact low.trans_lt (Nat.mul_lt_mul_of_pos_right hm (Nat.two_pow_pos e))
    have := (Nat.pow_lt_pow_iff_right (by decide)).mp this
    omega
  -- The integer is a multiple of the unit to which it is rounded.
  have digits : m * 2 ^ e = m * 2 ^ (e - k) * 2 ^ k := by
    rw [Nat.mul_assoc, ← Nat.pow_add, Nat.sub_add_cancel unit]
  have rounded : roundHalfEven (m * 2 ^ e) (2 ^ k) = m * 2 ^ (e - k) := by
    rw [digits, roundHalfEven_mul (Nat.two_pow_pos k)]
  have short : m * 2 ^ (e - k) < 2 ^ 53 := by
    rw [digits] at high
    exact Nat.lt_of_mul_lt_mul_right high
  rw [nearest_of_log2_eq hk, rounded, if_neg short.ne, if_neg (by omega), quantity, digits,
    valueOf_mul_two_pow, valueOf_mul_two_pow, valueOf_mul_two_pow]
  congr 2
  omega

/-- Rounding does not change an integer that is the value of a floating-point number. -/
theorem ofInt?_of_valueOf {s : Bool} {m : Nat} {e : Int} (hm : m < 2 ^ 53) (he : e ≤ 971) {n : Int}
    (hn : valueOf s m e = n) : ∃ x, ofInt? n = some x ∧ x.quantity = .ofInt n := by
  have magnitude : (n.natAbs : Rat) = m * 2 ^ e := by
    rw [← abs_valueOf s, hn, Nat.cast_natAbs, Int.cast_abs]
  have exact : (nearest (n < 0) n.natAbs 1).quantity = .ofInt n := by
    rw [Quantity.ofInt, ← valueOf_natAbs n]
    rcases Nat.le_total n.natAbs.log2 52 with short | long
    · exact quantity_nearest_of_log2_le short _
    · have nonneg : 0 ≤ e := by
        by_contra negative
        -- Half of a significand is too short.
        obtain ⟨j, rfl⟩ : ∃ j : Nat, e = -(j + 1 : Nat) := ⟨(-e - 1).toNat, by omega⟩
        rw [zpow_neg, zpow_natCast, eq_mul_inv_iff_mul_eq₀ (by positivity)] at magnitude
        have digits : n.natAbs * 2 ^ (j + 1) = m := by exact_mod_cast magnitude
        have := (Nat.le_log2 (by rintro zero; simp [zero] at long)).mp long
        have := Nat.mul_le_mul_left n.natAbs (Nat.two_pow_pos j)
        rw [Nat.pow_succ, ← Nat.mul_assoc] at digits
        omega
      lift e to Nat using nonneg
      rw [zpow_natCast] at magnitude
      have digits : n.natAbs = m * 2 ^ e := by exact_mod_cast magnitude
      rw [digits] at long ⊢
      exact quantity_nearest_mul hm (by omega) long _
  rw [ofInt?_eq_ite]
  split_ifs with large
  · rw [(nearest_infinite_iff _).mpr large] at exact
    cases h : decide (n < 0) <;> simp [h, quantity, Quantity.ofInt] at exact
  · exact ⟨_, rfl, exact⟩

/-! ### Remainders of floating-point numbers -/

/-- Whether significand and exponent are those of a number of the format. -/
def InFormat : Binary64 → Prop
  | finite _ m e => m < 2 ^ precision ∧ minExponent ≤ e ∧ e ≤ maxExponent
  | _ => True

theorem exists_ofInt?_of_quantity {y : Binary64} (format : y.InFormat) {n : Int}
    (h : y.quantity = .ofInt n) : ∃ x, ofInt? n = some x ∧ x.quantity = y.quantity := by
  cases y with
  | finite s m e => exact h ▸ ofInt?_of_valueOf format.1 format.2.2 (Quantity.exact.inj h)
  | infinite s => cases s <;> cases h
  | nan i => cases h

theorem valueOf_eq_zero_iff {s : Bool} {m : Nat} {e : Int} : valueOf s m e = 0 ↔ m = 0 := by
  have power : (2 : Rat) ^ e ≠ 0 := zpow_ne_zero e (by norm_num)
  rw [← abs_eq_zero, abs_valueOf]
  simp [power]

theorem isZero_eq (x : Binary64) : x.isZero = (x.quantity == .exact 0) := by
  rw [Bool.eq_iff_iff]
  cases x with
  | finite s m e => simp [isZero, quantity, valueOf_eq_zero_iff]
  | infinite s => cases s <;> simp [isZero, quantity]
  | nan i => simp [isZero, quantity]

/-- A remainder depends on the values of the numbers only. -/
theorem isMultipleOf_eq (x y : Binary64) : x.isMultipleOf y =
    match x.quantity, y.quantity with
    | .exact p, .exact q => (p / q).den == 1
    | .exact p, .below => p == 0
    | .exact p, .above => p == 0
    | _, _ => false := by
  cases x with
  | finite s m e =>
    cases y with
    | finite t n f => rfl
    | infinite t =>
      rw [Bool.eq_iff_iff]
      cases t <;> simp [isMultipleOf, quantity, valueOf_eq_zero_iff]
    | nan i => rfl
  | infinite s => cases s <;> rfl
  | nan i => rfl

end Binary64

end Conform
