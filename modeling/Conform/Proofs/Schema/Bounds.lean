import Conform.Proofs.Schema.Faults
/-!
# Numbers within bounds

A number schema looks for bounds that are violated: it rejects a number that exceeds a greatest one or
falls below a least one.  A number that lies on the line does neither exactly if it is within its
bounds.  A not-a-number violates no bound, for it compares with nothing, and is within none either; so
it passes all bounds that are set.  A number with too many digits is not accepted whatever the bounds are, as
its check cannot say so.  This is `number_accepts_iff`.
-/
namespace Conform

namespace Value

/-- Whether two values are numbers that compare in a way. -/
def Compares (holds : Quantity → Quantity → Bool) (v w : Value) : Prop :=
  ∃ p q, v.quantity? = some p ∧ w.quantity? = some q ∧ holds p q = true

/-- Whether a number is at most another, without rounding. -/
def AtMost (v w : Value) : Prop := Compares Quantity.le v w

/-- Whether a number is less than another, without rounding. -/
def LessThan (v w : Value) : Prop := Compares Quantity.lt v w

/-- Whether a value is a not-a-number. -/
def IsNan (v : Value) : Prop := v.quantity? = some .undefined

theorem compares_swap {holds : Quantity → Quantity → Bool} {v w : Value} :
    Compares (fun p q => holds q p) v w ↔ Compares holds w v := by
  constructor
  · rintro ⟨p, q, hp, hq, h⟩
    exact ⟨q, p, hq, hp, h⟩
  · rintro ⟨q, p, hq, hp, h⟩
    exact ⟨p, q, hp, hq, h⟩

theorem quantity?_of_isLimit {b : Value} (limit : b.IsLimit) :
    ∃ q, b.quantity? = some q ∧ q ≠ .undefined := by
  cases b with
  | int n => exact ⟨_, rfl, by simp [Quantity.ofInt]⟩
  | float x =>
    have defined : x.isNan = false := limit
    exact ⟨_, rfl, by simp [Binary64.quantity_eq_undefined_iff, defined]⟩
  | _ => cases limit

/-! ### Tests for a violation -/

/-- A test for a violation passes what compares with nothing, and otherwise what compares as it
should. -/
theorem compareBy_eq_false_iff {v b : Value} (number : v.isNumber = true) (limit : b.IsLimit)
    (operator : String) {test holds : Quantity → Quantity → Bool}
    (blind : ∀ q, test .undefined q = false)
    (complement : ∀ p q, p ≠ .undefined → q ≠ .undefined → test p q = !(holds p q)) :
    compareBy operator test v b = .ok false ↔ v.IsNan ∨ Compares holds v b := by
  obtain ⟨p, hp⟩ := quantity?_of_isNumber number
  obtain ⟨q, hq, defined⟩ := quantity?_of_isLimit limit
  simp only [compareBy, Compares, IsNan, hp, hq, Except.ok.injEq, Option.some.injEq,
    exists_and_left, exists_eq_left']
  by_cases undefined : p = .undefined
  · simp [undefined, blind]
  · simp [undefined, complement p q undefined defined]

section

variable {v b : Value} (number : v.isNumber = true) (limit : b.IsLimit)
include number limit

theorem exceeds_eq_false_iff : v.exceeds b = .ok false ↔ v.IsNan ∨ v.AtMost b := by
  apply compareBy_eq_false_iff number limit
  · intro q
    cases q <;> rfl
  · intro p q hp hq
    exact Quantity.lt_eq_not_le hq hp

theorem reaches_eq_false_iff : v.reaches b = .ok false ↔ v.IsNan ∨ v.LessThan b := by
  apply compareBy_eq_false_iff number limit
  · intro q
    cases q <;> rfl
  · intro p q hp hq
    rw [Quantity.lt_eq_not_le hp hq, Bool.not_not]

theorem fallsBelow_eq_false_iff : v.fallsBelow b = .ok false ↔ v.IsNan ∨ b.AtMost v := by
  rw [AtMost, ← compares_swap]
  apply compareBy_eq_false_iff number limit
  · intro q
    cases q <;> rfl
  · intro p q hp hq
    exact Quantity.lt_eq_not_le hp hq

theorem fallsTo_eq_false_iff : v.fallsTo b = .ok false ↔ v.IsNan ∨ b.LessThan v := by
  rw [LessThan, ← compares_swap]
  apply compareBy_eq_false_iff number limit
  · intro q
    cases q <;> rfl
  · intro p q hp hq
    rw [Quantity.lt_eq_not_le hq hp, Bool.not_not]

end

end Value

/-! ### All bounds of a rule -/

namespace NumberRule

/-- Whether a number compares with every bound that is set as the bound says. -/
structure Within (r : NumberRule) (v : Value) : Prop where
  maximum : ∀ b, r.maximum = some b → v.AtMost b
  exclusiveMaximum : ∀ b, r.exclusiveMaximum = some b → v.LessThan b
  minimum : ∀ b, r.minimum = some b → b.AtMost v
  exclusiveMinimum : ∀ b, r.exclusiveMinimum = some b → b.LessThan v

/-- The check of a rule accepts the numbers that violate no constraint and can be written; it has an answer
for them. -/
theorem accepts_iff_admits {r : NumberRule} {v : Value} {parent : Node} :
    (∃ n, r.check v parent = .ok n ∧ n.isValid = true) ↔
      v.isNumber = true ∧ r.Admits v ∧ v.isWritable = true := by
  constructor
  · rintro ⟨n, hn, valid⟩
    obtain ⟨number, admits⟩ := (check_isValid_iff hn).mp valid
    refine ⟨number, admits, Bool.eq_true_of_not_eq_false fun unwritable => ?_⟩
    have fails := checkConstraints_of_unwritable (p := parent)
      (fun c hc b hb => ⟨false, admits c hc b hb⟩) unwritable
    rw [check, if_pos number, fails] at hn
    cases hn
  · rintro ⟨number, admits, writable⟩
    cases h : r.check v parent with
    | ok n => exact ⟨n, rfl, (check_isValid_iff h).mpr ⟨number, admits⟩⟩
    | error f =>
      rw [check, if_pos number, checkConstraints_eq_error_iff] at h
      rcases h with ⟨before, c, after, split, -, b, option, fails⟩ | ⟨-, -, unwritable⟩
      · -- No constraint is violated, and none fails.
        have passed := admits c (by simp [split]) b option
        simp [passed] at fails
      · simp [writable] at unwritable

/-- A rule whose bounds are numbers admits the multiples that are not-a-number or within the
bounds. -/
theorem admits_iff_within {r : NumberRule} {v : Value} (number : v.isNumber = true)
    (limits : ∀ o ∈ [r.maximum, r.exclusiveMaximum, r.minimum, r.exclusiveMinimum], ∀ b,
      o = some b → b.IsLimit) :
    r.Admits v ↔ (∀ m, r.multipleOf = some m → v.isMultipleOf m = .ok true) ∧
      (v.IsNan ∨ r.Within v) := by
  simp only [List.forall_mem_cons, List.not_mem_nil, false_implies, implies_true,
    and_true] at limits
  obtain ⟨maximum, exclusiveMaximum, minimum, exclusiveMinimum⟩ := limits
  have multiple : ∀ m, (v.isMultipleOf m).map (!·) = .ok false ↔ v.isMultipleOf m = .ok true := by
    intro m
    cases v.isMultipleOf m <;> simp [Except.map]
  have within : r.Within v ↔ (∀ b, r.maximum = some b → v.AtMost b) ∧
      (∀ b, r.exclusiveMaximum = some b → v.LessThan b) ∧
      (∀ b, r.minimum = some b → b.AtMost v) ∧
      ∀ b, r.exclusiveMinimum = some b → b.LessThan v :=
    ⟨fun h => ⟨h.1, h.2, h.3, h.4⟩, fun h => ⟨h.1, h.2.1, h.2.2.1, h.2.2.2⟩⟩
  rw [admits_iff, within,
    forall₂_congr fun b hb => Value.exceeds_eq_false_iff number (maximum b hb),
    forall₂_congr fun b hb => Value.reaches_eq_false_iff number (exclusiveMaximum b hb),
    forall₂_congr fun b hb => Value.fallsBelow_eq_false_iff number (minimum b hb),
    forall₂_congr fun b hb => Value.fallsTo_eq_false_iff number (exclusiveMinimum b hb)]
  -- A not-a-number passes every test, and any other number just those of its bounds.
  by_cases nan : v.IsNan
  · simp only [nan, multiple, true_or, implies_true, and_true]
  · simp only [nan, multiple, false_or]

end NumberRule

namespace Schema

/-- **Numbers within bounds.**  A number schema whose bounds are numbers accepts a value exactly if it
is a number, no truth value, that can be written and is a multiple of the divisor, if there is one, and
either is not-a-number or lies within all bounds. -/
theorem number_accepts_iff {r : NumberRule}
    (limits : ∀ o ∈ [r.maximum, r.exclusiveMaximum, r.minimum, r.exclusiveMinimum], ∀ b,
      o = some b → b.IsLimit) (v : Value) (parent : Node) :
    (∃ n, ((number r).trace v parent).result = .ok n ∧ n.isValid = true) ↔
      v.isNumber = true ∧ v.isWritable = true ∧
        (∀ m, r.multipleOf = some m → v.isMultipleOf m = .ok true) ∧ (v.IsNan ∨ r.Within v) := by
  have whole : ((number r).trace v parent).result = r.check v parent := rfl
  rw [whole, NumberRule.accepts_iff_admits, and_comm (b := v.isWritable = true)]
  apply and_congr_right
  intro number
  rw [NumberRule.admits_iff_within number limits]

/-- The numbers above two to the power of 53 and up to infinity. -/
def large : NumberRule where
  exclusiveMinimum := some (.float (.finite false 1 53))
  maximum := some (.float (.infinite false))

theorem isLimit_large : ∀ o ∈ [large.maximum, large.exclusiveMaximum, large.minimum,
    large.exclusiveMinimum], ∀ b, o = some b → b.IsLimit := by
  simp [large, Value.IsLimit, Binary64.isNan]

/-- The first integer above the bound, which is no floating-point number, lies within the bounds. -/
theorem within_large : large.Within (.int 9007199254740993) := by
  constructor
  · rintro b ⟨⟩
    exact ⟨_, _, rfl, rfl, by decide +kernel⟩
  · rintro b ⟨⟩
  · rintro b ⟨⟩
  · rintro b ⟨⟩
    exact ⟨_, _, rfl, rfl, by decide +kernel⟩

theorem number_accepts_iff_large :
    (∀ o ∈ [large.maximum, large.exclusiveMaximum, large.minimum, large.exclusiveMinimum], ∀ b,
      o = some b → b.IsLimit) ∧ large.Within (.int 9007199254740993) ∧
    ∃ n, ((number large).trace (.int 9007199254740993) .root).result = .ok n ∧ n.isValid = true := by
  have accepts := number_accepts_iff isLimit_large (.int 9007199254740993) .root
  have accepted := accepts.mpr ⟨rfl, by decide +kernel, by simp [large], Or.inr within_large⟩
  exact ⟨isLimit_large, within_large, accepted⟩

/-- Not-a-number is accepted by a schema with a greatest number, and is not at most that number. -/
theorem nan_accepted_with_maximum :
    (number { maximum := some (.int 0) }).validate (.float (.nan 0)) = .ok true ∧
      ¬(Value.float (.nan 0)).AtMost (.int 0) := by
  refine ⟨by decide +kernel, ?_⟩
  rintro ⟨p, q, hp, hq, h⟩
  cases hp
  cases hq
  revert h
  decide +kernel

end Schema

end Conform
