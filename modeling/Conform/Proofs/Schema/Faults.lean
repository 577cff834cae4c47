import Conform.Proofs.Number.Rounding
import Conform.Proofs.Schema.Candidates
import Conform.Proofs.Schema.Written
/-!
# When a check fails

A schema is usable if its options are: numbers are bounded by numbers and divided by others than
zero, and no part is custom.  The check of a usable schema has four ways left to fail: a remainder for
which an integer has to be rounded that is too large to be; a pattern whose search goes wrong; an integer
with too many digits in what the reason shows; and the comparison of two values that both hold
themselves.  Whether one of them is met depends on which parts are looked at before: `Faults` follows the
order of the checks, and `trace_fails_iff` says that it is right about every trace.

Of an acyclic value without such integers, checked by a schema without such integers, only the first
two are left (`Faults.of_written`).
-/
namespace Conform

/-! ### Usable options -/

/-- Whether a value is a number with which numbers compare. -/
def Value.IsLimit : Value → Prop
  | .int _ => True
  | .float x => x.isNan = false
  | _ => False

/-- Whether a value is a number by which numbers can be divided. -/
def Value.IsDivisor : Value → Prop
  | .int n => n ≠ 0
  | .float x => x.isNan = false ∧ x.isZero = false
  | _ => False

/-- Whether the options of a number rule that are set are numbers that can be used. -/
structure NumberRule.IsUsable (r : NumberRule) : Prop where
  divisor : ∀ m, r.multipleOf = some m → m.IsDivisor
  limits : ∀ o ∈ [r.maximum, r.exclusiveMaximum, r.minimum, r.exclusiveMinimum], ∀ b,
    o = some b → b.IsLimit

/-- Whether the options of a schema can be used, and what it decides is not left to a predicate. -/
def Schema.IsUsable : Schema → Prop
  | number r => r.IsUsable
  | custom _ => False
  | _ => True

/-! ### Remainders -/

/-- Numbers of which one is a floating-point number and the other an integer that is too large to be
rounded to one. -/
inductive Value.OutOfRange : Value → Value → Prop where
  | dividend {n : Int} {x : Binary64} (large : Binary64.leastInfinite ≤ n.natAbs) :
      OutOfRange (.int n) (.float x)
  | divisor {x : Binary64} {n : Int} (large : Binary64.leastInfinite ≤ n.natAbs) :
      OutOfRange (.float x) (.int n)

namespace Value

theorem OutOfRange.isNumber {v m : Value} (h : v.OutOfRange m) : v.isNumber = true := by
  cases h <;> rfl

theorem OutOfRange.isMultipleOf {v m : Value} (h : v.OutOfRange m) :
    v.isMultipleOf m = .error .integerTooLarge := by
  cases h with
  | dividend large =>
    simp [Value.isMultipleOf, asInt?, quantity?, asFloat?, Binary64.ofInt?_eq_none_iff.mpr large,
      bind, Except.bind]
  | divisor large =>
    simp [Value.isMultipleOf, asInt?, quantity?, asFloat?, Binary64.ofInt?_eq_none_iff.mpr large,
      bind, Except.bind]

/-- A remainder by a divisor fails in no other way. -/
theorem isMultipleOf_of_not_outOfRange {v m : Value} (number : v.isNumber = true)
    (divisor : m.IsDivisor) (h : ¬v.OutOfRange m) : ∃ b, v.isMultipleOf m = .ok b := by
  -- What is rounded is not zero, so that a divisor stays one.
  have rounded : ∀ n : Int, ¬Binary64.leastInfinite ≤ n.natAbs → ∃ x, Binary64.ofInt? n = some x ∧
      (n ≠ 0 → x.isZero = false) := by
    intro n small
    cases hx : Binary64.ofInt? n with
    | none => exact absurd (Binary64.ofInt?_eq_none_iff.mp hx) small
    | some x => exact ⟨x, rfl, Binary64.isZero_of_ofInt? hx⟩
  cases v with
  | int a =>
    cases m with
    | int b => simp [Value.isMultipleOf, asInt?, show b ≠ 0 from divisor]
    | float y =>
      obtain ⟨x, hx, -⟩ := rounded a fun large => h (.dividend large)
      simp [Value.isMultipleOf, asInt?, quantity?, asFloat?, hx, divisor.2, bind, Except.bind]
    | _ => cases divisor
  | float x =>
    cases m with
    | int b =>
      obtain ⟨y, hy, nonzero⟩ := rounded b fun large => h (.divisor large)
      simp [Value.isMultipleOf, asInt?, quantity?, asFloat?, hy, nonzero divisor, bind, Except.bind]
    | float y =>
      simp [Value.isMultipleOf, asInt?, quantity?, asFloat?, divisor.2, bind, Except.bind]
    | _ => cases divisor
  | _ => cases number

/-- A comparison with a limit does not fail. -/
theorem compareBy_of_isLimit {v b : Value} (number : v.isNumber = true) (limit : b.IsLimit)
    (operator : String) (test : Quantity → Quantity → Bool) :
    ∃ failed, compareBy operator test v b = .ok failed := by
  obtain ⟨p, hp⟩ := quantity?_of_isNumber number
  obtain ⟨q, hq⟩ : ∃ q, b.quantity? = some q := by cases b <;> simp_all [IsLimit, quantity?]
  exact ⟨test p q, by simp [compareBy, hp, hq]⟩

end Value

/-! ### The checks of numbers -/

/-- Whether a value does not violate a constraint. -/
def Constraint.Passes (c : Constraint) (v : Value) : Prop :=
  ∀ b, c.option = some b → c.fails v b = .ok false

/-- The faults of a constraint that a value does not pass: that of the test, or that the value or the
option cannot be written. -/
def Constraint.Faults (c : Constraint) (v : Value) (f : Fault) : Prop :=
  ∃ b, c.option = some b ∧ (c.fails v b = .error f ∨
    c.fails v b = .ok true ∧ f = .integerUnwritable ∧ (v.isWritable = false ∨ b.isWritable = false))

/-- Constraints fail at the first that is not passed, or in the end at the value. -/
theorem checkConstraints_eq_error_iff {v : Value} {p : Node} {cs : List Constraint} {f : Fault} :
    checkConstraints v p cs = .error f ↔
      (∃ before c after, cs = before ++ c :: after ∧ (∀ d ∈ before, d.Passes v) ∧ c.Faults v f) ∨
        (∀ c ∈ cs, c.Passes v) ∧ f = .integerUnwritable ∧ v.isWritable = false := by
  induction cs with
  | nil =>
    rw [checkConstraints, Value.bind_writeText_eq_error_iff]
    simp
  | cons c cs ih =>
    rw [checkConstraints, exists_first_cons_iff, List.forall_mem_cons]
    -- An option that is not set can neither fail nor go wrong.
    cases hopt : c.option with
    | none =>
      have passes : c.Passes v := by simp [Constraint.Passes, hopt]
      have free : ¬c.Faults v f := by simp [Constraint.Faults, hopt]
      simp only [passes, free, true_and, false_or, ih]
    | some b =>
      have passes : c.Passes v ↔ c.fails v b = .ok false := by simp [Constraint.Passes, hopt]
      have faults : c.Faults v f ↔ c.fails v b = .error f ∨ c.fails v b = .ok true ∧
          f = .integerUnwritable ∧ (v.isWritable = false ∨ b.isWritable = false) := by
        simp [Constraint.Faults, hopt]
      rw [passes, faults]
      dsimp only
      rw [bind_eq_error_iff]
      cases hfails : c.fails v b with
      | error g => simp
      | ok failed =>
        cases failed with
        | true =>
          have shown : (do return p.reject s!"{← v.writeText} {c.words} {← b.writeText}" : Verdict) =
              .error f ↔ f = .integerUnwritable ∧ (v.isWritable = false ∨ b.isWritable = false) :=
            Value.bind_writeTexts_eq_error_iff
          simpa using shown
        | false => simpa using ih

/-- Whether every one of some constraints that is set has an answer. -/
def Constraint.Answer (cs : List Constraint) (v : Value) : Prop :=
  ∀ c ∈ cs, ∀ b, c.option = some b → ∃ failed, c.fails v b = .ok failed

/-- Whatever the answers are, the value is written. -/
theorem checkConstraints_of_unwritable {v : Value} {p : Node} {cs : List Constraint}
    (answers : Constraint.Answer cs v) (unwritable : v.isWritable = false) :
    checkConstraints v p cs = .error .integerUnwritable := by
  induction cs with
  | nil => exact Value.bind_writeText_eq_error_iff.mpr ⟨rfl, unwritable⟩
  | cons c cs ih =>
    obtain ⟨here, rest⟩ := List.forall_mem_cons.mp answers
    rw [checkConstraints]
    cases hopt : c.option with
    | none => exact ih rest
    | some b =>
      obtain ⟨failed, hfailed⟩ := here b hopt
      simp only [hfailed]
      cases failed with
      | true => exact Value.bind_writeTexts_eq_error_iff.mpr ⟨rfl, .inl unwritable⟩
      | false => exact ih rest

/-- The constraints of a usable rule have answers for the numbers that are not out of range. -/
theorem NumberRule.IsUsable.answers {r : NumberRule} (usable : r.IsUsable) {v : Value}
    (number : v.isNumber = true) (inRange : ∀ m, r.multipleOf = some m → ¬v.OutOfRange m) :
    Constraint.Answer r.constraints v := by
  have limits := usable.limits
  simp only [List.forall_mem_cons, List.not_mem_nil, false_implies, implies_true, and_true] at limits
  obtain ⟨maximum, exclusiveMaximum, minimum, exclusiveMinimum⟩ := limits
  simp only [Constraint.Answer, constraints, List.forall_mem_cons, List.not_mem_nil, false_implies, implies_true,
    and_true]
  refine ⟨fun m hm => ?_, fun b hb => ?_, fun b hb => ?_, fun b hb => ?_, fun b hb => ?_⟩
  · obtain ⟨b, hb⟩ :=
      Value.isMultipleOf_of_not_outOfRange number (usable.divisor m hm) (inRange m hm)
    exact ⟨!b, by rw [hb]; rfl⟩
  · exact Value.compareBy_of_isLimit number (maximum b hb) ..
  · exact Value.compareBy_of_isLimit number (exclusiveMaximum b hb) ..
  · exact Value.compareBy_of_isLimit number (minimum b hb) ..
  · exact Value.compareBy_of_isLimit number (exclusiveMinimum b hb) ..

/-- The faults of the check of a number.  A remainder is taken first of all, and whatever comes of the
constraints, the value is written; the option is written that is the first to be violated. -/
inductive NumberRule.Faults (r : NumberRule) (v : Value) : Fault → Prop where
  | remainder {m : Value} (divisor : r.multipleOf = some m) (out : v.OutOfRange m) :
      Faults r v .integerTooLarge
  | value (inRange : ∀ m, r.multipleOf = some m → ¬v.OutOfRange m)
      (unwritable : v.isWritable = false) : Faults r v .integerUnwritable
  | bound {before : List Constraint} {c : Constraint} {after : List Constraint} {b : Value}
      (number : v.isNumber = true) (split : r.constraints = before ++ c :: after)
      (passed : ∀ d ∈ before, d.Passes v) (option : c.option = some b)
      (violated : c.fails v b = .ok true) (unwritable : b.isWritable = false) :
      Faults r v .integerUnwritable

/-- The first constraint that is checked is the remainder. -/
theorem NumberRule.check_of_outOfRange {r : NumberRule} {v m : Value} (hm : r.multipleOf = some m)
    (out : v.OutOfRange m) (p : Node) : r.check v p = .error .integerTooLarge := by
  simp only [NumberRule.check, out.isNumber, if_true, constraints, checkConstraints, hm,
    out.isMultipleOf]
  rfl

theorem NumberRule.IsUsable.check_eq_error_iff {r : NumberRule} (usable : r.IsUsable) {v : Value}
    {p : Node} {f : Fault} : r.check v p = .error f ↔ r.Faults v f := by
  constructor
  · intro h
    -- The remainder comes before any complaint is written, so a value out of its range fails with it alone.
    by_cases out : ∃ m, r.multipleOf = some m ∧ v.OutOfRange m
    · obtain ⟨m, hm, out⟩ := out
      rw [check_of_outOfRange hm out] at h
      cases h
      exact .remainder hm out
    have inRange : ∀ m, r.multipleOf = some m → ¬v.OutOfRange m := fun m hm h => out ⟨m, hm, h⟩
    unfold NumberRule.check at h
    cases number : v.isNumber with
    | false =>
      rw [number, if_neg Bool.false_ne_true] at h
      obtain ⟨rfl, unwritable⟩ := Value.bind_writeLiteral_eq_error_iff.mp h
      exact .value inRange unwritable
    | true =>
      rw [number, if_pos rfl] at h
      rcases checkConstraints_eq_error_iff.mp h with
        ⟨before, c, after, split, passed, b, option, fails | ⟨violated, rfl, unwritable⟩⟩ |
        ⟨-, rfl, unwritable⟩
      · -- In range, every constraint has an answer.
        obtain ⟨failed, answer⟩ := usable.answers number inRange c (by simp [split]) b option
        rw [answer] at fails
        cases fails
      · rcases unwritable with unwritable | unwritable
        · exact .value inRange unwritable
        · exact .bound number split passed option violated unwritable
      · exact .value inRange unwritable
  · rintro (⟨hm, out⟩ | ⟨inRange, unwritable⟩ | ⟨number, split, passed, option, violated, unwritable⟩)
    · exact check_of_outOfRange hm out p
    · unfold NumberRule.check
      split
      · rename_i number
        exact checkConstraints_of_unwritable (usable.answers number inRange) unwritable
      · exact Value.bind_writeLiteral_eq_error_iff.mpr ⟨rfl, unwritable⟩
    · rw [NumberRule.check, if_pos number, checkConstraints_eq_error_iff]
      exact .inl ⟨_, _, _, split, passed, _, option, .inr ⟨violated, rfl, .inr unwritable⟩⟩

/-! ### The checks of texts and sizes -/

/-- Whether a text is within the bounds, and its search for the pattern goes wrong. -/
structure StringRule.GoesWrong (r : StringRule) (s : String) : Prop where
  longEnough : r.minLength ≤ s.length
  shortEnough : ∀ m, r.maxLength = some m → (s.length : Int) ≤ m
  search : ∃ q, r.pattern = some q ∧ q.isFoundIn? s = none

/-- The faults of the check of a text. -/
inductive StringRule.Faults (r : StringRule) : Value → Fault → Prop where
  | value {v : Value} (other : ∀ s, v ≠ .str s) (unwritable : v.isWritable = false) :
      Faults r v .integerUnwritable
  | tooShort {s : String} (short : (s.length : Int) < r.minLength)
      (unwritable : (Value.int r.minLength).isWritable = false) : Faults r (.str s) .integerUnwritable
  | tooLong {s : String} {m : Int} (longEnough : r.minLength ≤ s.length) (bound : r.maxLength = some m)
      (long : m < s.length) (unwritable : (Value.int m).isWritable = false) :
      Faults r (.str s) .integerUnwritable
  | search {s : String} (wrong : r.GoesWrong s) : Faults r (.str s) .reversedGroup

theorem StringRule.check_eq_error_iff {r : StringRule} {v : Value} {p : Node} {f : Fault} :
    r.check v p = .error f ↔ r.Faults v f := by
  have whole (h : ∀ s, v ≠ .str s) : r.Faults v f ↔ f = .integerUnwritable ∧ v.isWritable = false := by
    constructor
    · rintro (⟨-, unwritable⟩ | _ | _ | _)
      · exact ⟨rfl, unwritable⟩
      all_goals exact absurd rfl (h _)
    · rintro ⟨rfl, unwritable⟩
      exact .value h unwritable
  cases v with
  | str s =>
    simp only [StringRule.check]
    by_cases short : (s.length : Int) < r.minLength
    · rw [if_pos short, Value.bind_writeText_eq_error_iff]
      constructor
      · rintro ⟨rfl, unwritable⟩
        exact .tooShort short unwritable
      · rintro (⟨other, -⟩ | ⟨-, unwritable⟩ | ⟨enough, -, -, -⟩ | ⟨wrong⟩)
        · exact absurd rfl (other s)
        · exact ⟨rfl, unwritable⟩
        · omega
        · have := wrong.longEnough
          omega
    rw [if_neg short]
    by_cases long : ∃ m, r.maxLength = some m ∧ m < (s.length : Int)
    · obtain ⟨m, bound, long⟩ := long
      rw [if_pos (by simp [bound, long]), bound, Option.getD_some, Value.bind_writeText_eq_error_iff]
      constructor
      · rintro ⟨rfl, unwritable⟩
        exact .tooLong (by omega) bound long unwritable
      · rintro (⟨other, -⟩ | ⟨few, -⟩ | ⟨-, bound', -, unwritable⟩ | ⟨wrong⟩)
        · exact absurd rfl (other s)
        · omega
        · obtain rfl := Option.some.inj (bound.symm.trans bound')
          exact ⟨rfl, unwritable⟩
        · have := wrong.shortEnough m bound
          omega
    · have bounds : ∀ m, r.maxLength = some m → (s.length : Int) ≤ m := fun m hm =>
        Int.not_lt.mp fun h => long ⟨m, hm, h⟩
      rw [if_neg (by simpa using any_lt_eq_false_iff.mpr bounds)]
      -- A text within the bounds is searched, if there is a pattern.
      have meaning : r.Faults (.str s) f ↔
          f = .reversedGroup ∧ ∃ q, r.pattern = some q ∧ q.isFoundIn? s = none := by
        constructor
        · rintro (⟨other, -⟩ | ⟨few, -⟩ | ⟨-, bound, many, -⟩ | ⟨wrong⟩)
          · exact absurd rfl (other s)
          · omega
          · exact absurd ⟨_, bound, many⟩ long
          · exact ⟨rfl, wrong.search⟩
        · rintro ⟨rfl, search⟩
          exact .search ⟨by omega, bounds, search⟩
      rw [meaning]
      cases hpattern : r.pattern with
      | none => simp
      | some q =>
        cases hfound : q.isFoundIn? s with
        | none => simp [Pattern.check, hfound, eq_comm]
        | some found => cases found <;> simp [Pattern.check, hfound]
  | _ =>
    rw [whole (by simp)]
    exact Value.bind_writeLiteral_eq_error_iff

/-- The faults of the check of a size. -/
inductive SizeRule.Faults (r : SizeRule) (items : List Value) : Fault → Prop where
  | tooFew (few : (items.length : Int) < r.minItems)
      (unwritable : (Value.int r.minItems).isWritable = false) : Faults r items .integerUnwritable
  | tooMany {m : Int} (manyEnough : r.minItems ≤ items.length) (bound : r.maxItems = some m)
      (many : m < items.length) (unwritable : (Value.int m).isWritable = false) :
      Faults r items .integerUnwritable
  | comparison {f : Fault} (manyEnough : r.minItems ≤ items.length)
      (fewEnough : ∀ m, r.maxItems = some m → (items.length : Int) ≤ m) (unique : r.uniqueItems = true)
      (endless : Value.count items = .error f) : Faults r items f

theorem SizeRule.check_eq_error_iff {r : SizeRule} {items : List Value} {f : Fault} :
    r.check items = .error f ↔ r.Faults items f := by
  simp only [check]
  by_cases few : (items.length : Int) < r.minItems
  · rw [if_pos few, Value.bind_writeText_eq_error_iff]
    constructor
    · rintro ⟨rfl, unwritable⟩
      exact .tooFew few unwritable
    · rintro (⟨-, unwritable⟩ | ⟨enough, -, -, -⟩ | ⟨enough, -, -, -⟩)
      · exact ⟨rfl, unwritable⟩
      · omega
      · omega
  rw [if_neg few]
  by_cases many : ∃ m, r.maxItems = some m ∧ m < (items.length : Int)
  · obtain ⟨m, bound, many⟩ := many
    rw [if_pos (by simp [bound, many]), bound, Option.getD_some, Value.bind_writeText_eq_error_iff]
    constructor
    · rintro ⟨rfl, unwritable⟩
      exact .tooMany (by omega) bound many unwritable
    · rintro (⟨few, -⟩ | ⟨-, bound', -, unwritable⟩ | ⟨-, enough, -, -⟩)
      · omega
      · obtain rfl := Option.some.inj (bound.symm.trans bound')
        exact ⟨rfl, unwritable⟩
      · have := enough m bound
        omega
  have bounds : ∀ m, r.maxItems = some m → (items.length : Int) ≤ m := fun m hm =>
    Int.not_lt.mp fun h => many ⟨m, hm, h⟩
  rw [if_neg (by simpa using any_lt_eq_false_iff.mpr bounds)]
  -- Within the bounds only the comparisons are left.
  have meaning : r.Faults items f ↔ r.uniqueItems = true ∧ Value.count items = .error f := by
    constructor
    · rintro (⟨few, -⟩ | ⟨-, bound, many', -⟩ | ⟨-, -, unique, endless⟩)
      · omega
      · exact absurd ⟨_, bound, many'⟩ many
      · exact ⟨unique, endless⟩
    · rintro ⟨unique, endless⟩
      exact .comparison (by omega) bounds unique endless
  rw [meaning]
  cases r.uniqueItems with
  | false => simp [pure, Except.pure]
  | true =>
    rw [if_pos rfl, bind_eq_error_iff]
    simp only [true_and]
    refine or_iff_left ?_
    rintro ⟨distinct, -, h⟩
    split at h <;> cases h

theorem Value.areWritableKeys_iff {v : Value} :
    (v.entries?.getD []).all (·.1.isWritable) = true ↔
      ∀ es, v.entries? = some es → ∀ e ∈ es, e.1.isWritable = true := by
  rw [List.all_eq_true]
  cases v.entries? <;> simp

theorem Value.label_eq_error_iff {v : Value} {f : Fault} : v.label = .error f ↔
    f = .integerUnwritable ∧ ∃ es, v.entries? = some es ∧ ∃ e ∈ es, e.1.isWritable = false := by
  unfold label
  split
  · rename_i written
    refine iff_of_false nofun ?_
    rintro ⟨-, es, entries, e, entry, unwritable⟩
    rw [areWritableKeys_iff.mp written es entries e entry] at unwritable
    cases unwritable
  · rename_i unwritable
    rw [areWritableKeys_iff] at unwritable
    simp only [not_forall, Bool.not_eq_true, exists_prop] at unwritable
    constructor
    · rintro ⟨⟩
      exact ⟨rfl, unwritable⟩
    · rintro ⟨rfl, -⟩
      rfl

theorem Value.label_eq_ok_iff {v : Value} {labelled : Option (List (String × Value))} :
    v.label = .ok labelled ↔ v.labelled? = labelled ∧
      ∀ es, v.entries? = some es → ∀ e ∈ es, e.1.isWritable = true := by
  rw [← areWritableKeys_iff, label]
  split
  · rename_i written
    simp [written]
  · rename_i unwritable
    exact iff_of_false nofun fun h => unwritable h.2

theorem NumberRule.isWritable_of_option {r : NumberRule} (h : (Schema.number r).isWritable true = true)
    {c : Constraint} (hc : c ∈ r.constraints) {b : Value} (option : c.option = some b) :
    b.isWritable = true := by
  refine Value.areWritable_iff.mp h b ?_
  simp only [constraints, List.mem_cons, List.not_mem_nil, or_false] at hc
  rcases hc with rfl | rfl | rfl | rfl | rfl <;> simp_all [options]

theorem isWritable_of_numbers {n : Int} {m : Option Int}
    (h : Value.areWritable (.int n :: m.toList.map .int) = true) :
    (Value.int n).isWritable = true ∧ ∀ k, m = some k → (Value.int k).isWritable = true := by
  rw [Value.areWritable_iff, List.forall_mem_cons] at h
  exact ⟨h.1, fun k hk => h.2 _ (by simp [hk])⟩

/-- The size of acyclic values is checked if its bounds can be written. -/
theorem SizeRule.not_faults {r : SizeRule} {items : List Value} {f : Fault}
    (written : Value.areWritable r.numbers = true) (trees : ∀ x ∈ items, x.isTree = true) :
    ¬r.Faults items f := by
  obtain ⟨least, greatest⟩ := isWritable_of_numbers written
  rintro (⟨-, unwritable⟩ | ⟨-, bound, -, unwritable⟩ | ⟨-, -, -, endless⟩)
  · simp [least] at unwritable
  · simp [greatest _ bound] at unwritable
  · obtain ⟨-, v, hv, w, -, endless⟩ := Value.of_count_eq_error endless
    rw [Value.isEndless_of_isTree (.inl (trees v hv))] at endless
    cases endless

namespace Schema

/-! ### Faults -/

/-- The faults that the check of a value meets. -/
inductive Faults : Schema → Value → Fault → Prop where
  | string {r : StringRule} {v : Value} {f : Fault} (fault : r.Faults v f) : Faults (string r) v f
  | number {r : NumberRule} {v : Value} {f : Fault} (fault : r.Faults v f) : Faults (number r) v f
  | enumeration {candidates : List Value} {v : Value} {f : Fault} (fault : CandidateFaults candidates v f) :
      Faults (enumeration candidates) v f
  | unwrapped {v : Value} (unwritable : v.isWritable = false) :
      Faults (optional none) v .integerUnwritable
  | object {fields : List (String × Schema)} {strict : Bool} {v : Value} (other : v.fields? = none)
      (unwritable : v.isWritable = false) : Faults (object fields strict) v .integerUnwritable
  | key {element : Schema} {r : SizeRule} {v : Value} {es : List (Value × Value)} {e : Value × Value}
      (entries : v.entries? = some es) (entry : e ∈ es) (unwritable : e.1.isWritable = false) :
      Faults (collection element r) v .integerUnwritable
  | collection {element : Schema} {r : SizeRule} {v : Value} (other : v.elements? = none)
      (unwritable : v.isWritable = false) : Faults (collection element r) v .integerUnwritable
  | array {element : Schema} {r : SizeRule} {v : Value} (other : v.items? = none)
      (unwritable : v.isWritable = false) : Faults (array element r) v .integerUnwritable
  | collectionSize {element : Schema} {r : SizeRule} {v : Value} {items : List Value} {f : Fault}
      (written : ∀ es, v.entries? = some es → ∀ e ∈ es, e.1.isWritable = true)
      (elements : v.elements? = some items) (fault : r.Faults items f) :
      Faults (collection element r) v f
  | arraySize {element : Schema} {r : SizeRule} {v : Value} {items : List Value} {f : Fault}
      (sequence : v.items? = some items) (fault : r.Faults items f) : Faults (array element r) v f
  | part {s : Schema} {v : Value} {before : List Check} {c : Check} {after : List Check} {f : Fault}
      (parts : s.parts? v = some (before ++ c :: after))
      (passed : ∀ b ∈ before, b.validate = .ok true) (fault : Faults c.schema c.value f) :
      Faults s v f
  | member {before : List Schema} {s : Schema} {after : List Schema} {v : Value} {f : Fault}
      (rejected : ∀ t ∈ before, t.validate v = .ok false) (fault : Faults s v f) :
      Faults (union (before ++ s :: after)) v f
  | descriptions {members : List Schema} {v : Value} (rejected : ∀ s ∈ members, s.validate v = .ok false)
      (unwritable : areWritable false members = false) : Faults (union members) v .integerUnwritable

/-- A union fails at the first member that does not reject, or in the end at the descriptions. -/
theorem validate_union_eq_error_iff {members : List Schema} {v : Value} {f : Fault} :
    (union members).validate v = .error f ↔
      (∃ before s after, members = before ++ s :: after ∧ (∀ t ∈ before, t.validate v = .ok false) ∧
        s.validate v = .error f) ∨
      (∀ s ∈ members, s.validate v = .ok false) ∧ f = .integerUnwritable ∧
        areWritable false members = false := by
  rw [validate_union, bind_eq_error_iff, anyM_eq_error_iff, ← anyM_eq_false_iff]
  refine or_congr_right ⟨?_, ?_⟩
  · rintro ⟨accepted, hmembers, h⟩
    cases accepted with
    | true => cases h
    | false =>
      refine ⟨hmembers, ?_⟩
      unfold writeDescriptions at h
      cases hwritten : areWritable false members <;> simp_all [Except.map]
  · rintro ⟨hmembers, rfl, unwritable⟩
    exact ⟨false, hmembers, by simp [writeDescriptions, unwritable, Except.map]⟩

theorem traceCollection_of_faults {step : Value → Node → Traced Node} {r : SizeRule} {p : Node}
    {entries : List (String × Value)} {f : Fault} (fault : r.Faults (entries.map (·.2)) f) :
    (traceCollection step r p entries).result = .error f := by
  rw [traceCollection, SizeRule.check_eq_error_iff.mpr fault]
  rfl

/-- Where the size keeps the elements from being looked at, it is the size that fails. -/
theorem faults_of_traceCollection {step : Value → Node → Traced Node} {r : SizeRule} {p : Node}
    {entries : List (String × Value)} {f : Fault} (size : r.check (entries.map (·.2)) ≠ .ok none)
    (h : (traceCollection step r p entries).result = .error f) : r.Faults (entries.map (·.2)) f := by
  rw [← SizeRule.check_eq_error_iff]
  unfold traceCollection at h
  split at h
  · rename_i hcheck
    cases h
    exact hcheck
  · cases h
  · rename_i hcheck
    exact absurd hcheck size

/-- A fault that is met is what the check comes to. -/
theorem Faults.validate {s : Schema} {v : Value} {f : Fault} (usable : s.Everywhere IsUsable)
    (h : s.Faults v f) : s.validate v = .error f := by
  induction h with
  | string fault => exact (result_eq_error_iff .root).mp (StringRule.check_eq_error_iff.mpr fault)
  | number fault =>
    exact (result_eq_error_iff .root).mp ((NumberRule.IsUsable.check_eq_error_iff usable.here).mpr fault)
  | enumeration fault => exact (result_eq_error_iff .root).mp (checkEnumeration_eq_error_iff.mpr fault)
  | @unwrapped v unwritable =>
    -- A null can be written.
    have present : v.isNull = false := by
      cases v <;> first | rfl | cases unwritable
    rw [← result_eq_error_iff .root, trace, if_neg (by simp [present])]
    exact Value.bind_writeLiteral_eq_error_iff.mpr ⟨rfl, unwritable⟩
  | object other unwritable =>
    rw [← result_eq_error_iff .root, trace, other]
    exact Value.bind_writeLiteral_eq_error_iff.mpr ⟨rfl, unwritable⟩
  | key entries entry unwritable =>
    rw [← result_eq_error_iff .root, trace,
      Value.label_eq_error_iff.mpr ⟨rfl, _, entries, _, entry, unwritable⟩]
    rfl
  | @collection element r v other unwritable =>
    have none : v.labelled? = none := by
      rw [Value.elements?_eq_labelled?, Option.map_eq_none_iff] at other
      exact other
    have entries : v.entries? = Option.none := by
      cases hes : v.entries? with
      | none => rfl
      | some es =>
        rw [Value.elements?_of_entries? hes] at other
        cases other
    rw [← result_eq_error_iff .root, trace, Value.label_eq_ok_iff.mpr ⟨none, by simp [entries]⟩]
    exact Value.bind_writeLiteral_eq_error_iff.mpr ⟨rfl, unwritable⟩
  | @array element r v other unwritable =>
    have sequence : v.isSequence = false := by rw [Value.isSequence, other]; rfl
    rw [← result_eq_error_iff .root, trace, if_neg (by simp [sequence])]
    exact Value.bind_writeLiteral_eq_error_iff.mpr ⟨rfl, unwritable⟩
  | @collectionSize element r v items f written elements fault =>
    rw [Value.elements?_eq_labelled?] at elements
    obtain ⟨entries, labelled, rfl⟩ := Option.map_eq_some_iff.mp elements
    rw [← result_eq_error_iff .root, trace, Value.label_eq_ok_iff.mpr ⟨labelled, written⟩]
    exact traceCollection_of_faults fault
  | @arraySize element r v items f hitems fault =>
    have elements := Value.elements?_of_items? hitems
    rw [Value.elements?_eq_labelled?] at elements
    obtain ⟨entries, labelled, rfl⟩ := Option.map_eq_some_iff.mp elements
    have sequence : v.isSequence = true := by rw [Value.isSequence, hitems]; rfl
    rw [← result_eq_error_iff .root, trace, if_pos sequence, labelled, Option.getD_some]
    exact traceCollection_of_faults fault
  -- The parts before the one that fails have passed, so it is reached.
  | part parts passed _ ih =>
    rw [validate_of_parts? parts, allM_eq_error_iff]
    have child := mem_children_of_parts? parts _ List.mem_append_cons_self
    exact ⟨_, _, _, rfl, passed, ih (usable.child _ child)⟩
  | member rejected _ ih =>
    rw [validate_union_eq_error_iff]
    exact .inl ⟨_, _, _, rfl, rejected, ih (usable.child _ (by simp [children]))⟩
  | descriptions rejected unwritable =>
    exact validate_union_eq_error_iff.mpr (.inr ⟨rejected, rfl, unwritable⟩)

/-- The faults of a usable schema that judges a value as a whole and is no union. -/
theorem faults_of_whole {s : Schema} {v : Value} {f : Fault} (usable : s.IsUsable)
    (whole : s.parts? v = none) (h : (s.trace v .root).result = .error f)
    (other : ∀ members, s ≠ union members) : s.Faults v f := by
  cases s with
  | type t => cases h
  | string r => exact .string (StringRule.check_eq_error_iff.mp h)
  | number r => exact .number ((NumberRule.IsUsable.check_eq_error_iff usable).mp h)
  | enumeration candidates => exact .enumeration (checkEnumeration_eq_error_iff.mp h)
  | optional wrapped =>
    cases hnull : v.isNull with
    | true => cases wrapped <;> rw [trace, if_pos hnull] at h <;> cases h
    | false =>
      cases wrapped with
      | none =>
        rw [trace, if_neg (by simp [hnull])] at h
        obtain ⟨rfl, unwritable⟩ := Value.bind_writeLiteral_eq_error_iff.mp h
        exact .unwrapped unwritable
      -- A wrapped schema would be a part.
      | some s => simp [parts?, hnull] at whole
  | union members => exact absurd rfl (other members)
  | intersection members => cases whole
  | object fields strict =>
    cases hfields : v.fields? with
    | none =>
      simp only [trace, hfields] at h
      obtain ⟨rfl, unwritable⟩ := Value.bind_writeLiteral_eq_error_iff.mp h
      exact .object hfields unwritable
    | some entries =>
      -- There are no parts to check only if other keys reject the map, which fails with nothing.
      have others : (strict && !(extraneous fields entries).isEmpty) = true := by
        simpa [parts?, hfields] using whole
      simp only [trace, hfields, others, if_true] at h
      cases h
  | collection element r =>
    cases hlabel : v.label with
    | error g =>
      simp only [trace, hlabel] at h
      cases h
      -- The keys are written for the paths before anything is checked.
      obtain ⟨rfl, es, entries, e, entry, unwritable⟩ := Value.label_eq_error_iff.mp hlabel
      exact .key entries entry unwritable
    | ok labelled =>
      obtain ⟨hlabelled, written⟩ := Value.label_eq_ok_iff.mp hlabel
      have elements := Value.elements?_eq_labelled? v
      cases labelled with
      | none =>
        simp only [trace, hlabel] at h
        obtain ⟨rfl, unwritable⟩ := Value.bind_writeLiteral_eq_error_iff.mp h
        exact .collection (by rw [elements, hlabelled]; rfl) unwritable
      | some entries =>
        simp only [trace, hlabel] at h
        simp only [parts?, hlabel] at whole
        exact .collectionSize written (by rw [elements, hlabelled]; rfl)
          (faults_of_traceCollection (elementChecks?_eq_none_iff.mp whole) h)
  | array element r =>
    cases sequence : v.isSequence with
    | false =>
      rw [trace, if_neg (by simp [sequence])] at h
      obtain ⟨rfl, unwritable⟩ := Value.bind_writeLiteral_eq_error_iff.mp h
      exact .array (Option.not_isSome_iff_eq_none.mp (by simpa [Value.isSequence] using sequence)) unwritable
    | true =>
      obtain ⟨items, hitems⟩ := Option.isSome_iff_exists.mp sequence
      obtain ⟨entries, labelled⟩ := exists_labelled sequence
      have elements : some items = some (entries.map (·.2)) := by
        rw [← Value.elements?_of_items? hitems, Value.elements?_eq_labelled?, labelled]
        rfl
      obtain rfl := Option.some.inj elements
      rw [trace, if_pos sequence, labelled] at h
      rw [parts?, if_pos sequence, labelled] at whole
      exact .arraySize hitems (faults_of_traceCollection (elementChecks?_eq_none_iff.mp whole) h)
  | custom q => cases usable

/-- The check of a usable schema comes to no other faults. -/
theorem Everywhere.faults {s : Schema} (usable : s.Everywhere IsUsable) {v : Value} {f : Fault}
    (h : s.validate v = .error f) : s.Faults v f := by
  -- The induction is on the parts of the schema; the value changes with them.
  induction usable generalizing v f with
  | @intro s here below ih =>
    cases parts : s.parts? v with
    | some checks =>
      rw [validate_of_parts? parts, allM_eq_error_iff] at h
      obtain ⟨before, c, after, rfl, passed, fault⟩ := h
      have child := mem_children_of_parts? parts c (by simp)
      exact .part parts passed (ih _ child fault)
    | none =>
      by_cases union? : ∃ members, s = union members
      · obtain ⟨members, rfl⟩ := union?
        rcases validate_union_eq_error_iff.mp h with
          ⟨before, t, after, rfl, rejected, fault⟩ | ⟨rejected, rfl, unwritable⟩
        · exact .member rejected (ih t (by simp [children]) fault)
        · exact .descriptions rejected unwritable
      · exact faults_of_whole here parts ((result_eq_error_iff .root).mpr h)
          fun members heq => union? ⟨members, heq⟩

/-! ### Faults of what can be written -/

/-- The check of an acyclic value fails for nothing else than a remainder out of range or a search that goes
wrong, if everything in the value and in the schema can be written. -/
theorem Faults.of_written {s : Schema} {v : Value} {f : Fault} (h : s.Faults v f)
    (schema : s.isWritable true = true) (value : v.IsWritten) :
    f = .integerTooLarge ∨ f = .reversedGroup := by
  have written := value.isWritable
  induction h with
  | @string r v f fault =>
    obtain ⟨least, greatest⟩ := isWritable_of_numbers schema
    rcases fault with ⟨-, unwritable⟩ | ⟨-, unwritable⟩ | ⟨-, bound, -, unwritable⟩ | -
    · simp [written] at unwritable
    · simp [least] at unwritable
    · simp [greatest _ bound] at unwritable
    · exact .inr rfl
  | number fault =>
    rcases fault with - | ⟨-, unwritable⟩ | ⟨-, split, -, option, -, unwritable⟩
    · exact .inl rfl
    · simp [written] at unwritable
    · simp [NumberRule.isWritable_of_option schema (by simp [split]) option] at unwritable
  | enumeration fault =>
    rcases fault with ⟨candidate, unwritable⟩ | ⟨-, -, -, endless⟩ | ⟨-, -, unwritable⟩
    · simp [Value.areWritable_iff.mp schema _ candidate] at unwritable
    · simp [Value.isEndless_of_isTree (.inl value.isTree)] at endless
    · simp [written] at unwritable
  | unwrapped unwritable => simp [written] at unwritable
  | object _ unwritable => simp [written] at unwritable
  | key entries entry unwritable => simp [value.key entries _ entry] at unwritable
  | collection _ unwritable => simp [written] at unwritable
  | array _ unwritable => simp [written] at unwritable
  | collectionSize _ elements fault =>
    exact absurd fault (SizeRule.not_faults (Bool.and_eq_true_iff.mp schema).2
      fun x hx => (value.elements elements x hx).isTree)
  | arraySize sequence fault =>
    have elements := Value.elements?_of_items? sequence
    exact absurd fault (SizeRule.not_faults (Bool.and_eq_true_iff.mp schema).2
      fun x hx => (value.elements elements x hx).isTree)
  -- What can be written is handed down to the parts, on both sides.
  | part parts _ _ ih =>
    have part := (parts_of_parts? parts).forall_value (P := Value.IsWritten) ⟨rfl, rfl⟩
      (fun _ hv _ => hv.elements) value _ List.mem_append_cons_self
    have child := mem_children_of_parts? parts _ List.mem_append_cons_self
    exact ih (isWritable_child schema _ child) part part.isWritable
  | member _ _ ih => exact ih (isWritable_child schema _ (by simp [children])) value written
  | descriptions _ unwritable =>
    have described : areWritable false _ = true := isWritable_of_inFull schema
    simp [described] at unwritable

/-- **When a check fails.**  The trace of a usable schema fails with a fault exactly if the fault is
met on the way, and if none is met it returns a node.  Of an acyclic value, none is met but at a remainder
out of range or at a search that goes wrong, as long as no integer in the value or in the schema has too
many digits. -/
theorem trace_fails_iff {s : Schema} (usable : s.Everywhere IsUsable) (v : Value) (p : Node) :
    (∀ f, (s.trace v p).result = .error f ↔ s.Faults v f) ∧
    ((∀ f, ¬s.Faults v f) → ∃ n, (s.trace v p).result = .ok n) ∧
    (s.isWritable true = true → v.IsWritten → ∀ f, s.Faults v f →
      f = .integerTooLarge ∨ f = .reversedGroup) := by
  -- Whether a trace fails does not depend on the parent, and the verdict alone is easier to follow.
  have exact : ∀ f, (s.trace v p).result = .error f ↔ s.Faults v f := fun f =>
    (result_eq_error_iff p).trans ⟨usable.faults, Faults.validate usable⟩
  refine ⟨exact, fun none => ?_, fun schema value f fault => fault.of_written schema value⟩
  cases h : (s.trace v p).result with
  | error f => exact absurd ((exact f).mp h) (none f)
  | ok n => exact ⟨n, rfl⟩

/-- A number that is a multiple of a half. -/
def half : Schema := number { multipleOf := some (.float (.finite false 1 (-1))) }

/-- A multiple of a half, or a list of such numbers. -/
def halves : Schema := union [half, array half {}]

theorem isUsable_halves : halves.Everywhere IsUsable := by
  have usable : half.Everywhere IsUsable := by
    refine .intro ⟨fun m hm => ?_, by simp⟩ (by simp [half, children])
    cases hm
    exact ⟨rfl, rfl⟩
  have elements : (array half {}).Everywhere IsUsable :=
    .intro trivial (by simpa [children] using usable)
  exact .intro trivial (by simpa [halves, children] using ⟨usable, elements⟩)

theorem trace_fails_iff_halves : halves.Everywhere IsUsable ∧
    halves.Faults (.list [.int (Nat.pow 10 400)]) .integerTooLarge ∧
    (∀ f, ¬halves.Faults (.list [.int 1, .int 2]) f) ∧ halves.isWritable true = true ∧
    (Value.list [.int (Nat.pow 10 400)]).IsWritten ∧
    ∃ n, (halves.trace (.list [.int 1, .int 2]) .root).result = .ok n := by
  have met := trace_fails_iff isUsable_halves (.list [.int (Nat.pow 10 400)]) .root
  have free := trace_fails_iff isUsable_halves (.list [.int 1, .int 2]) .root
  -- Whole numbers are multiples of a half, and so their check has an answer.
  have none : ∀ f, ¬halves.Faults (.list [.int 1, .int 2]) f := by
    intro f fault
    have accepted : halves.validate (.list [.int 1, .int 2]) = .ok true := by decide +kernel
    rw [fault.validate isUsable_halves] at accepted
    cases accepted
  exact ⟨isUsable_halves, (met.1 _).mp (by decide +kernel), none, by decide +kernel,
    ⟨by decide +kernel, by decide +kernel⟩, free.2.1 none⟩

/-- The trace of a usable schema fails at an integer of 401 digits. -/
theorem trace_fails_at_large_integer : halves.Everywhere IsUsable ∧
    (halves.trace (.int (Nat.pow 10 400)) .root).result = .error .integerTooLarge :=
  ⟨isUsable_halves, by decide +kernel⟩

end Schema

end Conform
