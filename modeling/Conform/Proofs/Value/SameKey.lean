import Conform.Proofs.Number.Rounding
import Conform.Proofs.Value.Equality
import Conform.Schema.Number
/-!
# Values that are the same key

Two values that are the same key compare with numbers alike.  They are divisors of the same numbers
too, unless one is an integer and the other a floating-point number, for which an integer is rounded
before it is divided.  And they equal the same instances, unless a boolean in one of them is a number
in the other.
-/
namespace Conform.Value

theorem quantity?_of_sameKey {v w : Value} (h : sameKey v w = true) :
    v.quantity? = w.quantity? := by
  cases v with
  | list xs =>
    obtain ⟨ys, rfl, -⟩ := sameKey_list_iff.mp h
    rfl
  | tuple xs =>
    obtain ⟨ys, rfl, -⟩ := sameKey_tuple_iff.mp h
    rfl
  | map es =>
    obtain ⟨fs, rfl, -⟩ := sameKey_map_iff.mp h
    rfl
  | set xs =>
    obtain ⟨ys, rfl, -⟩ := sameKey_set_iff.mp h
    rfl
  | loop l body =>
    rw [sameKey_loop] at h
    cases h
  | back l =>
    rw [sameKey_back] at h
    cases h
  -- The rest are scalars, which are the same key if they are of one class.
  | _ =>
    have key := (sameKey_iff_keyClass? rfl w).mp h
    cases w <;> simp_all [keyClass?, quantity?]

theorem compareBy_of_sameKey {v b c : Value} (h : sameKey b c = true) (operator : String)
    (test : Quantity → Quantity → Bool) (failed : Bool) :
    compareBy operator test v b = .ok failed ↔ compareBy operator test v c = .ok failed := by
  unfold compareBy
  rw [quantity?_of_sameKey h]
  cases v.quantity? <;> cases c.quantity? <;> simp

/-! ### Remainders -/

/-- Whether an integer is the value of a floating-point number. -/
def IsExact (n : Int) : Prop := ∃ x, Binary64.ofInt? n = some x ∧ x.quantity = .ofInt n

@[simp] theorem asInt?_float (x : Binary64) : (float x).asInt? = none := rfl

@[simp] theorem asFloat?_float (x : Binary64) : (float x).asFloat? = .ok (some x) := rfl

theorem quantity?_float (x : Binary64) : (float x).quantity? = some x.quantity := rfl

theorem asFloat?_of_asInt? {v : Value} {n : Int} (h : v.asInt? = some n) {x : Binary64}
    (hx : Binary64.ofInt? n = some x) : v.asFloat? = .ok (some x) := by
  cases v <;> simp_all [asInt?, asFloat?]

/-- Among integers the remainder is exact. -/
theorem isMultipleOf_of_asInt? {v m : Value} {a k : Int} (hv : v.asInt? = some a)
    (hm : m.asInt? = some k) {b : Bool} :
    v.isMultipleOf m = .ok b ↔ k ≠ 0 ∧ (a % k == 0) = b := by
  simp only [isMultipleOf, hv, hm]
  by_cases hk : k = 0 <;> simp [hk]

/-- Otherwise it is one of floating-point numbers. -/
theorem isMultipleOf_of_not_asInt? {v m : Value} (h : v.asInt? = none ∨ m.asInt? = none)
    {b : Bool} : v.isMultipleOf m = .ok b ↔ ∃ x y, v.asFloat? = .ok (some x) ∧
      m.asFloat? = .ok (some y) ∧ y.isZero = false ∧ x.isMultipleOf y = b := by
  have absent : m.quantity? = none → m.asFloat? = .ok none := by
    cases m <;> simp [quantity?, asFloat?, asInt?]
  unfold isMultipleOf
  split
  · rename_i hv hm
    rw [hv, hm] at h
    rcases h with h | h <;> cases h
  · cases hq : m.quantity? with
    | none => simp [absent hq]
    | some q =>
      cases v.asFloat? with
      | error f => simp [bind, Except.bind]
      | ok x =>
        cases m.asFloat? with
        | error f => simp [bind, Except.bind]
        | ok y =>
          cases x with
          | none => simp [bind, Except.bind]
          | some x =>
            cases y with
            | none => simp [bind, Except.bind]
            | some y => cases hy : y.isZero <;> simp [bind, Except.bind, hy]

/-- A number leaves a remainder by an integer just if it does by a floating-point number of the same
value, provided that it does not have to be rounded. -/
theorem isMultipleOf_int_iff_float {v m : Value} (number : v.isNumber = true) {k : Int}
    (hk : m.asInt? = some k) {y : Binary64} (format : y.InFormat) (hy : y.quantity = .ofInt k)
    (exact : ∀ n, v = .int n → IsExact n) {b : Bool} :
    v.isMultipleOf m = .ok b ↔ v.isMultipleOf (.float y) = .ok b := by
  obtain ⟨z, hz, hzy⟩ := Binary64.exists_ofInt?_of_quantity format hy
  have zero : y.isZero = true ↔ k = 0 := by simp [Binary64.isZero_eq, hy, Quantity.ofInt]
  rw [isMultipleOf_of_not_asInt? (Or.inr (asInt?_float y))]
  cases v with
  | int a =>
    obtain ⟨x, hx, hxa⟩ := exact a rfl
    have remainder : k ≠ 0 → x.isMultipleOf y = (a % k == 0) := by
      intro nonzero
      rw [Binary64.isMultipleOf_eq, hxa, hy, Bool.eq_iff_iff]
      simp only [Quantity.ofInt, beq_iff_eq]
      rw [Rat.den_div_intCast_eq_one_iff _ _ nonzero, Int.dvd_iff_emod_eq_zero]
    rw [isMultipleOf_of_asInt? rfl hk]
    simp only [asFloat?, asInt?, hx, Except.ok.injEq, Option.some.injEq, exists_and_left,
      exists_eq_left', Bool.eq_false_iff, ne_eq, zero]
    exact and_congr_right fun nonzero => by rw [remainder nonzero]
  | float x =>
    rw [isMultipleOf_of_not_asInt? (Or.inl (asInt?_float x)), asFloat?_of_asInt? hk hz]
    simp only [asFloat?, Except.ok.injEq, Option.some.injEq, exists_and_left, exists_eq_left',
      Binary64.isZero_eq, Binary64.isMultipleOf_eq, hzy]
  | _ => cases number

theorem asFloat?_eq_of_asInt? {v w : Value} {n : Int} (hv : v.asInt? = some n)
    (hw : w.asInt? = some n) : v.asFloat? = w.asFloat? := by
  cases v <;> simp only [asInt?, reduceCtorEq, Option.some.injEq] at hv <;>
    cases w <;> simp_all [asInt?, asFloat?]

/-- A value is an integer, a floating-point number or no number. -/
theorem asInt?_cases (v : Value) : (∃ n, v.asInt? = some n ∧ v.quantity? = some (.ofInt n)) ∨
    (∃ x, v = .float x) ∨ v.asInt? = none ∧ v.asFloat? = .ok none ∧ v.quantity? = none := by
  cases v <;> simp [asInt?, quantity?, asFloat?]

/-- Two values that are the same key leave the same remainders, if they are both integers or none of
them is, or else if no integer has to be rounded. -/
theorem isMultipleOf_of_sameKey {v m m' : Value} (number : v.isNumber = true)
    (key : sameKey m m' = true) (format : ∀ y, m = .float y → y.InFormat)
    (format' : ∀ y, m' = .float y → y.InFormat)
    (exact : m.asInt?.isSome ≠ m'.asInt?.isSome → ∀ n, v = .int n → IsExact n) {b : Bool} :
    v.isMultipleOf m = .ok b ↔ v.isMultipleOf m' = .ok b := by
  have same := quantity?_of_sameKey key
  rcases asInt?_cases m with ⟨k, hk, hq⟩ | ⟨y, rfl⟩ | ⟨hm, hf, hq⟩
  · rcases asInt?_cases m' with ⟨k', hk', hq'⟩ | ⟨y, rfl⟩ | ⟨-, -, hq'⟩
    · have value : k = k' := by simpa [hq, hq', Quantity.ofInt] using same
      subst value
      cases hv : v.asInt? with
      | some a => rw [isMultipleOf_of_asInt? hv hk, isMultipleOf_of_asInt? hv hk']
      | none =>
        rw [isMultipleOf_of_not_asInt? (Or.inl hv), isMultipleOf_of_not_asInt? (Or.inl hv),
          asFloat?_eq_of_asInt? hk hk']
    · have value : y.quantity = .ofInt k := by
        rw [hq, quantity?_float] at same
        exact (Option.some.inj same).symm
      exact isMultipleOf_int_iff_float number hk (format' y rfl) value (exact (by simp [hk]))
    · rw [hq, hq'] at same
      cases same
  · rcases asInt?_cases m' with ⟨k, hk, hq⟩ | ⟨y', rfl⟩ | ⟨-, -, hq'⟩
    · have value : y.quantity = .ofInt k := by
        rw [hq, quantity?_float] at same
        exact Option.some.inj same
      exact (isMultipleOf_int_iff_float number hk (format y rfl) value (exact (by simp [hk]))).symm
    · have value : y.quantity = y'.quantity := Option.some.inj same
      rw [isMultipleOf_of_not_asInt? (Or.inr (asInt?_float y)),
        isMultipleOf_of_not_asInt? (Or.inr (asInt?_float y'))]
      simp [Binary64.isZero_eq, Binary64.isMultipleOf_eq, value]
    · rw [quantity?_float, hq'] at same
      cases same
  -- What is no number fails, and the other is none either.
  · rcases asInt?_cases m' with ⟨k, -, hq'⟩ | ⟨y', rfl⟩ | ⟨hm', hf', -⟩
    · rw [hq, hq'] at same
      cases same
    · rw [hq, quantity?_float] at same
      cases same
    · rw [isMultipleOf_of_not_asInt? (Or.inr hm), isMultipleOf_of_not_asInt? (Or.inr hm'), hf, hf']

/-! ### Equality of instances -/

/-- Whether the booleans of two values stand in the same places, within lists, tuples and the values
of maps. -/
inductive SameBooleans : Value → Value → Prop where
  | bool (a b : Bool) : SameBooleans (.bool a) (.bool b)
  | list {xs ys : List Value} (items : List.Forall₂ SameBooleans xs ys) :
      SameBooleans (.list xs) (.list ys)
  | tuple {xs ys : List Value} (items : List.Forall₂ SameBooleans xs ys) :
      SameBooleans (.tuple xs) (.tuple ys)
  | map {es fs : List (Value × Value)}
      (values : ∀ e ∈ es, ∀ f ∈ fs, sameKey e.1 f.1 = true → SameBooleans e.2 f.2) :
      SameBooleans (.map es) (.map fs)
  | whole {v w : Value} (left : v.isWhole = true) (right : w.isWhole = true) : SameBooleans v w

theorem SameBooleans.symm {c c' : Value} (proper : c'.IsProper) (h : SameBooleans c c') :
    SameBooleans c' c := by
  induction c' using inductionOnParts generalizing c with
  | leaf c' leaf =>
    cases h with
    | bool a b => exact .bool b a
    | whole left right => exact .whole right left
    | _ => cases leaf
  | list ys ih =>
    rw [isProper_list_iff] at proper
    cases h with
    | list items =>
      exact .list (forall₂_imp_of_mem items.flip fun y hy _ => ih y hy (proper y hy))
    | whole _ right => cases right
  | tuple ys ih =>
    rw [isProper_tuple_iff] at proper
    cases h with
    | tuple items =>
      exact .tuple (forall₂_imp_of_mem items.flip fun y hy _ => ih y hy (proper y hy))
    | whole _ right => cases right
  | map fs ih =>
    rw [isProper_map_iff] at proper
    cases h with
    | map values =>
      refine .map fun f hf e he key => ?_
      obtain ⟨hk, hx⟩ := proper.1 f hf
      exact (ih f hf).2 hx (values e he f hf (sameKey_symm hk key))
    | whole _ right => cases right
  | set ys ih =>
    cases h with
    | whole left right => exact .whole right left
  | loop l body => exact absurd proper (not_isProper_loop l body)

theorem equalTree_of_sameKey_whole {c c' v : Value} (proper : c.IsProper) (whole : c.isWhole = true)
    (whole' : c'.isWhole = true) (key : sameKey c c' = true) (h : equalTree c v = true) :
    equalTree c' v = true := by
  obtain ⟨hbool, hnan, hkey⟩ := (equalTree_whole_iff whole v).mp h
  have key' := sameKey_symm proper key
  refine (equalTree_whole_iff whole' v).mpr ⟨hbool, ?_, sameKey_trans key' hkey⟩
  by_contra hne
  obtain ⟨i, rfl, rfl⟩ := sameNan_iff_eq.mp (Bool.not_eq_false _ ▸ hne)
  rw [eq_of_sameKey_nan key'] at hnan
  simp [sameNan] at hnan

theorem equalTree_of_sameKey_sequence {c c' v : Value} {xs ys : List Value}
    (hc : c.sequence? = some xs) (hc' : c'.sequence? = some ys)
    (keys : List.Forall₂ (fun x y => sameKey x y = true) xs ys)
    (booleans : List.Forall₂ SameBooleans xs ys)
    (step : ∀ x ∈ xs, ∀ y z, sameKey x y = true → SameBooleans x y → equalTree x z = true →
      equalTree y z = true) (h : equalTree c v = true) : equalTree c' v = true := by
  obtain ⟨zs, hv, equal⟩ := (equalTree_sequence_iff hc).mp h
  exact (equalTree_sequence_iff hc').mpr ⟨zs, hv, forall₂_join_of_mem keys booleans equal step⟩

/-- What equals a value equals one that is the same key and has its booleans in the same places. -/
theorem equalTree_of_sameKey {c c' v : Value} (proper : c.IsProper) (key : sameKey c c' = true)
    (booleans : SameBooleans c c') (h : equalTree c v = true) : equalTree c' v = true := by
  induction c using inductionOnParts generalizing c' v with
  | leaf c leaf =>
    cases booleans with
    | bool a b =>
      -- Of booleans only equal ones are the same key.
      have : b = a := by
        cases a <;> cases b <;> simp_all [sameKey, sameNan, sameQuantity, quantity?, Quantity.eq,
          Quantity.ofInt]
      exact this ▸ h
    | whole left right => exact equalTree_of_sameKey_whole proper left right key h
    | _ => cases leaf
  | list xs ih =>
    cases booleans with
    | @list _ ys booleans =>
      obtain ⟨_, hys, keys⟩ := sameKey_list_iff.mp key
      cases hys
      rw [isProper_list_iff] at proper
      exact equalTree_of_sameKey_sequence rfl rfl keys booleans
        (fun x hx _ _ => ih x hx (proper x hx)) h
    | whole left => cases left
  | tuple xs ih =>
    cases booleans with
    | @tuple _ ys booleans =>
      obtain ⟨_, hys, keys⟩ := sameKey_tuple_iff.mp key
      cases hys
      rw [isProper_tuple_iff] at proper
      exact equalTree_of_sameKey_sequence rfl rfl keys booleans
        (fun x hx _ _ => ih x hx (proper x hx)) h
    | whole left => cases left
  | map es ih =>
    cases booleans with
    | @map _ fs booleans =>
      obtain ⟨_, hfs, length, partner⟩ := sameKey_map_iff.mp key
      cases hfs
      obtain ⟨hproper, hapart⟩ := isProper_map_iff.mp proper
      obtain ⟨gs, rfl, length', equal⟩ := equalTree_map_iff.mp h
      refine equalTree_map_iff.mpr ⟨gs, rfl, length.symm.trans length', fun f hf => ?_⟩
      have symm : ∀ e ∈ es, ∀ w, sameKey e.1 w = true → sameKey w e.1 = true := fun e he _ =>
        sameKey_symm (hproper e he).1
      -- An entry `f` has a partner in the first map, and that one has its equal in the third.
      obtain ⟨e, he, hk, hx⟩ := exists_entry (R := fun x y => sameKey x y = true) length hapart
        symm partner f hf
      obtain ⟨g, hg, hxg⟩ := equal e he
      -- The same keys are found for `f` as for its partner.
      have found : (fun g : Value × Value => sameKey f.1 g.1) = fun g => sameKey e.1 g.1 := by
        funext g
        exact Bool.eq_iff_iff.mpr ⟨sameKey_trans hk, sameKey_trans (symm e he _ hk)⟩
      exact ⟨g, found ▸ hg, (ih e he).2 (hproper e he).2 hx (booleans e he f hf hk) hxg⟩
    | whole left => cases left
  | set xs ih =>
    cases booleans with
    | whole left right => exact equalTree_of_sameKey_whole proper left right key h
  | loop l body => exact absurd proper (not_isProper_loop l body)

/-- Of regular values only proper ones are the same key. -/
theorem IsRegular.isProper_of_sameKey {c c' : Value} (regular : c.IsRegular)
    (key : sameKey c c' = true) : c.IsProper := by
  refine regular.resolve_right fun cyclic => ?_
  have tree : c.isTree = false := cyclic 0
  rw [isTree_of_sameKey key] at tree
  cases tree

theorem equals_of_sameKey {v c c' : Value} (hv : v.IsRegular) (hc : c.IsProper) (hc' : c'.IsProper)
    (key : sameKey c c' = true) (booleans : SameBooleans c c') (h : v.equals c = true) :
    v.equals c' = true := by
  obtain ⟨hv, -⟩ := hv.isProper_of_equals hc.isRegular h
  rw [hv.equals_eq hc] at h
  rw [hv.equals_eq hc']
  exact equalTree_symm hc' (equalTree_of_sameKey hc key booleans (equalTree_symm hv h))

/-- The same values equal two that are the same key and have their booleans in the same places. -/
theorem equals_iff_of_sameKey {v c c' : Value} (hv : v.IsRegular) (hc : c.IsRegular)
    (hc' : c'.IsRegular) (key : sameKey c c' = true) (booleans : SameBooleans c c') :
    v.equals c = true ↔ v.equals c' = true := by
  have proper := hc.isProper_of_sameKey key
  have key' := sameKey_symm proper key
  have proper' := hc'.isProper_of_sameKey key'
  exact ⟨equals_of_sameKey hv proper proper' key booleans,
    equals_of_sameKey hv proper' proper key' (booleans.symm proper')⟩

end Conform.Value
