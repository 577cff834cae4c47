import Conform.Proofs.Value.Equality
/-!
# Where equality is reflexive

Equality of instances is a partial equivalence: symmetric and transitive on all proper values, and
reflexive on those in which no not-a-number occurs.
-/
namespace Conform.Value

/-! ### What occurs in a value -/

/-- Whether a value is another or stands in it, at any depth. -/
inductive OccursIn (x : Value) : Value → Prop where
  | here : OccursIn x x
  | listItem {xs : List Value} {y : Value} (item : y ∈ xs) (within : OccursIn x y) :
      OccursIn x (list xs)
  | tupleItem {xs : List Value} {y : Value} (item : y ∈ xs) (within : OccursIn x y) :
      OccursIn x (tuple xs)
  | key {es : List (Value × Value)} {e : Value × Value} (entry : e ∈ es)
      (within : OccursIn x e.1) : OccursIn x (map es)
  | entryValue {es : List (Value × Value)} {e : Value × Value} (entry : e ∈ es)
      (within : OccursIn x e.2) : OccursIn x (map es)
  | element {xs : List Value} {y : Value} (element : y ∈ xs) (within : OccursIn x y) :
      OccursIn x (set xs)

section OccursIn

variable {x : Value}

theorem occursIn_leaf_iff {v : Value} (leaf : v.isLeaf = true) : OccursIn x v ↔ x = v := by
  constructor
  · intro h
    cases h with
    | here => rfl
    | _ => cases leaf
  · rintro rfl
    exact .here

@[simp] theorem occursIn_list_iff {xs : List Value} :
    OccursIn x (list xs) ↔ x = list xs ∨ ∃ y ∈ xs, OccursIn x y := by
  constructor
  · intro h
    cases h with
    | here => exact Or.inl rfl
    | listItem item within => exact Or.inr ⟨_, item, within⟩
  · rintro (rfl | ⟨y, item, within⟩)
    · exact .here
    · exact .listItem item within

@[simp] theorem occursIn_tuple_iff {xs : List Value} :
    OccursIn x (tuple xs) ↔ x = tuple xs ∨ ∃ y ∈ xs, OccursIn x y := by
  constructor
  · intro h
    cases h with
    | here => exact Or.inl rfl
    | tupleItem item within => exact Or.inr ⟨_, item, within⟩
  · rintro (rfl | ⟨y, item, within⟩)
    · exact .here
    · exact .tupleItem item within

@[simp] theorem occursIn_map_iff {es : List (Value × Value)} :
    OccursIn x (map es) ↔ x = map es ∨ ∃ e ∈ es, OccursIn x e.1 ∨ OccursIn x e.2 := by
  constructor
  · intro h
    cases h with
    | here => exact Or.inl rfl
    | key entry within => exact Or.inr ⟨_, entry, Or.inl within⟩
    | entryValue entry within => exact Or.inr ⟨_, entry, Or.inr within⟩
  · rintro (rfl | ⟨e, entry, within | within⟩)
    · exact .here
    · exact .key entry within
    · exact .entryValue entry within

@[simp] theorem occursIn_set_iff {xs : List Value} :
    OccursIn x (set xs) ↔ x = set xs ∨ ∃ y ∈ xs, OccursIn x y := by
  constructor
  · intro h
    cases h with
    | here => exact Or.inl rfl
    | element element within => exact Or.inr ⟨_, element, within⟩
  · rintro (rfl | ⟨y, element, within⟩)
    · exact .here
    · exact .element element within

end OccursIn

/-- Whether no not-a-number occurs in a value. -/
def IsNanFree (v : Value) : Prop := ∀ i, ¬OccursIn (float (.nan i)) v

/-- In a value without a not-a-number there is none that it could be the same as. -/
theorem IsNanFree.sameNan_eq_false {v : Value} (free : v.IsNanFree) (w : Value) :
    sameNan v w = false := by
  by_contra h
  obtain ⟨i, rfl, -⟩ := sameNan_iff_eq.mp (Bool.not_eq_false _ ▸ h)
  exact free i .here

/-! ### Reflexivity -/

private theorem equalTree_whole_refl {v : Value} (hv : v.IsProper) (free : v.IsNanFree)
    (whole : v.isWhole = true) : equalTree v v = true := by
  refine (equalTree_whole_iff whole v).mpr ⟨?_, free.sameNan_eq_false v, sameKey_refl hv⟩
  cases v <;> simp_all [isWhole, isBool]

private theorem equalTree_sequence_refl {v : Value} {xs : List Value} (hv : v.sequence? = some xs)
    (refl : ∀ x ∈ xs, equalTree x x = true) : equalTree v v = true := by
  apply (equalTree_sequence_iff hv).mpr
  exact ⟨xs, hv, List.forall₂_same.mpr refl⟩

theorem equalTree_refl {v : Value} (hv : v.IsProper) (free : v.IsNanFree) :
    equalTree v v = true := by
  induction v using inductionOnParts with
  | leaf v leaf =>
    by_cases hb : ∃ b, v = bool b
    · obtain ⟨b, rfl⟩ := hb
      exact equalTree_bool_iff.mpr rfl
    · exact equalTree_whole_refl hv free (isWhole_of_isLeaf leaf hb)
  | list xs ih =>
    rw [isProper_list_iff] at hv
    apply equalTree_sequence_refl rfl
    intro x hx
    exact ih x hx (hv x hx) fun i within => free i (.listItem hx within)
  | tuple xs ih =>
    rw [isProper_tuple_iff] at hv
    apply equalTree_sequence_refl rfl
    intro x hx
    exact ih x hx (hv x hx) fun i within => free i (.tupleItem hx within)
  | map es ih =>
    obtain ⟨hproper, hapart⟩ := isProper_map_iff.mp hv
    refine equalTree_map_iff.mpr ⟨es, rfl, rfl, fun e he => ?_⟩
    have hkey : sameKey e.1 e.1 = true := sameKey_refl (hproper e he).1
    have hfree : e.2.IsNanFree := fun i within => free i (.entryValue he within)
    exact ⟨e, find?_sameKey_of_mem hapart he hkey hkey, (ih e he).2 (hproper e he).2 hfree⟩
  | set xs ih => exact equalTree_whole_refl hv free rfl
  | loop l body => exact absurd hv (not_isProper_loop l body)

theorem equals_refl {v : Value} (hv : v.IsProper) (free : v.IsNanFree) : v.equals v = true := by
  rw [hv.equals_eq hv]
  exact equalTree_refl hv free

/-- **Equality is a partial equivalence.**  On proper values it is symmetric and transitive, and a
value in which no not-a-number occurs equals itself. -/
theorem equals_isPartialEquivalence {u v w : Value} (hu : u.IsProper) (hv : v.IsProper)
    (hw : w.IsProper) :
    (u.equals v = true → v.equals u = true) ∧
    (u.equals v = true → v.equals w = true → u.equals w = true) ∧
    (u.IsNanFree → u.equals u = true) := by
  refine ⟨fun huv => ?_, fun huv hvw => ?_, fun free => ?_⟩
  · exact equals_symm hu.isRegular hv.isRegular huv
  · exact equals_trans hu.isRegular hv.isRegular hw.isRegular huv hvw
  · exact equals_refl hu free

/-- One map as it is written in three ways: with entries in another order, with a tuple for a list and
with floating-point numbers for integers. -/
theorem equals_isPartialEquivalence_sizes :
    let u := map [(str "sizes", list [int 1, int 2]), (str "open", bool true)]
    let v := map [(str "open", bool true), (str "sizes", tuple [float (.finite false 1 0), int 2])]
    let w := map [(str "open", bool true), (str "sizes", list [int 1, float (.finite false 1 1)])]
    (u.IsProper ∧ v.IsProper ∧ w.IsProper ∧ u.IsNanFree) ∧
      (u.equals v = true ∧ v.equals w = true) ∧
      v.equals u = true ∧ u.equals w = true ∧ u.equals u = true := by
  intro u v w
  have hu : u.IsProper := by simp [u, IsProper, AreProperEntries, AreProper, Apart, sameKey]
  have hv : v.IsProper := by simp [v, IsProper, AreProperEntries, AreProper, Apart, sameKey]
  have hw : w.IsProper := by simp [w, IsProper, AreProperEntries, AreProper, Apart, sameKey]
  have free : u.IsNanFree := by simp (disch := decide) [u, IsNanFree, occursIn_leaf_iff]
  have huv : u.equals v = true := by decide +kernel
  have hvw : v.equals w = true := by decide +kernel
  obtain ⟨symm, trans, refl⟩ := equals_isPartialEquivalence hu hv hw
  exact ⟨⟨hu, hv, hw, free⟩, ⟨huv, hvw⟩, symm huv, trans huv hvw, refl free⟩

end Conform.Value
