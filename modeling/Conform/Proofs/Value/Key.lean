import Conform.Proofs.Lists
import Conform.Value.Equality
/-!
# Sameness of keys

`sameKey` is transitive on all values.  It is reflexive and symmetric on those whose maps and sets
hold no key twice, as every map and set does that was built entry by entry (`IsProper`).  Scalars are
the same key if they are of one class, which settles all three laws for them; for a container the
laws follow from those for its parts.

Symmetry of sets and maps is a matter of counting: as many keys on one side as on the other, each the
same as one over there, leave none over there without a partner.
-/
namespace Conform

namespace Value

/-! ### Induction on the parts of a value -/

/-- Whether a value has no parts. -/
def isLeaf : Value → Bool
  | list _ => false
  | tuple _ => false
  | map _ => false
  | set _ => false
  | loop _ _ => false
  | _ => true

/-- What is inherited from the parts of a value holds of all values. -/
@[elab_as_elim]
theorem inductionOnParts {motive : Value → Prop} (v : Value)
    (leaf : ∀ v : Value, v.isLeaf = true → motive v)
    (list : ∀ xs, (∀ x ∈ xs, motive x) → motive (list xs))
    (tuple : ∀ xs, (∀ x ∈ xs, motive x) → motive (tuple xs))
    (map : ∀ es : List (Value × Value), (∀ e ∈ es, motive e.1 ∧ motive e.2) → motive (map es))
    (set : ∀ xs, (∀ x ∈ xs, motive x) → motive (set xs))
    (loop : ∀ l body, motive body → motive (loop l body)) : motive v :=
  @Value.rec motive (fun xs => ∀ x ∈ xs, motive x) (fun es => ∀ e ∈ es, motive e.1 ∧ motive e.2)
    (fun e => motive e.1 ∧ motive e.2)
    (leaf _ rfl) (fun _ => leaf _ rfl) (fun _ => leaf _ rfl) (fun _ => leaf _ rfl)
    (fun _ => leaf _ rfl) (fun _ => leaf _ rfl) (fun _ => leaf _ rfl) (fun _ => leaf _ rfl)
    list tuple map set loop (fun _ => leaf _ rfl)
    (by simp) (fun _ _ hx hxs => List.forall_mem_cons.mpr ⟨hx, hxs⟩)
    (by simp) (fun _ _ he hes => List.forall_mem_cons.mpr ⟨he, hes⟩)
    (fun _ _ hk hx => ⟨hk, hx⟩) v

/-! ### Scalars -/

end Value

/-- The identity of a not-a-number. -/
def Binary64.nanIdentity? : Binary64 → Option Nat
  | nan i => some i
  | _ => none

/-- What two scalars have in common if they are the same key. -/
inductive KeyClass where
  | null
  | str (s : String)
  | bytes (bs : List UInt8)
  | date (d : Date)
  | time (instant : Option Int) (clock : Int)
  | number (q : Quantity) (nanIdentity : Option Nat)

namespace Value

/-- The class of a scalar; containers have none. -/
def keyClass? : Value → Option KeyClass
  | null => some .null
  | bool b => some (.number (.ofInt (if b then 1 else 0)) none)
  | int n => some (.number (.ofInt n) none)
  | float x => some (.number x.quantity x.nanIdentity?)
  | str s => some (.str s)
  | bytes bs => some (.bytes bs)
  | date d => some (.date d)
  | datetime t => some (.time t.instant? (if t.instant?.isSome then 0 else t.clock))
  | _ => none

theorem quantity?_of_isNumber {v : Value} (h : v.isNumber = true) :
    ∃ x, v.quantity? = some x := by
  cases v <;> simp_all [isNumber, quantity?]

private theorem sameTime_iff {t u : DateTime} : t.sameTime u = true ↔
    t.instant? = u.instant? ∧
      (if t.instant?.isSome then 0 else t.clock) = if u.instant?.isSome then 0 else u.clock := by
  unfold DateTime.sameTime
  cases t.instant? <;> cases u.instant? <;> simp

/-- A number has an identity exactly if it is a not-a-number. -/
private theorem nanIdentity_eq_none_iff {v : Value} {p : Quantity} {i : Option Nat}
    (h : v.keyClass? = some (.number p i)) : i = none ↔ p ≠ .undefined := by
  cases v <;> simp only [keyClass?, Option.some.injEq, KeyClass.number.injEq, reduceCtorEq] at h
  case float x =>
    obtain ⟨rfl, rfl⟩ := h
    rw [Ne, Binary64.quantity_eq_undefined_iff]
    cases x <;> simp [Binary64.nanIdentity?, Binary64.isNan]
  all_goals
    obtain ⟨rfl, rfl⟩ := h
    simp [Quantity.ofInt]

private theorem quantity_of_keyClass? {v : Value} {p : Quantity} {i : Option Nat}
    (h : v.keyClass? = some (.number p i)) : v.quantity? = some p := by
  cases v <;> simp_all [keyClass?, quantity?]

private theorem sameNan_iff {v w : Value} {p q : Quantity} {i j : Option Nat}
    (hv : v.keyClass? = some (.number p i)) (hw : w.keyClass? = some (.number q j)) :
    sameNan v w = true ↔ i = j ∧ i ≠ none := by
  have hi {x : Binary64} {k : Nat} : x.nanIdentity? = some k ↔ x = .nan k := by
    cases x <;> simp [Binary64.nanIdentity?]
  unfold sameNan
  split
  · simp only [keyClass?, Option.some.injEq, KeyClass.number.injEq] at hv hw
    simp [← hv.2, ← hw.2, Binary64.nanIdentity?]
  · rename_i h
    refine iff_of_false Bool.false_ne_true fun ⟨hij, hne⟩ => ?_
    obtain ⟨k, rfl⟩ := Option.ne_none_iff_exists'.mp hne
    subst hij
    cases v <;> simp only [keyClass?, Option.some.injEq, KeyClass.number.injEq, reduceCtorEq,
      and_false] at hv
    cases w <;> simp only [keyClass?, Option.some.injEq, KeyClass.number.injEq, reduceCtorEq,
      and_false] at hw
    exact h k k (congrArg _ (hi.mp hv.2)) (congrArg _ (hi.mp hw.2))

/-- A number is known by its quantity and, if it is a not-a-number, by its identity. -/
private theorem sameNumber_iff {v w : Value} {p q : Quantity} {i j : Option Nat}
    (hv : v.keyClass? = some (.number p i)) (hw : w.keyClass? = some (.number q j)) :
    (sameNan v w || sameQuantity v w) = true ↔ p = q ∧ i = j := by
  have hp := nanIdentity_eq_none_iff hv
  have hq := nanIdentity_eq_none_iff hw
  rw [Bool.or_eq_true, sameNan_iff hv hw, sameQuantity, quantity_of_keyClass? hv,
    quantity_of_keyClass? hw, Quantity.eq_iff]
  grind

private theorem sameKey_number_iff {v : Value} {p : Quantity} {i : Option Nat}
    (hv : v.keyClass? = some (.number p i)) (w : Value) :
    sameKey v w = true ↔ w.keyClass? = some (.number p i) := by
  -- Whatever the other value is, only quantities and identities are compared.
  have unfolded : sameKey v w = (sameNan v w || sameQuantity v w) := by
    rw [sameKey.eq_def]
    cases v <;> simp only [keyClass?, Option.some.injEq, reduceCtorEq] at hv <;> rfl
  rw [unfolded]
  by_cases hw : ∃ q j, w.keyClass? = some (.number q j)
  · obtain ⟨q, j, hw⟩ := hw
    rw [sameNumber_iff hv hw, hw, Option.some.injEq, KeyClass.number.injEq]
    exact and_congr eq_comm eq_comm
  · have hne : w.keyClass? ≠ some (.number p i) := fun h => hw ⟨p, i, h⟩
    cases w <;> simp_all [sameNan, sameQuantity, quantity?, keyClass?]

/-- Scalars are the same key as the values of their class, and as no others. -/
theorem sameKey_iff_keyClass? {v : Value} (h : v.keyClass?.isSome) (w : Value) :
    sameKey v w = true ↔ v.keyClass? = w.keyClass? := by
  cases v with
  | null =>
    rw [sameKey.eq_def]
    cases w <;> simp [keyClass?, sameNan, sameQuantity, quantity?]
  | str s =>
    rw [sameKey.eq_def]
    cases w <;> simp [keyClass?, sameNan, sameQuantity, quantity?]
  | bytes s =>
    rw [sameKey.eq_def]
    cases w <;> simp [keyClass?, sameNan, sameQuantity, quantity?]
  | date s =>
    rw [sameKey.eq_def]
    cases w <;> simp [keyClass?, sameNan, sameQuantity, quantity?]
  | datetime s =>
    rw [sameKey.eq_def]
    cases w <;> simp [keyClass?, sameNan, sameQuantity, quantity?, sameTime_iff]
  | bool b => exact (sameKey_number_iff rfl w).trans eq_comm
  | int n => exact (sameKey_number_iff rfl w).trans eq_comm
  | float x => exact (sameKey_number_iff rfl w).trans eq_comm
  | list xs => cases h
  | tuple xs => cases h
  | map es => cases h
  | set xs => cases h
  | loop l b => cases h
  | back l => cases h

/-! ### Containers -/

theorem sameKeys_iff (xs ys : List Value) :
    sameKeys xs ys = true ↔ List.Forall₂ (fun x y => sameKey x y = true) xs ys := by
  induction xs generalizing ys with
  | nil => cases ys <;> simp [sameKeys]
  | cons x xs ih => cases ys <;> simp [sameKeys, ih]

theorem allAmong_iff (xs ys : List Value) :
    allAmong xs ys = true ↔ ∀ x ∈ xs, ∃ y ∈ ys, sameKey x y = true := by
  induction xs with
  | nil => simp [allAmong]
  | cons x xs ih => simp [allAmong, ih]

theorem sameKeyEntries_iff (es fs : List (Value × Value)) :
    sameKeyEntries es fs = true ↔
      ∀ e ∈ es, ∃ f ∈ fs, sameKey e.1 f.1 = true ∧ sameKey e.2 f.2 = true := by
  induction es with
  | nil => simp [sameKeyEntries]
  | cons e es ih =>
    obtain ⟨k, x⟩ := e
    rw [sameKeyEntries, Bool.and_eq_true, ih, List.forall_mem_cons]
    simp only [List.any_eq_true, Bool.and_eq_true]

theorem sameKey_list_iff {xs : List Value} {w : Value} : sameKey (list xs) w = true ↔
    ∃ ys, w = list ys ∧ List.Forall₂ (fun x y => sameKey x y = true) xs ys := by
  rw [sameKey.eq_def]
  cases w <;> simp [sameKeys_iff, sameNan, sameQuantity, quantity?]

theorem sameKey_tuple_iff {xs : List Value} {w : Value} : sameKey (tuple xs) w = true ↔
    ∃ ys, w = tuple ys ∧ List.Forall₂ (fun x y => sameKey x y = true) xs ys := by
  rw [sameKey.eq_def]
  cases w <;> simp [sameKeys_iff, sameNan, sameQuantity, quantity?]

theorem sameKey_map_iff {es : List (Value × Value)} {w : Value} : sameKey (map es) w = true ↔
    ∃ fs, w = map fs ∧ es.length = fs.length ∧
      ∀ e ∈ es, ∃ f ∈ fs, sameKey e.1 f.1 = true ∧ sameKey e.2 f.2 = true := by
  rw [sameKey.eq_def]
  cases w <;> simp [sameKeyEntries_iff, sameNan, sameQuantity, quantity?]

theorem sameKey_set_iff {xs : List Value} {w : Value} : sameKey (set xs) w = true ↔
    ∃ ys, w = set ys ∧ xs.length = ys.length ∧ ∀ x ∈ xs, ∃ y ∈ ys, sameKey x y = true := by
  rw [sameKey.eq_def]
  cases w <;> simp [allAmong_iff, sameNan, sameQuantity, quantity?]

theorem sameKey_loop (l : Nat) (body w : Value) : sameKey (loop l body) w = false := by
  rw [sameKey.eq_def]
  cases w <;> simp [sameNan, sameQuantity, quantity?]

theorem sameKey_back (l : Nat) (w : Value) : sameKey (back l) w = false := by
  rw [sameKey.eq_def]
  cases w <;> simp [sameNan, sameQuantity, quantity?]

/-- A value without parts is a scalar or a reference. -/
theorem keyClass?_isSome_or_back {v : Value} (h : v.isLeaf = true) :
    v.keyClass?.isSome = true ∨ ∃ l, v = back l := by
  cases v <;> simp_all [isLeaf, keyClass?]

/-! ### Values without a key held twice -/

/-- Whether two values can both be keys of one map. -/
def Apart (v w : Value) : Prop := sameKey v w = false ∧ sameKey w v = false

instance (v w : Value) : Decidable (Apart v w) := inferInstanceAs (Decidable (_ ∧ _))

theorem Apart.symm {v w : Value} (h : Apart v w) : Apart w v := ⟨h.2, h.1⟩

mutual

/-- A plain tree in which no map holds a key and no set an element twice. -/
def IsProper : Value → Prop
  | list xs => AreProper xs
  | tuple xs => AreProper xs
  | map es => AreProperEntries es ∧ (es.map (·.1)).Pairwise Apart
  | set xs => AreProper xs ∧ xs.Pairwise Apart
  | loop _ _ => False
  | back _ => False
  | _ => True

/-- `IsProper` for each item. -/
def AreProper : List Value → Prop
  | [] => True
  | x :: xs => IsProper x ∧ AreProper xs

/-- `IsProper` for each key and value. -/
def AreProperEntries : List (Value × Value) → Prop
  | [] => True
  | (k, x) :: es => (IsProper k ∧ IsProper x) ∧ AreProperEntries es

end

theorem areProper_iff (xs : List Value) : AreProper xs ↔ ∀ x ∈ xs, x.IsProper := by
  induction xs with
  | nil => exact iff_of_true trivial (by simp)
  | cons x xs ih =>
    rw [List.forall_mem_cons]
    exact and_congr_right' ih

theorem areProperEntries_iff (es : List (Value × Value)) :
    AreProperEntries es ↔ ∀ e ∈ es, e.1.IsProper ∧ e.2.IsProper := by
  induction es with
  | nil => exact iff_of_true trivial (by simp)
  | cons e es ih =>
    rw [List.forall_mem_cons]
    exact and_congr_right' ih

@[simp] theorem isProper_list_iff {xs : List Value} :
    (list xs).IsProper ↔ ∀ x ∈ xs, x.IsProper :=
  areProper_iff xs

@[simp] theorem isProper_tuple_iff {xs : List Value} :
    (tuple xs).IsProper ↔ ∀ x ∈ xs, x.IsProper :=
  areProper_iff xs

@[simp] theorem isProper_map_iff {es : List (Value × Value)} : (map es).IsProper ↔
    (∀ e ∈ es, e.1.IsProper ∧ e.2.IsProper) ∧ (es.map (·.1)).Pairwise Apart :=
  and_congr_left' (areProperEntries_iff es)

@[simp] theorem isProper_set_iff {xs : List Value} : (set xs).IsProper ↔
    (∀ x ∈ xs, x.IsProper) ∧ xs.Pairwise Apart :=
  and_congr_left' (areProper_iff xs)

theorem not_isProper_loop (l : Nat) (body : Value) : ¬(loop l body).IsProper := id

theorem not_isProper_back (l : Nat) : ¬(back l).IsProper := id

/-- A proper value without parts is a scalar. -/
theorem IsProper.keyClass?_isSome {v : Value} (h : v.IsProper) (leaf : v.isLeaf = true) :
    v.keyClass?.isSome = true := by
  rcases keyClass?_isSome_or_back leaf with h' | ⟨l, rfl⟩
  · exact h'
  · exact absurd h (not_isProper_back l)

/-- A scalar is proper. -/
theorem isProper_of_keyClass? {v : Value} (h : v.keyClass?.isSome = true) : v.IsProper := by
  cases v <;> first | exact trivial | cases h

/-! ### The laws -/

theorem sameKey_refl {v : Value} (h : v.IsProper) : sameKey v v = true := by
  induction v using inductionOnParts with
  | leaf v leaf => exact (sameKey_iff_keyClass? (h.keyClass?_isSome leaf) v).mpr rfl
  | list xs ih =>
    rw [isProper_list_iff] at h
    exact sameKey_list_iff.mpr ⟨xs, rfl, List.forall₂_same.mpr fun x hx => ih x hx (h x hx)⟩
  | tuple xs ih =>
    rw [isProper_tuple_iff] at h
    exact sameKey_tuple_iff.mpr ⟨xs, rfl, List.forall₂_same.mpr fun x hx => ih x hx (h x hx)⟩
  | map es ih =>
    rw [isProper_map_iff] at h
    exact sameKey_map_iff.mpr ⟨es, rfl, rfl, fun e he =>
      ⟨e, he, (ih e he).1 (h.1 e he).1, (ih e he).2 (h.1 e he).2⟩⟩
  | set xs ih =>
    rw [isProper_set_iff] at h
    exact sameKey_set_iff.mpr ⟨xs, rfl, rfl, fun x hx => ⟨x, hx, ih x hx (h.1 x hx)⟩⟩
  | loop l body => exact absurd h (not_isProper_loop l body)

theorem sameKey_trans {u v w : Value} (huv : sameKey u v = true) (hvw : sameKey v w = true) :
    sameKey u w = true := by
  induction u using inductionOnParts generalizing v w with
  | leaf u leaf =>
    rcases keyClass?_isSome_or_back leaf with hu | ⟨l, rfl⟩
    · have hclass := (sameKey_iff_keyClass? hu v).mp huv
      rw [sameKey_iff_keyClass? hu, hclass]
      exact (sameKey_iff_keyClass? (hclass ▸ hu) w).mp hvw
    · rw [sameKey_back] at huv
      cases huv
  | list xs ih =>
    obtain ⟨ys, rfl, hxy⟩ := sameKey_list_iff.mp huv
    obtain ⟨zs, rfl, hyz⟩ := sameKey_list_iff.mp hvw
    exact sameKey_list_iff.mpr
      ⟨zs, rfl, forall₂_trans_of_mem hxy hyz fun x hx _ _ h h' => ih x hx h h'⟩
  | tuple xs ih =>
    obtain ⟨ys, rfl, hxy⟩ := sameKey_tuple_iff.mp huv
    obtain ⟨zs, rfl, hyz⟩ := sameKey_tuple_iff.mp hvw
    exact sameKey_tuple_iff.mpr
      ⟨zs, rfl, forall₂_trans_of_mem hxy hyz fun x hx _ _ h h' => ih x hx h h'⟩
  | map es ih =>
    -- By the number of entries, one direction of the pairing is enough.
    obtain ⟨fs, rfl, hlen, hef⟩ := sameKey_map_iff.mp huv
    obtain ⟨gs, rfl, hlen', hfg⟩ := sameKey_map_iff.mp hvw
    refine sameKey_map_iff.mpr ⟨gs, rfl, hlen.trans hlen', fun e he => ?_⟩
    obtain ⟨f, hf, hk, hx⟩ := hef e he
    obtain ⟨g, hg, hk', hx'⟩ := hfg f hf
    exact ⟨g, hg, (ih e he).1 hk hk', (ih e he).2 hx hx'⟩
  | set xs ih =>
    obtain ⟨ys, rfl, hlen, hxy⟩ := sameKey_set_iff.mp huv
    obtain ⟨zs, rfl, hlen', hyz⟩ := sameKey_set_iff.mp hvw
    refine sameKey_set_iff.mpr ⟨zs, rfl, hlen.trans hlen', fun x hx => ?_⟩
    obtain ⟨y, hy, h⟩ := hxy x hx
    obtain ⟨z, hz, h'⟩ := hyz y hy
    exact ⟨z, hz, ih x hx h h'⟩
  | loop l body =>
    rw [sameKey_loop] at huv
    cases huv

/-- Two different keys of one map have no key in common with a third. -/
theorem Apart.not_both {u v w : Value} (h : Apart u v)
    (symm : sameKey v w = true → sameKey w v = true) (hu : sameKey u w = true) :
    ¬sameKey v w = true := by
  intro hv
  have := sameKey_trans hu (symm hv)
  rw [h.1] at this
  cases this

/-- Maps of one size, of which each entry of the first has a partner with the same key in the second:
if the keys of the first are different, each entry of the second has a partner too. -/
theorem exists_entry {R : Value → Value → Prop} {es fs : List (Value × Value)}
    (length : es.length = fs.length) (apart : (es.map (·.1)).Pairwise Apart)
    (symm : ∀ e ∈ es, ∀ w, sameKey e.1 w = true → sameKey w e.1 = true)
    (partner : ∀ e ∈ es, ∃ f ∈ fs, sameKey e.1 f.1 = true ∧ R e.2 f.2) :
    ∀ f ∈ fs, ∃ e ∈ es, sameKey e.1 f.1 = true ∧ R e.2 f.2 := by
  have single : es.Pairwise fun a b => ∀ f : Value × Value,
      (sameKey a.1 f.1 = true ∧ R a.2 f.2) → ¬(sameKey b.1 f.1 = true ∧ R b.2 f.2) :=
    (List.pairwise_map.mp apart).imp_of_mem fun _ hb hab f hf hf' =>
      hab.not_both (symm _ hb f.1) hf.1 hf'.1
  exact exists_partner length partner single

theorem sameKey_symm {v w : Value} (hv : v.IsProper) (h : sameKey v w = true) :
    sameKey w v = true := by
  induction v using inductionOnParts generalizing w with
  | leaf v leaf =>
    have hclass := hv.keyClass?_isSome leaf
    have heq := (sameKey_iff_keyClass? hclass w).mp h
    exact (sameKey_iff_keyClass? (heq ▸ hclass) v).mpr heq.symm
  | list xs ih =>
    rw [isProper_list_iff] at hv
    obtain ⟨ys, rfl, hxy⟩ := sameKey_list_iff.mp h
    exact sameKey_list_iff.mpr
      ⟨xs, rfl, forall₂_symm_of_mem hxy fun x hx _ h => ih x hx (hv x hx) h⟩
  | tuple xs ih =>
    rw [isProper_tuple_iff] at hv
    obtain ⟨ys, rfl, hxy⟩ := sameKey_tuple_iff.mp h
    exact sameKey_tuple_iff.mpr
      ⟨xs, rfl, forall₂_symm_of_mem hxy fun x hx _ h => ih x hx (hv x hx) h⟩
  | map es ih =>
    obtain ⟨hproper, hapart⟩ := isProper_map_iff.mp hv
    obtain ⟨fs, rfl, hlen, hef⟩ := sameKey_map_iff.mp h
    refine sameKey_map_iff.mpr ⟨es, rfl, hlen.symm, fun f hf => ?_⟩
    have symm : ∀ e ∈ es, ∀ w, sameKey e.1 w = true → sameKey w e.1 = true := fun e he _ =>
      (ih e he).1 (hproper e he).1
    -- As many entries on both sides: none on the right is left without a partner.
    obtain ⟨e, he, hk, hx⟩ := exists_entry (R := fun x y => sameKey x y = true) hlen hapart symm
      hef f hf
    exact ⟨e, he, symm e he _ hk, (ih e he).2 (hproper e he).2 hx⟩
  | set xs ih =>
    obtain ⟨hproper, hapart⟩ := isProper_set_iff.mp hv
    obtain ⟨ys, rfl, hlen, hxy⟩ := sameKey_set_iff.mp h
    refine sameKey_set_iff.mpr ⟨xs, rfl, hlen.symm, fun y hy => ?_⟩
    have apart : xs.Pairwise fun a b => ∀ y, sameKey a y = true → ¬sameKey b y = true :=
      hapart.imp_of_mem fun ha hb hab y hy => hab.not_both (ih _ hb (hproper _ hb)) hy
    -- As for entries, with elements.
    obtain ⟨x, hx, hxy⟩ := exists_partner hlen hxy apart y hy
    exact ⟨x, hx, ih x hx (hproper x hx) hxy⟩
  | loop l body => exact absurd hv (not_isProper_loop l body)

end Value

end Conform
