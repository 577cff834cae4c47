import Conform.Proofs.Value.Reflexivity
import Conform.Proofs.Value.SameKey
/-!
# Equality by structure

`Matches` says without any computation when two values are the same: numbers by their exact value, a
boolean only the same boolean, lists and tuples item by item, and maps and sets if their entries or
elements can be paired so that the pairs match.

Instances that match are equal.  The converse has an exception.  Whether two maps have the same keys,
and two sets the same elements, is asked of keys, and as a key a boolean is the same as one or zero.
So equal instances match exactly if, wherever two keys are the same, their booleans stand in the same
places (`KeysAgree`); this is `matches_iff`.
-/
namespace Conform.Value

/-! ### Matching values -/

/-- The structural equality of values, which keeps booleans apart from numbers at every depth. -/
inductive Matches : Value → Value → Prop where
  | null : Matches null null
  | bool (b : Bool) : Matches (bool b) (bool b)
  -- An integer matches a floating-point number of the same value.
  | number {v w : Value} {q : Quantity} (left : v.isNumber = true) (right : w.isNumber = true)
      (leftValue : v.quantity? = some q) (rightValue : w.quantity? = some q)
      (defined : q ≠ .undefined) : Matches v w
  | str (s : String) : Matches (str s) (str s)
  | bytes (bs : List UInt8) : Matches (bytes bs) (bytes bs)
  | date (d : Date) : Matches (date d) (date d)
  | datetime {t u : DateTime} (same : t.sameTime u = true) : Matches (datetime t) (datetime u)
  | sequence {v w : Value} {xs ys : List Value} (left : v.sequence? = some xs)
      (right : w.sequence? = some ys) (items : List.Forall₂ Matches xs ys) : Matches v w
  -- The entries of the second map, put in another order, go with those of the first.
  | map {es fs gs : List (Value × Value)} (paired : gs.Perm fs)
      (keys : List.Forall₂ Matches (es.map (·.1)) (gs.map (·.1)))
      (values : List.Forall₂ Matches (es.map (·.2)) (gs.map (·.2))) : Matches (map es) (map fs)
  | set {xs ys zs : List Value} (paired : zs.Perm ys) (elements : List.Forall₂ Matches xs zs) :
      Matches (set xs) (set ys)

/-- Whether keys that are the same, wherever two maps or two sets are compared, have their booleans in
the same places. -/
inductive KeysAgree : Value → Value → Prop where
  | leaf {v w : Value} (leaf : v.isLeaf = true) : KeysAgree v w
  | sequence {v w : Value} {xs ys : List Value} (left : v.sequence? = some xs)
      (right : w.sequence? = some ys) (items : List.Forall₂ KeysAgree xs ys) : KeysAgree v w
  | map {es fs : List (Value × Value)}
      (keys : ∀ e ∈ es, ∀ f ∈ fs, sameKey e.1 f.1 = true → SameBooleans e.1 f.1)
      (values : ∀ e ∈ es, ∀ f ∈ fs, sameKey e.1 f.1 = true → KeysAgree e.2 f.2) :
      KeysAgree (map es) (map fs)
  | set {xs ys : List Value}
      (elements : ∀ x ∈ xs, ∀ y ∈ ys, sameKey x y = true → SameBooleans x y) :
      KeysAgree (set xs) (set ys)

/-! ### Values that can be built -/

/-- Whether a value can be changed in place, as no key can. -/
def isMutable : Value → Bool
  | list _ => true
  | map _ => true
  | set _ => true
  | _ => false

/-- Whether nothing in a value can be changed in place. -/
def IsHashable (v : Value) : Prop := ∀ x, OccursIn x v → x.isMutable = false

/-- A proper value without a not-a-number, in which keys and elements are such as can be. -/
structure IsOrdinary (v : Value) : Prop where
  proper : v.IsProper
  nanFree : v.IsNanFree
  keys : ∀ es, OccursIn (map es) v → ∀ e ∈ es, e.1.IsHashable
  elements : ∀ xs, OccursIn (set xs) v → ∀ x ∈ xs, x.IsHashable

theorem OccursIn.trans {x y z : Value} (hxy : OccursIn x y) (hyz : OccursIn y z) :
    OccursIn x z := by
  induction hyz with
  | here => exact hxy
  | listItem item _ ih => exact .listItem item ih
  | tupleItem item _ ih => exact .tupleItem item ih
  | key entry _ ih => exact .key entry ih
  | entryValue entry _ ih => exact .entryValue entry ih
  | element element _ ih => exact .element element ih

theorem IsProper.of_occursIn {x v : Value} (h : v.IsProper) (within : OccursIn x v) :
    x.IsProper := by
  induction within with
  | here => exact h
  | listItem item _ ih => exact ih (isProper_list_iff.mp h _ item)
  | tupleItem item _ ih => exact ih (isProper_tuple_iff.mp h _ item)
  | key entry _ ih => exact ih ((isProper_map_iff.mp h).1 _ entry).1
  | entryValue entry _ ih => exact ih ((isProper_map_iff.mp h).1 _ entry).2
  | element element _ ih => exact ih ((isProper_set_iff.mp h).1 _ element)

theorem IsHashable.of_occursIn {x v : Value} (h : v.IsHashable) (within : OccursIn x v) :
    x.IsHashable :=
  fun _ deeper => h _ (deeper.trans within)

theorem isHashable_leaf {v : Value} (leaf : v.isLeaf = true) : v.IsHashable := by
  intro x within
  obtain rfl := (occursIn_leaf_iff leaf).mp within
  cases x <;> simp_all [isLeaf, isMutable]

@[simp] theorem isHashable_tuple_iff {xs : List Value} :
    (tuple xs).IsHashable ↔ ∀ x ∈ xs, x.IsHashable := by
  constructor
  · exact fun h x hx => h.of_occursIn (.tupleItem hx .here)
  · intro h x within
    rcases occursIn_tuple_iff.mp within with rfl | ⟨y, hy, within⟩
    · rfl
    · exact h y hy x within

theorem IsOrdinary.of_occursIn {x v : Value} (h : v.IsOrdinary) (within : OccursIn x v) :
    x.IsOrdinary where
  proper := h.proper.of_occursIn within
  nanFree _ deeper := h.nanFree _ (deeper.trans within)
  keys _ deeper := h.keys _ (deeper.trans within)
  elements _ deeper := h.elements _ (deeper.trans within)

/-! ### Scalars -/

/-- The class of a number that is no not-a-number. -/
theorem keyClass?_of_isNumber {v : Value} {q : Quantity} (number : v.isNumber = true)
    (value : v.quantity? = some q) (defined : q ≠ .undefined) :
    v.keyClass? = some (.number q none) := by
  cases v with
  | int n => simp_all [quantity?, keyClass?]
  | float x => cases x <;> simp_all [quantity?, keyClass?, Binary64.quantity, Binary64.nanIdentity?]
  | _ => cases number

theorem keyClass?_of_sameTime {t u : DateTime} (same : t.sameTime u = true) :
    (datetime t).keyClass? = (datetime u).keyClass? := by
  apply (sameKey_iff_keyClass? rfl (datetime u)).mp
  rw [sameKey, same]

/-- In a value without a not-a-number a number has a defined value. -/
theorem IsNanFree.quantity?_defined {v : Value} {q : Quantity} (free : v.IsNanFree)
    (value : v.quantity? = some q) : q ≠ .undefined := by
  cases v with
  | float x =>
    cases x with
    | nan i => exact absurd .here (free i)
    | finite => simp_all [quantity?, Binary64.quantity, eq_comm]
    | infinite s => cases s <;> simp_all [quantity?, Binary64.quantity, eq_comm]
  | _ => simp_all [quantity?, Quantity.ofInt, eq_comm]

theorem SameBooleans.isBool_eq {v w : Value} (h : SameBooleans v w) : v.isBool = w.isBool := by
  cases h with
  | whole left right => cases v <;> cases w <;> simp_all [isWhole, isBool]
  | _ => rfl

/-- Numbers of one value match; a boolean that has the value is none. -/
theorem Matches.of_quantity? {v w : Value} (number : v.isNumber = true) (free : v.IsNanFree)
    (other : w.isBool = false) (same : v.quantity? = w.quantity?) : Matches v w := by
  obtain ⟨q, hq⟩ := quantity?_of_isNumber number
  have right : w.isNumber = true := by
    rw [hq] at same
    cases w <;> simp_all [quantity?, isBool, isNumber]
  exact .number number right hq (same ▸ hq) (free.quantity?_defined hq)

/-- Scalars match what is the same key, if they are both booleans or none of them is. -/
theorem matches_scalar_iff {v : Value} (scalar : v.keyClass?.isSome = true) (free : v.IsNanFree)
    (w : Value) : Matches v w ↔ sameKey v w = true ∧ SameBooleans v w := by
  constructor
  · intro h
    rw [sameKey_iff_keyClass? scalar]
    cases h with
    | bool b => exact ⟨rfl, .bool b b⟩
    | number left right leftValue rightValue defined =>
      rw [keyClass?_of_isNumber left leftValue defined,
        keyClass?_of_isNumber right rightValue defined]
      refine ⟨rfl, .whole ?_ ?_⟩
      · cases v <;> first | rfl | cases left
      · cases w <;> first | rfl | cases right
    | datetime same => exact ⟨keyClass?_of_sameTime same, .whole rfl rfl⟩
    | sequence left => cases v <;> simp_all [keyClass?, sequence?]
    | map | set => cases scalar
    | _ => exact ⟨rfl, .whole rfl rfl⟩
  · rintro ⟨key, booleans⟩
    have hclass := (sameKey_iff_keyClass? scalar w).mp key
    have hbool := booleans.isBool_eq
    -- Numbers match by their value, all other scalars by what they are.
    by_cases number : v.isNumber = true
    · have other : w.isBool = false := by
        rw [← hbool]
        cases v <;> simp_all [isNumber, isBool]
      exact .of_quantity? number free other (quantity?_of_sameKey key)
    · cases v with
      | null =>
        obtain rfl : w = null := by cases w <;> simp_all [keyClass?]
        exact .null
      | bool a =>
        obtain ⟨b, rfl⟩ : ∃ b, w = bool b := by cases w <;> simp_all [isBool]
        obtain rfl : a = b := by cases a <;> cases b <;> simp_all [keyClass?, Quantity.ofInt]
        exact .bool a
      | str s =>
        obtain rfl : w = str s := by cases w <;> simp_all [keyClass?]
        exact .str s
      | bytes bs =>
        obtain rfl : w = bytes bs := by cases w <;> simp_all [keyClass?]
        exact .bytes bs
      | date d =>
        obtain rfl : w = date d := by cases w <;> simp_all [keyClass?]
        exact .date d
      | datetime t =>
        obtain ⟨u, rfl⟩ : ∃ u, w = datetime u := by cases w <;> simp_all [keyClass?]
        exact .datetime (by simpa [sameKey] using key)
      | int n | float x => exact absurd rfl number
      | _ => cases scalar

/-- As instances scalars are compared as keys are, booleans apart from numbers. -/
theorem equalTree_scalar_iff {v : Value} (scalar : v.keyClass?.isSome = true) (free : v.IsNanFree)
    (w : Value) : equalTree v w = true ↔ sameKey v w = true ∧ SameBooleans v w := by
  by_cases hb : ∃ b, v = bool b
  · obtain ⟨b, rfl⟩ := hb
    rw [equalTree_bool_iff, ← matches_scalar_iff scalar free]
    constructor
    · rintro rfl
      exact .bool b
    · intro h
      cases h with
      | bool => rfl
      | number left => cases left
      | sequence left => cases left
  · have whole : v.isWhole = true := by cases v <;> simp_all [keyClass?, isWhole]
    rw [equalTree_whole_iff whole]
    constructor
    · rintro ⟨other, -, key⟩
      exact ⟨key, .whole whole (isWhole_of_sameKey whole key other)⟩
    · rintro ⟨key, booleans⟩
      refine ⟨?_, free.sameNan_eq_false w, key⟩
      rw [← booleans.isBool_eq]
      cases v <;> simp_all [isWhole, isBool]

/-! ### Keys -/

theorem IsHashable.tuple_of_sequence {v : Value} {xs : List Value} (h : v.IsHashable)
    (hv : v.sequence? = some xs) : v = tuple xs := by
  have immutable := h v .here
  cases v <;> simp_all [sequence?, isMutable]

theorem matches_sequence_iff {v w : Value} {xs : List Value} (hv : v.sequence? = some xs) :
    Matches v w ↔ ∃ ys, w.sequence? = some ys ∧ List.Forall₂ Matches xs ys := by
  constructor
  · intro h
    cases h with
    | number left => cases v <;> simp_all [sequence?, isNumber]
    | sequence left right items =>
      obtain rfl := Option.some.inj (left.symm.trans hv)
      exact ⟨_, right, items⟩
    | _ => cases hv
  · rintro ⟨ys, hw, items⟩
    exact .sequence hv hw items

theorem sameBooleans_tuple_iff {xs ys : List Value} :
    SameBooleans (tuple xs) (tuple ys) ↔ List.Forall₂ SameBooleans xs ys := by
  constructor
  · intro h
    cases h with
    | tuple items => exact items
    | whole left => cases left
  · exact .tuple

/-- Keys match if they are the same key and have their booleans in the same places. -/
theorem matches_key_iff {k k' : Value} (hk : k.IsHashable) (hk' : k'.IsHashable)
    (proper : k.IsProper) (free : k.IsNanFree) :
    Matches k k' ↔ sameKey k k' = true ∧ SameBooleans k k' := by
  induction k using inductionOnParts generalizing k' with
  | leaf k leaf => exact matches_scalar_iff (proper.keyClass?_isSome leaf) free k'
  | tuple xs ih =>
    rw [isProper_tuple_iff] at proper
    have items : ∀ ys, (tuple ys).IsHashable → (List.Forall₂ Matches xs ys ↔
        List.Forall₂ (fun x y => sameKey x y = true) xs ys ∧
          List.Forall₂ SameBooleans xs ys) := by
      intro ys hys
      rw [← forall₂_and_iff]
      apply forall₂_congr_of_mem
      intro x hx y hy
      exact ih x hx (hk.of_occursIn (.tupleItem hx .here)) (hys.of_occursIn (.tupleItem hy .here))
        (proper x hx) fun i within => free i (.tupleItem hx within)
    rw [matches_sequence_iff rfl, sameKey_tuple_iff]
    constructor
    · rintro ⟨ys, right, h⟩
      obtain rfl := hk'.tuple_of_sequence right
      obtain ⟨keys, booleans⟩ := (items ys hk').mp h
      exact ⟨⟨ys, rfl, keys⟩, .tuple booleans⟩
    · rintro ⟨⟨ys, rfl, keys⟩, booleans⟩
      exact ⟨ys, rfl, (items ys hk').mpr ⟨keys, sameBooleans_tuple_iff.mp booleans⟩⟩
  -- No other container can be a key.
  | list xs | map es | set xs => cases hk _ .here
  | loop l body => exact absurd proper (not_isProper_loop l body)

/-! ### Containers -/

theorem occursIn_of_sequence {v x : Value} {xs : List Value} (hv : v.sequence? = some xs)
    (hx : x ∈ xs) : OccursIn x v := by
  cases v with
  | list ys =>
    cases hv
    exact .listItem hx .here
  | tuple ys =>
    cases hv
    exact .tupleItem hx .here
  | _ => cases hv

theorem keysAgree_sequence_iff {v w : Value} {xs : List Value} (hv : v.sequence? = some xs) :
    KeysAgree v w ↔ ∃ ys, w.sequence? = some ys ∧ List.Forall₂ KeysAgree xs ys := by
  constructor
  · intro h
    cases h with
    | leaf leaf => cases v <;> simp_all [sequence?, isLeaf]
    | sequence left right items =>
      obtain rfl := Option.some.inj (left.symm.trans hv)
      exact ⟨_, right, items⟩
    | _ => cases hv
  · rintro ⟨ys, hw, items⟩
    exact .sequence hv hw items

private theorem matches_sequence {v w : Value} {xs : List Value} (hv : v.sequence? = some xs)
    (items : ∀ x ∈ xs, ∀ y, OccursIn y w →
      (Matches x y ↔ equalTree x y = true ∧ KeysAgree x y)) :
    Matches v w ↔ equalTree v w = true ∧ KeysAgree v w := by
  have each : ∀ ys, w.sequence? = some ys → (List.Forall₂ Matches xs ys ↔
      List.Forall₂ (fun x y => equalTree x y = true) xs ys ∧ List.Forall₂ KeysAgree xs ys) := by
    intro ys hw
    rw [← forall₂_and_iff]
    apply forall₂_congr_of_mem
    intro x hx y hy
    exact items x hx y (occursIn_of_sequence hw hy)
  rw [matches_sequence_iff hv, equalTree_sequence_iff hv, keysAgree_sequence_iff hv]
  constructor
  · rintro ⟨ys, hw, h⟩
    obtain ⟨equal, agree⟩ := (each ys hw).mp h
    exact ⟨⟨ys, hw, equal⟩, ys, hw, agree⟩
  · rintro ⟨⟨ys, hw, equal⟩, ys', hw', agree⟩
    obtain rfl := Option.some.inj (hw.symm.trans hw')
    exact ⟨ys, hw, (each ys hw).mpr ⟨equal, agree⟩⟩

/-- Of keys that are apart no two are the same key as a third. -/
theorem unique_of_apart {k : Value} (proper : k.IsProper) {fs : List (Value × Value)}
    (apart : (fs.map (·.1)).Pairwise Apart) {f g : Value × Value} (hf : f ∈ fs) (hg : g ∈ fs)
    (hkf : sameKey k f.1 = true) (hkg : sameKey k g.1 = true) : f = g :=
  eq_of_sameKey_of_pairwise apart hf hg (sameKey_trans (sameKey_symm proper hkf) hkg)

/-- What is found under a key is the entry that has it. -/
theorem find?_sameKey_iff {k : Value} (proper : k.IsProper) {fs : List (Value × Value)}
    (apart : (fs.map (·.1)).Pairwise Apart) {f : Value × Value} :
    fs.find? (fun f => sameKey k f.1) = some f ↔ f ∈ fs ∧ sameKey k f.1 = true := by
  constructor
  · exact of_find?_sameKey
  · rintro ⟨hf, key⟩
    exact find?_sameKey_of_mem apart hf key (sameKey_symm proper key)

theorem keysAgree_map_iff {es fs : List (Value × Value)} : KeysAgree (map es) (map fs) ↔
    ∀ e ∈ es, ∀ f ∈ fs, sameKey e.1 f.1 = true → SameBooleans e.1 f.1 ∧ KeysAgree e.2 f.2 := by
  constructor
  · intro h
    cases h with
    | leaf leaf => cases leaf
    | sequence left => cases left
    | map keys values => exact fun e he f hf key => ⟨keys e he f hf key, values e he f hf key⟩
  · intro h
    exact .map (fun e he f hf key => (h e he f hf key).1) fun e he f hf key => (h e he f hf key).2

theorem matches_map_iff {es : List (Value × Value)} {w : Value} : Matches (map es) w ↔
    ∃ fs, w = map fs ∧ ∃ gs : List (Value × Value), gs.Perm fs ∧
      List.Forall₂ (fun e g => Matches e.1 g.1 ∧ Matches e.2 g.2) es gs := by
  simp only [forall₂_and_iff]
  constructor
  · intro h
    cases h with
    | number left => cases left
    | sequence left => cases left
    | map paired keys values =>
      rw [List.forall₂_map_left_iff, List.forall₂_map_right_iff] at keys values
      exact ⟨_, rfl, _, paired, keys, values⟩
  · rintro ⟨fs, rfl, gs, paired, keys, values⟩
    apply Matches.map paired
    · rwa [List.forall₂_map_left_iff, List.forall₂_map_right_iff]
    · rwa [List.forall₂_map_left_iff, List.forall₂_map_right_iff]

theorem keysAgree_set_iff {xs ys : List Value} : KeysAgree (set xs) (set ys) ↔
    ∀ x ∈ xs, ∀ y ∈ ys, sameKey x y = true → SameBooleans x y := by
  constructor
  · intro h
    cases h with
    | leaf leaf => cases leaf
    | sequence left => cases left
    | set elements => exact elements
  · exact .set

theorem matches_set_iff {xs : List Value} {w : Value} : Matches (set xs) w ↔
    ∃ ys, w = set ys ∧ ∃ zs : List Value, zs.Perm ys ∧ List.Forall₂ Matches xs zs := by
  constructor
  · intro h
    cases h with
    | number left => cases left
    | sequence left => cases left
    | set paired elements => exact ⟨_, rfl, _, paired, elements⟩
  · rintro ⟨ys, rfl, zs, paired, elements⟩
    exact .set paired elements

/-- Of elements that are apart no two are the same key as a third. -/
theorem eq_of_apart {k : Value} (proper : k.IsProper) {ys : List Value}
    (apart : ys.Pairwise Apart) {y z : Value} (hy : y ∈ ys) (hz : z ∈ ys)
    (hky : sameKey k y = true) (hkz : sameKey k z = true) : y = z := by
  by_contra hne
  have : Std.Symm Apart := ⟨fun _ _ hab => hab.symm⟩
  have different := (apart.forall hy hz hne).1
  rw [sameKey_trans (sameKey_symm proper hky) hkz] at different
  cases different

private theorem matches_map {es : List (Value × Value)} {w : Value} (hv : (map es).IsOrdinary)
    (hw : w.IsOrdinary) (values : ∀ e ∈ es, ∀ y, OccursIn y w →
      (Matches e.2 y ↔ equalTree e.2 y = true ∧ KeysAgree e.2 y)) :
    Matches (map es) w ↔ equalTree (map es) w = true ∧ KeysAgree (map es) w := by
  by_cases hmap : ∃ fs, w = map fs
  · obtain ⟨fs, rfl⟩ := hmap
    obtain ⟨proper, apart⟩ := isProper_map_iff.mp hv.proper
    obtain ⟨-, apart'⟩ := isProper_map_iff.mp hw.proper
    have keys : ∀ e ∈ es, ∀ f ∈ fs,
        (Matches e.1 f.1 ↔ sameKey e.1 f.1 = true ∧ SameBooleans e.1 f.1) := by
      intro e he f hf
      have hkey := hv.of_occursIn (.key he .here)
      exact matches_key_iff (hv.keys es .here e he) (hw.keys fs .here f hf) hkey.proper hkey.nanFree
    -- Entries with different keys match no third one both.
    have single : es.Pairwise fun a b => ∀ f ∈ fs, (Matches a.1 f.1 ∧ Matches a.2 f.2) →
        ¬(Matches b.1 f.1 ∧ Matches b.2 f.2) := by
      refine (List.pairwise_map.mp apart).imp_of_mem fun ha hb hab f hf hf' hf'' => ?_
      have left := ((keys _ ha f hf).mp hf'.1).1
      have right := ((keys _ hb f hf).mp hf''.1).1
      exact hab.not_both (sameKey_symm (proper _ hb).1) left right
    -- An entry has one partner at most, of which both sides speak.
    have entry : ∀ e ∈ es, (∃ f ∈ fs, Matches e.1 f.1 ∧ Matches e.2 f.2) ↔
        (∃ f, fs.find? (fun f => sameKey e.1 f.1) = some f ∧ equalTree e.2 f.2 = true) ∧
          ∀ f ∈ fs, sameKey e.1 f.1 = true → SameBooleans e.1 f.1 ∧ KeysAgree e.2 f.2 := by
      intro e he
      have one := exists_and_iff_of_unique (p := fun f : Value × Value => sameKey e.1 f.1 = true)
        (a := fun f => equalTree e.2 f.2 = true)
        (b := fun f => SameBooleans e.1 f.1 ∧ KeysAgree e.2 f.2)
        fun f hf g hg => unique_of_apart (proper e he).1 apart' hf hg
      simp only [find?_sameKey_iff (proper e he).1 apart', and_assoc]
      rw [← one]
      refine exists_congr fun f => and_congr_right fun hf => ?_
      rw [keys e he f hf, values e he f.2 (.entryValue hf .here)]
      tauto
    simp only [matches_map_iff, equalTree_map_iff, keysAgree_map_iff, map.injEq, exists_eq_left']
    rw [exists_pairing_iff single, and_assoc]
    apply and_congr_right
    intro _
    exact (forall₂_congr entry).trans forall₂_and
  · rw [matches_map_iff, equalTree_map_iff]
    constructor
    · rintro ⟨fs, rfl, -⟩
      exact absurd ⟨fs, rfl⟩ hmap
    · rintro ⟨⟨fs, rfl, -⟩, -⟩
      exact absurd ⟨fs, rfl⟩ hmap

theorem equalTree_set_iff {xs : List Value} {w : Value} : equalTree (set xs) w = true ↔
    ∃ ys, w = set ys ∧ xs.length = ys.length ∧ ∀ x ∈ xs, ∃ y ∈ ys, sameKey x y = true := by
  rw [equalTree_whole_iff rfl, sameKey_set_iff]
  constructor
  · exact fun h => h.2.2
  · rintro ⟨ys, rfl, elements⟩
    exact ⟨rfl, rfl, ys, rfl, elements⟩

private theorem matches_set {xs : List Value} {w : Value} (hv : (set xs).IsOrdinary)
    (hw : w.IsOrdinary) :
    Matches (set xs) w ↔ equalTree (set xs) w = true ∧ KeysAgree (set xs) w := by
  by_cases hset : ∃ ys, w = set ys
  · obtain ⟨ys, rfl⟩ := hset
    obtain ⟨proper, apart⟩ := isProper_set_iff.mp hv.proper
    obtain ⟨-, apart'⟩ := isProper_set_iff.mp hw.proper
    have keys : ∀ x ∈ xs, ∀ y ∈ ys,
        (Matches x y ↔ sameKey x y = true ∧ SameBooleans x y) := by
      intro x hx y hy
      have hkey := hv.of_occursIn (.element hx .here)
      exact matches_key_iff (hv.elements xs .here x hx) (hw.elements ys .here y hy) hkey.proper
        hkey.nanFree
    have single : xs.Pairwise fun a b => ∀ y ∈ ys, Matches a y → ¬Matches b y := by
      refine apart.imp_of_mem fun ha hb hab y hy ha' hb' => ?_
      have left := ((keys _ ha y hy).mp ha').1
      have right := ((keys _ hb y hy).mp hb').1
      exact hab.not_both (sameKey_symm (proper _ hb)) left right
    -- As for entries, with nothing besides the key.
    have element : ∀ x ∈ xs, (∃ y ∈ ys, Matches x y) ↔ (∃ y ∈ ys, sameKey x y = true) ∧
        ∀ y ∈ ys, sameKey x y = true → SameBooleans x y := by
      intro x hx
      have one := exists_and_iff_of_unique (p := fun y => sameKey x y = true) (a := fun _ => True)
        (b := SameBooleans x) fun y hy z hz => eq_of_apart (proper x hx) apart' hy hz
      simp only [true_and, and_true] at one
      rw [← one]
      exact exists_congr fun y => and_congr_right fun hy => keys x hx y hy
    simp only [matches_set_iff, equalTree_set_iff, keysAgree_set_iff, set.injEq, exists_eq_left']
    rw [exists_pairing_iff single, and_assoc]
    apply and_congr_right
    intro _
    exact (forall₂_congr element).trans forall₂_and
  · rw [matches_set_iff, equalTree_set_iff]
    constructor
    · rintro ⟨ys, rfl, -⟩
      exact absurd ⟨ys, rfl⟩ hset
    · rintro ⟨⟨ys, rfl, -⟩, -⟩
      exact absurd ⟨ys, rfl⟩ hset

/-- **When instances are equal.**  Two values without a not-a-number match exactly if they are equal
and, wherever keys or elements of both are the same, their booleans stand in the same places. -/
theorem matches_iff_equals {v w : Value} (hv : v.IsOrdinary) (hw : w.IsOrdinary) :
    Matches v w ↔ v.equals w = true ∧ KeysAgree v w := by
  rw [hv.proper.equals_eq hw.proper]
  induction v using inductionOnParts generalizing w with
  | leaf v leaf =>
    have scalar := hv.proper.keyClass?_isSome leaf
    rw [matches_scalar_iff scalar hv.nanFree, ← equalTree_scalar_iff scalar hv.nanFree]
    exact ⟨fun h => ⟨h, .leaf leaf⟩, And.left⟩
  | list xs ih =>
    apply matches_sequence rfl
    intro x hx y within
    exact ih x hx (hv.of_occursIn (.listItem hx .here)) (hw.of_occursIn within)
  | tuple xs ih =>
    apply matches_sequence rfl
    intro x hx y within
    exact ih x hx (hv.of_occursIn (.tupleItem hx .here)) (hw.of_occursIn within)
  | map es ih =>
    apply matches_map hv hw
    intro e he y within
    exact (ih e he).2 (hv.of_occursIn (.entryValue he .here)) (hw.of_occursIn within)
  | set xs => exact matches_set hv hw
  | loop l body => exact absurd hv.proper (not_isProper_loop l body)

/-- A map with a tuple for a key, in which a boolean stands by an integer. -/
def tupleKeyed : Value :=
  map [(tuple [int 1, bool true], list [bool false]), (str "a", set [int 1])]

/-- The same with floating-point numbers, a tuple for a list and its entries in another order. -/
def tupleKeyedFloats : Value :=
  map [(str "a", set [float (.finite false 1 0)]),
    (tuple [float (.finite false 1 0), bool true], tuple [bool false])]

theorem matches_iff_equals_tupleKeyed :
    (tupleKeyed.IsOrdinary ∧ tupleKeyedFloats.IsOrdinary) ∧
      Matches tupleKeyed tupleKeyedFloats ∧ tupleKeyed.equals tupleKeyedFloats = true ∧
        KeysAgree tupleKeyed tupleKeyedFloats := by
  have hv : tupleKeyed.IsOrdinary := by
    refine ⟨?_, ?_, ?_, ?_⟩
    · simp [tupleKeyed, IsProper, AreProper, Apart, sameKey, sameNan, sameQuantity, quantity?]
    · simp (disch := decide) [tupleKeyed, IsNanFree, occursIn_leaf_iff]
    · simp (disch := decide) [tupleKeyed, occursIn_leaf_iff, isHashable_leaf, -Prod.forall]
    · simp (disch := decide) [tupleKeyed, occursIn_leaf_iff, isHashable_leaf]
  have hw : tupleKeyedFloats.IsOrdinary := by
    refine ⟨?_, ?_, ?_, ?_⟩
    · simp [tupleKeyedFloats, IsProper, AreProper, Apart, sameKey, sameNan, sameQuantity, quantity?]
    · simp (disch := decide) [tupleKeyedFloats, IsNanFree, occursIn_leaf_iff]
    · simp (disch := decide) [tupleKeyedFloats, occursIn_leaf_iff, isHashable_leaf, -Prod.forall]
    · simp (disch := decide) [tupleKeyedFloats, occursIn_leaf_iff, isHashable_leaf]
  have one : Matches (int 1) (float (.finite false 1 0)) :=
    .number rfl rfl rfl (by decide +kernel) (by decide)
  have key : Matches (tuple [int 1, bool true]) (tuple [float (.finite false 1 0), bool true]) :=
    .sequence rfl rfl (.cons one (.cons (.bool true) .nil))
  have items : Matches (list [bool false]) (tuple [bool false]) :=
    .sequence rfl rfl (.cons (.bool false) .nil)
  have elements : Matches (set [int 1]) (set [float (.finite false 1 0)]) :=
    .set (.refl _) (.cons one .nil)
  have both : Matches tupleKeyed tupleKeyedFloats :=
    .map (List.Perm.swap ..) (.cons key (.cons (.str "a") .nil)) (.cons items (.cons elements .nil))
  exact ⟨⟨hv, hw⟩, both, (matches_iff_equals hv hw).mp both⟩

/-- Maps and sets that are equal, though a boolean stands in one and a number in the other. -/
theorem boolean_key_equals_number :
    ((map [(bool true, str "a")]).IsOrdinary ∧ (map [(int 1, str "a")]).IsOrdinary ∧
      (map [(bool true, str "a")]).equals (map [(int 1, str "a")]) = true ∧
      ¬Matches (map [(bool true, str "a")]) (map [(int 1, str "a")])) ∧
    (set [bool true]).IsOrdinary ∧ (set [int 1]).IsOrdinary ∧
      (set [bool true]).equals (set [int 1]) = true ∧ ¬Matches (set [bool true]) (set [int 1]) := by
  have ordinary : ∀ k ∈ [bool true, int 1],
      (map [(k, str "a")]).IsOrdinary ∧ (set [k]).IsOrdinary := by
    simp only [List.forall_mem_cons, List.not_mem_nil, false_implies, implies_true, and_true]
    refine ⟨⟨?_, ?_⟩, ?_, ?_⟩ <;> constructor <;>
      simp (disch := decide) [IsProper, AreProperEntries, AreProper, IsNanFree, occursIn_leaf_iff,
        isHashable_leaf, -Prod.forall]
  simp only [List.forall_mem_cons, List.not_mem_nil, false_implies, implies_true,
    and_true] at ordinary
  obtain ⟨⟨hmap, hset⟩, hmap', hset'⟩ := ordinary
  have different : ¬Matches (bool true) (int 1) := by
    intro h
    cases h with
    | number left => cases left
    | sequence left => cases left
  refine ⟨⟨hmap, hmap', by decide +kernel, fun h => ?_⟩, hset, hset', by decide +kernel,
    fun h => ?_⟩
  -- There is one entry, or one element, on either side, so that only these could be paired.
  · obtain ⟨fs, hfs, gs, paired, entries⟩ := matches_map_iff.mp h
    cases hfs
    obtain rfl := List.perm_singleton.mp paired
    cases entries with
    | cons entry => exact different entry.1
  · obtain ⟨ys, hys, zs, paired, elements⟩ := matches_set_iff.mp h
    cases hys
    obtain rfl := List.perm_singleton.mp paired
    cases elements with
    | cons element => exact different element

end Conform.Value
