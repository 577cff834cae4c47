import Conform.Proofs.Value.Key
import Mathlib.Data.List.Pairwise
/-!
# Equality of instances

On proper values `equals` is symmetric and transitive; it fails to be reflexive where a not-a-number
occurs.  A value that holds itself equals nothing, so that symmetry and transitivity extend to all
values that can be built (`IsRegular`).  Two values are alike (`Alike`) if they are equal or one and
the same not-a-number.
-/
namespace Conform.Value

/-! ### Comparing by form -/

/-- The items of a list or tuple as it is written. -/
def sequence? : Value → Option (List Value)
  | list xs => some xs
  | tuple xs => some xs
  | _ => none

/-- Whether a value is compared as a whole: no boolean and no container that is opened. -/
def isWhole : Value → Bool
  | bool _ => false
  | list _ => false
  | tuple _ => false
  | map _ => false
  | _ => true

theorem isWhole_of_isLeaf {v : Value} (h : v.isLeaf = true) (hb : ¬∃ b, v = bool b) :
    v.isWhole = true := by
  cases v <;> simp_all [isLeaf, isWhole]

theorem equalItems_iff (xs ys : List Value) :
    equalItems xs ys = true ↔ List.Forall₂ (fun x y => equalTree x y = true) xs ys := by
  induction xs generalizing ys with
  | nil => cases ys <;> simp [equalItems]
  | cons x xs ih => cases ys <;> simp [equalItems, ih]

theorem equalEntries_iff (es fs : List (Value × Value)) :
    equalEntries es fs = true ↔
      ∀ e ∈ es, ∃ f, fs.find? (fun f => sameKey e.1 f.1) = some f ∧ equalTree e.2 f.2 = true := by
  induction es with
  | nil => simp [equalEntries]
  | cons e es ih =>
    obtain ⟨k, x⟩ := e
    rw [equalEntries, List.forall_mem_cons, ← ih]
    cases fs.find? fun f => sameKey k f.1 with
    | none => simp
    | some f => simp

theorem equalTree_sequence_iff {v w : Value} {xs : List Value} (hv : v.sequence? = some xs) :
    equalTree v w = true ↔
      ∃ ys, w.sequence? = some ys ∧ List.Forall₂ (fun x y => equalTree x y = true) xs ys := by
  cases v <;> simp only [sequence?, Option.some.injEq, reduceCtorEq] at hv
  all_goals
    subst hv
    cases w <;> simp [equalTree, sequence?, equalItems_iff, equalScalar, ← Bool.not_eq_true,
      sameKey_list_iff, sameKey_tuple_iff]

theorem equalTree_map_iff {es : List (Value × Value)} {w : Value} :
    equalTree (map es) w = true ↔ ∃ fs, w = map fs ∧ es.length = fs.length ∧
      ∀ e ∈ es, ∃ f, fs.find? (fun f => sameKey e.1 f.1) = some f ∧ equalTree e.2 f.2 = true := by
  cases w <;> simp [equalTree, equalEntries_iff, equalScalar, ← Bool.not_eq_true, sameKey_map_iff]

theorem equalTree_bool_iff {b : Bool} {w : Value} :
    equalTree (bool b) w = true ↔ w = bool b := by
  cases w with
  | bool c =>
    change (b == c) = true ↔ _
    simpa using eq_comm
  | _ => exact iff_of_false Bool.false_ne_true (by simp)

theorem equalTree_whole_iff {v : Value} (hv : v.isWhole = true) (w : Value) :
    equalTree v w = true ↔ w.isBool = false ∧ sameNan v w = false ∧ sameKey v w = true := by
  have unfolded : equalTree v w = (!w.isBool && equalScalar v w) := by
    cases v <;> first | rfl | cases hv
  rw [unfolded, equalScalar]
  simp

theorem sameNan_iff_eq {v w : Value} :
    sameNan v w = true ↔ ∃ i, v = float (.nan i) ∧ w = float (.nan i) := by
  unfold sameNan
  split
  · rename_i i j
    simpa using eq_comm
  · rename_i h
    exact iff_of_false Bool.false_ne_true fun ⟨i, hv, hw⟩ => h i i hv hw

theorem sameNan_symm (v w : Value) : sameNan v w = sameNan w v := by
  rw [Bool.eq_iff_iff, sameNan_iff_eq, sameNan_iff_eq]
  exact exists_congr fun i => and_comm

/-- A not-a-number is the same key as itself only. -/
theorem eq_of_sameKey_nan {i : Nat} {v : Value} (h : sameKey (float (.nan i)) v = true) :
    v = float (.nan i) := by
  have same := (sameKey_iff_keyClass? rfl v).mp h
  cases v <;> simp [keyClass?, Quantity.ofInt, Binary64.nanIdentity?] at same
  case float x =>
    cases x <;> simp_all

/-- What is compared as a whole is the same key only as what is compared so, booleans apart. -/
theorem isWhole_of_sameKey {v w : Value} (hv : v.isWhole = true) (h : sameKey v w = true)
    (hw : w.isBool = false) : w.isWhole = true := by
  cases v with
  | bool b => cases hv
  | list xs => cases hv
  | tuple xs => cases hv
  | map es => cases hv
  | set xs =>
    obtain ⟨ys, rfl, -⟩ := sameKey_set_iff.mp h
    rfl
  | loop l body =>
    rw [sameKey_loop] at h
    cases h
  | back l =>
    rw [sameKey_back] at h
    cases h
  | _ =>
    have same := (sameKey_iff_keyClass? rfl w).mp h
    cases w <;> simp_all [isWhole, isBool, keyClass?]

/-! ### The laws -/

private theorem equalTree_sequence_symm {v w : Value} {xs : List Value}
    (hv : v.sequence? = some xs)
    (symm : ∀ x ∈ xs, ∀ y, equalTree x y = true → equalTree y x = true)
    (h : equalTree v w = true) : equalTree w v = true := by
  obtain ⟨ys, hw, hxy⟩ := (equalTree_sequence_iff hv).mp h
  exact (equalTree_sequence_iff hw).mpr ⟨xs, hv, forall₂_symm_of_mem hxy symm⟩

private theorem equalTree_whole_symm {v w : Value} (hv : v.IsProper) (whole : v.isWhole = true)
    (h : equalTree v w = true) : equalTree w v = true := by
  obtain ⟨hbool, hnan, hkey⟩ := (equalTree_whole_iff whole w).mp h
  refine (equalTree_whole_iff (isWhole_of_sameKey whole hkey hbool) v).mpr ⟨?_, ?_, ?_⟩
  · cases v <;> simp_all [isWhole, isBool]
  · rw [sameNan_symm, hnan]
  · exact sameKey_symm hv hkey

/-- Keys that are apart are different keys wherever they stand. -/
theorem eq_of_sameKey_of_pairwise {es : List (Value × Value)} (h : (es.map (·.1)).Pairwise Apart)
    {d e : Value × Value} (hd : d ∈ es) (he : e ∈ es) (hde : sameKey d.1 e.1 = true) : d = e := by
  by_contra hne
  have : Std.Symm fun a b : Value × Value => Apart a.1 b.1 := ⟨fun _ _ hab => hab.symm⟩
  have apart := (List.pairwise_map.mp h).forall hd he hne
  rw [apart.1] at hde
  cases hde

theorem of_find?_sameKey {k : Value} {es : List (Value × Value)} {e : Value × Value}
    (h : es.find? (fun e => sameKey k e.1) = some e) : e ∈ es ∧ sameKey k e.1 = true :=
  ⟨List.mem_of_find?_eq_some h, by simpa using List.find?_some h⟩

/-- The entry that has a key is found under it. -/
theorem find?_sameKey_of_mem {k : Value} {es : List (Value × Value)}
    (apart : (es.map (·.1)).Pairwise Apart) {e : Value × Value} (he : e ∈ es)
    (key : sameKey k e.1 = true) (key' : sameKey e.1 k = true) :
    es.find? (fun e => sameKey k e.1) = some e := by
  obtain ⟨d, hd⟩ : ∃ d, es.find? (fun e => sameKey k e.1) = some d :=
    Option.isSome_iff_exists.mp (List.find?_isSome.mpr ⟨e, he, key⟩)
  obtain ⟨found, keyFound⟩ := of_find?_sameKey hd
  rw [hd, eq_of_sameKey_of_pairwise apart he found (sameKey_trans key' keyFound)]

theorem equalTree_symm {v w : Value} (hv : v.IsProper) (h : equalTree v w = true) :
    equalTree w v = true := by
  induction v using inductionOnParts generalizing w with
  | leaf v leaf =>
    by_cases hb : ∃ b, v = bool b
    · obtain ⟨b, rfl⟩ := hb
      rw [equalTree_bool_iff] at h
      rw [h, equalTree_bool_iff]
    · exact equalTree_whole_symm hv (isWhole_of_isLeaf leaf hb) h
  | list xs ih =>
    rw [isProper_list_iff] at hv
    exact equalTree_sequence_symm rfl (fun x hx _ h => ih x hx (hv x hx) h) h
  | tuple xs ih =>
    rw [isProper_tuple_iff] at hv
    exact equalTree_sequence_symm rfl (fun x hx _ h => ih x hx (hv x hx) h) h
  | map es ih =>
    obtain ⟨hproper, hapart⟩ := isProper_map_iff.mp hv
    obtain ⟨fs, rfl, hlen, hef⟩ := equalTree_map_iff.mp h
    refine equalTree_map_iff.mpr ⟨es, rfl, hlen.symm, fun f hf => ?_⟩
    -- The definition only looks up the keys of the first map; as many keys that are apart leave none over.
    have partner : ∀ e ∈ es, ∃ f ∈ fs, sameKey e.1 f.1 = true ∧ equalTree e.2 f.2 = true := by
      intro e he
      obtain ⟨f, hfind, hx⟩ := hef e he
      obtain ⟨hf, hk⟩ := of_find?_sameKey hfind
      exact ⟨f, hf, hk, hx⟩
    obtain ⟨e, he, hk, hx⟩ := exists_entry (R := fun x y => equalTree x y = true) hlen hapart
      (fun e he _ => sameKey_symm (hproper e he).1) partner f hf
    have hk' : sameKey f.1 e.1 = true := sameKey_symm (hproper e he).1 hk
    exact ⟨e, find?_sameKey_of_mem hapart he hk' hk, (ih e he).2 (hproper e he).2 hx⟩
  | set xs ih => exact equalTree_whole_symm hv rfl h
  | loop l body => exact absurd hv (not_isProper_loop l body)

private theorem equalTree_sequence_trans {u v w : Value} {xs : List Value}
    (hu : u.sequence? = some xs)
    (trans : ∀ x ∈ xs, ∀ y z, equalTree x y = true → equalTree y z = true → equalTree x z = true)
    (huv : equalTree u v = true) (hvw : equalTree v w = true) : equalTree u w = true := by
  obtain ⟨ys, hv, hxy⟩ := (equalTree_sequence_iff hu).mp huv
  obtain ⟨zs, hw, hyz⟩ := (equalTree_sequence_iff hv).mp hvw
  exact (equalTree_sequence_iff hu).mpr ⟨zs, hw, forall₂_trans_of_mem hxy hyz trans⟩

private theorem equalTree_whole_trans {u v w : Value} (whole : u.isWhole = true)
    (huv : equalTree u v = true) (hvw : equalTree v w = true) : equalTree u w = true := by
  obtain ⟨hbool, hnan, hkey⟩ := (equalTree_whole_iff whole v).mp huv
  obtain ⟨hbool', hnan', hkey'⟩ :=
    (equalTree_whole_iff (isWhole_of_sameKey whole hkey hbool) w).mp hvw
  refine (equalTree_whole_iff whole w).mpr ⟨hbool', ?_, sameKey_trans hkey hkey'⟩
  -- A not-a-number is the same key as itself only, which the first equation excludes.
  by_contra hne
  obtain ⟨i, rfl, rfl⟩ := sameNan_iff_eq.mp (Bool.not_eq_false _ ▸ hne)
  rw [eq_of_sameKey_nan hkey] at hnan
  simp [sameNan] at hnan

theorem equalTree_trans {u v w : Value} (hu : u.IsProper) (huv : equalTree u v = true)
    (hvw : equalTree v w = true) : equalTree u w = true := by
  induction u using inductionOnParts generalizing v w with
  | leaf u leaf =>
    by_cases hb : ∃ b, u = bool b
    · obtain ⟨b, rfl⟩ := hb
      rw [equalTree_bool_iff] at huv
      exact huv ▸ hvw
    · exact equalTree_whole_trans (isWhole_of_isLeaf leaf hb) huv hvw
  | list xs ih =>
    rw [isProper_list_iff] at hu
    exact equalTree_sequence_trans rfl (fun x hx _ _ h h' => ih x hx (hu x hx) h h') huv hvw
  | tuple xs ih =>
    rw [isProper_tuple_iff] at hu
    exact equalTree_sequence_trans rfl (fun x hx _ _ h h' => ih x hx (hu x hx) h h') huv hvw
  | map es ih =>
    obtain ⟨hproper, -⟩ := isProper_map_iff.mp hu
    obtain ⟨fs, rfl, hlen, hef⟩ := equalTree_map_iff.mp huv
    obtain ⟨gs, rfl, hlen', hfg⟩ := equalTree_map_iff.mp hvw
    refine equalTree_map_iff.mpr ⟨gs, rfl, hlen.trans hlen', fun e he => ?_⟩
    obtain ⟨f, hfind, hx⟩ := hef e he
    obtain ⟨hf, hk⟩ := of_find?_sameKey hfind
    obtain ⟨g, hg, hx'⟩ := hfg f hf
    have hk' : sameKey f.1 e.1 = true := sameKey_symm (hproper e he).1 hk
    -- The same keys are found for `e` as for `f`.
    have hsame : (fun g : Value × Value => sameKey e.1 g.1) = fun g => sameKey f.1 g.1 := by
      funext g
      exact Bool.eq_iff_iff.mpr ⟨sameKey_trans hk', sameKey_trans hk⟩
    exact ⟨g, hsame ▸ hg, (ih e he).2 (hproper e he).2 hx hx'⟩
  | set xs ih => exact equalTree_whole_trans rfl huv hvw
  | loop l body => exact absurd hu (not_isProper_loop l body)

/-! ### Proper values are trees -/

theorem isTreeItems_iff (xs : List Value) : isTreeItems xs = true ↔ ∀ x ∈ xs, x.isTree = true := by
  induction xs with
  | nil => simp [isTreeItems]
  | cons x xs ih => simp [isTreeItems, ih]

theorem isTreeEntries_iff (es : List (Value × Value)) :
    isTreeEntries es = true ↔ ∀ e ∈ es, e.1.isTree = true ∧ e.2.isTree = true := by
  induction es with
  | nil => simp [isTreeEntries]
  | cons e es ih =>
    obtain ⟨k, x⟩ := e
    rw [isTreeEntries, Bool.and_eq_true, Bool.and_eq_true, ih, List.forall_mem_cons]

theorem IsProper.isTree {v : Value} (h : v.IsProper) : v.isTree = true := by
  induction v using inductionOnParts with
  | leaf v leaf => cases v <;> simp_all [isLeaf, Value.isTree, IsProper]
  | list xs ih =>
    rw [isProper_list_iff] at h
    exact (isTreeItems_iff xs).mpr fun x hx => ih x hx (h x hx)
  | tuple xs ih =>
    rw [isProper_tuple_iff] at h
    exact (isTreeItems_iff xs).mpr fun x hx => ih x hx (h x hx)
  | map es ih =>
    rw [isProper_map_iff] at h
    exact (isTreeEntries_iff es).mpr fun e he =>
      ⟨(ih e he).1 (h.1 e he).1, (ih e he).2 (h.1 e he).2⟩
  | set xs ih =>
    rw [isProper_set_iff] at h
    exact (isTreeItems_iff xs).mpr fun x hx => ih x hx (h.1 x hx)
  | loop l body => exact absurd h (not_isProper_loop l body)

/-- A value with loops in it is the same key as no value. -/
theorem isTree_of_sameKey {v w : Value} (h : sameKey v w = true) : v.isTree = true := by
  induction v using inductionOnParts generalizing w with
  | leaf v leaf =>
    rcases keyClass?_isSome_or_back leaf with hv | ⟨l, rfl⟩
    · cases v <;> simp_all [keyClass?, Value.isTree]
    · rw [sameKey_back] at h
      cases h
  | list xs ih =>
    obtain ⟨ys, -, hxy⟩ := sameKey_list_iff.mp h
    refine (isTreeItems_iff xs).mpr fun x hx => ?_
    obtain ⟨y, -, hy⟩ := exists_of_forall₂ hxy hx
    exact ih x hx hy
  | tuple xs ih =>
    obtain ⟨ys, -, hxy⟩ := sameKey_tuple_iff.mp h
    refine (isTreeItems_iff xs).mpr fun x hx => ?_
    obtain ⟨y, -, hy⟩ := exists_of_forall₂ hxy hx
    exact ih x hx hy
  | map es ih =>
    obtain ⟨fs, -, -, hef⟩ := sameKey_map_iff.mp h
    refine (isTreeEntries_iff es).mpr fun e he => ?_
    obtain ⟨f, -, hk, hx⟩ := hef e he
    exact ⟨(ih e he).1 hk, (ih e he).2 hx⟩
  | set xs ih =>
    obtain ⟨ys, -, -, hxy⟩ := sameKey_set_iff.mp h
    refine (isTreeItems_iff xs).mpr fun x hx => ?_
    obtain ⟨y, -, hy⟩ := hxy x hx
    exact ih x hx hy
  | loop l body =>
    rw [sameKey_loop] at h
    cases h

private theorem isTreeItems_of_forall₂ {xs ys : List Value}
    (tree : ∀ x ∈ xs, ∀ y, equalTree x y = true → x.isTree = true)
    (h : List.Forall₂ (fun x y => equalTree x y = true) xs ys) : isTreeItems xs = true := by
  refine (isTreeItems_iff xs).mpr fun x hx => ?_
  obtain ⟨y, -, hy⟩ := exists_of_forall₂ h hx
  exact tree x hx y hy

/-- A value with loops in it equals no value before it is expanded. -/
theorem isTree_of_equalTree {v w : Value} (h : equalTree v w = true) : v.isTree = true := by
  induction v using inductionOnParts generalizing w with
  | leaf v leaf =>
    by_cases hb : ∃ b, v = bool b
    · obtain ⟨b, rfl⟩ := hb
      rfl
    · exact isTree_of_sameKey ((equalTree_whole_iff (isWhole_of_isLeaf leaf hb) w).mp h).2.2
  | list xs ih =>
    obtain ⟨ys, -, hxy⟩ := (equalTree_sequence_iff rfl).mp h
    exact isTreeItems_of_forall₂ (fun x hx _ h => ih x hx h) hxy
  | tuple xs ih =>
    obtain ⟨ys, -, hxy⟩ := (equalTree_sequence_iff rfl).mp h
    exact isTreeItems_of_forall₂ (fun x hx _ h => ih x hx h) hxy
  | map es ih =>
    obtain ⟨fs, -, -, hef⟩ := equalTree_map_iff.mp h
    refine (isTreeEntries_iff es).mpr fun e he => ?_
    obtain ⟨f, hf, hx⟩ := hef e he
    exact ⟨isTree_of_sameKey (of_find?_sameKey hf).2, (ih e he).2 hx⟩
  | set xs ih => exact isTree_of_sameKey ((equalTree_whole_iff rfl w).mp h).2.2
  | loop l body => exact isTree_of_sameKey ((equalTree_whole_iff rfl w).mp h).2.2

theorem isClosedItems_iff (labels : List Nat) (xs : List Value) :
    isClosedItems labels xs = true ↔ ∀ x ∈ xs, x.isClosed labels = true := by
  induction xs with
  | nil => simp [isClosedItems]
  | cons x xs ih => simp [isClosedItems, ih]

theorem isClosedEntries_iff (labels : List Nat) (es : List (Value × Value)) :
    isClosedEntries labels es = true ↔
      ∀ e ∈ es, e.1.isClosed labels = true ∧ e.2.isClosed labels = true := by
  induction es with
  | nil => simp [isClosedEntries]
  | cons e es ih =>
    obtain ⟨k, x⟩ := e
    rw [isClosedEntries, Bool.and_eq_true, Bool.and_eq_true, ih, List.forall_mem_cons]

theorem isClosed_of_isTree {v : Value} (h : v.isTree = true) (labels : List Nat) :
    v.isClosed labels = true := by
  induction v using inductionOnParts with
  | leaf v leaf => cases v <;> simp_all [isLeaf, isTree, isClosed]
  | list xs ih =>
    exact (isClosedItems_iff labels xs).mpr fun x hx => ih x hx ((isTreeItems_iff xs).mp h x hx)
  | tuple xs ih =>
    exact (isClosedItems_iff labels xs).mpr fun x hx => ih x hx ((isTreeItems_iff xs).mp h x hx)
  | map es ih =>
    refine (isClosedEntries_iff labels es).mpr fun e he => ?_
    obtain ⟨hk, hx⟩ := (isTreeEntries_iff es).mp h e he
    exact ⟨(ih e he).1 hk, (ih e he).2 hx⟩
  | set xs ih =>
    exact (isClosedItems_iff labels xs).mpr fun x hx => ih x hx ((isTreeItems_iff xs).mp h x hx)
  | loop l body => cases h

theorem IsProper.unroll {v : Value} (h : v.IsProper) : v.unroll = v := unroll_of_isTree h.isTree

theorem IsProper.equals_eq {v w : Value} (hv : v.IsProper) (hw : w.IsProper) :
    v.equals w = equalTree v w :=
  equals_of_isTree hv.isTree hw.isTree

/-- Whether loops are left however often the value is expanded, as in every value that holds itself. -/
def IsCyclic (v : Value) : Prop := ∀ n, (Nat.repeat expand n v).isTree = false

theorem repeat_expand_of_isTree {v : Value} (h : v.isTree = true) (n : Nat) :
    Nat.repeat expand n v = v := by
  induction n with
  | zero => rfl
  | succ n ih => rw [Nat.repeat, ih, expand_of_isTree h]

/-- A proper value equals none that holds itself. -/
theorem IsProper.not_equals_of_isCyclic {v w : Value} (hv : v.IsProper) (hw : w.IsCyclic) :
    v.equals w = false := by
  by_contra h
  rw [Bool.not_eq_false, equals] at h
  rw [repeat_expand_of_isTree hv.isTree] at h
  -- By symmetry the expanded value would be free of loops.
  have tree := isTree_of_equalTree (equalTree_symm hv h)
  rw [hw] at tree
  cases tree

/-- A value that holds itself equals none. -/
theorem IsCyclic.not_equals {v : Value} (hv : v.IsCyclic) (w : Value) : v.equals w = false := by
  by_contra h
  rw [Bool.not_eq_false, equals] at h
  have tree := isTree_of_equalTree h
  rw [hv] at tree
  cases tree

/-- Whether a value is proper or holds itself, as is every value that can be built. -/
def IsRegular (v : Value) : Prop := v.IsProper ∨ v.IsCyclic

theorem IsProper.isRegular {v : Value} (h : v.IsProper) : v.IsRegular := Or.inl h

/-- Of regular values only proper ones are equal. -/
theorem IsRegular.isProper_of_equals {v w : Value} (hv : v.IsRegular) (hw : w.IsRegular)
    (h : v.equals w = true) : v.IsProper ∧ w.IsProper := by
  rcases hv with hv | hv
  · rcases hw with hw | hw
    · exact ⟨hv, hw⟩
    · rw [hv.not_equals_of_isCyclic hw] at h
      cases h
  · rw [hv.not_equals] at h
    cases h

theorem equals_symm {v w : Value} (hv : v.IsRegular) (hw : w.IsRegular) (h : v.equals w = true) :
    w.equals v = true := by
  obtain ⟨hv, hw⟩ := hv.isProper_of_equals hw h
  rw [hv.equals_eq hw] at h
  rw [hw.equals_eq hv]
  exact equalTree_symm hv h

theorem equals_trans {u v w : Value} (hu : u.IsRegular) (hv : v.IsRegular) (hw : w.IsRegular)
    (huv : u.equals v = true) (hvw : v.equals w = true) : u.equals w = true := by
  obtain ⟨hu, hv⟩ := hu.isProper_of_equals hv huv
  obtain ⟨-, hw⟩ := hv.isRegular.isProper_of_equals hw hvw
  rw [hu.equals_eq hv] at huv
  rw [hv.equals_eq hw] at hvw
  rw [hu.equals_eq hw]
  exact equalTree_trans hu huv hvw

/-! ### Alike values -/

/-- Whether two values are equal, or one and the same not-a-number. -/
def Alike (v w : Value) : Prop := v.equals w = true ∨ sameNan v w = true

theorem Alike.symm {v w : Value} (hv : v.IsRegular) (hw : w.IsRegular) (h : Alike v w) :
    Alike w v := by
  rcases h with h | h
  · exact Or.inl (equals_symm hv hw h)
  · exact Or.inr (sameNan_symm v w ▸ h)

theorem isTree_of_isScalar {v : Value} (h : v.isScalar = true) : v.isTree = true := by
  cases v <;> simp_all [isScalar, isTree]

theorem sameKey_of_sameNan {v w : Value} (h : sameNan v w = true) : sameKey v w = true := by
  obtain ⟨i, rfl, rfl⟩ := sameNan_iff_eq.mp h
  simp [sameKey, sameNan]

/-- Scalars are alike exactly if a set takes them for the same. -/
theorem alike_iff_sameScalar {v w : Value} (hv : v.isScalar = true) (hw : w.isScalar = true) :
    Alike v w ↔ sameScalar v w = true := by
  rw [Alike, equals_of_isTree (isTree_of_isScalar hv) (isTree_of_isScalar hw), sameScalar,
    Bool.and_eq_true, beq_iff_eq]
  by_cases hb : ∃ b, v = bool b
  · obtain ⟨b, rfl⟩ := hb
    rw [equalTree_bool_iff]
    cases w <;> simp [isBool, sameNan, sameKey, sameQuantity, quantity?, Quantity.eq_iff,
      Quantity.ofInt]
    case bool c => cases b <;> cases c <;> simp
  -- Booleans apart, a scalar is compared as a whole.
  · have whole : v.isWhole = true := by cases v <;> simp_all [isScalar, isWhole]
    have hvb : v.isBool = false := by cases v <;> simp_all [isBool]
    rw [equalTree_whole_iff whole, hvb]
    constructor
    · rintro (⟨hwb, -, hkey⟩ | hnan)
      · exact ⟨hwb.symm, hkey⟩
      · obtain ⟨i, -, rfl⟩ := sameNan_iff_eq.mp hnan
        exact ⟨rfl, sameKey_of_sameNan hnan⟩
    · rintro ⟨hwb, hkey⟩
      cases hnan : sameNan v w with
      | false => exact Or.inl ⟨hwb.symm, rfl, hkey⟩
      | true => exact Or.inr rfl

/-- A scalar is like no value of another sort. -/
theorem not_alike_of_isScalar {v w : Value} (hv : v.isScalar = true) (hw : w.isScalar = false)
    (regular : w.IsRegular) : ¬Alike v w := by
  rintro (h | h)
  · have proper : v.IsProper := isProper_of_keyClass? (by cases v <;> simp_all [isScalar, keyClass?])
    obtain ⟨-, hproper⟩ := proper.isRegular.isProper_of_equals regular h
    rw [proper.equals_eq hproper] at h
    cases v <;> simp only [isScalar, Bool.false_eq_true] at hv <;>
      cases w <;> simp_all [isScalar, equalTree, equalScalar, sameKey, sameNan, sameQuantity,
        quantity?, isBool]
  · obtain ⟨i, -, rfl⟩ := sameNan_iff_eq.mp h
    cases hw

end Conform.Value
