import Conform.Proofs.Value.Comparing
import Conform.Proofs.Value.Unrolling
import Mathlib.Data.List.ProdSigma
import Mathlib.Tactic.Push
/-!
# Comparisons without end

A comparison that goes deeper than there are pairs of parts of its values has no answer at any depth, so that
the test of `isEndless` is exact (`isEndless_iff`).  The pairs whose comparison has an answer become more with
the depth, until there is a depth that adds none, and from there on there are no more: whether a pair has an
answer depends on what is known of the pairs of their parts one level less deep.  As there are finitely many
pairs, such a depth comes before there would be more answers than pairs.
-/
namespace Conform.Value

/-! ### Answers at a greater depth -/

theorem compareWithin_succ {n : Nat} {v w : Value} {b : Bool} (h : compareWithin n v w = some b) :
    compareWithin (n + 1) v w = some b := by
  induction n generalizing v w b with
  | zero => cases h
  | succ n ih =>
    rw [compareWithin] at *
    cases hc : comparing v w with
    | done equal => simpa only [hc] using h
    | pairs parts =>
      simp only [hc] at *
      exact allM_mono (fun p _ c => ih) h

theorem compareWithin_le {n m : Nat} (le : n ≤ m) {v w : Value} {b : Bool}
    (h : compareWithin n v w = some b) : compareWithin m v w = some b := by
  induction le with
  | refl => exact h
  | step _ ih => exact compareWithin_succ ih

theorem isSome_compareWithin {n m : Nat} (le : n ≤ m) {v w : Value}
    (h : (compareWithin n v w).isSome = true) : (compareWithin m v w).isSome = true := by
  obtain ⟨b, hb⟩ := Option.isSome_iff_exists.mp h
  rw [compareWithin_le le hb, Option.isSome_some]

/-! ### Comparisons of trees -/

/-- Whether the comparison of two values has an answer. -/
def Ends (v w : Value) : Prop := ∃ n, (compareWithin n v w).isSome = true

/-- If each of finitely many comparisons ends, then one depth is enough for all of them. -/
theorem exists_common_depth {pairs : List (Value × Value)} (ends : ∀ p ∈ pairs, Ends p.1 p.2) :
    ∃ n, ∀ p ∈ pairs, (compareWithin n p.1 p.2).isSome = true := by
  induction pairs with
  | nil => exact ⟨0, by simp⟩
  | cons p pairs ih =>
    obtain ⟨⟨n, first⟩, others⟩ := List.forall_mem_cons.mp ends
    obtain ⟨m, rest⟩ := ih others
    refine ⟨max n m, List.forall_mem_cons.mpr ⟨?_, fun q hq => ?_⟩⟩
    · exact isSome_compareWithin (Nat.le_max_left n m) first
    · exact isSome_compareWithin (Nat.le_max_right n m) (rest q hq)

/-- A comparison ends if those of the parts do. -/
theorem ends_of_parts {v w : Value}
    (parts : ∀ ps, comparing v w = .pairs ps → ∀ p ∈ ps, Ends p.1 p.2) : Ends v w := by
  cases hc : comparing v w with
  | done equal => exact ⟨1, by rw [compareWithin, hc]; rfl⟩
  | pairs ps =>
    obtain ⟨n, hn⟩ := exists_common_depth (parts ps hc)
    refine ⟨n + 1, ?_⟩
    rw [compareWithin, hc]
    exact isSome_allM hn

/-- What is compared of two values is inside of them. -/
theorem inside_of_comparing {v w : Value} {parts : List (Value × Value)}
    (h : comparing v w = .pairs parts) : ∀ p ∈ parts, p.1 ∈ inside v ∧ p.2 ∈ inside w := by
  intro p hp
  rcases of_comparing_eq_pairs h with ⟨xs, ys, hxs, hys, -, rfl⟩ | ⟨es, fs, hes, hfs, -, within⟩
  · obtain ⟨hx, hy⟩ := List.of_mem_zip hp
    exact ⟨mem_inside_of_items? hxs hx, mem_inside_of_items? hys hy⟩
  · obtain ⟨e, he, f, hf, rfl⟩ := within p hp
    have left := mem_inside_of_entries? hes he
    have right := mem_inside_of_entries? hfs hf
    exact ⟨left, right⟩

theorem size_le_sizeItems {x : Value} {xs : List Value} (hx : x ∈ xs) : x.size ≤ sizeItems xs := by
  induction xs with
  | nil => cases hx
  | cons y ys ih =>
    rw [sizeItems]
    rcases List.mem_cons.mp hx with rfl | hx
    · exact Nat.le_add_right ..
    · exact Nat.le_add_left_of_le (ih hx)

theorem size_le_sizeEntries {e : Value × Value} {es : List (Value × Value)} (he : e ∈ es) :
    e.2.size ≤ sizeEntries es := by
  induction es with
  | nil => cases he
  | cons f fs ih =>
    rw [sizeEntries]
    rcases List.mem_cons.mp he with rfl | he
    · omega
    · exact Nat.le_add_left_of_le (ih he)

/-- What is inside of a tree is a smaller tree. -/
theorem isTree_of_mem_inside {v x : Value} (h : v.isTree = true) (hx : x ∈ inside v) :
    x.isTree = true ∧ x.size < v.size := by
  rw [inside, unroll_of_isTree h] at hx
  cases v with
  | list xs => exact ⟨(isTreeItems_iff xs).mp h x hx, Nat.lt_succ_of_le (size_le_sizeItems hx)⟩
  | tuple xs => exact ⟨(isTreeItems_iff xs).mp h x hx, Nat.lt_succ_of_le (size_le_sizeItems hx)⟩
  | map es =>
    obtain ⟨e, he, rfl⟩ := List.mem_map.mp hx
    exact ⟨((isTreeEntries_iff es).mp h e he).2, Nat.lt_succ_of_le (size_le_sizeEntries he)⟩
  | _ => cases hx

/-- The comparison with a tree ends, as it goes no deeper than the tree. -/
theorem ends_of_isTree {v w : Value} (h : v.isTree = true ∨ w.isTree = true) : Ends v w := by
  rcases h with h | h
  · induction size : v.size using Nat.strongRecOn generalizing v w with
    | ind n ih =>
      subst size
      refine ends_of_parts fun ps hps p hp => ?_
      obtain ⟨tree, less⟩ := isTree_of_mem_inside h (inside_of_comparing hps p hp).1
      exact ih _ less tree rfl
  · induction size : w.size using Nat.strongRecOn generalizing v w with
    | ind n ih =>
      subst size
      refine ends_of_parts fun ps hps p hp => ?_
      obtain ⟨tree, less⟩ := isTree_of_mem_inside h (inside_of_comparing hps p hp).2
      exact ih _ less tree rfl

/-! ### Finitely many pairs -/

/-- The pairs that have an answer at a depth. -/
def answered (pairs : List (Value × Value)) (n : Nat) : List (Value × Value) :=
  pairs.filter fun p => (compareWithin n p.1 p.2).isSome

theorem answered_sublist (pairs : List (Value × Value)) (n : Nat) :
    List.Sublist (answered pairs n) (answered pairs (n + 1)) := by
  exact List.monotone_filter_right pairs fun p => isSome_compareWithin (Nat.le_succ n)

/-- There is a depth that adds no answer, and it is no greater than the number of pairs. -/
theorem exists_answered_eq (pairs : List (Value × Value)) :
    ∃ n ≤ pairs.length, answered pairs n = answered pairs (n + 1) := by
  by_contra none
  push Not at none
  -- Else each depth adds an answer, and there are more in the end than there are pairs.
  have grows : ∀ n ≤ pairs.length + 1, n ≤ (answered pairs n).length := by
    intro n le
    induction n with
    | zero => exact Nat.zero_le _
    | succ n ih =>
      have more : (answered pairs n).length ≠ (answered pairs (n + 1)).length :=
        fun same => none n (by omega) ((answered_sublist pairs n).eq_of_length same)
      have := (answered_sublist pairs n).length_le
      have := ih (by omega)
      omega
  have := grows (pairs.length + 1) (Nat.le_refl _)
  have : (answered pairs (pairs.length + 1)).length ≤ pairs.length := List.length_filter_le ..
  omega

/-- Whether the pairs of parts of pairs are among them. -/
def HoldsParts (pairs : List (Value × Value)) : Prop :=
  ∀ p ∈ pairs, ∀ parts, comparing p.1 p.2 = .pairs parts → ∀ q ∈ parts, q ∈ pairs

/-- From a depth on that adds no answer, no depth does. -/
theorem compareWithin_eq_of_answered {pairs : List (Value × Value)} (holds : HoldsParts pairs) {n : Nat}
    (same : answered pairs n = answered pairs (n + 1)) {m : Nat} (le : n ≤ m) :
    ∀ p ∈ pairs, compareWithin m p.1 p.2 = compareWithin n p.1 p.2 := by
  have next : ∀ p ∈ pairs, compareWithin (n + 1) p.1 p.2 = compareWithin n p.1 p.2 := by
    intro p hp
    cases hn : compareWithin n p.1 p.2 with
    | some b => exact compareWithin_succ hn
    | none =>
      rw [← Option.not_isSome_iff_eq_none] at *
      intro more
      have later : p ∈ answered pairs (n + 1) := List.mem_filter.mpr ⟨hp, more⟩
      rw [← same] at later
      exact hn (List.mem_filter.mp later).2
  induction le with
  | refl => exact fun p _ => rfl
  | step _ ih =>
    intro p hp
    rw [← next p hp, compareWithin, compareWithin]
    cases hc : comparing p.1 p.2 with
    | done equal => rfl
    | pairs parts => exact allM_congr fun q hq => ih q (holds p hp parts hc q hq)

/-- A pair without an answer at the depth of the number of pairs has none at any depth. -/
theorem compareWithin_eq_none {pairs : List (Value × Value)} (holds : HoldsParts pairs)
    {p : Value × Value} (hp : p ∈ pairs) {n : Nat} (le : pairs.length ≤ n)
    (h : compareWithin n p.1 p.2 = none) (m : Nat) : compareWithin m p.1 p.2 = none := by
  obtain ⟨k, hk, same⟩ := exists_answered_eq pairs
  rw [compareWithin_eq_of_answered holds same (Nat.le_trans hk le) p hp] at h
  rcases Nat.le_total k m with km | mk
  · rw [compareWithin_eq_of_answered holds same km p hp, h]
  · -- At a smaller depth there are no more answers.
    cases hm : compareWithin m p.1 p.2 with
    | none => rfl
    | some b =>
      rw [compareWithin_le mk hm] at h
      cases h

/-! ### The test is exact -/

/-- The pairs of parts of two values. -/
def pairsOf (v w : Value) : List (Value × Value) := partsWithin [] v ×ˢ partsWithin [] w

theorem length_pairsOf_le (v w : Value) : (pairsOf v w).length ≤ v.size * w.size := by
  rw [pairsOf, List.length_product]
  exact Nat.mul_le_mul (length_partsWithin_le [] v) (length_partsWithin_le [] w)

theorem holdsParts_pairsOf {v w : Value} (hv : v.isClosed [] = true) (hw : w.isClosed [] = true) :
    HoldsParts (pairsOf v w) := by
  intro p hp parts hparts q hq
  obtain ⟨left, right⟩ := List.mem_product.mp hp
  obtain ⟨hx, hy⟩ := inside_of_comparing hparts q hq
  exact List.mem_product.mpr
    ⟨(inside_mem_partsWithin hv).2 _ left _ hx, (inside_mem_partsWithin hw).2 _ right _ hy⟩

/-- **Comparisons without end are found out.**  Two values whose references all lead to loops around them
are compared without end exactly if the comparison part by part has no answer at any depth. -/
theorem isEndless_iff {v w : Value} (hv : v.isClosed [] = true) (hw : w.isClosed [] = true) :
    isEndless v w = true ↔ ∀ depth, compareWithin depth v w = none := by
  have trees : (v.isTree = true ∨ w.isTree = true) → ¬∀ depth, compareWithin depth v w = none := by
    rintro tree never
    obtain ⟨n, answer⟩ := ends_of_isTree tree
    rw [never n] at answer
    cases answer
  rw [isEndless, Bool.and_eq_true, Bool.and_eq_true, Option.isNone_iff_eq_none]
  constructor
  · rintro ⟨-, none⟩
    have pair : (v, w) ∈ pairsOf v w := List.mem_product.mpr
      ⟨(inside_mem_partsWithin hv).1, (inside_mem_partsWithin hw).1⟩
    exact compareWithin_eq_none (holdsParts_pairsOf hv hw) pair
      (Nat.le_succ_of_le (length_pairsOf_le v w)) none
  · intro never
    refine ⟨⟨?_, ?_⟩, never _⟩
    · rw [Bool.not_eq_true', Bool.eq_false_iff]
      exact fun tree => trees (.inl tree) never
    · rw [Bool.not_eq_true', Bool.eq_false_iff]
      exact fun tree => trees (.inr tree) never

end Conform.Value
