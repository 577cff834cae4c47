import Conform.Proofs.Value.Equality
import Mathlib.Data.List.Induction
/-!
# Counting different values

`keepFirst` loses nothing that matters: a value that is not kept is related to one that is.  It keeps
everything exactly if no two values are related, and as many values in whatever order they come.  From
this `countDistinct`, which collects scalars in a set and compares other values in pairs, counts as if
all values were compared in pairs (`countDistinct_counts_unlike`).
-/
namespace Conform.Value

section KeepFirst

variable {r s : Value → Value → Bool} {vs ws : List Value}

theorem keepFirst_concat (r : Value → Value → Bool) (vs : List Value) (v : Value) :
    keepFirst r (vs ++ [v]) =
      if (keepFirst r vs).any (r v) then keepFirst r vs else keepFirst r vs ++ [v] := by
  simp [keepFirst, List.foldl_append]

theorem keepFirst_sublist (r : Value → Value → Bool) (vs : List Value) :
    (keepFirst r vs).Sublist vs := by
  induction vs using List.reverseRecOn with
  | nil => exact .slnil
  | append_singleton vs v ih =>
    rw [keepFirst_concat]
    split
    · exact ih.trans (List.sublist_append_left vs [v])
    · exact ih.append (List.Sublist.refl [v])

/-- A value that is not kept is related to one that is. -/
theorem exists_mem_keepFirst {v : Value} (h : v ∈ vs) :
    ∃ k ∈ keepFirst r vs, v = k ∨ r v k = true := by
  induction vs using List.reverseRecOn with
  | nil => simp at h
  | append_singleton vs w ih =>
    rw [keepFirst_concat]
    rcases List.mem_append.mp h with h | h
    · obtain ⟨k, hk, hrel⟩ := ih h
      refine ⟨k, ?_, hrel⟩
      split
      · exact hk
      · exact List.mem_append_left _ hk
    · rw [List.mem_singleton] at h
      subst h
      split
      · rename_i hany
        obtain ⟨k, hk, hrel⟩ := List.any_eq_true.mp hany
        exact ⟨k, hk, Or.inr hrel⟩
      · exact ⟨v, by simp, Or.inl rfl⟩

theorem keepFirst_eq_self_iff :
    keepFirst r vs = vs ↔ vs.Pairwise fun v w => r w v = false := by
  induction vs using List.reverseRecOn with
  | nil => simp [keepFirst]
  | append_singleton vs w ih =>
    rw [keepFirst_concat, List.pairwise_append]
    have hle := (keepFirst_sublist r vs).length_le
    constructor
    · intro h
      split at h
      · -- Too few values are left for one to be dropped.
        have := congrArg List.length h
        simp at this
        omega
      · rename_i hany
        have hself : keepFirst r vs = vs := List.append_cancel_right h
        rw [hself, List.any_eq_true] at hany
        refine ⟨ih.mp hself, List.pairwise_singleton _ _, fun v hv u hu => ?_⟩
        rw [List.mem_singleton.mp hu]
        exact Bool.eq_false_iff.mpr fun hr => hany ⟨v, hv, hr⟩
    · rintro ⟨hpair, -, hlast⟩
      rw [ih.mpr hpair, if_neg]
      rw [List.any_eq_true]
      rintro ⟨v, hv, hr⟩
      rw [hlast v hv w (List.mem_singleton.mpr rfl)] at hr
      cases hr

/-- No kept value is related to one kept before it. -/
theorem pairwise_keepFirst (r : Value → Value → Bool) (vs : List Value) :
    (keepFirst r vs).Pairwise fun v w => r w v = false := by
  induction vs using List.reverseRecOn with
  | nil => exact .nil
  | append_singleton vs v ih =>
    rw [keepFirst_concat]
    split
    · exact ih
    · rename_i hany
      refine List.pairwise_append.mpr ⟨ih, List.pairwise_singleton _ _, fun w hw u hu => ?_⟩
      rw [List.mem_singleton.mp hu]
      exact Bool.eq_false_iff.mpr fun hr => hany (List.any_eq_true.mpr ⟨w, hw, hr⟩)

/-- What is kept stays when it is gone through again. -/
theorem keepFirst_keepFirst (r : Value → Value → Bool) (vs : List Value) :
    keepFirst r (keepFirst r vs) = keepFirst r vs :=
  keepFirst_eq_self_iff.mpr (pairwise_keepFirst r vs)

theorem length_keepFirst_eq_iff (r : Value → Value → Bool) (vs : List Value) :
    (keepFirst r vs).length = vs.length ↔ vs.Pairwise fun v w => r w v = false := by
  rw [← keepFirst_eq_self_iff]
  exact ⟨(keepFirst_sublist r vs).eq_of_length, congrArg List.length⟩

/-- The first value is kept, and the others as if those related to it were not there. -/
theorem keepFirst_cons (r : Value → Value → Bool) (v : Value) (vs : List Value) :
    keepFirst r (v :: vs) = v :: keepFirst r (vs.filter fun w => !r w v) := by
  induction vs using List.reverseRecOn with
  | nil => rfl
  | append_singleton vs w ih =>
    rw [← List.cons_append, keepFirst_concat, ih, List.any_cons, List.filter_append]
    cases h : r w v with
    | true => simp [h]
    | false => simp only [h, List.filter_singleton, Bool.not_false, cond_true, keepFirst_concat,
        Bool.false_or]; split <;> simp

theorem keepFirst_congr (same : ∀ v ∈ vs, ∀ w ∈ vs, r v w = s v w) :
    keepFirst r vs = keepFirst s vs := by
  induction vs using List.reverseRecOn with
  | nil => rfl
  | append_singleton vs v ih =>
    have before := fun w (hw : w ∈ vs) => List.mem_append_left [v] hw
    have kept : ∀ w ∈ keepFirst s vs, r v w = s v w := fun w hw =>
      same v (by simp) w (before w ((keepFirst_sublist s vs).subset hw))
    have related : (keepFirst s vs).any (r v) = (keepFirst s vs).any (s v) := by
      rw [Bool.eq_iff_iff, List.any_eq_true, List.any_eq_true]
      exact exists_congr fun w => and_congr_right fun hw => by rw [kept w hw]
    rw [keepFirst_concat, keepFirst_concat,
      ih fun w hw u hu => same w (before w hw) u (before u hu), related]

/-- Where values of two sorts are never related, each sort is kept as if it were by itself. -/
theorem filter_keepFirst {p : Value → Bool}
    (apart : ∀ v ∈ vs, ∀ w ∈ vs, r v w = true → p v = p w) :
    (keepFirst r vs).filter p = keepFirst r (vs.filter p) := by
  induction vs using List.reverseRecOn with
  | nil => rfl
  | append_singleton vs v ih =>
    have before := fun w (hw : w ∈ vs) => List.mem_append_left [v] hw
    have ih := ih fun w hw u hu => apart w (before w hw) u (before u hu)
    rw [keepFirst_concat, List.filter_append, apply_ite (List.filter p), List.filter_append, ih]
    cases hp : p v with
    | false => simp [hp]
    | true =>
      -- What the value is related to is of its sort, and so among what is kept of the sort.
      have related : (keepFirst r vs).any (r v) = (keepFirst r (vs.filter p)).any (r v) := by
        rw [← ih, Bool.eq_iff_iff, List.any_eq_true, List.any_eq_true]
        constructor
        · rintro ⟨w, hw, hr⟩
          have := apart v (by simp) w (before w ((keepFirst_sublist r vs).subset hw)) hr
          exact ⟨w, List.mem_filter.mpr ⟨hw, this ▸ hp⟩, hr⟩
        · rintro ⟨w, hw, hr⟩
          exact ⟨w, (List.mem_filter.mp hw).1, hr⟩
      rw [related, List.filter_singleton, hp, cond_true, keepFirst_concat]

/-- Of two neighbours either may come first, if they are related to each other only both ways and then
to the same values. -/
theorem length_keepFirst_swap {v w : Value} (symm : r v w = r w v)
    (same : r v w = true → ∀ u ∈ vs, r u v = r u w) :
    (keepFirst r (v :: w :: vs)).length = (keepFirst r (w :: v :: vs)).length := by
  rw [keepFirst_cons, keepFirst_cons, List.filter_cons, List.filter_cons, ← symm]
  cases hr : r v w with
  | true =>
    -- Only the first of the two is kept, and it takes the same values away.
    have others : (vs.filter fun u => !r u v) = vs.filter fun u => !r u w :=
      List.filter_congr fun u hu => by rw [same hr u hu]
    simp [others]
  | false =>
    have others : ((vs.filter fun u => !r u v).filter fun u => !r u w) =
        (vs.filter fun u => !r u w).filter fun u => !r u v := List.filter_comm ..
    simp [keepFirst_cons, others]

/-- **How many values are kept does not depend on their order**, where the relation is symmetric and
transitive on them. -/
theorem length_keepFirst_perm {P : Value → Prop}
    (symm : ∀ v w, P v → P w → r v w = true → r w v = true)
    (trans : ∀ u v w, P u → P v → P w → r u v = true → r v w = true → r u w = true)
    (perm : vs.Perm ws) (all : ∀ v ∈ vs, P v) :
    (keepFirst r vs).length = (keepFirst r ws).length := by
  -- To keep a value takes others away, so that the lists are compared under every choice of them.
  suffices h : ∀ p : Value → Bool,
      (keepFirst r (vs.filter p)).length = (keepFirst r (ws.filter p)).length by
    simpa using h fun _ => true
  induction perm with
  | nil => exact fun _ => rfl
  | @cons v vs ws _ ih =>
    intro p
    have ih := ih (List.forall_mem_cons.mp all).2
    cases hp : p v with
    | false => simpa [hp] using ih p
    | true =>
      simp only [List.filter_cons_of_pos hp, keepFirst_cons, List.length_cons, List.filter_filter]
      rw [ih]
  | swap v w vs =>
    intro p
    obtain ⟨hw, hv, hvs⟩ : P w ∧ P v ∧ ∀ u ∈ vs, P u := by simpa using all
    by_cases both : p v = true ∧ p w = true
    · rw [List.filter_cons_of_pos both.2, List.filter_cons_of_pos both.1,
        List.filter_cons_of_pos both.1, List.filter_cons_of_pos both.2]
      refine length_keepFirst_swap (Bool.eq_iff_iff.mpr ⟨symm w v hw hv, symm v w hv hw⟩) ?_
      intro hr u hu
      have hu := hvs u (List.mem_filter.mp hu).1
      exact Bool.eq_iff_iff.mpr ⟨fun h => trans u w v hu hw hv h hr,
        fun h => trans u v w hu hv hw h (symm w v hw hv hr)⟩
    · -- One of the two is left out, and nothing is left of the difference.
      have same : (w :: v :: vs).filter p = (v :: w :: vs).filter p := by
        simp only [List.filter_cons]
        grind
      rw [same]
  | @trans us vs ws perm perm' ih ih' =>
    intro p
    exact (ih all p).trans (ih' (fun v hv => all v (perm.mem_iff.mpr hv)) p)

end KeepFirst

/-! ### Alike values -/

instance (v w : Value) : Decidable (Alike v w) :=
  inferInstanceAs (Decidable (v.equals w = true ∨ sameNan v w = true))

theorem Alike.trans {u v w : Value} (hu : u.IsRegular) (hv : v.IsRegular) (hw : w.IsRegular)
    (huv : Alike u v) (hvw : Alike v w) : Alike u w := by
  -- A not-a-number is the same as itself only.
  rcases huv with huv | huv
  · rcases hvw with hvw | hvw
    · exact Or.inl (equals_trans hu hv hw huv hvw)
    · obtain ⟨i, rfl, rfl⟩ := sameNan_iff_eq.mp hvw
      exact Or.inl huv
  · obtain ⟨i, rfl, rfl⟩ := sameNan_iff_eq.mp huv
    exact hvw

/-- Values that are alike are of the same sort. -/
theorem Alike.isScalar_eq {v w : Value} (hv : v.IsRegular) (hw : w.IsRegular) (h : Alike v w) :
    v.isScalar = w.isScalar := by
  cases hpv : v.isScalar <;> cases hpw : w.isScalar
  · rfl
  · exact absurd (h.symm hv hw) (not_alike_of_isScalar hpw hpv hv)
  · exact absurd h (not_alike_of_isScalar hpv hpw hw)
  · rfl

/-- Scalars in a set and other values in pairs are counted as all of them in pairs. -/
theorem countDistinct_eq_length_keepFirst {vs : List Value} (regular : ∀ v ∈ vs, v.IsRegular) :
    countDistinct vs = (keepFirst (fun v w => decide (Alike v w)) vs).length := by
  have apart : ∀ v ∈ vs, ∀ w ∈ vs, decide (Alike v w) = true → v.isScalar = w.isScalar :=
    fun v hv w hw h => (of_decide_eq_true h).isScalar_eq (regular v hv) (regular w hw)
  have scalars : keepFirst sameScalar (vs.filter isScalar) =
      (keepFirst (fun v w => decide (Alike v w)) vs).filter isScalar := by
    rw [filter_keepFirst apart]
    refine keepFirst_congr fun v hv w hw => ?_
    rw [Bool.eq_iff_iff, decide_eq_true_iff,
      alike_iff_sameScalar (List.mem_filter.mp hv).2 (List.mem_filter.mp hw).2]
  have others : keepFirst equals (vs.filter fun v => !v.isScalar) =
      (keepFirst (fun v w => decide (Alike v w)) vs).filter fun v => !v.isScalar := by
    rw [filter_keepFirst fun v hv w hw h => congrArg _ (apart v hv w hw h)]
    refine keepFirst_congr fun v hv w hw => ?_
    -- No not-a-number is among the values that are no scalars.
    have hnan : sameNan v w = false := by
      cases v <;> simp_all [isScalar, sameNan]
    simp [Alike, hnan]
  rw [countDistinct, scalars, others, ← List.length_eq_length_filter_add]

/-- All values are counted exactly if no two are alike. -/
theorem countDistinct_eq_length_iff {vs : List Value} (regular : ∀ v ∈ vs, v.IsRegular) :
    countDistinct vs = vs.length ↔ vs.Pairwise fun v w => ¬Alike w v := by
  rw [countDistinct_eq_length_keepFirst regular, length_keepFirst_eq_iff]
  simp

theorem countDistinct_perm {vs ws : List Value} (regular : ∀ v ∈ vs, v.IsRegular)
    (perm : vs.Perm ws) : countDistinct vs = countDistinct ws := by
  rw [countDistinct_eq_length_keepFirst regular, countDistinct_eq_length_keepFirst fun w hw =>
    regular w (perm.mem_iff.mpr hw)]
  refine length_keepFirst_perm (P := IsRegular) ?_ ?_ perm regular
  · exact fun v w hv hw h => decide_eq_true ((of_decide_eq_true h).symm hv hw)
  · exact fun u v w hu hv hw huv hvw =>
      decide_eq_true ((of_decide_eq_true huv).trans hu hv hw (of_decide_eq_true hvw))

/-- No two values are alike from whichever of them one looks at it. -/
theorem pairwise_not_alike_iff {items : List Value} (regular : ∀ x ∈ items, x.IsRegular) :
    (items.Pairwise fun v w => ¬w.Alike v) ↔ ∀ (i j : Nat) (x y : Value),
      items[i]? = some x → items[j]? = some y → i ≠ j → ¬x.Alike y := by
  rw [List.pairwise_iff_getElem]
  constructor
  · intro h i j x y hx hy hij halike
    obtain ⟨hi, rfl⟩ := List.getElem?_eq_some_iff.mp hx
    obtain ⟨hj, rfl⟩ := List.getElem?_eq_some_iff.mp hy
    have symm := halike.symm (regular _ (List.getElem_mem hi)) (regular _ (List.getElem_mem hj))
    -- Later items are compared with earlier ones; being alike is symmetric.
    rcases Nat.lt_or_gt_of_ne hij with hlt | hlt
    · exact h i j hi hj hlt symm
    · exact h j i hj hi hlt halike
  · intro h i j hi hj hij
    exact h j i _ _ (List.getElem?_eq_getElem hj) (List.getElem?_eq_getElem hi) (by omega)

/-! ### Counting -/

/-- The values that are kept beside others, if a value is kept unless it is like one that is. -/
def keepUnlike (kept : List Value) : List Value → List Value
  | [] => []
  | v :: vs =>
    if ∃ k ∈ kept, Alike v k then keepUnlike kept vs else v :: keepUnlike (kept ++ [v]) vs

theorem keepFirst_eq_keepUnlike (vs : List Value) :
    keepFirst (fun v w => decide (Alike v w)) vs = keepUnlike [] vs := by
  suffices h : ∀ kept : List Value, vs.foldl (fun kept v =>
      if kept.any fun w => decide (Alike v w) then kept else kept ++ [v]) kept =
        kept ++ keepUnlike kept vs by
    exact h []
  induction vs with
  | nil => simp [keepUnlike]
  | cons v vs ih =>
    intro kept
    rw [List.foldl_cons, keepUnlike]
    by_cases hv : ∃ k ∈ kept, Alike v k
    · rw [if_pos (by simpa using hv), if_pos hv, ih]
    · rw [if_neg (by simpa using hv), if_neg hv, ih, List.append_assoc, List.singleton_append]

/-- **The values of a list are counted up to being alike**: as many as are kept when each is compared
with those kept before it, in whatever order they come, and all of them unless two are alike. -/
theorem countDistinct_counts_unlike {vs : List Value} (regular : ∀ v ∈ vs, v.IsRegular) :
    countDistinct vs = (keepUnlike [] vs).length ∧
    (∀ ws, vs.Perm ws → countDistinct ws = countDistinct vs) ∧
    (countDistinct vs ≠ vs.length ↔ ∃ (i j : Nat) (v w : Value),
      vs[i]? = some v ∧ vs[j]? = some w ∧ i ≠ j ∧ Alike v w) := by
  refine ⟨?_, fun ws perm => (countDistinct_perm regular perm).symm, ?_⟩
  · rw [countDistinct_eq_length_keepFirst regular, keepFirst_eq_keepUnlike]
  · rw [ne_eq, countDistinct_eq_length_iff regular, pairwise_not_alike_iff regular]
    simp only [not_forall, not_not, exists_prop]

/-- One and true, one as a floating-point number, lists and tuples of it, and two not-a-numbers, the
first of them twice. -/
theorem countDistinct_counts_unlike_ones :
    let one := float (.finite false 1 0)
    let vs := [int 1, bool true, one, list [int 1], tuple [one], list [bool true],
      float (.nan 0), float (.nan 1), float (.nan 0)]
    (∀ v ∈ vs, v.IsRegular) ∧ (keepUnlike [] vs).length = 6 ∧ countDistinct vs = 6 ∧
      countDistinct vs.reverse = 6 ∧ ∃ (i j : Nat) (v w : Value),
        vs[i]? = some v ∧ vs[j]? = some w ∧ i ≠ j ∧ Alike v w := by
  intro one vs
  have proper : ∀ v ∈ vs, v.IsProper := by simp [vs, one, IsProper, AreProper]
  have regular : ∀ v ∈ vs, v.IsRegular := fun v hv => (proper v hv).isRegular
  obtain ⟨count, perm, repeated⟩ := countDistinct_counts_unlike regular
  have six : (keepUnlike [] vs).length = 6 := by decide +kernel
  rw [six] at count
  refine ⟨regular, six, count, ?_, repeated.mp ?_⟩
  · rw [perm vs.reverse (List.reverse_perm vs).symm, count]
  · rw [count]
    decide

end Conform.Value
