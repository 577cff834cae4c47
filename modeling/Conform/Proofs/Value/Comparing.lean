import Conform.Proofs.Lists
import Conform.Proofs.Value.Distinct
/-!
# Comparisons with an answer

A comparison part by part of two values that both hold themselves may go on for ever.  Where it has an
answer, the answer is that of `equals` (`equals_of_compareWithin`), and so are the answers of what is built on
it: what is kept of values (`eq_of_foldlM_keepNew`) and how many of them differ (`eq_of_count`).  Trees are
always compared to an end.
-/
namespace Conform.Value

theorem compare_eq_error_iff {v w : Value} {f : Fault} :
    v.compare w = .error f ↔ f = .endlessComparison ∧ isEndless v w = true := by
  unfold compare
  cases isEndless v w <;> simp [eq_comm]

theorem compare_eq_ok_iff {v w : Value} {b : Bool} :
    v.compare w = .ok b ↔ isEndless v w = false ∧ v.equals w = b := by
  unfold compare
  cases isEndless v w <;> simp

theorem isEndless_of_isTree {v w : Value} (h : v.isTree = true ∨ w.isTree = true) :
    isEndless v w = false := by
  rcases h with h | h <;> simp [isEndless, h]

/-! ### What is built on comparisons -/

theorem of_anyM_compare {v : Value} {vs : List Value} {b : Bool} (h : vs.anyM v.compare = .ok b) :
    vs.any v.equals = b :=
  of_anyM_eq_ok (fun _ _ _ h => (compare_eq_ok_iff.mp h).2) h

/-- Where all comparisons end, the question whether any of them holds has an answer. -/
theorem anyM_compare_of_ends {v : Value} {vs : List Value} (ends : ∀ w ∈ vs, isEndless v w = false) :
    vs.anyM v.compare = .ok (vs.any v.equals) := by
  cases h : vs.anyM v.compare with
  | ok b => rw [of_anyM_compare h]
  | error f =>
    obtain ⟨before, w, after, rfl, -, fails⟩ := anyM_eq_error_iff.mp h
    have endless := (compare_eq_error_iff.mp fails).2
    rw [ends w (by simp)] at endless
    cases endless

/-- What is kept where all comparisons end is what `keepFirst` keeps. -/
theorem eq_of_foldlM_keepNew {vs kept stored : List Value} (h : vs.foldlM keepNew kept = .ok stored) :
    stored = vs.foldl (fun kept v => if kept.any v.equals then kept else kept ++ [v]) kept := by
  induction vs generalizing kept with
  | nil =>
    cases h
    rfl
  | cons v vs ih =>
    rw [List.foldlM_cons] at h
    obtain ⟨next, hnext, h⟩ := of_bind_eq_ok h
    obtain ⟨found, hfound, hnext⟩ := of_bind_eq_ok hnext
    rw [List.foldl_cons, of_anyM_compare hfound]
    cases found <;> cases hnext <;> exact ih h

theorem eq_keepFirst_of_foldlM {vs stored : List Value} (h : vs.foldlM keepNew [] = .ok stored) :
    stored = keepFirst equals vs :=
  eq_of_foldlM_keepNew h

/-- What has been kept is kept again. -/
theorem foldlM_keepNew_again {vs kept stored : List Value} (h : vs.foldlM keepNew kept = .ok stored)
    (again : kept.foldlM keepNew [] = .ok kept) : stored.foldlM keepNew [] = .ok stored := by
  induction vs generalizing kept with
  | nil =>
    cases h
    exact again
  | cons v vs ih =>
    rw [List.foldlM_cons] at h
    obtain ⟨next, hnext, h⟩ := of_bind_eq_ok h
    refine ih h ?_
    obtain ⟨found, -, heq⟩ := of_bind_eq_ok hnext
    cases found with
    | true =>
      cases heq
      exact again
    | false =>
      -- The value at the end is compared with those that it has been compared with.
      cases heq
      rw [List.foldlM_append, again]
      change keepNew kept v >>= _ = _
      rw [hnext]
      rfl

theorem foldlM_keepNew_of_ends {vs : List Value}
    (ends : ∀ v ∈ vs, ∀ w ∈ vs, isEndless v w = false) :
    vs.foldlM keepNew [] = .ok (keepFirst equals vs) := by
  -- What is kept so far are values of the list, and their comparisons end.
  suffices h : ∀ kept : List Value, (∀ v ∈ vs, ∀ w ∈ kept, isEndless v w = false) →
      ∃ stored, vs.foldlM keepNew kept = .ok stored by
    obtain ⟨stored, hstored⟩ := h [] (by simp)
    rw [hstored, eq_keepFirst_of_foldlM hstored]
  induction vs with
  | nil => exact fun kept _ => ⟨kept, rfl⟩
  | cons v vs ih =>
    intro kept hkept
    have rest := ih fun u hu w hw => ends u (List.mem_cons_of_mem _ hu) w (List.mem_cons_of_mem _ hw)
    have others : ∀ u ∈ vs, ∀ w ∈ kept, isEndless u w = false :=
      fun u hu => hkept u (List.mem_cons_of_mem _ hu)
    rw [List.foldlM_cons, keepNew, anyM_compare_of_ends (hkept v (List.mem_cons_self ..))]
    cases kept.any v.equals with
    | true => exact rest kept others
    | false =>
      refine rest (kept ++ [v]) fun u hu w hw => ?_
      rcases List.mem_append.mp hw with hw | hw
      · exact others u hu w hw
      · obtain rfl := List.mem_singleton.mp hw
        exact ends u (List.mem_cons_of_mem _ hu) w (List.mem_cons_self ..)

/-- Values are not kept only where one of them is compared without end with one before it. -/
theorem of_foldlM_keepNew_eq_error {vs kept : List Value} {f : Fault}
    (h : vs.foldlM keepNew kept = .error f) : f = .endlessComparison ∧
      ∃ before v after, vs = before ++ v :: after ∧ ∃ w ∈ kept ++ before, isEndless v w = true := by
  induction vs generalizing kept with
  | nil => cases h
  | cons v vs ih =>
    rw [List.foldlM_cons, keepNew] at h
    cases hfound : kept.anyM v.compare with
    | error g =>
      rw [hfound] at h
      cases h
      obtain ⟨before, w, after, rfl, -, fails⟩ := anyM_eq_error_iff.mp hfound
      obtain ⟨rfl, endless⟩ := compare_eq_error_iff.mp fails
      exact ⟨rfl, [], v, vs, rfl, w, by simp, endless⟩
    | ok found =>
      rw [hfound] at h
      -- What is kept next are values kept before, and the first value at most.
      have rest : ∀ next : List Value, (∀ w ∈ next, w ∈ kept ∨ w = v) →
          vs.foldlM keepNew next = .error f → f = .endlessComparison ∧ ∃ before u after,
            v :: vs = before ++ u :: after ∧ ∃ w ∈ kept ++ before, isEndless u w = true := by
        intro next within h
        obtain ⟨rfl, before, u, after, rfl, w, hw, endless⟩ := ih h
        refine ⟨rfl, v :: before, u, after, rfl, w, ?_, endless⟩
        rcases List.mem_append.mp hw with hw | hw
        · rcases within w hw with hw | rfl <;> simp [*]
        · simp [hw]
      cases found with
      | true => exact rest kept (fun w hw => .inl hw) h
      | false =>
        refine rest (kept ++ [v]) (fun w hw => ?_) h
        simpa using hw

theorem of_count_eq_error {vs : List Value} {f : Fault} (h : count vs = .error f) :
    f = .endlessComparison ∧ ∃ v ∈ vs, ∃ w ∈ vs, isEndless v w = true := by
  unfold count at h
  cases hothers : (vs.filter fun v => !v.isScalar).foldlM keepNew [] with
  | ok others =>
    rw [hothers] at h
    cases h
  | error g =>
    rw [hothers] at h
    cases h
    obtain ⟨rfl, before, v, after, split, w, hw, endless⟩ := of_foldlM_keepNew_eq_error hothers
    have within : ∀ u ∈ before ++ v :: after, u ∈ vs := fun u hu =>
      (List.mem_filter.mp (split ▸ hu)).1
    exact ⟨rfl, v, within v (by simp), w, within w (by simp_all), endless⟩

theorem eq_of_count {vs : List Value} {n : Nat} (h : count vs = .ok n) : n = countDistinct vs := by
  obtain ⟨others, hothers, h⟩ := of_bind_eq_ok h
  cases h
  rw [eq_keepFirst_of_foldlM hothers, countDistinct]

theorem count_of_ends {vs : List Value} (ends : ∀ v ∈ vs, ∀ w ∈ vs, isEndless v w = false) :
    count vs = .ok (countDistinct vs) := by
  have others : ∀ v ∈ vs.filter fun v => !v.isScalar, ∀ w ∈ vs.filter fun v => !v.isScalar,
      isEndless v w = false := fun v hv w hw =>
    ends v (List.mem_filter.mp hv).1 w (List.mem_filter.mp hw).1
  rw [count, foldlM_keepNew_of_ends others]
  rfl

/-! ### The answers of comparisons part by part -/

theorem expandItems_eq_map (xs : List Value) : expandItems xs = xs.map expand := by
  induction xs with
  | nil => rfl
  | cons x xs ih => rw [expandItems, ih, List.map_cons]

theorem expandEntries_eq_map (es : List (Value × Value)) :
    expandEntries es = es.map fun e => (e.1.expand, e.2.expand) := by
  induction es with
  | nil => rfl
  | cons e es ih =>
    obtain ⟨k, x⟩ := e
    rw [expandEntries, ih, List.map_cons]

/-- How often a value is expanded is counted from either side. -/
theorem repeat_expand_succ (n : Nat) (v : Value) :
    Nat.repeat expand (n + 1) v = Nat.repeat expand n v.expand := by
  induction n with
  | zero => rfl
  | succ n ih => rw [Nat.repeat, ih, Nat.repeat]

theorem isTree_repeat_succ {v : Value} {n : Nat} (h : (Nat.repeat expand n v).isTree = true) :
    (Nat.repeat expand (n + 1) v).isTree = true := by
  rw [Nat.repeat, expand_of_isTree h, h]

/-- A sequence is expanded item by item. -/
theorem isTree_repeat_sequence {v : Value} {xs : List Value} (hv : v.sequence? = some xs) {n : Nat}
    (trees : ∀ x ∈ xs, (Nat.repeat expand n x).isTree = true) :
    (Nat.repeat expand n v).isTree = true := by
  induction n generalizing v xs with
  | zero =>
    cases v <;> cases hv
    all_goals exact (isTreeItems_iff xs).mpr trees
  | succ n ih =>
    rw [repeat_expand_succ]
    have parts : ∀ x ∈ xs.map expand, (Nat.repeat expand n x).isTree = true := by
      refine List.forall_mem_map.mpr fun x hx => ?_
      rw [← repeat_expand_succ]
      exact trees x hx
    cases v <;> cases hv
    all_goals
      rw [expand, expandItems_eq_map]
      exact ih rfl parts

/-- A map is expanded entry by entry. -/
theorem isTree_repeat_map {es : List (Value × Value)} {n : Nat}
    (trees : ∀ e ∈ es, e.1.isTree = true ∧ (Nat.repeat expand n e.2).isTree = true) :
    (Nat.repeat expand n (map es)).isTree = true := by
  induction n generalizing es with
  | zero => exact (isTreeEntries_iff es).mpr trees
  | succ n ih =>
    rw [repeat_expand_succ, expand, expandEntries_eq_map]
    refine ih (List.forall_mem_map.mpr fun e he => ?_)
    obtain ⟨key, part⟩ := trees e he
    rw [expand_of_isTree key, ← repeat_expand_succ]
    exact ⟨key, part⟩

/-- A value that is opened is expanded once. -/
theorem isTree_repeat_of_unroll {v : Value} {n : Nat}
    (h : (Nat.repeat expand n v.unroll).isTree = true) :
    (Nat.repeat expand (n + 1) v).isTree = true := by
  cases v with
  | loop l body => rwa [repeat_expand_succ]
  | _ => exact isTree_repeat_succ h

/-- What there is to compare of two values: the items of sequences of one length, or the values of maps
with the same keys. -/
theorem of_comparing_eq_pairs {v w : Value} {parts : List (Value × Value)}
    (h : comparing v w = .pairs parts) :
    (∃ xs ys, v.items? = some xs ∧ w.items? = some ys ∧ xs.length = ys.length ∧
      parts = xs.zip ys) ∨
    ∃ es fs, v.entries? = some es ∧ w.entries? = some fs ∧
      (∀ e ∈ es, ∃ f ∈ fs, sameKey e.1 f.1 = true ∧ (e.2, f.2) ∈ parts) ∧
      ∀ p ∈ parts, ∃ e ∈ es, ∃ f ∈ fs, p = (e.2, f.2) := by
  unfold comparing at h
  split at h
  · cases h
  split at h
  · rename_i xs ys hxs hys
    split at h <;> cases h
    rename_i length
    exact .inl ⟨xs, ys, hxs, hys, by simpa using length, rfl⟩
  · split at h
    · rename_i es fs hes hfs
      dsimp only at h
      split at h <;> cases h
      rename_i lengths
      refine .inr ⟨es, fs, hes, hfs, fun e he => ?_, fun p hp => ?_⟩
      · -- As many keys are found as there are, and so each is.
        simp only [Bool.and_eq_true, beq_iff_eq, List.filterMap_length_eq_length] at lengths
        have found := lengths.2 e he
        rw [Option.isSome_map, Option.isSome_iff_exists] at found
        obtain ⟨f, hf⟩ := found
        obtain ⟨mem, key⟩ := of_find?_sameKey hf
        exact ⟨f, mem, key, List.mem_filterMap.mpr ⟨e, he, by rw [hf]; rfl⟩⟩
      · obtain ⟨e, he, hp⟩ := List.mem_filterMap.mp hp
        obtain ⟨f, hf, rfl⟩ := Option.map_eq_some_iff.mp hp
        exact ⟨e, he, f, List.mem_of_find?_eq_some hf, rfl⟩
    · cases h

/-- A value that is equal to another one, part by part, is a tree after as many expansions as it is
deep. -/
theorem isTree_of_compareWithin {n : Nat} {v w : Value} (h : compareWithin n v w = some true) :
    (Nat.repeat expand n v).isTree = true := by
  induction n generalizing v w with
  | zero => cases h
  | succ n ih =>
    -- Values are found equal at a glance only if they are trees; else each part is one at the depth below.
    rw [compareWithin] at h
    split at h
    · rename_i equal hcomparing
      obtain rfl := Option.some.inj h
      have tree : v.isTree = true := by
        unfold comparing at hcomparing
        split at hcomparing
        · exact isTree_of_equalTree (by injection hcomparing)
        · split at hcomparing
          · split at hcomparing <;> cases hcomparing
          · split at hcomparing
            · dsimp only at hcomparing
              split at hcomparing <;> cases hcomparing
            · have scalar : equalScalar v w = true := by injection hcomparing
              exact isTree_of_sameKey (Bool.and_eq_true_iff.mp scalar).2
      rwa [repeat_expand_of_isTree tree]
    · rename_i parts hcomparing
      rw [allM_eq_some_true_iff] at h
      apply isTree_repeat_of_unroll
      rcases of_comparing_eq_pairs hcomparing with ⟨xs, ys, hxs, -, length, rfl⟩ |
        ⟨es, fs, hes, -, found, -⟩
      · have sequence : v.unroll.sequence? = some xs := by
          unfold items? at hxs
          cases hv : v.unroll <;> simp_all [sequence?]
        refine isTree_repeat_sequence sequence fun x hx => ?_
        obtain ⟨i, hi, rfl⟩ := List.getElem_of_mem hx
        have pair : (xs[i], ys[i]) ∈ xs.zip ys :=
          List.mem_iff_getElem.mpr ⟨i, by simp; omega, List.getElem_zip⟩
        exact ih (h _ pair)
      · have map : v.unroll = map es := by
          unfold entries? at hes
          cases hv : v.unroll <;> simp_all
        rw [map]
        refine isTree_repeat_map fun e he => ?_
        obtain ⟨f, -, key, pair⟩ := found e he
        exact ⟨isTree_of_sameKey key, ih (h _ pair)⟩

theorem equalItems_eq_all {xs ys : List Value} (length : xs.length = ys.length) :
    equalItems xs ys = (xs.zip ys).all fun p => equalTree p.1 p.2 := by
  induction xs generalizing ys with
  | nil => cases ys <;> simp_all [equalItems]
  | cons x xs ih => cases ys <;> simp_all [equalItems]

theorem equalEntries_eq_all {es fs : List (Value × Value)}
    (found : ∀ e ∈ es, ((fs.find? fun f => sameKey e.1 f.1).map fun f => (e.2, f.2)).isSome = true) :
    equalEntries es fs = (es.filterMap fun e =>
      (fs.find? fun f => sameKey e.1 f.1).map fun f => (e.2, f.2)).all fun p =>
        equalTree p.1 p.2 := by
  induction es with
  | nil => rfl
  | cons e es ih =>
    obtain ⟨k, x⟩ := e
    obtain ⟨first, rest⟩ := List.forall_mem_cons.mp found
    rw [equalEntries, List.filterMap_cons]
    cases hfind : fs.find? fun f => sameKey k f.1 with
    | none => simp [hfind] at first
    | some f => simp [ih rest]

theorem equalEntries_eq_false {es fs : List (Value × Value)} {e : Value × Value} (he : e ∈ es)
    (missing : fs.find? (fun f => sameKey e.1 f.1) = none) : equalEntries es fs = false := by
  rw [Bool.eq_false_iff]
  intro h
  obtain ⟨f, hf, -⟩ := (equalEntries_iff es fs).mp h e he
  rw [missing] at hf
  cases hf

theorem equalTree_of_sequences {v w : Value} {xs ys : List Value} (hv : v.sequence? = some xs)
    (hw : w.sequence? = some ys) : equalTree v w = equalItems xs ys := by
  cases v <;> cases hv <;> cases w <;> cases hw <;> rfl

theorem items?_of_isTree {v : Value} (h : v.isTree = true) : v.items? = v.sequence? := by
  rw [items?, unroll_of_isTree h]
  cases v <;> rfl

theorem isTree_of_mem_sequence {v x : Value} {xs : List Value} (h : v.isTree = true)
    (hv : v.sequence? = some xs) (hx : x ∈ xs) : x.isTree = true := by
  cases v <;> cases hv
  all_goals exact (isTreeItems_iff xs).mp h x hx

theorem eq_map_of_isTree {v : Value} {es : List (Value × Value)} (h : v.isTree = true)
    (hv : v.entries? = some es) : v = map es := by
  rw [entries?, unroll_of_isTree h] at hv
  cases v <;> cases hv
  rfl

/-- What are neither two sequences nor two maps are equal as a whole. -/
theorem equalTree_of_whole {v w : Value} (bool : (v.isBool || w.isBool) = false)
    (sequences : ∀ xs ys, v.sequence? = some xs → w.sequence? = some ys → False)
    (maps : ∀ es fs, v = map es → w = map fs → False) : equalTree v w = equalScalar v w := by
  obtain ⟨hv, hw⟩ := Bool.or_eq_false_iff.mp bool
  rw [equalTree]
  · simp [hv, hw]
  · rintro a b rfl rfl
    cases hv
  · rintro xs ys rfl rfl
    exact sequences xs ys rfl rfl
  · rintro xs ys rfl rfl
    exact sequences xs ys rfl rfl
  · rintro xs ys rfl rfl
    exact sequences xs ys rfl rfl
  · rintro xs ys rfl rfl
    exact sequences xs ys rfl rfl
  · rintro es fs rfl rfl
    exact maps es fs rfl rfl

/-- Maps are compared by the values under the same keys, if they have the same keys. -/
theorem equalTree_of_maps (es fs : List (Value × Value)) :
    let found := es.filterMap fun e => (fs.find? fun f => sameKey e.1 f.1).map fun f => (e.2, f.2)
    equalTree (map es) (map fs) = (es.length == fs.length && found.length == es.length &&
      found.all fun p => equalTree p.1 p.2) := by
  intro found
  rw [equalTree, Bool.and_assoc]
  congr 1
  by_cases all : ∀ e ∈ es,
      ((fs.find? fun f => sameKey e.1 f.1).map fun f => (e.2, f.2)).isSome = true
  · rw [equalEntries_eq_all all]
    have length : found.length = es.length := List.filterMap_length_eq_length.mpr all
    simp [length, found]
  · have length : found.length ≠ es.length := fun h => all (List.filterMap_length_eq_length.mp h)
    obtain ⟨e, he, missing⟩ : ∃ e ∈ es, fs.find? (fun f => sameKey e.1 f.1) = none := by
      simpa using all
    simp [length, equalEntries_eq_false he missing]

/-- Trees are compared as `equalTree` says, at once or by their parts. -/
theorem equalTree_of_comparing {v w : Value} (hv : v.isTree = true) (hw : w.isTree = true) :
    (∀ equal, comparing v w = .done equal → equalTree v w = equal) ∧
    ∀ parts, comparing v w = .pairs parts →
      equalTree v w = parts.all fun p => equalTree p.1 p.2 := by
  unfold comparing
  cases bool : v.isBool || w.isBool with
  | true => exact ⟨fun equal h => by injection h, fun parts h => nomatch h⟩
  | false =>
    -- Lists of different lengths are told apart before any item is compared.
    simp only [Bool.false_eq_true, if_false, items?_of_isTree hv, items?_of_isTree hw]
    split
    · rename_i xs ys hxs hys
      rw [equalTree_of_sequences hxs hys]
      by_cases length : xs.length = ys.length
      · simp [length, equalItems_eq_all length]
      · have different : equalItems xs ys = false :=
          Bool.eq_false_iff.mpr fun h => length ((equalItems_iff xs ys).mp h).length_eq
        simp [length, different]
    · rename_i sequences
      split
      · rename_i es fs hes hfs
        rw [eq_map_of_isTree hv hes, eq_map_of_isTree hw hfs, equalTree_of_maps]
        split
        · rename_i lengths
          rw [lengths]
          simp
        · rename_i lengths
          rw [Bool.not_eq_true] at lengths
          rw [lengths]
          simp
      · rename_i maps
        have whole := equalTree_of_whole bool sequences fun es fs hes hfs => by
          subst hes hfs
          exact maps es fs rfl rfl
        simp [whole]

theorem isTree_of_mem_pairs {v w : Value} (hv : v.isTree = true) (hw : w.isTree = true)
    {parts : List (Value × Value)} (h : comparing v w = .pairs parts) :
    ∀ p ∈ parts, p.1.isTree = true ∧ p.2.isTree = true := by
  intro p hp
  rcases of_comparing_eq_pairs h with ⟨xs, ys, hxs, hys, -, rfl⟩ | ⟨es, fs, hes, hfs, -, within⟩
  · obtain ⟨hx, hy⟩ := List.of_mem_zip hp
    exact ⟨isTree_of_mem_sequence hv (items?_of_isTree hv ▸ hxs) hx,
      isTree_of_mem_sequence hw (items?_of_isTree hw ▸ hys) hy⟩
  · obtain rfl := eq_map_of_isTree hv hes
    obtain rfl := eq_map_of_isTree hw hfs
    obtain ⟨e, he, f, hf, rfl⟩ := within p hp
    exact ⟨((isTreeEntries_iff es).mp hv e he).2, ((isTreeEntries_iff fs).mp hw f hf).2⟩

theorem equalTree_of_compareWithin {n : Nat} {v w : Value} (hv : v.isTree = true)
    (hw : w.isTree = true) {b : Bool} (h : compareWithin n v w = some b) : equalTree v w = b := by
  induction n generalizing v w b with
  | zero => cases h
  | succ n ih =>
    obtain ⟨atOnce, byParts⟩ := equalTree_of_comparing hv hw
    rw [compareWithin] at h
    split at h
    · rename_i equal done
      rw [atOnce equal done]
      exact Option.some.inj h
    · rename_i parts pairs
      have trees := isTree_of_mem_pairs hv hw pairs
      rw [byParts parts pairs]
      exact of_allM_eq_some (fun p hp _ => ih (trees p hp).1 (trees p hp).2) h

/-- **An answer of a comparison part by part is that of `equals`.** -/
theorem equals_of_compareWithin {n : Nat} {v w : Value}
    (sort : v.IsCyclic ∨ v.isTree = true ∧ w.isTree = true) {b : Bool}
    (h : compareWithin n v w = some b) : v.equals w = b := by
  rcases sort with cyclic | ⟨hv, hw⟩
  · rw [cyclic.not_equals w]
    cases b with
    | false => rfl
    | true =>
      have tree := isTree_of_compareWithin h
      rw [cyclic n] at tree
      cases tree
  · rw [equals_of_isTree hv hw]
    exact equalTree_of_compareWithin hv hw h

end Conform.Value
