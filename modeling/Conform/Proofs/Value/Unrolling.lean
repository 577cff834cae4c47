import Conform.Proofs.Value.Equality
/-!
# The parts of a value that holds itself

A value that holds itself has no end, but it has no more parts than it is written with: opening a loop puts
the loop itself in place of the references to it, so each part is one of those that it is written with, with
the loops around it put in (`partsWithin`).  There are as many of these as the value has places at most
(`length_partsWithin_le`), and what is inside of one of them is another one (`inside_mem_partsWithin`).
-/
namespace Conform.Value

/-! ### Substitution -/

theorem substItems_eq_map (l : Nat) (w : Value) (xs : List Value) :
    substItems l w xs = xs.map (subst l w) := by
  induction xs with
  | nil => rfl
  | cons x xs ih => rw [substItems, ih, List.map_cons]

theorem substEntries_eq_map (l : Nat) (w : Value) (es : List (Value × Value)) :
    substEntries l w es = es.map fun e => (subst l w e.1, subst l w e.2) := by
  induction es with
  | nil => rfl
  | cons e es ih =>
    obtain ⟨k, x⟩ := e
    rw [substEntries, ih, List.map_cons]

@[simp] theorem subst_list (l : Nat) (w : Value) (xs : List Value) :
    subst l w (list xs) = list (xs.map (subst l w)) :=
  congrArg list (substItems_eq_map l w xs)

@[simp] theorem subst_tuple (l : Nat) (w : Value) (xs : List Value) :
    subst l w (tuple xs) = tuple (xs.map (subst l w)) :=
  congrArg tuple (substItems_eq_map l w xs)

@[simp] theorem subst_map (l : Nat) (w : Value) (es : List (Value × Value)) :
    subst l w (map es) = map (es.map fun e => (subst l w e.1, subst l w e.2)) :=
  congrArg map (substEntries_eq_map l w es)

@[simp] theorem subst_set (l : Nat) (w : Value) (xs : List Value) :
    subst l w (set xs) = set (xs.map (subst l w)) :=
  congrArg set (substItems_eq_map l w xs)

theorem subst_loop (l : Nat) (w : Value) (m : Nat) (body : Value) :
    subst l w (loop m body) = if m = l then loop m body else loop m (subst l w body) := rfl

theorem subst_back (l : Nat) (w : Value) (m : Nat) :
    subst l w (back m) = if m = l then w else back m := rfl

theorem isClosed_mono {v : Value} {labels others : List Nat} (h : v.isClosed labels = true)
    (within : ∀ l ∈ labels, l ∈ others) : v.isClosed others = true := by
  induction v using inductionOnParts generalizing labels others with
  | leaf v leaf =>
    cases v <;> simp_all [isLeaf, isClosed]
  | list xs ih =>
    have items := (isClosedItems_iff labels xs).mp h
    exact (isClosedItems_iff others xs).mpr fun x hx => ih x hx (items x hx) within
  | tuple xs ih =>
    have items := (isClosedItems_iff labels xs).mp h
    exact (isClosedItems_iff others xs).mpr fun x hx => ih x hx (items x hx) within
  | map es ih =>
    have entries := (isClosedEntries_iff labels es).mp h
    exact (isClosedEntries_iff others es).mpr fun e he =>
      ⟨(ih e he).1 (entries e he).1 within, (ih e he).2 (entries e he).2 within⟩
  | set xs ih =>
    have items := (isClosedItems_iff labels xs).mp h
    exact (isClosedItems_iff others xs).mpr fun x hx => ih x hx (items x hx) within
  | loop l body ih =>
    have inside : body.isClosed (l :: labels) = true := h
    refine ih inside fun m hm => ?_
    rcases List.mem_cons.mp hm with rfl | hm
    · exact List.mem_cons_self ..
    · exact List.mem_cons_of_mem _ (within m hm)

/-- Nothing is put in where nothing refers to it. -/
theorem subst_of_isClosed {v : Value} {labels : List Nat} {l : Nat} (h : v.isClosed labels = true)
    (new : l ∉ labels) (w : Value) : subst l w v = v := by
  induction v using inductionOnParts generalizing labels with
  | leaf v leaf =>
    cases v with
    | back m =>
      -- A way back that is closed leads to a loop around it, so to another label than the new one.
      have known : m ∈ labels := List.contains_iff_mem.mp h
      rw [subst_back, if_neg (ne_of_mem_of_not_mem known new)]
    | _ => first | rfl | cases leaf
  | list xs ih =>
    have items := (isClosedItems_iff labels xs).mp h
    rw [subst_list, List.map_congr_left fun x hx => ih x hx (items x hx) new, List.map_id']
  | tuple xs ih =>
    have items := (isClosedItems_iff labels xs).mp h
    rw [subst_tuple, List.map_congr_left fun x hx => ih x hx (items x hx) new, List.map_id']
  | map es ih =>
    have entries := (isClosedEntries_iff labels es).mp h
    have same : ∀ e ∈ es, (subst l w e.1, subst l w e.2) = e := fun e he => by
      rw [(ih e he).1 (entries e he).1 new, (ih e he).2 (entries e he).2 new]
    rw [subst_map, List.map_congr_left same, List.map_id']
  | set xs ih =>
    have items := (isClosedItems_iff labels xs).mp h
    rw [subst_set, List.map_congr_left fun x hx => ih x hx (items x hx) new, List.map_id']
  | loop m body ih =>
    have inside : body.isClosed (m :: labels) = true := h
    rw [subst_loop]
    split
    · rfl
    · rename_i ne
      rw [ih inside (by simp [new, Ne.symm ne])]

theorem isClosed_subst {v w : Value} {labels : List Nat} {l : Nat}
    (hv : v.isClosed (l :: labels) = true) (hw : w.isClosed [] = true) :
    (subst l w v).isClosed labels = true := by
  induction v using inductionOnParts generalizing labels with
  | leaf v leaf =>
    cases v with
    | back m =>
      have known : m ∈ l :: labels := List.contains_iff_mem.mp hv
      rw [subst_back]
      split
      · exact isClosed_mono hw (by simp)
      · rename_i ne
        exact List.contains_iff_mem.mpr ((List.mem_cons.mp known).resolve_left ne)
    | _ => first | rfl | cases leaf
  | list xs ih =>
    have items := (isClosedItems_iff _ xs).mp hv
    rw [subst_list]
    exact (isClosedItems_iff ..).mpr (List.forall_mem_map.mpr fun x hx => ih x hx (items x hx))
  | tuple xs ih =>
    have items := (isClosedItems_iff _ xs).mp hv
    rw [subst_tuple]
    exact (isClosedItems_iff ..).mpr (List.forall_mem_map.mpr fun x hx => ih x hx (items x hx))
  | map es ih =>
    have entries := (isClosedEntries_iff _ es).mp hv
    rw [subst_map]
    exact (isClosedEntries_iff ..).mpr (List.forall_mem_map.mpr fun e he =>
      ⟨(ih e he).1 (entries e he).1, (ih e he).2 (entries e he).2⟩)
  | set xs ih =>
    have items := (isClosedItems_iff _ xs).mp hv
    rw [subst_set]
    exact (isClosedItems_iff ..).mpr (List.forall_mem_map.mpr fun x hx => ih x hx (items x hx))
  | loop m body ih =>
    have inside : body.isClosed (m :: l :: labels) = true := hv
    rw [subst_loop]
    split
    · -- The label is that of the loop, which is in sight already.
      rename_i same
      change body.isClosed (m :: labels) = true
      exact isClosed_mono inside (by simp [same])
    · refine ih (isClosed_mono inside fun n hn => ?_)
      simp only [List.mem_cons] at *
      rcases hn with hn | hn | hn <;> simp [hn]

/-- What has been put in for a label is not looked at for the label again. -/
theorem subst_subst_self {u : Value} (hu : u.isClosed [] = true) (l : Nat) (w v : Value) :
    subst l w (subst l u v) = subst l u v := by
  induction v using inductionOnParts with
  | leaf v leaf =>
    cases v with
    | back m =>
      by_cases same : m = l
      · rw [subst_back, if_pos same]
        exact subst_of_isClosed hu (by simp) w
      · rw [subst_back, if_neg same, subst_back, if_neg same]
    | _ => first | rfl | cases leaf
  | list xs ih => simpa using fun x hx => ih x hx
  | tuple xs ih => simpa using fun x hx => ih x hx
  | map es ih =>
    rw [subst_map, subst_map, List.map_map]
    exact congrArg map (List.map_congr_left fun e he => Prod.ext (ih e he).1 (ih e he).2)
  | set xs ih => simpa using fun x hx => ih x hx
  | loop m body ih =>
    by_cases same : m = l
    · rw [subst_loop, if_pos same, subst_loop, if_pos same]
    · rw [subst_loop, if_neg same, subst_loop, if_neg same, ih]

/-- The order in which two loops are put in does not matter. -/
theorem subst_comm {u w : Value} (hu : u.isClosed [] = true) (hw : w.isClosed [] = true) {l m : Nat}
    (ne : l ≠ m) (v : Value) : subst l u (subst m w v) = subst m w (subst l u v) := by
  induction v using inductionOnParts with
  | leaf v leaf =>
    cases v with
    | back n =>
      -- What is put in has no free label, so it is left as it is by the other substitution.
      by_cases first : n = l
      · subst first
        rw [subst_back, if_neg ne, subst_back, if_pos rfl]
        exact (subst_of_isClosed hu (by simp) w).symm
      · by_cases second : n = m
        · subst second
          rw [subst_back, if_pos rfl, subst_back, if_neg first, subst_back, if_pos rfl]
          exact subst_of_isClosed hw (by simp) u
        · simp only [subst_back, if_neg first, if_neg second]
    | _ => first | rfl | cases leaf
  | list xs ih => simpa using fun x hx => ih x hx
  | tuple xs ih => simpa using fun x hx => ih x hx
  | map es ih =>
    rw [subst_map, subst_map, List.map_map, subst_map, subst_map, List.map_map]
    exact congrArg map (List.map_congr_left fun e he => Prod.ext (ih e he).1 (ih e he).2)
  | set xs ih => simpa using fun x hx => ih x hx
  | loop n body ih =>
    by_cases first : n = l
    · simp [subst_loop, first, ne]
    · by_cases second : n = m
      · simp [subst_loop, second, Ne.symm ne]
      · simp [subst_loop, first, second, ih]

/-! ### Parts with the loops around them -/

/-- A part with the loops around it put in, the innermost first. -/
def closedBy (loops : List (Nat × Value)) (v : Value) : Value :=
  loops.foldl (fun v loop => subst loop.1 loop.2 v) v

mutual

/-- The parts that a value is written with, itself first, with the loops around them put in; keys are
left out. -/
def partsWithin (loops : List (Nat × Value)) : Value → List Value
  | list xs => closedBy loops (list xs) :: partsWithinItems loops xs
  | tuple xs => closedBy loops (tuple xs) :: partsWithinItems loops xs
  | map es => closedBy loops (map es) :: partsWithinEntries loops es
  | loop l body =>
    closedBy loops (loop l body) :: partsWithin ((l, closedBy loops (loop l body)) :: loops) body
  | v => [closedBy loops v]

def partsWithinItems (loops : List (Nat × Value)) : List Value → List Value
  | [] => []
  | x :: xs => partsWithin loops x ++ partsWithinItems loops xs

def partsWithinEntries (loops : List (Nat × Value)) : List (Value × Value) → List Value
  | [] => []
  | (_, x) :: es => partsWithin loops x ++ partsWithinEntries loops es

end

theorem partsWithinItems_eq (loops : List (Nat × Value)) (xs : List Value) :
    partsWithinItems loops xs = xs.flatMap (partsWithin loops) := by
  induction xs with
  | nil => rfl
  | cons x xs ih => rw [partsWithinItems, ih, List.flatMap_cons]

theorem partsWithinEntries_eq (loops : List (Nat × Value)) (es : List (Value × Value)) :
    partsWithinEntries loops es = es.flatMap fun e => partsWithin loops e.2 := by
  induction es with
  | nil => rfl
  | cons e es ih =>
    obtain ⟨k, x⟩ := e
    rw [partsWithinEntries, ih, List.flatMap_cons]

mutual

/-- A value has no more parts than places. -/
theorem length_partsWithin_le : ∀ (loops : List (Nat × Value)) (v : Value),
    (partsWithin loops v).length ≤ v.size
  | loops, list xs => Nat.succ_le_succ (length_partsWithinItems_le loops xs)
  | loops, tuple xs => Nat.succ_le_succ (length_partsWithinItems_le loops xs)
  | loops, map es => Nat.succ_le_succ (length_partsWithinEntries_le loops es)
  | _, loop _ body => Nat.succ_le_succ (length_partsWithin_le _ body)
  | _, set xs => Nat.le_add_left 1 (sizeItems xs)
  | _, back _ | _, null | _, bool _ | _, int _ | _, float _ | _, str _ | _, bytes _ | _, date _
  | _, datetime _ => Nat.le_refl 1

theorem length_partsWithinItems_le : ∀ (loops : List (Nat × Value)) (xs : List Value),
    (partsWithinItems loops xs).length ≤ sizeItems xs
  | _, [] => Nat.le_refl 0
  | loops, x :: xs => by
    rw [partsWithinItems, List.length_append, sizeItems]
    exact Nat.add_le_add (length_partsWithin_le loops x) (length_partsWithinItems_le loops xs)

theorem length_partsWithinEntries_le : ∀ (loops : List (Nat × Value)) (es : List (Value × Value)),
    (partsWithinEntries loops es).length ≤ sizeEntries es
  | _, [] => Nat.le_refl 0
  | loops, (k, x) :: es => by
    have part := length_partsWithin_le loops x
    have others := length_partsWithinEntries_le loops es
    rw [partsWithinEntries, List.length_append, sizeEntries]
    omega

end

theorem closedBy_mem_partsWithin (loops : List (Nat × Value)) (v : Value) :
    closedBy loops v ∈ partsWithin loops v := by
  cases v <;> exact List.mem_cons_self ..

/-! ### What is put in -/

theorem closedBy_list (loops : List (Nat × Value)) (xs : List Value) :
    closedBy loops (list xs) = list (xs.map (closedBy loops)) := by
  induction loops generalizing xs with
  | nil => exact congrArg list (List.map_id' xs).symm
  | cons p loops ih =>
    change closedBy loops (subst p.1 p.2 (list xs)) = _
    rw [subst_list, ih, List.map_map]
    rfl

theorem closedBy_tuple (loops : List (Nat × Value)) (xs : List Value) :
    closedBy loops (tuple xs) = tuple (xs.map (closedBy loops)) := by
  induction loops generalizing xs with
  | nil => exact congrArg tuple (List.map_id' xs).symm
  | cons p loops ih =>
    change closedBy loops (subst p.1 p.2 (tuple xs)) = _
    rw [subst_tuple, ih, List.map_map]
    rfl

theorem closedBy_set (loops : List (Nat × Value)) (xs : List Value) :
    closedBy loops (set xs) = set (xs.map (closedBy loops)) := by
  induction loops generalizing xs with
  | nil => exact congrArg set (List.map_id' xs).symm
  | cons p loops ih =>
    change closedBy loops (subst p.1 p.2 (set xs)) = _
    rw [subst_set, ih, List.map_map]
    rfl

theorem closedBy_map (loops : List (Nat × Value)) (es : List (Value × Value)) :
    closedBy loops (map es) = map (es.map fun e => (closedBy loops e.1, closedBy loops e.2)) := by
  induction loops generalizing es with
  | nil => exact congrArg map (List.map_id' es).symm
  | cons p loops ih =>
    change closedBy loops (subst p.1 p.2 (map es)) = _
    rw [subst_map, ih, List.map_map]
    rfl

/-- A loop stays a loop. -/
theorem exists_closedBy_loop (loops : List (Nat × Value)) (l : Nat) (body : Value) :
    ∃ inside, closedBy loops (loop l body) = loop l inside := by
  induction loops generalizing body with
  | nil => exact ⟨body, rfl⟩
  | cons p loops ih =>
    change ∃ inside, closedBy loops (subst p.1 p.2 (loop l body)) = _
    rw [subst_loop]
    split
    · exact ih body
    · exact ih _

/-- The loops around a part, in which nothing is missing. -/
def AreLoops (loops : List (Nat × Value)) : Prop :=
  ∀ p ∈ loops, p.2.isClosed [] = true ∧ ∃ l body, p.2 = loop l body

theorem isClosed_closedBy {loops : List (Nat × Value)} (around : AreLoops loops) {v : Value}
    (h : v.isClosed (loops.map (·.1)) = true) : (closedBy loops v).isClosed [] = true := by
  induction loops generalizing v with
  | nil => exact h
  | cons p loops ih =>
    obtain ⟨⟨closed, -⟩, around⟩ := List.forall_mem_cons.mp around
    exact ih around (isClosed_subst h closed)

theorem closedBy_of_isClosed (loops : List (Nat × Value)) {v : Value} (h : v.isClosed [] = true) :
    closedBy loops v = v := by
  induction loops with
  | nil => rfl
  | cons p loops ih =>
    change closedBy loops (subst p.1 p.2 v) = v
    rw [subst_of_isClosed h (by simp), ih]

/-- A reference becomes one of the loops around it. -/
theorem closedBy_back {loops : List (Nat × Value)} (around : AreLoops loops) {l : Nat}
    (h : l ∈ loops.map (·.1)) : ∃ p ∈ loops, closedBy loops (back l) = p.2 := by
  induction loops with
  | nil => cases h
  | cons p loops ih =>
    obtain ⟨⟨closed, -⟩, around⟩ := List.forall_mem_cons.mp around
    change ∃ q ∈ p :: loops, closedBy loops (subst p.1 p.2 (back l)) = q.2
    rw [subst_back]
    split
    · exact ⟨p, List.mem_cons_self .., closedBy_of_isClosed loops closed⟩
    · rename_i ne
      obtain ⟨q, hq, same⟩ := ih around ((List.mem_cons.mp h).resolve_left ne)
      exact ⟨q, List.mem_cons_of_mem _ hq, same⟩

/-- A loop is opened by putting it in together with the loops around it. -/
theorem unroll_closedBy_loop {loops : List (Nat × Value)} (around : AreLoops loops) {l : Nat}
    {body : Value} (h : (loop l body).isClosed (loops.map (·.1)) = true) :
    (closedBy loops (loop l body)).unroll =
      closedBy ((l, closedBy loops (loop l body)) :: loops) body := by
  have closed := isClosed_closedBy around h
  induction loops generalizing body with
  | nil => rfl
  | cons p loops ih =>
    obtain ⟨⟨hp, -⟩, others⟩ := List.forall_mem_cons.mp around
    change (closedBy loops (subst p.1 p.2 (loop l body))).unroll =
      closedBy loops (subst p.1 p.2 (subst l (closedBy loops (subst p.1 p.2 (loop l body))) body))
    change (closedBy loops (subst p.1 p.2 (loop l body))).isClosed [] = true at closed
    have opened := isClosed_subst h hp
    rw [subst_loop] at opened closed ⊢
    by_cases same : l = p.1
    · rw [if_pos same] at opened closed ⊢
      rw [ih others opened closed, ← same, subst_subst_self closed]
      rfl
    · rw [if_neg same] at opened closed ⊢
      rw [ih others opened closed, ← subst_comm closed hp same]
      rfl

/-! ### What is inside -/

/-- The items of a sequence and the values of a map. -/
def insideOf : Value → List Value
  | list xs => xs
  | tuple xs => xs
  | map es => es.map (·.2)
  | _ => []

/-- What is inside of a value, which is opened for it. -/
def inside (v : Value) : List Value := insideOf v.unroll

theorem mem_inside_of_items? {v x : Value} {xs : List Value} (h : v.items? = some xs) (hx : x ∈ xs) :
    x ∈ inside v := by
  unfold items? at h
  unfold inside
  cases hv : v.unroll <;> simp_all [insideOf]

theorem mem_inside_of_entries? {v : Value} {es : List (Value × Value)} (h : v.entries? = some es)
    {e : Value × Value} (he : e ∈ es) : e.2 ∈ inside v := by
  unfold entries? at h
  unfold inside
  cases hv : v.unroll <;> simp_all [insideOf]
  exact ⟨e.1, he⟩

theorem partsWithin_eq (loops : List (Nat × Value)) {v : Value} (single : ∀ l body, v ≠ loop l body) :
    partsWithin loops v = closedBy loops v :: (insideOf v).flatMap (partsWithin loops) := by
  cases v with
  | list xs => rw [partsWithin, partsWithinItems_eq, insideOf]
  | tuple xs => rw [partsWithin, partsWithinItems_eq, insideOf]
  | map es => rw [partsWithin, partsWithinEntries_eq, insideOf, List.flatMap_map]
  | loop l body => exact absurd rfl (single l body)
  | _ => rfl

/-- What is inside of a part is another part, unless the part is a loop that has to be opened first. -/
theorem mem_partsWithin_of_insideOf {loops : List (Nat × Value)} (around : AreLoops loops) {v x : Value}
    (h : v.isClosed (loops.map (·.1)) = true) (hx : x ∈ insideOf (closedBy loops v)) :
    x ∈ partsWithin loops v := by
  -- The parts of a container are closed by the same loops as the container.
  have parts : ∀ y ∈ insideOf v, (∀ l body, v ≠ loop l body) → closedBy loops y ∈ partsWithin loops v :=
    fun y hy single => by
      rw [partsWithin_eq loops single]
      exact List.mem_cons_of_mem _ (List.mem_flatMap.mpr ⟨y, hy, closedBy_mem_partsWithin loops y⟩)
  cases v with
  | list xs =>
    rw [closedBy_list] at hx
    obtain ⟨y, hy, rfl⟩ := List.mem_map.mp hx
    exact parts y hy (by simp)
  | tuple xs =>
    rw [closedBy_tuple] at hx
    obtain ⟨y, hy, rfl⟩ := List.mem_map.mp hx
    exact parts y hy (by simp)
  | map es =>
    rw [closedBy_map, insideOf, List.map_map] at hx
    obtain ⟨e, he, rfl⟩ := List.mem_map.mp hx
    exact parts e.2 (List.mem_map.mpr ⟨e, he, rfl⟩) (by simp)
  | set xs =>
    rw [closedBy_set] at hx
    cases hx
  | loop l body =>
    obtain ⟨inner, same⟩ := exists_closedBy_loop loops l body
    rw [same] at hx
    cases hx
  | back l =>
    obtain ⟨p, hp, same⟩ := closedBy_back around (by simpa [isClosed] using h)
    obtain ⟨-, m, body, loop⟩ := around p hp
    rw [same, loop] at hx
    cases hx
  | _ =>
    rw [closedBy_of_isClosed loops rfl] at hx
    cases hx

/-- What is inside of a part that is written as no loop is another part, or is inside of a loop around. -/
theorem of_mem_inside_closedBy {loops : List (Nat × Value)} (around : AreLoops loops) {v x : Value}
    (h : v.isClosed (loops.map (·.1)) = true) (single : ∀ l body, v ≠ loop l body)
    (hx : x ∈ inside (closedBy loops v)) :
    x ∈ partsWithin loops v ∨ ∃ p ∈ loops, x ∈ inside p.2 := by
  by_cases reference : ∃ l, v = back l
  · obtain ⟨l, rfl⟩ := reference
    obtain ⟨p, hp, same⟩ := closedBy_back around (by simpa [isClosed] using h)
    exact .inr ⟨p, hp, same ▸ hx⟩
  · refine .inl (mem_partsWithin_of_insideOf around h ?_)
    have opened : (closedBy loops v).unroll = closedBy loops v := by
      cases v with
      | list xs => rw [closedBy_list]; rfl
      | tuple xs => rw [closedBy_tuple]; rfl
      | map es => rw [closedBy_map]; rfl
      | set xs => rw [closedBy_set]; rfl
      | loop l body => exact absurd rfl (single l body)
      | back l => exact absurd ⟨l, rfl⟩ reference
      | _ => rw [closedBy_of_isClosed loops rfl]; rfl
    rwa [inside, opened] at hx

/-- Whether all that is inside of the parts of a value is in a list, wherever the value is written: if the
list has its parts, and what is inside of the loops around. -/
def StaysAmong (all : List Value) (v : Value) : Prop :=
  ∀ loops : List (Nat × Value), AreLoops loops → v.isClosed (loops.map (·.1)) = true →
    (∀ p ∈ loops, ∀ x ∈ inside p.2, x ∈ all) → (∀ u ∈ partsWithin loops v, u ∈ all) →
      ∀ u ∈ partsWithin loops v, ∀ x ∈ inside u, x ∈ all

theorem isClosed_of_mem_insideOf {v x : Value} {labels : List Nat} (h : v.isClosed labels = true)
    (hx : x ∈ insideOf v) : x.isClosed labels = true := by
  cases v with
  | list xs => exact (isClosedItems_iff labels xs).mp h x hx
  | tuple xs => exact (isClosedItems_iff labels xs).mp h x hx
  | map es =>
    obtain ⟨e, he, rfl⟩ := List.mem_map.mp hx
    exact ((isClosedEntries_iff labels es).mp h e he).2
  | _ => cases hx

theorem staysAmong_of_parts {all : List Value} {v : Value} (single : ∀ l body, v ≠ loop l body)
    (parts : ∀ x ∈ insideOf v, StaysAmong all x) : StaysAmong all v := by
  intro loops around h known within u hu x hx
  rw [partsWithin_eq loops single] at hu within
  rcases List.mem_cons.mp hu with rfl | hu
  · rcases of_mem_inside_closedBy around h single hx with hx | ⟨p, hp, hx⟩
    · rw [partsWithin_eq loops single] at hx
      exact within x hx
    · exact known p hp x hx
  · obtain ⟨y, hy, hu⟩ := List.mem_flatMap.mp hu
    refine parts y hy loops around (isClosed_of_mem_insideOf h hy) known (fun u hu => ?_) u hu x hx
    exact within u (List.mem_cons_of_mem _ (List.mem_flatMap.mpr ⟨y, hy, hu⟩))

theorem staysAmong_loop {all : List Value} {l : Nat} {body : Value} (h : StaysAmong all body) :
    StaysAmong all (loop l body) := by
  intro loops around closed known within
  -- From here on the loop is one of those around.
  have around' : AreLoops ((l, closedBy loops (loop l body)) :: loops) := List.forall_mem_cons.mpr
    ⟨⟨isClosed_closedBy around closed, l, exists_closedBy_loop loops l body⟩, around⟩
  have first : ∀ x ∈ inside (closedBy loops (loop l body)), x ∈ all := by
    intro x hx
    rw [inside, unroll_closedBy_loop around closed] at hx
    exact within x (List.mem_cons_of_mem _ (mem_partsWithin_of_insideOf around' closed hx))
  rintro u hu
  rcases List.mem_cons.mp hu with rfl | hu
  · exact first
  · exact h _ around' closed (List.forall_mem_cons.mpr ⟨first, known⟩)
      (fun u hu => within u (List.mem_cons_of_mem _ hu)) u hu

theorem staysAmong (all : List Value) (v : Value) : StaysAmong all v := by
  induction v using inductionOnParts with
  | leaf v leaf =>
    refine staysAmong_of_parts (by rintro l body rfl; cases leaf) fun x hx => ?_
    cases v <;> simp_all [isLeaf, insideOf]
  | list xs ih => exact staysAmong_of_parts (by simp) ih
  | tuple xs ih => exact staysAmong_of_parts (by simp) ih
  | map es ih =>
    refine staysAmong_of_parts (by simp) fun x hx => ?_
    obtain ⟨e, he, rfl⟩ := List.mem_map.mp hx
    exact (ih e he).2
  | set xs ih => exact staysAmong_of_parts (by simp) fun _ hx => absurd hx List.not_mem_nil
  | loop l body ih => exact staysAmong_loop ih

/-- **A value has finitely many parts:** it is one of them, and what is inside of one is another one. -/
theorem inside_mem_partsWithin {v : Value} (h : v.isClosed [] = true) :
    v ∈ partsWithin [] v ∧ ∀ u ∈ partsWithin [] v, ∀ x ∈ inside u, x ∈ partsWithin [] v :=
  ⟨closedBy_mem_partsWithin [] v,
    staysAmong (partsWithin [] v) v [] (by simp [AreLoops]) h (by simp) fun _ hu => hu⟩

end Conform.Value
