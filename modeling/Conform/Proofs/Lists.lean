import Mathlib.Data.List.Forall2
/-!
# Lists

Runs of items of a kind, partners of the items of two lists, and the answers of a check that is made
item by item.
-/
namespace Conform

/-! ### Runs -/

section Runs

variable {α : Type} {p : α → Bool} {xs rest : List α}

/-- The longest run of items of a kind ends where one of another kind follows. -/
theorem takeWhile_eq (h : ∀ x ∈ xs, p x = true) (stop : ∀ x, rest.head? = some x → p x = false) :
    (xs ++ rest).takeWhile p = xs := by
  have none : rest.takeWhile p = [] := by
    cases rest with
    | nil => rfl
    | cons x rest => rw [List.takeWhile_cons, stop x rfl, if_neg Bool.false_ne_true]
  rw [List.takeWhile_append_of_pos h, none, List.append_nil]

/-- What follows the longest run of items of a kind. -/
theorem dropWhile_eq (h : ∀ x ∈ xs, p x = true) (stop : ∀ x, rest.head? = some x → p x = false) :
    (xs ++ rest).dropWhile p = rest := by
  rw [List.dropWhile_append_of_pos h]
  cases rest with
  | nil => rfl
  | cons x rest => rw [List.dropWhile_cons, stop x rfl, if_neg Bool.false_ne_true]

/-- Two longest runs of items of a kind at the front of one list are the same. -/
theorem append_inj_of_runs {ys others : List α} (hxs : ∀ x ∈ xs, p x = true)
    (hys : ∀ y ∈ ys, p y = true) (stop : ∀ x, rest.head? = some x → p x = false)
    (stop' : ∀ x, others.head? = some x → p x = false) (h : xs ++ rest = ys ++ others) :
    xs = ys ∧ rest = others := by
  constructor
  · rw [← takeWhile_eq hxs stop, h, takeWhile_eq hys stop']
  · rw [← dropWhile_eq hxs stop, h, dropWhile_eq hys stop']

end Runs

/-! ### Partners -/

theorem forall₂_map_eq_iff {α β : Type} {f : α → β} {xs ys : List α} :
    List.Forall₂ (fun x y => f x = f y) xs ys ↔ xs.map f = ys.map f := by
  rw [← List.forall₂_eq_eq_eq, List.forall₂_map_left_iff, List.forall₂_map_right_iff]

theorem forall₂_imp_of_mem {α β : Type} {R S : α → β → Prop} {xs : List α} {ys : List β}
    (h : List.Forall₂ R xs ys) (imp : ∀ x ∈ xs, ∀ y, R x y → S x y) : List.Forall₂ S xs ys := by
  induction h with
  | nil => exact .nil
  | cons hxy _ ih =>
    exact .cons (imp _ (List.mem_cons_self ..) _ hxy)
      (ih fun x hx => imp x (List.mem_cons_of_mem _ hx))

theorem forall₂_symm_of_mem {α : Type} {R : α → α → Prop} {xs ys : List α}
    (h : List.Forall₂ R xs ys) (symm : ∀ x ∈ xs, ∀ y, R x y → R y x) : List.Forall₂ R ys xs :=
  (forall₂_imp_of_mem h symm).flip

theorem forall₂_trans_of_mem {α : Type} {R : α → α → Prop} {xs ys zs : List α}
    (hxy : List.Forall₂ R xs ys) (hyz : List.Forall₂ R ys zs)
    (trans : ∀ x ∈ xs, ∀ y z, R x y → R y z → R x z) : List.Forall₂ R xs zs := by
  induction hxy generalizing zs with
  | nil => exact hyz
  | cons h _ ih =>
    cases hyz with
    | cons h' hrest =>
      exact .cons (trans _ (List.mem_cons_self ..) _ _ h h')
        (ih hrest fun x hx => trans x (List.mem_cons_of_mem _ hx))

/-- What two relations of two lists and one to a third say of the second and the third. -/
theorem forall₂_join_of_mem {α β γ : Type} {R S : α → β → Prop} {T : α → γ → Prop}
    {U : β → γ → Prop} {xs : List α} {ys : List β} {zs : List γ} (hR : List.Forall₂ R xs ys)
    (hS : List.Forall₂ S xs ys) (hT : List.Forall₂ T xs zs)
    (imp : ∀ x ∈ xs, ∀ y z, R x y → S x y → T x z → U y z) : List.Forall₂ U ys zs := by
  induction hR generalizing zs with
  | nil =>
    cases hT
    exact .nil
  | cons hxy _ ih =>
    cases hS with
    | cons hS hS' =>
      cases hT with
      | cons hT hT' =>
        exact .cons (imp _ (List.mem_cons_self ..) _ _ hxy hS hT)
          (ih hS' hT' fun x hx => imp x (List.mem_cons_of_mem _ hx))

theorem forall₂_congr_of_mem {α β : Type} {R S : α → β → Prop} {xs : List α} {ys : List β}
    (h : ∀ x ∈ xs, ∀ y ∈ ys, (R x y ↔ S x y)) : List.Forall₂ R xs ys ↔ List.Forall₂ S xs ys := by
  rw [List.forall₂_iff_zip, List.forall₂_iff_zip]
  apply and_congr_right
  intro _
  constructor
  · intro related x y hxy
    obtain ⟨hx, hy⟩ := List.of_mem_zip hxy
    exact (h x hx y hy).mp (related hxy)
  · intro related x y hxy
    obtain ⟨hx, hy⟩ := List.of_mem_zip hxy
    exact (h x hx y hy).mpr (related hxy)

theorem forall₂_and_iff {α β : Type} {R S : α → β → Prop} {xs : List α} {ys : List β} :
    List.Forall₂ (fun x y => R x y ∧ S x y) xs ys ↔ List.Forall₂ R xs ys ∧ List.Forall₂ S xs ys := by
  constructor
  · intro h
    exact ⟨h.imp fun _ _ => And.left, h.imp fun _ _ => And.right⟩
  · rintro ⟨hR, hS⟩
    induction hR with
    | nil => exact .nil
    | cons hxy _ ih =>
      cases hS with
      | cons hxy' hS => exact .cons ⟨hxy, hxy'⟩ (ih hS)

theorem exists_of_forall₂ {α β : Type} {R : α → β → Prop} {xs : List α} {ys : List β}
    (h : List.Forall₂ R xs ys) {x : α} (hx : x ∈ xs) : ∃ y ∈ ys, R x y := by
  induction h with
  | nil => cases hx
  | cons h _ ih =>
    rcases List.mem_cons.mp hx with rfl | hx
    · exact ⟨_, List.mem_cons_self .., h⟩
    · obtain ⟨y, hy, hxy⟩ := ih hx
      exact ⟨y, List.mem_cons_of_mem _ hy, hxy⟩

theorem exists_iff_of_forall₂ {α β : Type} {p : α → Prop} {q : β → Prop} {xs : List α}
    {ys : List β} (h : List.Forall₂ (fun x y => p x ↔ q y) xs ys) :
    (∃ x ∈ xs, p x) ↔ ∃ y ∈ ys, q y := by
  induction h with
  | nil => simp
  | cons hxy _ ih => simp [hxy, ih]

theorem forall_iff_of_forall₂ {α β : Type} {p : α → Prop} {q : β → Prop} {xs : List α}
    {ys : List β} (h : List.Forall₂ (fun x y => p x ↔ q y) xs ys) :
    (∀ x ∈ xs, p x) ↔ ∀ y ∈ ys, q y := by
  induction h with
  | nil => simp
  | cons hxy _ ih => simp [hxy, ih]

theorem forall₂_mapIdx {α β γ δ : Type} {R : α → β → Prop} {S : γ → δ → Prop} {xs : List α}
    {ys : List β} {f : Nat → α → γ} {g : Nat → β → δ} (h : List.Forall₂ R xs ys)
    (imp : ∀ i x y, R x y → S (f i x) (g i y)) : List.Forall₂ S (xs.mapIdx f) (ys.mapIdx g) := by
  induction h generalizing f g with
  | nil => exact .nil
  | cons hxy _ ih =>
    rw [List.mapIdx_cons, List.mapIdx_cons]
    exact .cons (imp 0 _ _ hxy) (ih fun i x y => imp (i + 1) x y)

/-- Where the items on the left change places, so do their partners. -/
theorem forall₂_perm {α β : Type} {R : α → β → Prop} {xs xs' : List α} {ys : List β}
    (h : List.Forall₂ R xs ys) (perm : xs.Perm xs') :
    ∃ ys', List.Forall₂ R xs' ys' ∧ (xs.zip ys).Perm (xs'.zip ys') := by
  induction perm generalizing ys with
  | nil =>
    cases h
    exact ⟨[], .nil, .refl _⟩
  | cons x _ ih =>
    cases h with
    | cons hxy hrest =>
      obtain ⟨ys', h', perm'⟩ := ih hrest
      exact ⟨_, .cons hxy h', perm'.cons _⟩
  | swap x y xs =>
    cases h with
    | cons hy hrest =>
      cases hrest with
      | cons hx hrest => exact ⟨_, .cons hx (.cons hy hrest), .swap ..⟩
  | trans _ _ ih ih' =>
    obtain ⟨zs, hz, first⟩ := ih h
    obtain ⟨ys', h', second⟩ := ih' hz
    exact ⟨ys', h', first.trans second⟩

/-- Where each item has one partner at most, items that are put in between change no partner. -/
theorem forall₂_sublist {α β : Type} {R : α → β → Prop} {xs xs' : List α} {ys ys' : List β}
    (one : ∀ x y z, R x y → R x z → y = z) (h : List.Forall₂ R xs ys)
    (h' : List.Forall₂ R xs' ys') (sub : xs.Sublist xs') : (xs.zip ys).Sublist (xs'.zip ys') := by
  induction sub generalizing ys ys' with
  | slnil =>
    cases h
    exact .slnil
  | cons x _ ih =>
    cases h' with
    | cons _ hrest => exact (ih h hrest).cons _
  | cons_cons x _ ih =>
    cases h with
    | cons hxy hrest =>
      cases h' with
      | cons hxy' hrest' =>
        obtain rfl := one _ _ _ hxy hxy'
        exact (ih hrest hrest').cons_cons _

/-- What is found under a key on both sides is related. -/
theorem find?_key_related {α β : Type} {R : α → β → Prop} {xs : List (String × α)}
    {ys : List (String × β)} (h : List.Forall₂ (fun x y => x.1 = y.1 ∧ R x.2 y.2) xs ys)
    (k : String) :
    Option.Rel R ((xs.find? (·.1 == k)).map (·.2)) ((ys.find? (·.1 == k)).map (·.2)) := by
  induction h with
  | nil => exact .none
  | @cons x y xs ys hxy _ ih =>
    rw [List.find?_cons, List.find?_cons, ← hxy.1]
    cases x.1 == k with
    | true => exact .some hxy.2
    | false => exact ih

/-- Lists of one length, where no two items on the left can do with the same item on the right: if
each one on the left has a partner, the items can be paired. -/
theorem exists_pairing {α β : Type} {R : α → β → Prop} {xs : List α} {ys : List β}
    (length : xs.length = ys.length) (partner : ∀ x ∈ xs, ∃ y ∈ ys, R x y)
    (apart : xs.Pairwise fun a b => ∀ y ∈ ys, R a y → ¬R b y) :
    ∃ zs, zs.Perm ys ∧ List.Forall₂ R xs zs := by
  induction xs generalizing ys with
  | nil =>
    have : ys = [] := List.length_eq_zero_iff.mp length.symm
    exact ⟨[], by rw [this], .nil⟩
  | cons x xs ih =>
    obtain ⟨y₀, hy₀, hx⟩ := partner x (List.mem_cons_self ..)
    obtain ⟨before, after, rfl⟩ := List.append_of_mem hy₀
    obtain ⟨hapart, hrest⟩ := List.pairwise_cons.mp apart
    -- The others find their partners outside `y₀`, which is taken.
    have shorter : xs.length = (before ++ after).length := by
      simp at length ⊢
      omega
    have partners : ∀ b ∈ xs, ∃ y ∈ before ++ after, R b y := by
      intro b hb
      obtain ⟨y, hy, hby⟩ := partner b (List.mem_cons_of_mem _ hb)
      have hne : y ≠ y₀ := fun h => hapart b hb y₀ hy₀ hx (h ▸ hby)
      exact ⟨y, by simpa [hne] using hy, hby⟩
    have inside : ∀ y ∈ before ++ after, y ∈ before ++ y₀ :: after := by simp; tauto
    obtain ⟨zs, perm, others⟩ :=
      ih shorter partners (hrest.imp fun h y hy => h y (inside y hy))
    exact ⟨y₀ :: zs, (perm.cons y₀).trans List.perm_middle.symm, .cons hx others⟩

/-- Where the items can be paired, each one on the right has a partner too. -/
theorem exists_partner {α β : Type} {R : α → β → Prop} {xs : List α} {ys : List β}
    (length : xs.length = ys.length) (partner : ∀ x ∈ xs, ∃ y ∈ ys, R x y)
    (apart : xs.Pairwise fun a b => ∀ y, R a y → ¬R b y) : ∀ y ∈ ys, ∃ x ∈ xs, R x y := by
  intro y hy
  obtain ⟨zs, perm, paired⟩ := exists_pairing length partner (apart.imp fun h y _ => h y)
  exact exists_of_forall₂ paired.flip (perm.mem_iff.mpr hy)

theorem exists_pairing_iff {α β : Type} {R : α → β → Prop} {xs : List α} {ys : List β}
    (apart : xs.Pairwise fun a b => ∀ y ∈ ys, R a y → ¬R b y) :
    (∃ zs, zs.Perm ys ∧ List.Forall₂ R xs zs) ↔
      xs.length = ys.length ∧ ∀ x ∈ xs, ∃ y ∈ ys, R x y := by
  constructor
  · rintro ⟨zs, perm, paired⟩
    refine ⟨paired.length_eq.trans perm.length_eq, fun x hx => ?_⟩
    obtain ⟨y, hy, hxy⟩ := exists_of_forall₂ paired hx
    exact ⟨y, perm.mem_iff.mp hy, hxy⟩
  · rintro ⟨length, partner⟩
    exact exists_pairing length partner apart

/-- Of one item alone it is the same to be there with a property and to have it if it is there. -/
theorem exists_and_iff_of_unique {α : Type} {p a b : α → Prop} {xs : List α}
    (unique : ∀ x ∈ xs, ∀ y ∈ xs, p x → p y → x = y) :
    (∃ x ∈ xs, p x ∧ a x ∧ b x) ↔ (∃ x ∈ xs, p x ∧ a x) ∧ ∀ x ∈ xs, p x → b x := by
  constructor
  · rintro ⟨x, hx, hp, ha, hb⟩
    refine ⟨⟨x, hx, hp, ha⟩, fun y hy hp' => ?_⟩
    rwa [← unique x hx y hy hp hp']
  · rintro ⟨⟨x, hx, hp, ha⟩, each⟩
    exact ⟨x, hx, hp, ha, each x hx hp⟩

/-- Where keys differ, what is found under a key is what is there under it. -/
theorem find?_key_eq_some_iff {α β : Type} [BEq α] [LawfulBEq α] {es : List (α × β)}
    (nodup : (es.map (·.1)).Nodup) {k : α} {b : β} :
    (es.find? (·.1 == k)).map (·.2) = some b ↔ (k, b) ∈ es := by
  induction es with
  | nil => simp
  | cons e es ih =>
    obtain ⟨j, c⟩ := e
    rw [List.map_cons, List.nodup_cons] at nodup
    obtain ⟨hj, nodup⟩ := nodup
    by_cases hk : j = k
    · subst hk
      have : (j, b) ∉ es := fun hmem => hj (List.mem_map.mpr ⟨(j, b), hmem, rfl⟩)
      simp [this, eq_comm]
    · rw [List.find?_cons_of_neg (by simpa using hk), ih nodup]
      simp [Ne.symm hk]

/-! ### Answers in order -/

/-- The first item without a property is one item. -/
theorem first_unique {α : Type} {p : α → Prop} {before before' after after' : List α} {x y : α}
    (h : before ++ x :: after = before' ++ y :: after') (hbefore : ∀ z ∈ before, p z) (hx : ¬p x)
    (hbefore' : ∀ z ∈ before', p z) (hy : ¬p y) : x = y := by
  induction before generalizing before' with
  | nil =>
    cases before' with
    | nil => exact (List.cons_eq_cons.mp h).1
    | cons z before' =>
      obtain ⟨rfl, -⟩ := List.cons_eq_cons.mp h
      exact absurd (hbefore' _ (List.mem_cons_self ..)) hx
  | cons w before ih =>
    obtain ⟨hw, hbefore⟩ := List.forall_mem_cons.mp hbefore
    cases before' with
    | nil =>
      obtain ⟨rfl, -⟩ := List.cons_eq_cons.mp h
      exact absurd hw hy
    | cons z before' =>
      exact ih (List.cons_eq_cons.mp h).2 hbefore (List.forall_mem_cons.mp hbefore').2

theorem of_bind_eq_ok {α β ε : Type} {x : Except ε α} {f : α → Except ε β} {b : β}
    (h : (x >>= f) = .ok b) : ∃ a, x = .ok a ∧ f a = .ok b := by
  cases x with
  | error e => cases h
  | ok a => exact ⟨a, rfl, h⟩

theorem bind_eq_error_iff {α β ε : Type} {x : Except ε α} {f : α → Except ε β} {e : ε} :
    (x >>= f) = .error e ↔ x = .error e ∨ ∃ a, x = .ok a ∧ f a = .error e := by
  cases x <;> simp [bind, Except.bind]

theorem of_map_eq_ok {α β ε : Type} {x : Except ε α} {f : α → β} {b : β}
    (h : x.map f = .ok b) : ∃ a, x = .ok a ∧ f a = b := by
  cases x with
  | error e => cases h
  | ok a => exact ⟨a, rfl, Except.ok.inj h⟩

theorem of_map_eq_error {α β ε : Type} {x : Except ε α} {f : α → β} {e : ε}
    (h : x.map f = .error e) : x = .error e := by
  cases x with
  | error e' => exact congrArg Except.error (Except.error.inj h)
  | ok a => cases h

theorem allM_eq_some_true_iff {α : Type} {f : α → Option Bool} {xs : List α} :
    xs.allM f = some true ↔ ∀ x ∈ xs, f x = some true := by
  induction xs with
  | nil => simp
  | cons x xs ih =>
    rw [List.allM_cons, List.forall_mem_cons, ← ih]
    cases hx : f x with
    | none => simp
    | some b => cases b <;> simp

theorem of_allM_eq_some {α : Type} {f : α → Option Bool} {g : α → Bool} {xs : List α} {b : Bool}
    (same : ∀ x ∈ xs, ∀ b, f x = some b → g x = b) (h : xs.allM f = some b) : xs.all g = b := by
  induction xs with
  | nil => exact Option.some.inj h
  | cons x xs ih =>
    obtain ⟨first, rest⟩ := List.forall_mem_cons.mp same
    rw [List.allM_cons] at h
    obtain ⟨passed, hx, h⟩ := Option.bind_eq_some_iff.mp h
    rw [List.all_cons, first passed hx]
    cases passed with
    | true => exact ih rest h
    | false => exact Option.some.inj h

theorem allM_congr {α : Type} {f g : α → Option Bool} {xs : List α} (h : ∀ x ∈ xs, f x = g x) :
    xs.allM f = xs.allM g := by
  induction xs with
  | nil => rfl
  | cons x xs ih =>
    obtain ⟨first, rest⟩ := List.forall_mem_cons.mp h
    rw [List.allM_cons, List.allM_cons, first, ih rest]

theorem allM_mono {α : Type} {f g : α → Option Bool} {xs : List α} {b : Bool}
    (more : ∀ x ∈ xs, ∀ c, f x = some c → g x = some c) (h : xs.allM f = some b) :
    xs.allM g = some b := by
  induction xs with
  | nil => exact h
  | cons x xs ih =>
    obtain ⟨first, rest⟩ := List.forall_mem_cons.mp more
    rw [List.allM_cons] at *
    cases hx : f x with
    | none =>
      rw [hx] at h
      cases h
    | some c =>
      rw [hx] at h
      rw [first c hx]
      cases c with
      | false => exact h
      | true => exact ih rest h

theorem isSome_allM {α : Type} {f : α → Option Bool} {xs : List α}
    (h : ∀ x ∈ xs, (f x).isSome = true) : (xs.allM f).isSome = true := by
  induction xs with
  | nil => rfl
  | cons x xs ih =>
    obtain ⟨first, rest⟩ := List.forall_mem_cons.mp h
    obtain ⟨c, hc⟩ := Option.isSome_iff_exists.mp first
    rw [List.allM_cons, hc]
    cases c with
    | false => rfl
    | true => exact ih rest

section Order

variable {α β ε : Type} {f : α → Except ε β}

theorem mapM_eq_ok_iff {xs : List α} {ys : List β} :
    xs.mapM f = .ok ys ↔ List.Forall₂ (fun x y => f x = .ok y) xs ys := by
  induction xs generalizing ys with
  | nil => cases ys <;> simp [pure, Except.pure]
  | cons x xs ih =>
    rw [List.mapM_cons, List.forall₂_cons_left_iff]
    cases hx : f x with
    | error e => simp [bind, Except.bind]
    | ok y =>
      cases hxs : xs.mapM f with
      | error e =>
        simp only [bind, Except.bind, reduceCtorEq, false_iff]
        rintro ⟨_, ys', -, hys, -⟩
        rw [ih.mpr hys] at hxs
        cases hxs
      | ok ys' =>
        simp only [bind, Except.bind, pure, Except.pure, Except.ok.injEq]
        constructor
        · rintro rfl
          exact ⟨y, ys', rfl, ih.mp hxs, rfl⟩
        · rintro ⟨_, zs, rfl, hzs, rfl⟩
          rw [ih.mpr hzs, Except.ok.injEq] at hxs
          rw [hxs]

/-- Where the first item of a list that counts is: it is the head, or it is passed over. -/
theorem exists_first_cons_iff {p q : α → Prop} {x : α} {xs : List α} :
    (∃ before y after, x :: xs = before ++ y :: after ∧ (∀ z ∈ before, p z) ∧ q y) ↔
      q x ∨ (p x ∧ ∃ before y after, xs = before ++ y :: after ∧ (∀ z ∈ before, p z) ∧ q y) := by
  constructor
  · rintro ⟨before, y, after, hsplit, hbefore, hy⟩
    cases before with
    | nil =>
      obtain ⟨rfl, -⟩ := List.cons_eq_cons.mp hsplit
      exact Or.inl hy
    | cons b before =>
      obtain ⟨rfl, rfl⟩ := List.cons_eq_cons.mp hsplit
      obtain ⟨hb, hbefore⟩ := List.forall_mem_cons.mp hbefore
      exact Or.inr ⟨hb, before, y, after, rfl, hbefore, hy⟩
  · rintro (hx | ⟨hx, before, y, after, rfl, hbefore, hy⟩)
    · exact ⟨[], x, xs, rfl, by simp, hx⟩
    · exact ⟨x :: before, y, after, rfl, List.forall_mem_cons.mpr ⟨hx, hbefore⟩, hy⟩

theorem mapM_eq_error_iff {xs : List α} {e : ε} :
    xs.mapM f = .error e ↔ ∃ before x after, xs = before ++ x :: after ∧
      (∀ z ∈ before, ∀ d, f z ≠ .error d) ∧ f x = .error e := by
  induction xs with
  | nil => simp [pure, Except.pure]
  | cons x xs ih =>
    rw [List.mapM_cons, exists_first_cons_iff, ← ih]
    cases hx : f x with
    | error d => simp [bind, Except.bind]
    | ok y => cases xs.mapM f <;> simp [bind, Except.bind, pure, Except.pure]

theorem anyM_eq_error_iff {f : α → Except ε Bool} {xs : List α} {e : ε} :
    xs.anyM f = .error e ↔ ∃ before x after, xs = before ++ x :: after ∧
      (∀ z ∈ before, f z = .ok false) ∧ f x = .error e := by
  induction xs with
  | nil => simp [pure, Except.pure]
  | cons x xs ih =>
    rw [List.anyM_cons, exists_first_cons_iff]
    cases hx : f x with
    | error d => simp [bind, Except.bind]
    | ok b => cases b <;> simp [bind, Except.bind, pure, Except.pure, ih]

theorem anyM_eq_false_iff {f : α → Except ε Bool} {xs : List α} :
    xs.anyM f = .ok false ↔ ∀ x ∈ xs, f x = .ok false := by
  induction xs with
  | nil => simp [pure, Except.pure]
  | cons x xs ih =>
    rw [List.anyM_cons, List.forall_mem_cons, ← ih]
    cases hx : f x with
    | error d => simp [bind, Except.bind]
    | ok b => cases b <;> simp [bind, Except.bind, pure, Except.pure]

theorem of_anyM_eq_ok {f : α → Except ε Bool} {g : α → Bool} {xs : List α} {b : Bool}
    (same : ∀ x ∈ xs, ∀ b, f x = .ok b → g x = b) (h : xs.anyM f = .ok b) : xs.any g = b := by
  induction xs with
  | nil =>
    cases h
    rfl
  | cons x xs ih =>
    obtain ⟨first, rest⟩ := List.forall_mem_cons.mp same
    rw [List.anyM_cons] at h
    obtain ⟨found, hx, h⟩ := of_bind_eq_ok h
    rw [List.any_cons, first found hx]
    cases found with
    | true =>
      cases h
      rfl
    | false => exact ih rest h

theorem allM_map {γ : Type} (g : γ → α) (f : α → Except ε Bool) (xs : List γ) :
    (xs.map g).allM f = xs.allM fun x => f (g x) := by
  induction xs with
  | nil => rfl
  | cons x xs ih => rw [List.map_cons, List.allM_cons, List.allM_cons, ih]

theorem allM_eq_error_iff {f : α → Except ε Bool} {xs : List α} {e : ε} :
    xs.allM f = .error e ↔ ∃ before x after, xs = before ++ x :: after ∧
      (∀ z ∈ before, f z = .ok true) ∧ f x = .error e := by
  induction xs with
  | nil => simp [pure, Except.pure]
  | cons x xs ih =>
    rw [List.allM_cons, exists_first_cons_iff]
    cases hx : f x with
    | error d => simp [bind, Except.bind]
    | ok b => cases b <;> simp [bind, Except.bind, pure, Except.pure, ih]

end Order

end Conform
