import Mathlib.Data.List.Perm.Basic
/-!
# Walks that go into each number once

A walk goes through stops that have a number and parts.  It goes into a stop whose number is left,
which uses the number up, and comes to the parts before it goes on; past other stops it just goes on
(`follow`).  It ends even where a stop is below itself, as there are only so many numbers to use up.
What it comes to, besides what it is started with, is what is in the stops that it goes into
(`follow_perm`), and these are the first ones with their numbers (`mem_entered_iff`).
-/
namespace Conform.Walks

variable {σ τ : Type} {number : σ → Nat} {parts : σ → List σ} {remaining : List Nat}

/-- The stops of a walk through what is to do, `remaining` being the numbers that are left. -/
def follow (number : σ → Nat) (parts : σ → List σ) (remaining : List Nat) (todo : List σ) :
    List σ :=
  match todo with
  | [] => []
  | s :: todo =>
    if number s ∈ remaining then
      s :: follow number parts (remaining.erase (number s)) (parts s ++ todo)
    else s :: follow number parts remaining todo
termination_by (remaining.length, todo.length)
decreasing_by
  · apply Prod.Lex.left
    rename_i h
    rw [List.length_erase_of_mem h]
    exact Nat.sub_lt (List.length_pos_of_mem h) Nat.one_pos
  · apply Prod.Lex.right
    simp

/-- The stops of a walk that it goes into. -/
def entered (number : σ → Nat) : List Nat → List σ → List σ
  | _, [] => []
  | remaining, s :: stops =>
    if number s ∈ remaining then s :: entered number (remaining.erase (number s)) stops
    else entered number remaining stops

/-- A walk comes to the images of the stops of another one if numbers and parts are those of the
images. -/
theorem follow_map {number' : τ → Nat} {parts' : τ → List τ} {f : σ → τ}
    (hnumber : ∀ s, number' (f s) = number s) (hparts : ∀ s, parts' (f s) = (parts s).map f)
    (remaining : List Nat) (todo : List σ) : follow number' parts' remaining (todo.map f) =
      (follow number parts remaining todo).map f := by
  fun_induction follow number parts remaining todo with
  | case1 => simp [follow]
  | case2 remaining s todo h ih =>
    rw [List.map_cons, follow, hnumber, if_pos h, hparts, ← List.map_append, ih, List.map_cons]
  | case3 remaining s todo h ih => rw [List.map_cons, follow, hnumber, if_neg h, ih, List.map_cons]

theorem entered_map {number' : τ → Nat} {f : σ → τ} (hnumber : ∀ s, number' (f s) = number s)
    (remaining : List Nat) (stops : List σ) :
    entered number' remaining (stops.map f) = (entered number remaining stops).map f := by
  induction stops generalizing remaining with
  | nil => rfl
  | cons s stops ih =>
    rw [List.map_cons, entered, entered, hnumber]
    split
    · rw [ih, List.map_cons]
    · exact ih remaining

/-- What parts inherit holds of all stops of a walk. -/
theorem forall_mem_follow {P : σ → Prop} {todo : List σ} (start : ∀ s ∈ todo, P s)
    (inherit : ∀ s, P s → ∀ t ∈ parts s, P t) : ∀ s ∈ follow number parts remaining todo, P s := by
  fun_induction follow number parts remaining todo with
  | case1 => simp
  | case2 remaining s todo h ih =>
    obtain ⟨hs, htodo⟩ := List.forall_mem_cons.mp start
    refine List.forall_mem_cons.mpr ⟨hs, ih fun t ht => ?_⟩
    exact (List.mem_append.mp ht).elim (inherit s hs t) (htodo t)
  | case3 remaining s todo h ih =>
    obtain ⟨hs, htodo⟩ := List.forall_mem_cons.mp start
    exact List.forall_mem_cons.mpr ⟨hs, ih htodo⟩

/-- **What a walk comes to** is what it is started with and the parts of the stops that it goes
into. -/
theorem follow_perm (remaining : List Nat) (todo : List σ) :
    (follow number parts remaining todo).Perm (todo ++
      (entered number remaining (follow number parts remaining todo)).flatMap parts) := by
  fun_induction follow number parts remaining todo with
  | case1 => simp [entered]
  -- The parts come before what is still to do, and are counted with those of later stops.
  | case2 remaining s todo h ih =>
    rw [entered, if_pos h, List.flatMap_cons, List.cons_append, ← List.append_assoc]
    refine .cons s (ih.trans ?_)
    exact List.perm_append_comm.append_right _
  | case3 remaining s todo h ih =>
    rw [entered, if_neg h, List.cons_append]
    exact ih.cons s

/-- Whether a stop is one of a list and none before it has its number. -/
def IsFirst (number : σ → Nat) (r : σ) (stops : List σ) : Prop :=
  ∃ before after, stops = before ++ r :: after ∧ ∀ s ∈ before, number s ≠ number r

theorem isFirst_nil_iff {r : σ} : IsFirst number r [] ↔ False := by simp [IsFirst]

theorem isFirst_cons_iff {r s : σ} {stops : List σ} : IsFirst number r (s :: stops) ↔
    s = r ∨ number s ≠ number r ∧ IsFirst number r stops := by
  constructor
  · rintro ⟨_ | ⟨t, before⟩, after, h, first⟩
    · exact Or.inl (List.cons.inj h).1
    · obtain ⟨rfl, rfl⟩ := List.cons.inj h
      obtain ⟨hs, first⟩ := List.forall_mem_cons.mp first
      exact Or.inr ⟨hs, before, after, rfl, first⟩
  · rintro (rfl | ⟨hs, before, after, rfl, first⟩)
    · exact ⟨[], stops, rfl, by simp⟩
    · exact ⟨s :: before, after, rfl, List.forall_mem_cons.mpr ⟨hs, first⟩⟩

/-- **A walk goes into the first stop with each number** that is left. -/
theorem mem_entered_iff (nodup : remaining.Nodup) {stops : List σ} {r : σ} :
    r ∈ entered number remaining stops ↔ number r ∈ remaining ∧ IsFirst number r stops := by
  induction stops generalizing remaining with
  | nil => simp [entered, isFirst_nil_iff]
  | cons s stops ih =>
    rw [entered, isFirst_cons_iff]
    split
    · rename_i h
      -- The number of the stop in front is used up, so that later ones differ from it.
      rw [List.mem_cons, ih (nodup.erase _), nodup.mem_erase_iff]
      constructor
      · rintro (rfl | ⟨⟨other, hr⟩, first⟩)
        · exact ⟨h, Or.inl rfl⟩
        · exact ⟨hr, Or.inr ⟨Ne.symm other, first⟩⟩
      · rintro ⟨hr, rfl | ⟨other, first⟩⟩
        · exact Or.inl rfl
        · exact Or.inr ⟨⟨Ne.symm other, hr⟩, first⟩
    · rename_i h
      rw [ih nodup]
      constructor
      · rintro ⟨hr, first⟩
        exact ⟨hr, Or.inr ⟨fun same => h (same ▸ hr), first⟩⟩
      · rintro ⟨hr, rfl | ⟨-, first⟩⟩
        · exact absurd hr h
        · exact ⟨hr, first⟩

/-- The stops that a walk goes into have different numbers. -/
theorem nodup_entered (nodup : remaining.Nodup) (stops : List σ) :
    ((entered number remaining stops).map number).Nodup := by
  induction stops generalizing remaining with
  | nil => simp [entered]
  | cons s stops ih =>
    rw [entered]
    split
    · refine List.nodup_cons.mpr ⟨fun hmem => ?_, ih (nodup.erase _)⟩
      obtain ⟨r, hr, same⟩ := List.mem_map.mp hmem
      have left := ((mem_entered_iff (nodup.erase _)).mp hr).1
      exact (nodup.mem_erase_iff.mp left).1 same
    · exact ih nodup

end Conform.Walks
