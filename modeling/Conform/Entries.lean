/-!
# Lists of entries

Maps, directories, the fields of an object and the positions of a source map are lists of entries,
in which no two keys are the same.  Setting a value puts a new entry at the end; a key that is there
already keeps its place and its form.
-/
namespace Conform

section

variable {κ ν : Type} {same : κ → κ → Bool}

/-- Sets the value under a key. -/
def setEntry (same : κ → κ → Bool) (k : κ) (v : ν) : List (κ × ν) → List (κ × ν)
  | [] => [(k, v)]
  | e :: es => if same k e.1 then (e.1, v) :: es else e :: setEntry same k v es

@[simp] theorem setEntry_nil (same : κ → κ → Bool) (k : κ) (v : ν) :
    setEntry same k v [] = [(k, v)] := rfl

theorem setEntry_cons (same : κ → κ → Bool) (k : κ) (v : ν) (e : κ × ν) (es : List (κ × ν)) :
    setEntry same k v (e :: es) = if same k e.1 then (e.1, v) :: es else e :: setEntry same k v es :=
  rfl

theorem setEntry_ne_nil (same : κ → κ → Bool) (k : κ) (v : ν) (es : List (κ × ν)) :
    setEntry same k v es ≠ [] := by
  cases es with
  | nil => simp
  | cons e es =>
    rw [setEntry_cons]
    split <;> simp

theorem setEntry_of_new {k : κ} {es : List (κ × ν)} (new : ∀ e ∈ es, same k e.1 = false) (v : ν) :
    setEntry same k v es = es ++ [(k, v)] := by
  induction es with
  | nil => rfl
  | cons e es ih =>
    obtain ⟨he, hes⟩ := List.forall_mem_cons.mp new
    rw [setEntry_cons, he, if_neg Bool.false_ne_true, ih hes, List.cons_append]

theorem keys_setEntry_of_known {k : κ} {es : List (κ × ν)}
    (known : ∃ e ∈ es, same k e.1 = true) (v : ν) :
    (setEntry same k v es).map (·.1) = es.map (·.1) := by
  induction es with
  | nil => simp at known
  | cons e es ih =>
    rw [setEntry_cons]
    cases h : same k e.1 with
    | true => rfl
    | false =>
      rw [if_neg Bool.false_ne_true, List.map_cons, List.map_cons, ih]
      simpa [h] using known

/-- An entry is an old one or has the value that is set, under the key that is set or an old key
that is the same. -/
theorem mem_setEntry {k : κ} {v : ν} {es : List (κ × ν)} {e : κ × ν}
    (h : e ∈ setEntry same k v es) :
    e ∈ es ∨ e.2 = v ∧ (e.1 = k ∨ same k e.1 = true ∧ ∃ f ∈ es, e.1 = f.1) := by
  induction es with
  | nil =>
    cases List.mem_singleton.mp h
    exact .inr ⟨rfl, .inl rfl⟩
  | cons f es ih =>
    rw [setEntry_cons] at h
    split at h
    · rename_i known
      rcases List.mem_cons.mp h with rfl | h
      · exact .inr ⟨rfl, .inr ⟨known, f, List.mem_cons_self, rfl⟩⟩
      · exact .inl (List.mem_cons_of_mem _ h)
    · rcases List.mem_cons.mp h with rfl | h
      · exact .inl List.mem_cons_self
      · rcases ih h with old | ⟨value, key⟩
        · exact .inl (List.mem_cons_of_mem _ old)
        · refine .inr ⟨value, key.imp_right ?_⟩
          rintro ⟨known, g, hg, eq⟩
          exact ⟨known, g, List.mem_cons_of_mem _ hg, eq⟩

end

/-! ### Keys that are the same only if they are equal -/

section

variable {κ ν : Type} [BEq κ] [LawfulBEq κ] {k : κ} {v : ν} {es : List (κ × ν)}

theorem mem_setEntry_beq {e : κ × ν} (h : e ∈ setEntry (· == ·) k v es) : e = (k, v) ∨ e ∈ es := by
  rcases mem_setEntry h with old | ⟨value, key | ⟨known, -⟩⟩
  · exact .inr old
  · exact .inl (Prod.ext key value)
  · exact .inl (Prod.ext (eq_of_beq known).symm value)

theorem find?_setEntry_self (k : κ) (v : ν) (es : List (κ × ν)) :
    (setEntry (· == ·) k v es).find? (·.1 == k) = some (k, v) := by
  induction es with
  | nil => simp
  | cons e es ih =>
    rw [setEntry_cons]
    split
    · rename_i known
      simp [eq_of_beq known]
    · rename_i other
      rw [List.find?_cons_of_neg (fun h => other (by simp [eq_of_beq h])), ih]

theorem find?_setEntry_of_ne {l : κ} (h : l ≠ k) (v : ν) (es : List (κ × ν)) :
    (setEntry (· == ·) k v es).find? (·.1 == l) = es.find? (·.1 == l) := by
  induction es with
  | nil => simp [Ne.symm h]
  | cons e es ih =>
    rw [setEntry_cons]
    split
    · rename_i known
      simp [← eq_of_beq known, Ne.symm h]
    · simp only [List.find?_cons, ih]

theorem nodup_keys_setEntry (distinct : (es.map (·.1)).Nodup) :
    ((setEntry (· == ·) k v es).map (·.1)).Nodup := by
  by_cases known : ∃ e ∈ es, (k == e.1) = true
  · rw [keys_setEntry_of_known known]
    exact distinct
  · have new : ∀ e ∈ es, (k == e.1) = false := fun e he =>
      Bool.eq_false_iff.mpr fun h => known ⟨e, he, h⟩
    rw [setEntry_of_new new, List.map_append]
    refine List.nodup_append.mpr ⟨distinct, List.pairwise_singleton .., fun a ha b hb => ?_⟩
    obtain ⟨e, he, rfl⟩ := List.mem_map.mp ha
    rw [List.mem_singleton.mp hb]
    exact fun eq => ne_of_beq_false (new e he) eq.symm

end

end Conform
