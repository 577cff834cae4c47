import Conform.Proofs.Schema.Validate
import Conform.Proofs.Value.Writing
/-!
# Schemas that can be written

A schema of which everything can be shown is made of such schemas, and it can be described; and the
elements of an acyclic value that can be written are acyclic and can be written.  So nothing that a check
of the one against the other shows is kept from being shown.
-/
namespace Conform

namespace Schema

theorem areWritable_iff {inFull : Bool} {ss : List Schema} :
    areWritable inFull ss = true ↔ ∀ s ∈ ss, s.isWritable inFull = true := by
  induction ss with
  | nil => simp [areWritable]
  | cons s ss ih => rw [areWritable, Bool.and_eq_true, ih, List.forall_mem_cons]

theorem areWritableFields_iff {inFull : Bool} {fs : List (String × Schema)} :
    areWritableFields inFull fs = true ↔ ∀ f ∈ fs, f.2.isWritable inFull = true := by
  induction fs with
  | nil => simp [areWritableFields]
  | cons f fs ih =>
    obtain ⟨name, s⟩ := f
    rw [areWritableFields, Bool.and_eq_true, ih, List.forall_mem_cons]

variable {s : Schema}

theorem isWritable_child (h : s.isWritable true = true) :
    ∀ t ∈ s.children, t.isWritable true = true := by
  cases s with
  | optional wrapped =>
    cases wrapped with
    | none => simp [children]
    | some t => exact List.forall_mem_singleton.mpr h
  | union members => exact areWritable_iff.mp h
  | intersection members => exact areWritable_iff.mp h
  | object fields strict => exact List.forall_mem_map.mpr (areWritableFields_iff.mp h)
  | collection element r => exact List.forall_mem_singleton.mpr (Bool.and_eq_true_iff.mp h).1
  | array element r => exact List.forall_mem_singleton.mpr (Bool.and_eq_true_iff.mp h).1
  | _ => simp [children]

/-- What can be shown in full can be described. -/
theorem isWritable_of_inFull (h : s.isWritable true = true) : s.isWritable false = true := by
  induction s using inductionOnChildren with
  | step s ih =>
    have below : ∀ t ∈ s.children, t.isWritable false = true :=
      fun t ht => ih t ht (isWritable_child h t ht)
    cases s with
    | optional wrapped =>
      cases wrapped with
      | none => rfl
      | some t => exact below t (List.mem_singleton_self t)
    | union members => exact areWritable_iff.mpr below
    | intersection members => exact areWritable_iff.mpr below
    | object fields strict => rfl
    | collection element r =>
      exact Bool.and_eq_true_iff.mpr
        ⟨below element (List.mem_singleton_self _), (Bool.and_eq_true_iff.mp h).2⟩
    | array element r =>
      exact Bool.and_eq_true_iff.mpr
        ⟨below element (List.mem_singleton_self _), (Bool.and_eq_true_iff.mp h).2⟩
    | _ => exact h

end Schema

namespace Value

variable {v : Value}

/-- An acyclic value with elements is a list, a tuple or a map. -/
theorem eq_of_elements? {xs : List Value} (tree : v.isTree = true) (h : v.elements? = some xs) :
    v = list xs ∨ v = tuple xs ∨ ∃ es, v = map es ∧ xs = es.map (·.2) := by
  rw [elements?, items?_of_isTree tree] at h
  cases hitems : v.sequence? with
  | some ys =>
    rw [hitems] at h
    cases h
    cases v <;> cases hitems
    · exact .inl rfl
    · exact .inr (.inl rfl)
  | none =>
    rw [hitems] at h
    obtain ⟨es, entries, rfl⟩ := Option.map_eq_some_iff.mp h
    exact .inr (.inr ⟨es, eq_map_of_isTree tree entries, rfl⟩)

/-- Whether a value is acyclic and can be written. -/
structure IsWritten (v : Value) : Prop where
  isTree : v.isTree = true
  isWritable : v.isWritable = true

theorem IsWritten.elements (h : v.IsWritten) {xs : List Value} (elements : v.elements? = some xs) :
    ∀ x ∈ xs, x.IsWritten := by
  intro x hx
  obtain ⟨tree, writable⟩ := h
  obtain rfl | rfl | ⟨es, rfl, rfl⟩ := eq_of_elements? tree elements
  · exact ⟨(isTreeItems_iff xs).mp tree x hx, areWritable_iff.mp writable x hx⟩
  · exact ⟨(isTreeItems_iff xs).mp tree x hx, areWritable_iff.mp writable x hx⟩
  · obtain ⟨e, he, rfl⟩ := List.mem_map.mp hx
    exact ⟨((isTreeEntries_iff es).mp tree e he).2, (areWritableEntries_iff.mp writable e he).2⟩

theorem IsWritten.key (h : v.IsWritten) {es : List (Value × Value)} (entries : v.entries? = some es) :
    ∀ e ∈ es, e.1.isWritable = true := by
  obtain rfl := eq_map_of_isTree h.isTree entries
  exact fun e he => (areWritableEntries_iff.mp h.isWritable e he).1

end Value

end Conform
