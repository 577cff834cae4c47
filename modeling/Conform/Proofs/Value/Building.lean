import Conform.Proofs.Value.Key
import Conform.Value.Entries
import Mathlib.Data.List.Induction
/-!
# Built maps

A map that is built from proper keys and values is proper, whatever keys repeat; where no key
repeats, its entries are the pairs that it was built from.
-/
namespace Conform.Value

theorem isProper_setEntry {k v : Value} {es : List (Value × Value)} (hk : k.IsProper)
    (hv : v.IsProper) (hes : (map es).IsProper) : (map (setEntry sameKey k v es)).IsProper := by
  obtain ⟨hproper, hapart⟩ := isProper_map_iff.mp hes
  refine isProper_map_iff.mpr ⟨fun e he => ?_, ?_⟩
  · rcases mem_setEntry he with old | ⟨value, key⟩
    · exact hproper e old
    · refine ⟨?_, value ▸ hv⟩
      rcases key with eq | ⟨-, f, hf, eq⟩
      · exact eq ▸ hk
      · exact eq ▸ (hproper f hf).1
  · by_cases hknown : ∃ e ∈ es, sameKey k e.1 = true
    · rw [keys_setEntry_of_known hknown]
      exact hapart
    · have hnew : ∀ e ∈ es, sameKey k e.1 = false := by simpa using hknown
      rw [setEntry_of_new hnew, List.map_append]
      refine List.pairwise_append.mpr ⟨hapart, List.pairwise_singleton .., fun a ha b hb => ?_⟩
      obtain ⟨e, he, rfl⟩ := List.mem_map.mp ha
      cases List.mem_singleton.mp hb
      -- Sameness is symmetric, so that the keys are apart in both directions.
      refine ⟨?_, hnew e he⟩
      by_contra hsame
      have := sameKey_symm (hproper e he).1 (by simpa using hsame)
      rw [hnew e he] at this
      cases this

theorem entriesOf_concat (ps : List (Value × Value)) (p : Value × Value) :
    entriesOf (ps ++ [p]) = setEntry sameKey p.1 p.2 (entriesOf ps) := by
  rw [entriesOf, List.foldl_append]
  rfl

/-- A map that is built from proper keys and values is proper. -/
theorem isProper_mapOf {ps : List (Value × Value)}
    (h : ∀ p ∈ ps, p.1.IsProper ∧ p.2.IsProper) : (mapOf ps).IsProper := by
  unfold mapOf
  induction ps using List.reverseRecOn with
  | nil => simp [entriesOf]
  | append_singleton ps p ih =>
    rw [entriesOf_concat]
    obtain ⟨hk, hv⟩ := h p (by simp)
    exact isProper_setEntry hk hv (ih fun q hq => h q (List.mem_append_left _ hq))

/-- Without repeated keys nothing is changed. -/
theorem mapOf_of_pairwise {ps : List (Value × Value)} (h : (ps.map (·.1)).Pairwise Apart) :
    mapOf ps = map ps := by
  unfold mapOf
  congr 1
  induction ps using List.reverseRecOn with
  | nil => rfl
  | append_singleton ps p ih =>
    rw [List.map_append, List.pairwise_append] at h
    obtain ⟨hps, -, hp⟩ := h
    rw [entriesOf_concat, ih hps]
    refine setEntry_of_new (fun e he => ?_) p.2
    exact (hp e.1 (List.mem_map_of_mem he) p.1 (by simp)).2

end Conform.Value
