import Conform.Node
import Conform.Proofs.Path
/-!
# Segments of nodes

A label becomes one more segment of a node if it holds no separator and, below the root, is not
empty (`segments_child_iff`).  So nodes that are reached from one node along different labels of this
kind have different paths (`path_foldl_child_inj`).
-/
namespace Conform

open Conform.Path

namespace Path

theorem segments_eq_singleton_iff {s : List Char} : segments s = [s] ↔ separator ∉ s := by
  constructor
  · intro h
    exact not_mem_of_mem_segments (h ▸ List.mem_singleton_self s)
  · exact segments_of_not_mem

end Path

namespace Node

variable {n : Node} {s : String} {ls ks : List String}

theorem pathText_child (n : Node) (s : String) :
    (n.child s).pathText.toList = Path.child n.pathText.toList s.toList := by
  rw [pathText, child, Option.getD_some, String.toList_ofList]

theorem isRoot_iff : n.isRoot = true ↔ n.pathText.toList = [] := by
  rw [isRoot, String.isEmpty_iff, String.toList_eq_nil_iff]

theorem isRoot_child_iff : (n.child s).isRoot = true ↔ n.isRoot = true ∧ s = "" := by
  rw [isRoot_iff, isRoot_iff, pathText_child, Path.child]
  split
  · rename_i h
    rw [List.isEmpty_iff] at h
    simp [h]
  · rename_i h
    rw [List.isEmpty_iff] at h
    simp [h]

/-- A text below a node adds its own segments; below the root the empty text adds none. -/
theorem segments_child (n : Node) (s : String) : (n.child s).segments = n.segments ++
    if n.isRoot = true ∧ s = "" then [] else (Path.segments s.toList).map String.ofList := by
  simp only [segments, isRoot_child_iff, pathText_child]
  by_cases hroot : n.isRoot = true
  · have top : n.pathText.toList = [] := isRoot_iff.mp hroot
    by_cases hs : s = ""
    · simp [hroot, hs]
    · simp [hroot, hs, Path.child, top]
  · have below : n.pathText.toList ≠ [] := mt isRoot_iff.mpr hroot
    have step : Path.child n.pathText.toList s.toList =
        n.pathText.toList ++ separator :: s.toList := by
      rw [Path.child, if_neg (by simpa using below)]
    simp [hroot, step, segments_append]

theorem map_segments_eq_singleton_iff :
    (Path.segments s.toList).map String.ofList = [s] ↔ separator ∉ s.toList := by
  rw [← segments_eq_singleton_iff]
  constructor
  · intro h
    have := congrArg (List.map String.toList) h
    simpa [Function.comp_def] using this
  · intro h
    rw [h, List.map_singleton, String.ofList_toList]

/-- **A label becomes one segment** if it holds no separator and is not the empty one below the root,
and otherwise it does not. -/
theorem segments_child_iff : (n.child s).segments = n.segments ++ [s] ↔
    separator ∉ s.toList ∧ (n.isRoot = true → s ≠ "") := by
  rw [segments_child, List.append_cancel_left_eq]
  split
  · rename_i h
    simp [h]
  · rename_i h
    rw [map_segments_eq_singleton_iff]
    constructor
    · exact fun hs => ⟨hs, fun hroot hempty => h ⟨hroot, hempty⟩⟩
    · exact fun hs => hs.1

/-- Whether labels, one below the other, are the segments that they add to a node. -/
structure Admits (n : Node) (ls : List String) : Prop where
  separator : ∀ l ∈ ls, Path.separator ∉ l.toList
  first : n.isRoot = true → ls.head? ≠ some ""

instance (n : Node) (ls : List String) : Decidable (n.Admits ls) :=
  decidable_of_iff ((∀ l ∈ ls, Path.separator ∉ l.toList) ∧ (n.isRoot = true → ls.head? ≠ some ""))
    ⟨fun h => ⟨h.1, h.2⟩, fun h => ⟨h.separator, h.first⟩⟩

theorem segments_foldl_child (h : n.Admits ls) :
    (ls.foldl child n).segments = n.segments ++ ls := by
  induction ls generalizing n with
  | nil => rw [List.foldl_nil, List.append_nil]
  | cons l ls ih =>
    obtain ⟨hl, hls⟩ := List.forall_mem_cons.mp h.separator
    have first : n.isRoot = true → l ≠ "" := fun hroot hl => h.first hroot (by rw [hl]; rfl)
    -- A node below the first label is not the root, and empty labels add a segment there too.
    have below : (n.child l).Admits ls := by
      refine ⟨hls, fun hroot => ?_⟩
      obtain ⟨hroot, hempty⟩ := isRoot_child_iff.mp hroot
      exact absurd hempty (first hroot)
    rw [List.foldl_cons, ih below, segments_child_iff.mpr ⟨hl, first⟩, List.append_assoc]
    rfl

theorem segments_congr {m : Node} (h : n.pathText = m.pathText) : n.segments = m.segments := by
  rw [segments, segments, isRoot, isRoot, h]

/-- **Different labels lead to different paths.** -/
theorem path_foldl_child_inj (hl : n.Admits ls) (hk : n.Admits ks) :
    (ls.foldl child n).pathText = (ks.foldl child n).pathText ↔ ls = ks := by
  constructor
  · intro h
    have same := segments_congr h
    rw [segments_foldl_child hl, segments_foldl_child hk] at same
    exact List.append_cancel_left same
  · rintro rfl
    rfl

end Node

end Conform
