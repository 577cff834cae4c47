import Conform.Proofs.Path
import Conform.Source.Location
/-!
# The closest known position

A lookup goes from a path to the path cut before its last separator, down to the empty one, and stops
at the first position that is known.  The paths that it may come to are the path itself, what stands
before any of its separators, and the empty path; each cut is shorter than the one before, so that the
lookup stops at the longest of these paths with a known position (`closest?_eq_some_iff`).
-/
namespace Conform

open Conform.Path

/-- Whether a path is another one, stands before a separator of it, or is empty. -/
def Path.IsAround (key path : List Char) : Prop :=
  key = path ∨ (∃ rest, path = key ++ separator :: rest) ∨ key = []

namespace Path

variable {key path : List Char}

theorem exists_last_separator (h : separator ∈ path) :
    ∃ front last, path = front ++ separator :: last ∧ separator ∉ last := by
  obtain ⟨last, front, hpath, hlast⟩ := List.eq_append_cons_of_mem (List.mem_reverse.mpr h)
  refine ⟨front.reverse, last.reverse, ?_, mt List.mem_reverse.mp hlast⟩
  simpa using congrArg List.reverse hpath

theorem IsAround.length_lt (h : IsAround key path) (other : key ≠ path) : key.length < path.length := by
  rcases h with rfl | ⟨rest, rfl⟩ | rfl
  · exact absurd rfl other
  · simp
  · exact List.length_pos_iff.mpr (Ne.symm other)

theorem isAround_nil_iff : IsAround key [] ↔ key = [] := by
  simp [IsAround]

/-- What is around a path beside the path itself is around its parent. -/
theorem isAround_iff_parent (ne : path ≠ []) :
    IsAround key path ↔ key = path ∨ IsAround key (parent path) := by
  by_cases hsep : separator ∈ path
  · obtain ⟨front, last, rfl, hlast⟩ := exists_last_separator hsep
    rw [parent_append hlast]
    refine or_congr_right ?_
    constructor
    · rintro (⟨rest, h⟩ | rfl)
      · rcases List.append_eq_append_iff.mp h with ⟨mid, rfl, hlater⟩ | ⟨mid, rfl, hlater⟩
        · cases mid with
          | nil => exact Or.inl (List.append_nil front)
          | cons c mid =>
            -- There would be a separator behind the last one.
            obtain ⟨-, rfl⟩ := List.cons.inj hlater
            simp at hlast
        · cases mid with
          | nil => exact Or.inl (List.append_nil key).symm
          | cons c mid =>
            obtain ⟨rfl, -⟩ := List.cons.inj hlater
            exact Or.inr (Or.inl ⟨mid, rfl⟩)
      · exact Or.inr (Or.inr rfl)
    · rintro (rfl | ⟨rest, rfl⟩ | rfl)
      · exact Or.inl ⟨last, rfl⟩
      · exact Or.inl ⟨rest ++ separator :: last, by simp⟩
      · exact Or.inr rfl
  · have cut : ¬∃ rest, path = key ++ separator :: rest := by
      rintro ⟨rest, rfl⟩
      simp at hsep
    rw [parent_of_not_mem hsep, isAround_nil_iff, IsAround]
    simp [cut]

end Path

namespace SourceMap

variable {m : SourceMap} {path key : List Char} {p : Position}

/-- Whether the known position at a path is the one with the longest path around another path. -/
structure IsClosest (m : SourceMap) (path key : List Char) (p : Position) : Prop where
  around : IsAround key path
  entry : m.get? key = some p
  known : p.isKnown = true
  longest : ∀ other q, IsAround other path → m.get? other = some q → q.isKnown = true →
    other = key ∨ other.length < key.length

theorem known?_eq_some_iff : m.known? path = some p ↔ m.get? path = some p ∧ p.isKnown = true := by
  rw [known?, Option.filter_eq_some_iff]

theorem isKnown_eq_false_of_known? (h : m.known? path = none) (entry : m.get? path = some p) :
    p.isKnown = false := by
  rw [known?, entry, Option.filter_some] at h
  simpa using h

/-- A position that is known at the path itself is the closest one. -/
theorem isClosest_self (h : m.known? path = some p) : m.IsClosest path path p := by
  obtain ⟨entry, known⟩ := known?_eq_some_iff.mp h
  refine ⟨Or.inl rfl, entry, known, fun other q around _ _ => ?_⟩
  exact (em (other = path)).imp id around.length_lt

theorem isClosest_iff_parent (h : m.known? path = none) (ne : path ≠ []) :
    m.IsClosest path key p ↔ m.IsClosest (parent path) key p := by
  have unknown : ∀ q, m.get? path = some q → ¬q.isKnown = true := fun q entry =>
    Bool.eq_false_iff.mp (isKnown_eq_false_of_known? h entry)
  constructor
  · rintro ⟨around, entry, known, longest⟩
    rcases (Path.isAround_iff_parent ne).mp around with rfl | around
    · exact absurd known (unknown p entry)
    · exact ⟨around, entry, known, fun other q h =>
        longest other q ((Path.isAround_iff_parent ne).mpr (Or.inr h))⟩
  · rintro ⟨around, entry, known, longest⟩
    refine ⟨(Path.isAround_iff_parent ne).mpr (Or.inr around), entry, known, ?_⟩
    intro other q hother hq hknown
    rcases (Path.isAround_iff_parent ne).mp hother with rfl | hother
    · exact absurd hknown (unknown q hq)
    · exact longest other q hother hq hknown

/-- There is no more than one closest known position. -/
theorem IsClosest.unique {key' : List Char} {p' : Position} (h : m.IsClosest path key p)
    (h' : m.IsClosest path key' p') : p = p' := by
  have later := h.longest key' p' h'.around h'.entry h'.known
  have before := h'.longest key p h.around h.entry h.known
  obtain rfl : key = key' := by
    rcases before with rfl | before
    · rfl
    · exact (later.resolve_right (by omega)).symm
  exact Option.some.inj (h.entry.symm.trans h'.entry)

/-- **A lookup stops at the longest path around with a known position.** -/
theorem closest?_eq_some_iff : m.closest? path = some p ↔ ∃ key, m.IsClosest path key p := by
  fun_induction closest? m path with
  | case1 path q hq =>
    have self := isClosest_self hq
    constructor
    · rintro ⟨⟩
      exact ⟨path, self⟩
    · rintro ⟨key, h⟩
      rw [self.unique h]
  | case2 hnone =>
    refine iff_of_false (by simp) ?_
    rintro ⟨key, h⟩
    obtain rfl := Path.isAround_nil_iff.mp h.around
    exact Bool.eq_false_iff.mp (isKnown_eq_false_of_known? hnone h.entry) h.known
  | case3 path hnone ne ih =>
    rw [ih]
    exact exists_congr fun key => (isClosest_iff_parent hnone ne).symm

theorem closest?_eq_none_iff : m.closest? path = none ↔
    ∀ key p, IsAround key path → m.get? key = some p → p.isKnown = false := by
  fun_induction closest? m path with
  | case1 path q hq =>
    obtain ⟨entry, known⟩ := known?_eq_some_iff.mp hq
    refine iff_of_false (by simp) fun h => ?_
    rw [h path q (Or.inl rfl) entry] at known
    cases known
  | case2 hnone =>
    refine iff_of_true rfl fun key p around entry => ?_
    obtain rfl := Path.isAround_nil_iff.mp around
    exact isKnown_eq_false_of_known? hnone entry
  | case3 path hnone ne ih =>
    rw [ih]
    constructor
    · intro h key p around entry
      rcases (Path.isAround_iff_parent ne).mp around with rfl | around
      · exact isKnown_eq_false_of_known? hnone entry
      · exact h key p around entry
    · exact fun h key p around =>
        h key p ((Path.isAround_iff_parent ne).mpr (Or.inr around))

end SourceMap

/-- **A lookup finds the closest known position**: that of the longest path around the place in the
document with a position of which anything is known.  It finds none exactly if there is no such path,
and says which file and path it was asked for.  The place is a path without optional markers, to which
it is the place itself. -/
theorem Location.find_isClosest (m : SourceMap) (path : Option String) (file : Option FilePath) :
    let place := toDocument (path.getD "").toList
    (find m path file).file = file ∧ (find m path file).path = path ∧
    (∀ p : Position, p.isKnown = true →
      ((find m path file).position = p ↔ ∃ key, m.IsClosest place key p)) ∧
    ((find m path file).position = {} ↔
      ∀ key p, IsAround key place → m.get? key = some p → p.isKnown = false) ∧
    optionalMarker ∉ segments place ∧ toDocument place = place := by
  intro place
  refine ⟨rfl, rfl, fun p known => ?_, ?_, marker_not_mem_segments_toDocument _,
    toDocument_toDocument _⟩
  -- A lookup without an answer gives the position of which nothing is known, which is not `p`.
  · rw [← SourceMap.closest?_eq_some_iff]
    change (m.closest? place).getD {} = p ↔ _
    cases m.closest? place with
    | some q => simp
    | none =>
      refine iff_of_false ?_ (by simp)
      rintro rfl
      cases known
  · rw [← SourceMap.closest?_eq_none_iff]
    change (m.closest? place).getD {} = {} ↔ _
    cases h : m.closest? place with
    | none => simp
    | some q =>
      refine iff_of_false ?_ (by simp)
      rintro rfl
      obtain ⟨key, closest⟩ := SourceMap.closest?_eq_some_iff.mp h
      cases closest.known

end Conform
