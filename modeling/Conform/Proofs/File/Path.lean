import Conform.File.Path
/-!
# File paths as text

A path that a text stands for has names between which separators can be put, and its own text stands
for it again.  So such paths can be told apart by their texts.
-/
namespace Conform.FilePath

/-- Whether a name is one that a text can show: there is something between its separators, which is no
step to the same directory. -/
structure IsName (n : String) : Prop where
  nonempty : n ≠ ""
  noStep : n ≠ "."
  noSeparator : '/' ∉ n.toList

/-- Whether all names of a path can be shown. -/
def IsProper (p : FilePath) : Prop := ∀ n ∈ p.names, IsName n

/-- What is between separators holds none. -/
theorem not_mem_of_mem_splitOn {a : Char} {s l : List Char} (h : l ∈ s.splitOn a) : a ∉ l := by
  induction s generalizing l with
  | nil =>
    obtain rfl := List.mem_singleton.mp h
    exact List.not_mem_nil
  | cons c s ih =>
    rw [List.splitOn_cons_eq_if_modifyHead] at h
    by_cases hc : c = a
    · rw [if_pos (beq_iff_eq.mpr hc)] at h
      rcases List.mem_cons.mp h with rfl | h
      · exact List.not_mem_nil
      · exact ih h
    · rw [if_neg (by simpa using hc)] at h
      obtain ⟨first, rest, parts⟩ := List.exists_cons_of_ne_nil (List.splitOn_ne_nil a s)
      rw [parts, List.modifyHead_cons] at h
      rcases List.mem_cons.mp h with rfl | h
      · intro ha
        rcases List.mem_cons.mp ha with rfl | ha
        · exact hc rfl
        · exact ih (by rw [parts]; exact List.mem_cons_self ..) ha
      · exact ih (by rw [parts]; exact List.mem_cons_of_mem _ h)

theorem isProper_ofString (s : String) : (ofString s).IsProper := by
  intro n hn
  obtain ⟨part, kept⟩ := List.mem_filter.mp hn
  obtain ⟨l, hl, rfl⟩ := List.mem_map.mp part
  obtain ⟨nonempty, noStep⟩ := of_decide_eq_true kept
  exact ⟨nonempty, noStep, by rw [String.toList_ofList]; exact not_mem_of_mem_splitOn hl⟩

/-- A root is read off what stands in front of a name. -/
theorem ofChars_root (r : FileRoot) {c : Char} (hc : c ≠ '/') (cs : List Char) :
    FileRoot.ofChars (r.text.toList ++ c :: cs) = r := by
  cases r <;> simp [FileRoot.text, FileRoot.ofChars, hc]

/-- The separators of a root stand between no names. -/
theorem filter_splitOn_root (r : FileRoot) (cs : List Char) {keep : String → Bool}
    (empty : keep "" = false) :
    (((r.text.toList ++ cs).splitOn '/').map String.ofList).filter keep =
      ((cs.splitOn '/').map String.ofList).filter keep := by
  have separator : ∀ ds : List Char, ((('/' :: ds).splitOn '/').map String.ofList).filter keep =
      ((ds.splitOn '/').map String.ofList).filter keep := by
    intro ds
    rw [List.splitOn_cons_eq_if_modifyHead, if_pos (by decide), List.map_cons, List.filter_cons_of_neg]
    simpa using empty
  cases r with
  | here => rfl
  | single => exact separator cs
  | double => exact (separator _).trans (separator cs)

/-- **The text of a path stands for it.** -/
theorem ofString_text {p : FilePath} (proper : p.IsProper) : ofString p.text = p := by
  obtain ⟨root, names⟩ := p
  cases names with
  | nil => cases root <;> rfl
  | cons n ns =>
    have names : ∀ m ∈ n :: ns, IsName m := proper
    have chars : (text ⟨root, n :: ns⟩).toList =
        root.text.toList ++ ['/'].intercalate ((n :: ns).map String.toList) := by
      rw [text, if_neg (by simp), String.toList_append, String.toList_intercalate]
      rfl
    have parts : (['/'].intercalate ((n :: ns).map String.toList)).splitOn '/' =
        (n :: ns).map String.toList := by
      apply List.splitOn_intercalate
      · intro l hl
        obtain ⟨m, hm, rfl⟩ := List.mem_map.mp hl
        exact (names m hm).noSeparator
      · simp
    -- The first name starts behind the separators of the root.
    obtain ⟨c, cs, hc⟩ : ∃ c cs, n.toList = c :: cs :=
      List.exists_cons_of_ne_nil fun h => (names n (List.mem_cons_self ..)).nonempty
        (String.toList_eq_nil_iff.mp h)
    have noSeparator : c ≠ '/' := by
      rintro rfl
      exact (names n (List.mem_cons_self ..)).noSeparator (by rw [hc]; exact List.mem_cons_self ..)
    have first : ∃ ds, ['/'].intercalate ((n :: ns).map String.toList) = c :: ds := by
      cases ns <;> simp [hc]
    rw [ofString, chars, filter_splitOn_root root _ (by decide), parts, List.map_map]
    obtain ⟨ds, hds⟩ := first
    rw [hds, ofChars_root root noSeparator]
    congr 1
    have back : (n :: ns).map (String.ofList ∘ String.toList) = n :: ns := by simp
    rw [back, List.filter_eq_self]
    intro m hm
    exact decide_eq_true ⟨(names m hm).nonempty, (names m hm).noStep⟩

/-- Paths of texts are told apart by their own texts. -/
theorem eq_of_text_eq {p q : FilePath} (hp : p.IsProper) (hq : q.IsProper)
    (same : p.text = q.text) : p = q := by
  rw [← ofString_text hp, same, ofString_text hq]

end Conform.FilePath
