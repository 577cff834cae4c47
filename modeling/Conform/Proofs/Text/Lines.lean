import Conform.Text.Printable
import Mathlib.Data.List.Basic
import Mathlib.Tactic.ByContra
/-!
# Lines

What breaks a line depends on the reader: for some it is the line feed alone, for others a number of
control characters and separators.  No reader breaks a line at a printable character.  A text is
`Unbroken` if it stays on one line, and texts that are put together by line feeds have the lines of
the texts (`lines_intercalate`).
-/
namespace Conform.Text

/-! ### Printable texts -/

/-- The ranges one after the other; the kernel evaluates a list much faster than an array. -/
theorem isPrintable_eq (c : Char) : isPrintable c = if c.toNat < 0x7F then decide (' ' ≤ c)
    else !hiddenRanges.spans.toList.any fun s => s.1 ≤ c.toNat && c.toNat ≤ s.2 := by
  have listed : hiddenRanges.contains c =
      hiddenRanges.spans.toList.any fun s => s.1 ≤ c.toNat && c.toNat ≤ s.2 := by
    rw [Bool.eq_iff_iff, Ranges.contains_iff, List.any_eq_true]
    simp only [Array.mem_toList_iff, Bool.and_eq_true, decide_eq_true_eq]
  rw [isPrintable, listed]

/-- Whether each character of a text is printable. -/
def Printable (s : String) : Prop := ∀ c ∈ s.toList, isPrintable c = true

instance (s : String) : Decidable (Printable s) :=
  List.decidableBAll (fun c => isPrintable c = true) s.toList

@[simp] theorem printable_append {s t : String} :
    Printable (s ++ t) ↔ Printable s ∧ Printable t := by
  simp [Printable, or_imp, forall_and]

@[simp] theorem printable_toString {s : String} : Printable (toString s) ↔ Printable s := Iff.rfl

@[simp] theorem printable_ofList {cs : List Char} :
    Printable (String.ofList cs) ↔ ∀ c ∈ cs, isPrintable c = true := by
  rw [Printable, String.toList_ofList]

/-! ### Breaks -/

/-- The characters at which a reader breaks lines. -/
structure LineBreaks where
  isBreak : Char → Bool
  lineFeed : isBreak '\n' = true
  hidden : ∀ c, isPrintable c = true → isBreak c = false

namespace LineBreaks

/-- Whether a text stays on one line. -/
def Unbroken (b : LineBreaks) (s : String) : Prop := ∀ c ∈ s.toList, b.isBreak c = false

/-- The lines of a text; the empty text has none. -/
def lines (b : LineBreaks) (s : String) : List String :=
  if s = "" then [] else (s.toList.splitOnP b.isBreak).map String.ofList

variable {b : LineBreaks}

theorem unbroken_of_printable (b : LineBreaks) {s : String} (h : Printable s) : b.Unbroken s :=
  fun c hc => b.hidden c (h c hc)

@[simp] theorem unbroken_append {s t : String} :
    b.Unbroken (s ++ t) ↔ b.Unbroken s ∧ b.Unbroken t := by
  simp [Unbroken, or_imp, forall_and]

@[simp] theorem unbroken_toString {s : String} : b.Unbroken (toString s) ↔ b.Unbroken s := Iff.rfl

theorem unbroken_intercalate {separator : String} (hs : b.Unbroken separator)
    {texts : List String} :
    b.Unbroken (separator.intercalate texts) ↔ ∀ t ∈ texts, b.Unbroken t := by
  induction texts with
  | nil => simp [Unbroken]
  | cons t texts ih =>
    cases texts with
    | nil => simp
    | cons u us =>
      rw [String.intercalate_cons_cons, unbroken_append, unbroken_append, ih, List.forall_mem_cons]
      simp [hs]

/-- Texts with commas between them, after a text that says what they are. -/
theorem unbroken_listed {opening : String} (h : Printable opening) {texts : List String} :
    b.Unbroken (opening ++ ", ".intercalate texts) ↔ ∀ t ∈ texts, b.Unbroken t := by
  have comma := b.unbroken_of_printable (by decide : Printable ", ")
  simp [b.unbroken_of_printable h, unbroken_intercalate comma]

theorem lines_of_unbroken {s : String} (h : s ≠ "") (unbroken : b.Unbroken s) :
    b.lines s = [s] := by
  rw [lines, if_neg h, List.splitOnP_eq_singleton unbroken, List.map_singleton, String.ofList_toList]

theorem length_lines_pos {s : String} (h : s ≠ "") : 0 < (b.lines s).length := by
  rw [lines, if_neg h, List.length_map]
  exact List.length_pos_iff.mpr (List.splitOnP_ne_nil b.isBreak _)

/-- A text that is broken has more than one line. -/
theorem unbroken_of_length_lines {s : String} (h : (b.lines s).length ≤ 1) : b.Unbroken s := by
  intro c hc
  by_contra broken
  obtain ⟨before, after, split⟩ := List.append_of_mem hc
  have nonempty : s ≠ "" := by
    rintro rfl
    simp at hc
  have first := List.length_pos_iff.mpr (List.splitOnP_ne_nil b.isBreak before)
  have second := List.length_pos_iff.mpr (List.splitOnP_ne_nil b.isBreak after)
  rw [lines, if_neg nonempty, List.length_map, split,
    List.splitOnP_append_cons _ _ (by simpa using broken), List.length_append] at h
  omega

theorem flatMap_lines_of_unbroken {texts : List String} (h : ∀ t ∈ texts, t ≠ "")
    (unbroken : ∀ t ∈ texts, b.Unbroken t) : texts.flatMap b.lines = texts := by
  induction texts with
  | nil => rfl
  | cons t texts ih =>
    obtain ⟨ht, htexts⟩ := List.forall_mem_cons.mp h
    obtain ⟨first, rest⟩ := List.forall_mem_cons.mp unbroken
    rw [List.flatMap_cons, lines_of_unbroken ht first, ih htexts rest, List.singleton_append]

/-- Texts are unbroken if they have no more lines than there are texts. -/
theorem unbroken_of_length_flatMap {texts : List String} (h : ∀ t ∈ texts, t ≠ "")
    (few : (texts.flatMap b.lines).length ≤ texts.length) : ∀ t ∈ texts, b.Unbroken t := by
  have atLeast : ∀ us : List String, (∀ t ∈ us, t ≠ "") →
      us.length ≤ (us.flatMap b.lines).length := by
    intro us h
    induction us with
    | nil => exact Nat.le_refl _
    | cons u us ih =>
      obtain ⟨hu, hus⟩ := List.forall_mem_cons.mp h
      have first := length_lines_pos (b := b) hu
      have rest := ih hus
      rw [List.flatMap_cons, List.length_append, List.length_cons]
      omega
  induction texts with
  | nil => simp
  | cons t texts ih =>
    obtain ⟨ht, htexts⟩ := List.forall_mem_cons.mp h
    have first := length_lines_pos (b := b) ht
    have rest := atLeast texts htexts
    rw [List.flatMap_cons, List.length_append, List.length_cons] at few
    exact List.forall_mem_cons.mpr
      ⟨unbroken_of_length_lines (by omega), ih htexts (by omega)⟩

theorem lines_append {s t : String} (hs : s ≠ "") (ht : t ≠ "") :
    b.lines (s ++ "\n" ++ t) = b.lines s ++ b.lines t := by
  have split : (s ++ "\n" ++ t).toList = s.toList ++ '\n' :: t.toList := by simp
  have nonempty : s ++ "\n" ++ t ≠ "" := by
    intro empty
    simp [empty] at split
  rw [lines, lines, lines, if_neg nonempty, if_neg hs, if_neg ht, split,
    List.splitOnP_append_cons _ _ b.lineFeed, List.map_append]

theorem intercalate_ne_empty {separator t : String} {texts : List String} (h : t ≠ "") :
    separator.intercalate (t :: texts) ≠ "" := by
  cases texts with
  | nil => simpa using h
  | cons u us =>
    rw [String.intercalate_cons_cons]
    simp [h]

/-- Texts that are put together by line feeds have the lines of the texts. -/
theorem lines_intercalate {texts : List String} (h : ∀ t ∈ texts, t ≠ "") :
    b.lines ("\n".intercalate texts) = texts.flatMap b.lines := by
  induction texts with
  | nil => exact if_pos (by simp)
  | cons t texts ih =>
    obtain ⟨ht, htexts⟩ := List.forall_mem_cons.mp h
    cases texts with
    | nil => simp
    | cons u us =>
      have rest : "\n".intercalate (u :: us) ≠ "" :=
        intercalate_ne_empty (htexts u (List.mem_cons_self ..))
      rw [String.intercalate_cons_cons, lines_append ht rest, ih htexts]
      rfl

/-- Lines that are broken at line feeds alone. -/
def lineFeeds : LineBreaks where
  isBreak c := c == '\n'
  lineFeed := rfl
  hidden c h := by
    rw [beq_eq_false_iff_ne]
    rintro rfl
    exact absurd h (by decide)

/-- The characters that break lines for one reader or another. -/
def universalBreaks : List Char :=
  ['\n', '\r', '\x0b', '\x0c', '\x1c', '\x1d', '\x1e', '\u0085', '\u2028', '\u2029']

/-- Lines that are broken wherever some reader breaks them. -/
def universal : LineBreaks where
  isBreak := universalBreaks.contains
  lineFeed := by decide
  hidden c h := by
    have visible : universalBreaks.all (!isPrintable ·) = true := by
      simp only [isPrintable_eq]
      decide +kernel
    by_contra mem
    have := List.all_eq_true.mp visible c (by simpa using mem)
    simp [h] at this

end LineBreaks

end Conform.Text
