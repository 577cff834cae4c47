import Conform.Path
import Mathlib.Data.List.TakeWhile
/-!
# Paths of labels

The segments of a path are the labels that it was made of, if none of them holds a separator.  So the
paths of two lists of labels differ if the lists do, to go up is to drop the last label, and what is
left of a path in a document is made of the labels that are no optional markers.
-/
namespace Conform.Path

/-- Whether a text is one segment of a path, and one that leads to a part of a document. -/
structure IsLabel (w : List Char) : Prop where
  ne_nil : w ≠ []
  separator : separator ∉ w
  marker : w ≠ optionalMarker

instance (w : List Char) : Decidable (IsLabel w) :=
  decidable_of_iff (w ≠ [] ∧ Path.separator ∉ w ∧ w ≠ optionalMarker)
    ⟨fun h => ⟨h.1, h.2.1, h.2.2⟩, fun h => ⟨h.ne_nil, h.separator, h.marker⟩⟩

/-! ### Segments of joined labels -/

theorem segments_of_not_mem {w : List Char} (h : separator ∉ w) : segments w = [w] := by
  induction w with
  | nil => rfl
  | cons c w ih =>
    rw [List.mem_cons, not_or] at h
    obtain ⟨hc, hw⟩ := h
    rw [segments, if_neg (Ne.symm hc), ih hw]

theorem segments_append (v w : List Char) :
    segments (v ++ separator :: w) = segments v ++ segments w := by
  induction v with
  | nil => simp [segments]
  | cons c v ih =>
    rw [List.cons_append, segments, segments, ih]
    split
    · rfl
    · cases h : segments v with
      | nil => exact absurd h (segments_ne_nil v)
      | cons u us => rfl

theorem segments_join {ws : List (List Char)} (ne : ws ≠ []) (h : ∀ w ∈ ws, separator ∉ w) :
    segments (join ws) = ws := by
  induction ws with
  | nil => exact absurd rfl ne
  | cons w ws ih =>
    obtain ⟨hw, hws⟩ := List.forall_mem_cons.mp h
    cases ws with
    | nil => exact segments_of_not_mem hw
    | cons v ws =>
      rw [join, segments_append, segments_of_not_mem hw, ih (by simp) hws, List.singleton_append]

/-- Nothing is joined to an empty path but no segment at all. -/
theorem join_eq_nil_iff {ws : List (List Char)} (h : ∀ w ∈ ws, w ≠ []) : join ws = [] ↔ ws = [] := by
  cases ws with
  | nil => simp [join]
  | cons w ws => cases ws <;> simp_all [join]

/-- Different labels lead to different paths. -/
theorem join_injective {vs ws : List (List Char)} (hv : ∀ v ∈ vs, v ≠ [] ∧ separator ∉ v)
    (hw : ∀ w ∈ ws, w ≠ [] ∧ separator ∉ w) (h : join vs = join ws) : vs = ws := by
  have empty := join_eq_nil_iff fun w hmem => (hw w hmem).1
  have empty' := join_eq_nil_iff fun v hmem => (hv v hmem).1
  by_cases hws : ws = []
  · rw [hws, empty'.mp (h.trans (empty.mpr hws))]
  · have hvs : vs ≠ [] := fun hvs => hws (empty.mp (h.symm.trans (empty'.mpr hvs)))
    rw [← segments_join hvs fun v hmem => (hv v hmem).2, h,
      segments_join hws fun w hmem => (hw w hmem).2]

/-! ### Steps down and up -/

theorem join_concat {ws : List (List Char)} (ne : ws ≠ []) (w : List Char) :
    join (ws ++ [w]) = join ws ++ separator :: w := by
  induction ws with
  | nil => exact absurd rfl ne
  | cons v ws ih =>
    cases ws with
    | nil => rfl
    | cons u ws =>
      have := ih (by simp)
      simp only [List.cons_append] at this ⊢
      rw [join, this, join, List.append_assoc, List.cons_append]

theorem child_join {ws : List (List Char)} (h : ∀ w ∈ ws, w ≠ []) (w : List Char) :
    child (join ws) w = join (ws ++ [w]) := by
  by_cases hws : ws = []
  · subst hws
    rfl
  · have : join ws ≠ [] := mt (join_eq_nil_iff h).mp hws
    rw [child, if_neg (by simpa using this), join_concat hws]

/-- On its way from the end of a path, a cut passes what is no separator. -/
theorem passes_of_not_mem {w : List Char} (h : separator ∉ w) :
    ∀ c ∈ w.reverse, decide (c ≠ separator) = true := by
  intro c hc
  rw [decide_eq_true_iff]
  rintro rfl
  exact h (List.mem_reverse.mp hc)

theorem parent_of_not_mem {path : List Char} (h : separator ∉ path) : parent path = [] := by
  rw [parent, List.dropWhile_eq_nil_iff.mpr (passes_of_not_mem h)]
  rfl

/-- A path is cut before its last separator. -/
theorem parent_append {front last : List Char} (h : separator ∉ last) :
    parent (front ++ separator :: last) = front := by
  rw [parent, List.reverse_append, List.reverse_cons, List.append_assoc,
    List.dropWhile_append_of_pos (passes_of_not_mem h)]
  simp

theorem parent_join_concat (ws : List (List Char)) {w : List Char} (h : separator ∉ w) :
    parent (join (ws ++ [w])) = join ws := by
  by_cases hws : ws = []
  · subst hws
    exact parent_of_not_mem h
  · rw [join_concat hws, parent_append h]

/-- The position in a document that a path leads to is named by the labels that are no markers. -/
theorem toDocument_join {ws : List (List Char)} (h : ∀ w ∈ ws, w ≠ [] ∧ separator ∉ w) :
    toDocument (join ws) = join (ws.filter (· ≠ optionalMarker)) := by
  by_cases hws : ws = []
  · subst hws
    rfl
  · have : join ws ≠ [] := mt (join_eq_nil_iff fun w hw => (h w hw).1).mp hws
    rw [toDocument, if_neg (by simpa using this), segments_join hws fun w hw => (h w hw).2]

theorem not_mem_of_mem_segments {path w : List Char} (h : w ∈ segments path) : separator ∉ w := by
  induction path generalizing w with
  | nil =>
    obtain rfl := List.mem_singleton.mp h
    exact List.not_mem_nil
  | cons c path ih =>
    rw [segments] at h
    split at h
    · rcases List.mem_cons.mp h with rfl | h
      · exact List.not_mem_nil
      · exact ih h
    · rename_i hc
      obtain ⟨v, vs, hvs⟩ := List.exists_cons_of_ne_nil (segments_ne_nil path)
      rw [hvs] at h ih
      rcases List.mem_cons.mp h with rfl | h
      · exact List.not_mem_cons_of_ne_of_not_mem (Ne.symm hc) (ih (List.mem_cons_self ..))
      · exact ih (List.mem_cons_of_mem _ h)

/-- No optional marker is left of a path in a document. -/
theorem marker_not_mem_segments_toDocument (path : List Char) :
    optionalMarker ∉ segments (toDocument path) := by
  have empty : optionalMarker ∉ segments [] := by decide
  rw [toDocument]
  split
  · exact empty
  · by_cases hws : (segments path).filter (· ≠ optionalMarker) = []
    · rw [hws]
      exact empty
    · rw [segments_join hws fun w hw => not_mem_of_mem_segments (List.mem_filter.mp hw).1]
      simp

theorem toDocument_of_marker_not_mem {path : List Char} (h : optionalMarker ∉ segments path) :
    toDocument path = path := by
  have all : (segments path).filter (· ≠ optionalMarker) = segments path := by
    refine List.filter_eq_self.mpr fun w hw => ?_
    simp only [decide_eq_true_eq]
    rintro rfl
    exact h hw
  rw [toDocument, all, join_segments]
  split
  · rename_i hempty
    exact (List.isEmpty_iff.mp hempty).symm
  · rfl

theorem toDocument_toDocument (path : List Char) :
    toDocument (toDocument path) = toDocument path :=
  toDocument_of_marker_not_mem (marker_not_mem_segments_toDocument path)

/-! ### Labels of items -/

theorem toString_index_injective {i j : Nat} (h : (toString i).toList = (toString j).toList) :
    i = j := by
  -- A number can be read off its digits.
  have digits : Nat.toDigits 10 i = Nat.toDigits 10 j := by
    simpa using h
  have := congrArg (Nat.ofDigitChars 10 · 0) digits
  simpa using this

/-- The places of items are labels. -/
theorem isLabel_index (i : Nat) : IsLabel (toString i).toList := by
  have digit : ∀ c ∈ (toString i).toList, c.isDigit = true := by
    intro c hc
    have hc : c ∈ Nat.toDigits 10 i := by
      simpa using hc
    exact Nat.isDigit_of_mem_toDigits (by decide) (by decide) hc
  constructor
  · simp [Nat.toDigits_ne_nil]
  · intro h
    have := digit _ h
    revert this
    decide
  · intro h
    have := digit '?' (by rw [h, optionalMarker]; exact List.mem_singleton_self _)
    revert this
    decide

/-! ### Going down along labels -/

/-- The path that spells labels. -/
def ofLabels (labels : List String) : List Char := join (labels.map String.toList)

/-- Whether each label is one segment of a path. -/
def AreSegments (labels : List String) : Prop := ∀ l ∈ labels, l.toList ≠ [] ∧ separator ∉ l.toList

instance (labels : List String) : Decidable (AreSegments labels) :=
  inferInstanceAs (Decidable (∀ l ∈ labels, l.toList ≠ [] ∧ separator ∉ l.toList))

theorem AreSegments.of_isLabel {ls : List String} (h : ∀ l ∈ ls, IsLabel l.toList) :
    AreSegments ls :=
  fun l hl => ⟨(h l hl).ne_nil, (h l hl).separator⟩

theorem areSegments_append_iff {ls ks : List String} :
    AreSegments (ls ++ ks) ↔ AreSegments ls ∧ AreSegments ks :=
  List.forall_mem_append

theorem AreSegments.map {ls : List String} (h : AreSegments ls) :
    ∀ w ∈ ls.map String.toList, w ≠ [] ∧ separator ∉ w :=
  List.forall_mem_map.mpr h

/-- Different labels are spelled by different paths. -/
theorem ofLabels_injective {ls ks : List String} (hl : AreSegments ls) (hk : AreSegments ks)
    (h : ofLabels ls = ofLabels ks) : ls = ks :=
  (List.map_inj_right fun _ _ => String.toList_injective).mp (join_injective hl.map hk.map h)

theorem ofLabels_ne_nil {ls : List String} (h : AreSegments ls) (ne : ls ≠ []) :
    ofLabels ls ≠ [] := by
  have empty := join_eq_nil_iff fun w hw => (h.map w hw).1
  exact mt empty.mp (by simpa using ne)

/-- A step down adds a label at the end. -/
theorem child_ofLabels {ls : List String} (h : AreSegments ls) (l : String) :
    child (ofLabels ls) l.toList = ofLabels (ls ++ [l]) := by
  rw [ofLabels, child_join fun w hw => (h.map w hw).1, ofLabels, List.map_append,
    List.map_singleton]

/-- A step up drops the last label. -/
theorem parent_ofLabels (ls : List String) {l : String} (h : IsLabel l.toList) :
    parent (ofLabels (ls ++ [l])) = ofLabels ls := by
  rw [ofLabels, List.map_append, List.map_singleton, parent_join_concat _ h.separator]
  rfl

section Descent

variable {α β : Type} {part? : α → String → Option α}

/-- The part that labels lead to, one after the other. -/
def at? (part? : α → String → Option α) (a : α) : List String → Option α
  | [] => some a
  | l :: ls => (part? a l).bind fun b => at? part? b ls

/-- The deepest part on the way along labels; what comes after a label without a part is left out. -/
def deepest (part? : α → String → Option α) (a : α) : List String → α
  | [] => a
  | l :: ls =>
    match part? a l with
    | some b => deepest part? b ls
    | none => a

theorem deepest_of_at? {a b : α} {ls : List String} (h : at? part? a ls = some b) :
    deepest part? a ls = b := by
  induction ls generalizing a with
  | nil => exact Option.some.inj h
  | cons l ls ih =>
    obtain ⟨c, hc, h⟩ := Option.bind_eq_some_iff.mp h
    rw [deepest, hc]
    exact ih h

/-- A last label without a part makes no difference. -/
theorem deepest_concat {a : α} {ls : List String} {l : String}
    (h : at? part? a (ls ++ [l]) = none) : deepest part? a (ls ++ [l]) = deepest part? a ls := by
  induction ls generalizing a with
  | nil =>
    rw [List.nil_append, at?] at h
    rw [List.nil_append, deepest, deepest]
    cases hl : part? a l with
    | none => rfl
    | some b =>
      rw [hl] at h
      cases h
  | cons k ls ih =>
    rw [List.cons_append, at?] at h
    rw [List.cons_append, deepest, deepest]
    cases hk : part? a k with
    | none => rfl
    | some b =>
      rw [hk] at h
      exact ih h

/-- What is related, part by part, is related along all labels. -/
theorem at?_related {part'? : β → String → Option β} {R : α → β → Prop}
    (related : ∀ a b l, R a b → Option.Rel R (part? a l) (part'? b l)) {a : α} {b : β}
    (h : R a b) (ls : List String) : Option.Rel R (at? part? a ls) (at? part'? b ls) := by
  induction ls generalizing a b with
  | nil => exact .some h
  | cons l ls ih =>
    have below := related a b l h
    rw [at?, at?]
    generalize part? a l = x at below ⊢
    generalize part'? b l = y at below ⊢
    cases below with
    | none => exact .none
    | some below => exact ih below

theorem at?_concat {a b : α} {ls : List String} {l : String} (h : at? part? a ls = some b) :
    at? part? a (ls ++ [l]) = part? b l := by
  induction ls generalizing a with
  | nil =>
    cases h
    rw [List.nil_append, at?]
    cases part? b l <;> rfl
  | cons k ls ih =>
    obtain ⟨c, hc, h⟩ := Option.bind_eq_some_iff.mp h
    rw [List.cons_append, at?, hc, Option.bind_some]
    exact ih h

/-- Where labels lead to, each one being a label of a part of what the ones before lead to; several
parts may have the same label. -/
inductive Reaches (parts : α → List (String × α)) : α → List String → α → Prop where
  | here (a : α) : Reaches parts a [] a
  | step {a b c : α} {l : String} {ls : List String} (part : (l, b) ∈ parts a)
      (rest : Reaches parts b ls c) : Reaches parts a (l :: ls) c

variable {parts : α → List (String × α)}

@[simp] theorem reaches_nil_iff {a b : α} : Reaches parts a [] b ↔ b = a := by
  constructor
  · rintro ⟨⟩
    rfl
  · rintro rfl
    exact .here b

@[simp] theorem reaches_cons_iff {a c : α} {l : String} {ls : List String} :
    Reaches parts a (l :: ls) c ↔ ∃ b, (l, b) ∈ parts a ∧ Reaches parts b ls c := by
  constructor
  · rintro ⟨⟩
    exact ⟨_, ‹_›, ‹_›⟩
  · rintro ⟨b, part, rest⟩
    exact .step part rest

theorem Reaches.concat {a b c : α} {ls : List String} {l : String} (h : Reaches parts a ls b)
    (part : (l, c) ∈ parts b) : Reaches parts a (ls ++ [l]) c := by
  induction h with
  | here => exact .step part (.here c)
  | step first _ ih => exact .step first (ih part)

/-- What is reached on one side is reached on the other, where parts are related to parts. -/
theorem Reaches.related {parts' : β → List (String × β)} {R : α → β → Prop}
    (related : ∀ a b, R a b → ∀ p ∈ parts a, ∃ q ∈ parts' b, p.1 = q.1 ∧ R p.2 q.2) {a c : α} {b : β}
    {ls : List String} (h : Reaches parts a ls c) (start : R a b) :
    ∃ d, Reaches parts' b ls d ∧ R c d := by
  induction h generalizing b with
  | here a => exact ⟨b, .here b, start⟩
  | step part _ ih =>
    obtain ⟨⟨k, b'⟩, hq, hlabel, hpart⟩ := related _ _ start _ part
    obtain ⟨d, hd, hR⟩ := ih hpart
    obtain rfl := hlabel
    exact ⟨d, .step hq hd, hR⟩

/-- Where the parts have labels of their own, there is one way down. -/
theorem reaches_iff_at? {P : α → Prop}
    (own : ∀ a, P a → (∀ l b, part? a l = some b ↔ (l, b) ∈ parts a) ∧ ∀ p ∈ parts a, P p.2)
    {a b : α} (start : P a) {ls : List String} : Reaches parts a ls b ↔ at? part? a ls = some b := by
  induction ls generalizing a with
  | nil => simp [at?, eq_comm]
  | cons l ls ih =>
    obtain ⟨label, below⟩ := own a start
    rw [reaches_cons_iff, at?, Option.bind_eq_some_iff]
    constructor
    · rintro ⟨c, hc, h⟩
      exact ⟨c, (label l c).mpr hc, (ih (below _ hc)).mp h⟩
    · rintro ⟨c, hc, h⟩
      have hc := (label l c).mp hc
      exact ⟨c, hc, (ih (below _ hc)).mpr h⟩

end Descent

end Conform.Path
