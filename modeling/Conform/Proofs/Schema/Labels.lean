import Conform.Proofs.Schema.Rejection
import Conform.Proofs.Spelling
/-!
# The labels on the way to a rejection

The steps to a rejected part go through optional schemas and to parts with labels.  Where the fields
of the schema and the parts of the value have labels that are segments of their own, the path of the
rejection leads along these labels in a document (`toDocument_descend`), and they lead from the value
to the rejected part, or to where it is missing (`RejectsAlong.at?_labels`).
-/
namespace Conform

/-- The part of a value that has a label. -/
def Value.part? (v : Value) (label : String) : Option Value :=
  ((v.labelled?.getD []).find? (·.1 == label)).map (·.2)

namespace Schema

/-! ### Labels -/

/-- The labels of the parts that steps lead through. -/
def labels (steps : List Step) : List String := steps.filterMap Step.label?

mutual

/-- The names of all fields in a schema. -/
def fieldNames : Schema → List String
  | optional (some s) => s.fieldNames
  | union members => fieldNamesAll members
  | intersection members => fieldNamesAll members
  | object fields _ => fieldNamesFields fields
  | collection element _ => element.fieldNames
  | array element _ => element.fieldNames
  | _ => []

/-- The names of all fields in the members. -/
def fieldNamesAll : List Schema → List String
  | [] => []
  | s :: ss => s.fieldNames ++ fieldNamesAll ss

/-- The names of the fields and of those in their schemas. -/
def fieldNamesFields : List (String × Schema) → List String
  | [] => []
  | (name, s) :: fs => name :: s.fieldNames ++ fieldNamesFields fs

end

/-- Whether each field has a name that is a label. -/
def HasPlainFields (s : Schema) : Prop := ∀ name ∈ s.fieldNames, Path.IsLabel name.toList

instance (s : Schema) : Decidable s.HasPlainFields :=
  inferInstanceAs (Decidable (∀ name ∈ s.fieldNames, Path.IsLabel name.toList))

namespace HasPlainFields

theorem member {members : List Schema}
    (h : ∀ name ∈ fieldNamesAll members, Path.IsLabel name.toList) {s : Schema}
    (hs : s ∈ members) : s.HasPlainFields := by
  induction members with
  | nil => cases hs
  | cons t members ih =>
    rw [fieldNamesAll] at h
    rcases List.mem_cons.mp hs with rfl | hs
    · exact fun name hname => h name (List.mem_append_left _ hname)
    · exact ih (fun name hname => h name (List.mem_append_right _ hname)) hs

theorem field {fields : List (String × Schema)}
    (h : ∀ name ∈ fieldNamesFields fields, Path.IsLabel name.toList) {f : String × Schema}
    (hf : f ∈ fields) : Path.IsLabel f.1.toList ∧ f.2.HasPlainFields := by
  induction fields with
  | nil => cases hf
  | cons g fields ih =>
    obtain ⟨name, s⟩ := g
    rw [fieldNamesFields, List.cons_append] at h
    obtain ⟨hname, h⟩ := List.forall_mem_cons.mp h
    rcases List.mem_cons.mp hf with rfl | hf
    · exact ⟨hname, fun name hname => h name (List.mem_append_left _ hname)⟩
    · exact ih (fun name hname => h name (List.mem_append_right _ hname)) hf

end HasPlainFields

theorem map_text_of_named? {es : List (Value × Value)} {entries : List (String × Value)}
    (h : Value.named? es = some entries) : es.map (fun e => (e.1.text, e.2)) = entries := by
  fun_induction Value.named? es generalizing entries with
  | case1 =>
    cases h
    rfl
  | case2 s x es ih =>
    obtain ⟨rest, hrest, rfl⟩ := Option.map_eq_some_iff.mp h
    rw [List.map_cons, ih hrest, Value.text]
  | case3 => cases h

/-- The fields of a value are its labelled parts. -/
theorem labelled_of_fields {v : Value} {entries : List (String × Value)}
    (h : v.fields? = some entries) : v.labelled? = some entries := by
  obtain ⟨es, hes, hnamed⟩ := Option.bind_eq_some_iff.mp h
  -- What has fields is no sequence, so that its entries are what is labelled.
  have items : v.items? = none := by
    unfold Value.entries? at hes
    unfold Value.items?
    cases hv : v.unroll <;> simp_all
  rw [Value.labelled?, items, hes]
  exact congrArg some (map_text_of_named? hnamed)

/-- Whether a check is one of the value itself, or of its part with the label of the step; a part that
is missing is checked as null. -/
def Check.IsOf (c : Check) (v : Value) : Prop :=
  labels c.steps = [] ∧ c.value = v ∨
    ∃ l, labels c.steps = [l] ∧ c.value = (v.part? l).getD .null

/-- Null has no parts to be checked but itself. -/
theorem Parts.of_null {s : Schema} {checks : List Check} (h : s.Parts .null checks) :
    ∀ c ∈ checks, labels c.steps = [] ∧ c.value = .null := by
  cases h with
  | optional present => cases present
  | intersection => exact List.forall_mem_map.mpr fun _ _ => ⟨rfl, rfl⟩
  | object named _ => cases named
  | elements _ labelled _ => cases labelled

theorem labels_of_null {s : Schema} {v w : Value} {steps : List Step}
    (h : s.RejectsAlong v steps w) (hv : v = .null) : labels steps = [] ∧ w = .null := by
  induction h with
  | whole => exact ⟨rfl, hv⟩
  | @part s v w before c after steps parts _ _ ih =>
    subst hv
    have here := (parts_of_parts? parts).of_null c List.mem_append_cons_self
    obtain ⟨hlabels, hvalue⟩ := ih here.2
    refine ⟨?_, hvalue⟩
    rw [labels, List.filterMap_append]
    exact List.append_eq_nil_iff.mpr ⟨here.1, hlabels⟩

section Labels

variable {P : Value → Prop} (null : P .null)
  (closed : ∀ v, P v → ∀ entries, v.labelled? = some entries →
    (entries.map (·.1)).Nodup ∧ ∀ e ∈ entries, Path.IsLabel e.1.toList ∧ P e.2)

include null closed

/-- What holds of null and of the parts of values holds of the parts that are checked. -/
theorem Parts.isOf {s : Schema} {v : Value} {checks : List Check} (h : s.Parts v checks)
    (plain : s.HasPlainFields) (hv : P v) : ∀ c ∈ checks,
      c.IsOf v ∧ (∀ label ∈ labels c.steps, Path.IsLabel label.toList) ∧
        c.schema.HasPlainFields ∧ P c.value := by
  cases h with
  | optional present =>
    exact List.forall_mem_singleton.mpr ⟨Or.inl ⟨rfl, rfl⟩, by simp [labels, Step.label?], plain, hv⟩
  | intersection =>
    refine List.forall_mem_map.mpr fun s hs => ?_
    exact ⟨Or.inl ⟨rfl, rfl⟩, by simp [labels], .member plain hs, hv⟩
  | @object fields strict _ entries hentries known =>
    refine List.forall_mem_map.mpr fun f hf => ?_
    obtain ⟨hname, hplain⟩ := HasPlainFields.field plain hf
    -- A field that is missing is checked as null, which is what no part of the value gives too.
    have labelled := labelled_of_fields hentries
    have value : fieldValue f.1 entries = (v.part? f.1).getD .null := by
      rw [Value.part?, labelled]
      rfl
    refine ⟨Or.inr ⟨f.1, rfl, value⟩, List.forall_mem_singleton.mpr hname, hplain, ?_⟩
    unfold fieldValue
    cases hfind : entries.find? (·.1 == f.1) with
    | none => exact null
    | some e => exact ((closed v hv entries labelled).2 e (List.mem_of_find?_eq_some hfind)).2
  | @elements _ element r _ entries form labelled size =>
    have hplain : element.HasPlainFields := by
      rcases form with ⟨rfl, -⟩ | ⟨rfl, -⟩
      · exact plain
      · exact plain
    obtain ⟨nodup, parts⟩ := closed v hv entries labelled
    refine List.forall_mem_map.mpr fun e he => ?_
    obtain ⟨hlabel, hvalue⟩ := parts e he
    refine ⟨Or.inr ⟨e.1, rfl, ?_⟩, List.forall_mem_singleton.mpr hlabel, hplain, hvalue⟩
    rw [Value.part?, labelled, Option.getD_some, (find?_key_eq_some_iff nodup).mpr he]
    rfl

/-- The labels on the way to a rejection are names of fields or labels of parts of the value. -/
theorem RejectsAlong.isLabel {s : Schema} {v w : Value} {steps : List Step}
    (h : s.RejectsAlong v steps w) (plain : s.HasPlainFields) (hv : P v) :
    ∀ label ∈ labels steps, Path.IsLabel label.toList := by
  induction h with
  | whole => simp [labels]
  | part parts _ _ ih =>
    obtain ⟨-, hsteps, hplain, hvalue⟩ :=
      (parts_of_parts? parts).isOf null closed plain hv _ List.mem_append_cons_self
    intro label hlabel
    rw [labels, List.filterMap_append] at hlabel
    rcases List.mem_append.mp hlabel with hlabel | hlabel
    · exact hsteps label hlabel
    · exact ih hplain hvalue label hlabel

/-- **The labels lead to the rejected value**, unless it is null because the last label names a field
that is missing. -/
theorem RejectsAlong.at?_labels {s : Schema} {v w : Value} {steps : List Step}
    (h : s.RejectsAlong v steps w) (plain : s.HasPlainFields) (hv : P v) :
    Path.at? Value.part? v (labels steps) = some w ∨
      w = .null ∧ ∃ ls l u, labels steps = ls ++ [l] ∧ Path.at? Value.part? v ls = some u ∧
        u.part? l = none := by
  induction h with
  | whole => exact Or.inl rfl
  | @part s v w before c after steps parts _ rejected ih =>
    obtain ⟨isOf, -, hplain, hvalue⟩ :=
      (parts_of_parts? parts).isOf null closed plain hv _ List.mem_append_cons_self
    have rest := ih hplain hvalue
    have hlabels : labels (c.steps ++ steps) = labels c.steps ++ labels steps :=
      List.filterMap_append ..
    -- The step stays at the value, or it leads to the part under one label.
    rcases isOf with ⟨hnone, hsame⟩ | ⟨l, hone, hpart⟩
    · rw [hlabels, hnone, List.nil_append]
      rwa [hsame] at rest
    · rw [hlabels, hone, List.singleton_append]
      cases hl : v.part? l with
      | some x =>
        rw [hl, Option.getD_some] at hpart
        rw [hpart] at rest
        rcases rest with rest | ⟨hw, ls, k, u, hls, hat, hmissing⟩
        · exact Or.inl (by rw [Path.at?, hl]; exact rest)
        · refine Or.inr ⟨hw, l :: ls, k, u, by rw [hls, List.cons_append], ?_, hmissing⟩
          rw [Path.at?, hl]
          exact hat
      | none =>
        rw [hl, Option.getD_none] at hpart
        rw [hpart] at rejected
        -- The part is missing, and null has no parts that further labels could lead to.
        obtain ⟨hlast, hw⟩ := labels_of_null rejected rfl
        exact Or.inr ⟨hw, [], l, v, by rw [hlast]; rfl, rfl, hl⟩

end Labels

/-! ### Paths -/

/-- The labels of the parts are the segments of the steps that are no markers. -/
theorem filter_segments {steps : List Step}
    (h : ∀ label ∈ labels steps, Path.IsLabel label.toList) :
    (steps.map fun step => String.ofList step.segment).filter (· ≠ optionalSegment) =
      labels steps := by
  induction steps with
  | nil => rfl
  | cons step steps ih =>
    cases step with
    | optional =>
      have hlabels : labels (.optional :: steps) = labels steps := rfl
      rw [hlabels] at h ⊢
      rw [List.map_cons, List.filter_cons_of_neg (by simp [Step.segment, optionalSegment])]
      exact ih h
    | part label =>
      have hlabels : labels (.part label :: steps) = label :: labels steps := rfl
      rw [hlabels] at h ⊢
      obtain ⟨hlabel, h⟩ := List.forall_mem_cons.mp h
      have other : label ≠ optionalSegment := by
        rintro rfl
        exact hlabel.marker String.toList_ofList
      rw [List.map_cons, Step.segment, String.ofList_toList, ← ih h]
      exact List.filter_cons_of_pos (decide_eq_true other)

/-- In a document, the path below the root leads along the labels of the steps. -/
theorem toDocument_descend {steps : List Step}
    (h : ∀ label ∈ labels steps, Path.IsLabel label.toList) :
    Path.toDocument (steps.foldl Step.descend .root).pathText.toList =
      Path.ofLabels (labels steps) := by
  have spelled : steps.foldl Step.descend .root =
      (steps.map fun step => String.ofList step.segment).foldl Node.child .root := by
    rw [List.foldl_map]
    rfl
  rw [spelled]
  exact Node.toDocument_foldl_child h (filter_segments h)

end Schema

end Conform
