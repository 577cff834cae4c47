import Conform.Proofs.Lists
import Conform.Reference
import Mathlib.Data.List.TakeWhile
/-!
# What references lead to

A reference is a name of a module, a colon and attributes with points between them (`Splits`).  It
leads to a schema if there is such a module and the attributes lead from it to a schema, one after the
other (`LeadsTo`).  Otherwise it is rejected with one of four reasons (`Rejects`), unless the name is
relative: a point in front of it asks for a package that there is none of, and this is a fault of its
own (`resolve_outcome`).
-/
namespace Conform

/-! ### Attributes -/

/-- Where attributes lead to from a member, one after the other. -/
inductive Member.Leads : Member → List String → Member → Prop where
  | here (m : Member) : Leads m [] m
  | next {m m' m'' : Member} {n : String} {ns : List String} (has : m.attribute? n = some m')
      (rest : Leads m' ns m'') : Leads m (n :: ns) m''

namespace Member

variable {m m' : Member} {n : String} {ns : List String}

theorem follow_eq_ok_iff : m.follow ns = .ok m' ↔ m.Leads ns m' := by
  induction ns generalizing m with
  | nil =>
    constructor
    · rintro ⟨⟩
      exact .here _
    · rintro ⟨⟩
      rfl
  | cons n ns ih =>
    rw [follow]
    constructor
    · intro h
      split at h
      · rename_i has
        exact .next has (ih.mp h)
      · cases h
    · rintro (_ | ⟨has, rest⟩)
      rw [has]
      exact ih.mpr rest

/-- Attributes lead nowhere at the first that a member does not have. -/
theorem follow_eq_error_iff : m.follow ns = .error n ↔ ∃ before after m',
    ns = before ++ n :: after ∧ m.Leads before m' ∧ m'.attribute? n = none := by
  induction ns generalizing m with
  | nil => simp [follow]
  | cons k ns ih =>
    rw [follow]
    constructor
    · intro h
      split at h
      · rename_i has
        obtain ⟨before, after, m', rfl, leads, missing⟩ := ih.mp h
        exact ⟨k :: before, after, m', rfl, .next has leads, missing⟩
      · rename_i missing
        cases h
        exact ⟨[], ns, m, rfl, .here m, missing⟩
    · rintro ⟨before, after, m', h, leads, missing⟩
      cases leads with
      | here =>
        obtain ⟨rfl, rfl⟩ := List.cons.inj h
        rw [missing]
      | next has leads =>
        obtain ⟨rfl, rfl⟩ := List.cons.inj h
        rw [has]
        exact ih.mpr ⟨_, after, m', rfl, leads, missing⟩

/-- What is bound to a member leads back to it. -/
theorem attribute?_bound {kind owner : String} (h : Attribute.owner? kind = some owner) :
    (bound kind m).attribute? owner = some m := by
  simp [attribute?, attributes, h]

example : (schema (.optional none)).Leads ["trace", "__self__"] (schema (.optional none)) :=
  .next rfl (.next rfl (.here _))

end Member

namespace Registry

/-! ### The parts of a reference -/

/-- Whether a reference is a name and a rest, the first colon standing between them. -/
structure Splits (reference name rest : String) : Prop where
  text : reference = name ++ ":" ++ rest
  noColon : ':' ∉ name.toList
  named : name ≠ ""
  filled : rest ≠ ""

/-- The attributes that a text names, with points between them. -/
def attributesOf (text : String) : List String := (text.toList.splitOn '.').map String.ofList

/-- Whether a name starts with a point. -/
def IsRelative (name : String) : Prop := name.toList.head? = some '.'

instance (name : String) : Decidable (IsRelative name) :=
  inferInstanceAs (Decidable (name.toList.head? = some '.'))

variable {r : Registry} {reference name rest : String} {ms : List (String × Member)} {m : Member}

theorem split?_of_append {front back : List Char} (text : reference.toList = front ++ ':' :: back)
    (noColon : ':' ∉ front) : split? reference =
      if front.isEmpty ∨ back.isEmpty then none else some (front, back) := by
  have each : ∀ c ∈ front, decide (c ≠ ':') = true := fun c hc =>
    decide_eq_true (ne_of_mem_of_not_mem hc noColon)
  have stop : ∀ c, (':' :: back).head? = some c → decide (c ≠ ':') = false := by simp
  rw [split?, text, takeWhile_eq each stop, dropWhile_eq each stop]
  rfl

theorem split?_of_not_mem (noColon : ':' ∉ reference.toList) : split? reference = none := by
  have all : reference.toList.dropWhile (· ≠ ':') = [] := by
    rw [List.dropWhile_eq_nil_iff]
    exact fun c hc => decide_eq_true (ne_of_mem_of_not_mem hc noColon)
  simp only [split?, all, List.drop_nil, List.isEmpty_nil, or_true, if_true]

theorem Splits.split? (h : Splits reference name rest) :
    split? reference = some (name.toList, rest.toList) := by
  have text : reference.toList = name.toList ++ ':' :: rest.toList := by simp [h.text]
  rw [split?_of_append text h.noColon]
  simp [h.named, h.filled]

/-- A reference that is not split has no two parts. -/
theorem splits_or_malformed (reference : String) : (∃ name rest, Splits reference name rest) ∨
    ((∀ name rest, ¬Splits reference name rest) ∧ Registry.split? reference = none) := by
  cases split : Registry.split? reference with
  | none =>
    refine Or.inr ⟨fun name rest h => ?_, rfl⟩
    cases split.symm.trans h.split?
  | some p =>
    by_cases mem : ':' ∈ reference.toList
    · -- The name ends at the first colon; there may be others in the rest.
      obtain ⟨front, back, text, noColon⟩ := List.eq_append_cons_of_mem mem
      rw [split?_of_append text noColon] at split
      split at split
      · cases split
      · rename_i filled
        simp only [List.isEmpty_iff, not_or] at filled
        refine Or.inl ⟨.ofList front, .ofList back, ?_, by simpa using noColon, ?_, ?_⟩
        · rw [← String.toList_inj, text]
          simp
        · simpa [← String.toList_inj] using filled.1
        · simpa [← String.toList_inj] using filled.2
    · cases (split?_of_not_mem mem).symm.trans split

theorem Splits.unique {name' rest' : String} (h : Splits reference name rest)
    (h' : Splits reference name' rest') : name = name' ∧ rest = rest' := by
  have := h.split?.symm.trans h'.split?
  simpa [String.toList_inj] using this

/-! ### The outcome -/

/-- Whether a reference is one to a schema. -/
def LeadsTo (r : Registry) (reference : String) (s : Schema) : Prop :=
  ∃ name rest ms, Splits reference name rest ∧ ¬IsRelative name ∧
    r.module? name.toList = some ms ∧ (Member.module ms).Leads (attributesOf rest) (.schema s)

/-- Why a reference leads to no schema. -/
inductive Rejects (r : Registry) (reference : String) : String → Prop where
  | malformed (none : ∀ name rest, ¬Splits reference name rest) : Rejects r reference
      (s!"Invalid schema reference '{reference}'. "
        ++ "Expected format: 'package.module:attribute'")
  | noModule {name rest : String} (splits : Splits reference name rest) (absolute : ¬IsRelative name)
      (missing : r.module? name.toList = none) : Rejects r reference
      s!"Cannot import module '{name}': {r.importProblem name.toList}"
  | noAttribute {name rest n : String} {ms : List (String × Member)} {before after : List String}
      {m : Member} (splits : Splits reference name rest) (absolute : ¬IsRelative name)
      (imported : r.module? name.toList = some ms) (names : attributesOf rest = before ++ n :: after)
      (leads : (Member.module ms).Leads before m) (missing : m.attribute? n = none) :
      Rejects r reference s!"'{reference}' has no attribute '{n}'"
  | noSchema {name rest : String} {ms : List (String × Member)} {m : Member}
      (splits : Splits reference name rest) (absolute : ¬IsRelative name)
      (imported : r.module? name.toList = some ms)
      (leads : (Member.module ms).Leads (attributesOf rest) m) (other : ∀ s, m ≠ .schema s) :
      Rejects r reference s!"'{reference}' is a {m.typeName}, not a schema"

theorem find_of_splits (splits : Splits reference name rest) : r.find reference =
    if IsRelative name then .error (.relativeReference name)
    else
      match r.module? name.toList with
      | none => .error (.reference
          s!"Cannot import module '{name}': {r.importProblem name.toList}")
      | some ms =>
        match (Member.module ms).follow (attributesOf rest) with
        | .error n => .error (.reference s!"'{reference}' has no attribute '{n}'")
        | .ok m => .ok m := by
  simp only [find, splits.split?, String.ofList_toList, attributesOf]
  rfl

theorem LeadsTo.find {s : Schema} (h : r.LeadsTo reference s) : r.find reference = .ok (.schema s) := by
  obtain ⟨name, rest, ms, splits, absolute, imported, leads⟩ := h
  rw [find_of_splits splits, if_neg absolute, imported]
  dsimp only
  rw [Member.follow_eq_ok_iff.mpr leads]

theorem outcome_resolve (r : Registry) (reference : String) :
    (r.resolve reference).outcome = match r.find reference with
      | .error f => .error f
      | .ok (.schema s) => if s.isWritable false then .ok s else .error .integerUnwritable
      | .ok m => .error (.reference s!"'{reference}' is a {m.typeName}, not a schema") := by
  unfold resolve
  cases hfind : r.find reference with
  | error f => rfl
  | ok m =>
    cases m with
    | schema s => cases hs : s.isWritable false <;> simp [Schema.writeDescription, hs] <;> rfl
    | _ => rfl

/-- What becomes of a reference. -/
inductive Ends (r : Registry) (reference : String) : Except Fault Schema → Prop where
  | schema {s : Schema} (leads : r.LeadsTo reference s) (written : s.isWritable false = true) :
      Ends r reference (.ok s)
  | unwritable {s : Schema} (leads : r.LeadsTo reference s)
      (unwritable : s.isWritable false = false) : Ends r reference (.error .integerUnwritable)
  | rejected {reason : String} (rejects : r.Rejects reference reason) :
      Ends r reference (.error (.reference reason))
  | relative {name rest : String} (splits : Splits reference name rest) (relative : IsRelative name) :
      Ends r reference (.error (.relativeReference name))

theorem ends_resolve (r : Registry) (reference : String) :
    r.Ends reference (r.resolve reference).outcome := by
  rw [outcome_resolve]
  rcases splits_or_malformed reference with ⟨name, rest, splits⟩ | ⟨none, split⟩
  · rw [find_of_splits splits]
    -- The steps in their order: the name of the module, the module, its attributes and what they lead to.
    by_cases relative : IsRelative name
    · rw [if_pos relative]
      exact .relative splits relative
    · rw [if_neg relative]
      cases imported : r.module? name.toList with
      | none => exact .rejected (.noModule splits relative imported)
      | some ms =>
        dsimp only
        cases followed : (Member.module ms).follow (attributesOf rest) with
        | error n =>
          obtain ⟨before, after, m, names, leads, missing⟩ := Member.follow_eq_error_iff.mp followed
          exact .rejected (.noAttribute splits relative imported names leads missing)
        | ok m =>
          have leads := Member.follow_eq_ok_iff.mp followed
          cases m with
          | schema s =>
            have target : r.LeadsTo reference s :=
              ⟨name, rest, ms, splits, relative, imported, leads⟩
            dsimp only
            -- The schema that was found is described in the log, where a long integer still breaks.
            cases written : s.isWritable false with
            | true => exact .schema target written
            | false => exact .unwritable target written
          | _ => exact .rejected (.noSchema splits relative imported leads (by simp))
  · rw [find, split]
    exact .rejected (.malformed none)

/-- A reference has one end. -/
theorem Ends.eq_outcome {x : Except Fault Schema} (h : r.Ends reference x) :
    (r.resolve reference).outcome = x := by
  rw [outcome_resolve]
  cases h with
  | schema leads written =>
    rw [leads.find]
    exact if_pos written
  | unwritable leads unwritable =>
    rw [leads.find]
    exact if_neg (by simp [unwritable])
  | relative splits relative => rw [find_of_splits splits, if_pos relative]
  | rejected rejects =>
    cases rejects with
    | malformed none =>
      rcases splits_or_malformed reference with ⟨name, rest, splits⟩ | ⟨-, split⟩
      · exact absurd splits (none name rest)
      · rw [find, split]
    | noModule splits absolute missing =>
      rw [find_of_splits splits, if_neg absolute, missing]
    | noAttribute splits absolute imported names leads missing =>
      have followed := Member.follow_eq_error_iff.mpr ⟨_, _, _, names, leads, missing⟩
      rw [find_of_splits splits, if_neg absolute, imported]
      dsimp only
      rw [followed]
    | noSchema splits absolute imported leads other =>
      rw [find_of_splits splits, if_neg absolute, imported]
      dsimp only
      rw [Member.follow_eq_ok_iff.mpr leads]
      split
      · rename_i h
        cases h
      · rename_i s h
        exact absurd (Except.ok.inj h) (other s)
      · rename_i h
        cases h
        rfl

theorem outcome_resolve_iff {x : Except Fault Schema} :
    (r.resolve reference).outcome = x ↔ r.Ends reference x :=
  ⟨fun h => h ▸ ends_resolve r reference, Ends.eq_outcome⟩

/-- **A reference leads to a schema or is rejected**, unless the name of its module is relative or the
schema cannot be described.  The schema is what its attributes lead to from the module, and the reason of
a rejection says which part of the reference leads nowhere.  The faults of a relative name and of a schema
that cannot be described are the only other ends. -/
theorem resolve_outcome (r : Registry) (reference : String) :
    (∀ s, (r.resolve reference).outcome = .ok s ↔
      r.LeadsTo reference s ∧ s.isWritable false = true) ∧
    (∀ reason, (r.resolve reference).outcome = .error (.reference reason) ↔
      r.Rejects reference reason) ∧
    (∀ name, (r.resolve reference).outcome = .error (.relativeReference name) ↔
      IsRelative name ∧ ∃ rest, Splits reference name rest) ∧
    ((r.resolve reference).outcome = .error .integerUnwritable ↔
      ∃ s, r.LeadsTo reference s ∧ s.isWritable false = false) ∧
    ((∃ s, (r.resolve reference).outcome = .ok s) ∨
      (∃ reason, (r.resolve reference).outcome = .error (.reference reason)) ∨
      (∃ name, (r.resolve reference).outcome = .error (.relativeReference name)) ∨
      (r.resolve reference).outcome = .error .integerUnwritable) := by
  refine ⟨fun s => ?_, fun reason => ?_, fun name => ?_, ?_, ?_⟩
  · rw [outcome_resolve_iff]
    exact ⟨fun | .schema leads written => ⟨leads, written⟩, fun ⟨leads, written⟩ => .schema leads written⟩
  · rw [outcome_resolve_iff]
    exact ⟨fun | .rejected rejects => rejects, .rejected⟩
  · rw [outcome_resolve_iff]
    exact ⟨fun | .relative splits relative => ⟨relative, _, splits⟩,
      fun ⟨relative, _, splits⟩ => .relative splits relative⟩
  · rw [outcome_resolve_iff]
    exact ⟨fun | .unwritable leads unwritable => ⟨_, leads, unwritable⟩,
      fun ⟨_, leads, unwritable⟩ => .unwritable leads unwritable⟩
  · have ends := ends_resolve r reference
    generalize (r.resolve reference).outcome = x at ends
    cases ends with
    | schema => exact Or.inl ⟨_, rfl⟩
    | rejected => exact Or.inr (Or.inl ⟨_, rfl⟩)
    | relative => exact Or.inr (Or.inr (Or.inl ⟨_, rfl⟩))
    | unwritable => exact Or.inr (Or.inr (Or.inr rfl))

/-- A point in front of a reference ends in a fault that is no rejection, where the reference without
it leads to a schema. -/
theorem relative_reference_fails :
    let registry : Registry := [("m", [("s", .schema (.optional none))])]
    (∃ s, (registry.resolve "m:s").outcome = .ok s) ∧
      (registry.resolve ".m:s").outcome = .error (.relativeReference ".m") ∧
      (Fault.relativeReference ".m").kind = "TypeError" := by
  intro registry
  have splits : Splits "m:s" "m" "s" := ⟨rfl, by decide, by decide, by decide⟩
  have relative : Splits ".m:s" ".m" "s" := ⟨rfl, by decide, by decide, by decide⟩
  have names : attributesOf "s" = ["s"] := by decide
  have leads : (Member.module [("s", .schema (.optional none))]).Leads (attributesOf "s")
      (.schema (.optional none)) := by
    rw [names]
    exact .next rfl (.here _)
  have absolute : Ends registry "m:s" (.ok (.optional none)) :=
    .schema ⟨"m", "s", _, splits, by decide, rfl, leads⟩ rfl
  have fault : Ends registry ".m:s" (.error (.relativeReference ".m")) :=
    .relative relative (by decide)
  exact ⟨⟨_, absolute.eq_outcome⟩, fault.eq_outcome, rfl⟩

end Registry

end Conform
