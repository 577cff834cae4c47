import Conform.Proofs.Lists
import Conform.Proofs.Schema.Judgement
import Conform.Proofs.Schema.Rejection
/-!
# Verdicts without nodes

Whether a value is accepted is asked of the parts in order, and no node plays a part in it:
`validate` of a schema is that of its members or of the checks it makes, joined by `anyM` or `allM`.

Below are also the parts of a schema itself, and what it is for all of them to have a property.
-/
namespace Conform

namespace Traced

/-- What a check comes to, without the node. -/
def verdict (t : Traced Node) : Except Fault Bool := t.result.map (·.isValid)

@[simp] theorem verdict_pure (n : Node) : (pure n : Traced Node).verdict = .ok n.isValid := rfl

/-- A check that goes on after each acceptance. -/
theorem verdict_and (x rest : Traced Node) :
    (x >>= fun n => if n.isValid then rest else pure n).verdict =
      x.verdict >>= fun b => if b then rest.verdict else .ok false := by
  change Except.map _ (x.bind _).result = _
  unfold Traced.bind verdict
  cases x.result with
  | error f => rfl
  | ok n => cases hn : n.isValid <;> simp [hn, Bind.bind, Except.bind, Except.map, pure, ofResult]

/-- A check that goes on after each rejection. -/
theorem verdict_or (x rest : Traced Node) :
    (x >>= fun n => if n.isValid then pure n else rest).verdict =
      x.verdict >>= fun b => if b then .ok true else rest.verdict := by
  change Except.map _ (x.bind _).result = _
  unfold Traced.bind verdict
  cases x.result with
  | error f => rfl
  | ok n => cases hn : n.isValid <;> simp [hn, Bind.bind, Except.bind, Except.map, pure, ofResult]

end Traced

namespace Schema

/-- The verdict is the same below every node. -/
theorem verdict_trace (s : Schema) (v : Value) (p : Node) :
    (s.trace v p).verdict = s.validate v := by
  obtain ⟨-, outcome, -, hresult⟩ := trace_uniform s v
  -- What is asked below the root comes to the same outcome, placed elsewhere.
  have places : ∀ q, (s.trace v q).result = outcome.map (·.place q) := hresult
  rw [Traced.verdict, validate, places, places]
  cases outcome <;> rfl

theorem result_eq_error_iff {s : Schema} {v : Value} (p : Node) {f : Fault} :
    (s.trace v p).result = .error f ↔ s.validate v = .error f := by
  rw [← verdict_trace s v p, Traced.verdict]
  cases (s.trace v p).result <;> simp [Except.map]

theorem verdict_traceUnion (v : Value) (p : Node) (rejection : Verdict) (ss : List Schema) :
    (traceUnion v p rejection ss).verdict = (ss.anyM fun s => s.validate v) >>= fun b =>
      if b then .ok true else rejection.map (·.isValid) := by
  induction ss with
  | nil => rfl
  | cons s ss ih =>
    rw [traceUnion, Traced.verdict_or, verdict_trace, ih, List.anyM_cons]
    cases s.validate v with
    | error f => rfl
    | ok b => cases b <;> rfl

theorem verdict_traceIntersection (v : Value) (p : Node) (ss : List Schema) :
    (traceIntersection v p ss).verdict = ss.allM fun s => s.validate v := by
  induction ss with
  | nil => rfl
  | cons s ss ih =>
    rw [traceIntersection, Traced.verdict_and, verdict_trace, ih, List.allM_cons]
    rfl

theorem verdict_traceFields (entries : List (String × Value)) (p : Node)
    (fs : List (String × Schema)) : (traceFields entries p fs).verdict =
      fs.allM fun f => f.2.validate (fieldValue f.1 entries) := by
  induction fs with
  | nil => rfl
  | cons f fs ih =>
    rw [traceFields, Traced.verdict_and, verdict_trace, ih, List.allM_cons]
    rfl

theorem verdict_traceEntries (s : Schema) (p : Node) (entries : List (String × Value)) :
    (traceEntries (fun w n => s.trace w n) p entries).verdict =
      entries.allM fun e => s.validate e.2 := by
  induction entries with
  | nil => rfl
  | cons e entries ih =>
    rw [traceEntries, Traced.verdict_and, verdict_trace, ih, List.allM_cons]
    rfl

/-- A union asks its members in order, and writes their descriptions if none accepts. -/
theorem validate_union (ss : List Schema) (v : Value) :
    (union ss).validate v = (ss.anyM fun s => s.validate v) >>= fun b =>
      if b then .ok true else (writeDescriptions ss).map fun _ => false := by
  rw [← verdict_trace _ v .root, trace, verdict_traceUnion]
  cases writeDescriptions ss <;> rfl

/-- Whether a part is accepted, as far as there is an answer. -/
def Check.validate (c : Check) : Except Fault Bool := c.schema.validate c.value

/-- A schema that makes checks of parts accepts if all of them do, in order. -/
theorem validate_of_parts? {s : Schema} {v : Value} {checks : List Check}
    (h : s.parts? v = some checks) : s.validate v = checks.allM Check.validate := by
  rw [← verdict_trace s v .root]
  cases parts_of_parts? h with
  | @optional s v present =>
    rw [trace, if_neg (by simp [present]), verdict_trace, List.allM_cons]
    change _ = s.validate v >>= _
    cases s.validate v with
    | error f => rfl
    | ok b => cases b <;> rfl
  | intersection => rw [trace, verdict_traceIntersection, allM_map]; rfl
  | @object fields strict v entries named known =>
    -- There are checks of fields only if no key is extraneous.
    have admitted : (strict && !(extraneous fields entries).isEmpty) = false := by
      cases strict <;> simp_all
    simp only [trace, named, admitted, Bool.false_eq_true, if_false]
    rw [verdict_traceFields, allM_map]
    rfl
  | @elements s element r v entries form labelled size =>
    -- Collections and arrays differ in the values they look at, not in how.
    have collected : (traceCollection (fun w n => element.trace w n) r .root entries).verdict =
        (entries.map fun e => (⟨[.part e.1], element, e.2⟩ : Check)).allM Check.validate := by
      rw [traceCollection, size, allM_map]
      exact verdict_traceEntries element .root entries
    rcases form with ⟨rfl, label⟩ | ⟨rfl, sequence⟩
    · simpa only [trace, label] using collected
    · simpa only [trace, sequence, if_true, labelled, Option.getD_some] using collected

/-! ### Parts of schemas -/

/-- The schemas that a schema is made of. -/
def children : Schema → List Schema
  | optional (some s) => [s]
  | union members => members
  | intersection members => members
  | object fields _ => fields.map (·.2)
  | collection element _ => [element]
  | array element _ => [element]
  | _ => []

/-- What is inherited from all that a schema is made of holds of all schemas. -/
@[elab_as_elim]
theorem inductionOnChildren {motive : Schema → Prop} (s : Schema)
    (step : ∀ s : Schema, (∀ t ∈ s.children, motive t) → motive s) : motive s := by
  have leaf : ∀ s : Schema, s.children = [] → motive s := fun s h => step s (by simp [h])
  have one : ∀ s t : Schema, s.children = [t] → motive t → motive s :=
    fun s t h ht => step s (by simpa [h] using ht)
  have some_ : ∀ o : Option Schema, (∀ t ∈ o, motive t) → motive (optional o) := by
    intro o h
    cases o with
    | none => exact leaf _ rfl
    | some t => exact one _ t rfl (h t rfl)
  exact @Schema.rec motive (fun o => ∀ t ∈ o, motive t) (fun ss => ∀ t ∈ ss, motive t)
    (fun fs => ∀ f ∈ fs, motive f.2) (fun f => motive f.2)
    (fun _ => leaf _ rfl) (fun _ => leaf _ rfl) (fun _ => leaf _ rfl) (fun _ => leaf _ rfl)
    some_ (fun _ h => step _ h) (fun _ h => step _ h)
    (fun _ _ h => step _ (List.forall_mem_map.mpr h))
    (fun t _ h => one _ t rfl h) (fun t _ h => one _ t rfl h) (fun _ => leaf _ rfl)
    (by simp) (by simp) (by simp) (fun _ _ ht hts => List.forall_mem_cons.mpr ⟨ht, hts⟩)
    (by simp) (fun _ _ hf hfs => List.forall_mem_cons.mpr ⟨hf, hfs⟩) (fun _ _ h => h) s

/-- Whether a schema and all that it is made of, at any depth, have a property. -/
inductive Everywhere (p : Schema → Prop) : Schema → Prop where
  | intro {s : Schema} (here : p s) (below : ∀ t ∈ s.children, Everywhere p t) : Everywhere p s

namespace Everywhere

variable {p : Schema → Prop} {s : Schema} (h : s.Everywhere p)

include h

theorem here : p s := by
  cases h with
  | intro here _ => exact here

theorem child : ∀ t ∈ s.children, t.Everywhere p := by
  cases h with
  | intro _ below => exact below

end Everywhere

theorem mem_children_of_parts? {s : Schema} {v : Value} {checks : List Check}
    (h : s.parts? v = some checks) : ∀ c ∈ checks, c.schema ∈ s.children := by
  cases parts_of_parts? h with
  | optional => simp [children]
  | intersection => simp [children]
  | object => exact List.forall_mem_map.mpr fun f hf => List.mem_map_of_mem hf
  | elements form =>
    rcases form with ⟨rfl, -⟩ | ⟨rfl, -⟩ <;>
      exact List.forall_mem_map.mpr fun _ _ => List.mem_singleton_self _

end Schema

end Conform
