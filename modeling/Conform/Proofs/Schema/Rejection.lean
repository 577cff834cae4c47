import Conform.Proofs.Schema.Verdict
/-!
# Where a rejection is

A schema that does not judge a value as a whole checks it part by part (`parts?`), and the first part
that is not accepted is where it rejects: `RejectsAlong` follows such parts down and collects the
steps.  The path of a rejection spells these steps (`trace_rejectsAlong`), of which there are no
others (`RejectsAlong.unique`).
-/
namespace Conform.Schema

/-- A step of a check: through an optional schema, or to the part of a value with a label. -/
inductive Step where
  | optional
  | part (label : String)

namespace Step

/-- The segment of a path that stands for a step. -/
def segment : Step → List Char
  | optional => Path.optionalMarker
  | part label => label.toList

/-- The label of the part that a step leads to; an optional schema leads to the value itself. -/
def label? : Step → Option String
  | optional => none
  | part label => some label

/-- The node to which a step leads. -/
def descend (n : Node) (step : Step) : Node := n.child (String.ofList step.segment)

end Step

/-- The check of a part: the steps that lead there, the schema and the value. -/
structure Check where
  steps : List Step
  schema : Schema
  value : Value

namespace Check

/-- Whether the part is accepted. -/
def Passes (c : Check) : Prop := c.schema.Accepts c.value

end Check

/-- The checks of elements, if nothing is wrong with their number and difference. -/
def elementChecks? (element : Schema) (r : SizeRule) (entries : List (String × Value)) :
    Option (List Check) :=
  match r.check (entries.map (·.2)) with
  | .ok none => some (entries.map fun e => ⟨[.part e.1], element, e.2⟩)
  | _ => none

/-- The checks that a schema makes of a value in order; none if it judges the value as a whole. -/
def parts? : Schema → Value → Option (List Check)
  | optional (some s), v => if v.isNull then none else some [⟨[.optional], s, v⟩]
  | intersection members, v => some (members.map fun s => ⟨[], s, v⟩)
  | object fields strict, v =>
    v.fields?.bind fun entries =>
      if strict && !(extraneous fields entries).isEmpty then none
      else some (fields.map fun f => ⟨[.part f.1], f.2, fieldValue f.1 entries⟩)
  | collection element r, v =>
    match v.label with
    | .ok (some entries) => elementChecks? element r entries
    | _ => none
  | array element r, v =>
    if v.isSequence then elementChecks? element r (v.labelled?.getD []) else none
  | _, _ => none

/-- The steps from a value to the part that is the reason why it is rejected, and this part. -/
inductive RejectsAlong : Schema → Value → List Step → Value → Prop where
  | whole {s : Schema} {v : Value} (whole : s.parts? v = none) (rejected : ¬s.Accepts v) :
      RejectsAlong s v [] v
  | part {s : Schema} {v w : Value} {before : List Check} {c : Check} {after : List Check}
      {steps : List Step} (parts : s.parts? v = some (before ++ c :: after))
      (passed : ∀ b ∈ before, b.Passes) (rejected : RejectsAlong c.schema c.value steps w) :
      RejectsAlong s v (c.steps ++ steps) w

/-- What the checks of the parts are, schema by schema. -/
inductive Parts : Schema → Value → List Check → Prop where
  | optional {s : Schema} {v : Value} (present : v.isNull = false) :
      Parts (optional (some s)) v [⟨[.optional], s, v⟩]
  | intersection {members : List Schema} {v : Value} :
      Parts (intersection members) v (members.map fun s => ⟨[], s, v⟩)
  | object {fields : List (String × Schema)} {strict : Bool} {v : Value}
      {entries : List (String × Value)} (named : v.fields? = some entries)
      (known : strict = true → extraneous fields entries = []) :
      Parts (object fields strict) v
        (fields.map fun f => ⟨[.part f.1], f.2, fieldValue f.1 entries⟩)
  | elements {s element : Schema} {r : SizeRule} {v : Value} {entries : List (String × Value)}
      (form : s = collection element r ∧ v.label = .ok (some entries) ∨
        s = array element r ∧ v.isSequence = true)
      (labelled : v.labelled? = some entries)
      (size : r.check (entries.map (·.2)) = .ok none) :
      Parts s v (entries.map fun e => ⟨[.part e.1], element, e.2⟩)

theorem exists_labelled {v : Value} (h : v.isSequence = true) :
    ∃ entries, v.labelled? = some entries := by
  obtain ⟨xs, hxs⟩ := Option.isSome_iff_exists.mp h
  exact ⟨_, by rw [Value.labelled?, hxs]⟩

theorem elementChecks?_eq_some_iff {element : Schema} {r : SizeRule}
    {entries : List (String × Value)} {checks : List Check} :
    elementChecks? element r entries = some checks ↔ r.check (entries.map (·.2)) = .ok none ∧
      checks = entries.map fun e => ⟨[.part e.1], element, e.2⟩ := by
  unfold elementChecks?
  split
  · rename_i size
    simp [size, eq_comm]
  · rename_i size
    exact iff_of_false nofun fun h => size h.1

theorem elementChecks?_eq_none_iff {element : Schema} {r : SizeRule}
    {entries : List (String × Value)} :
    elementChecks? element r entries = none ↔ r.check (entries.map (·.2)) ≠ .ok none := by
  unfold elementChecks?
  split
  · rename_i size
    simp [size]
  · rename_i size
    simpa using size

theorem parts_of_parts? {s : Schema} {v : Value} {checks : List Check}
    (h : s.parts? v = some checks) : s.Parts v checks := by
  unfold parts? at h
  split at h
  · split at h <;> cases h
    rename_i present
    exact .optional (by simpa using present)
  · cases h
    exact .intersection
  · obtain ⟨entries, hentries, h⟩ := Option.bind_eq_some_iff.mp h
    split at h <;> cases h
    rename_i known
    exact .object hentries (by simpa using known)
  · split at h
    · rename_i entries hlabel
      obtain ⟨size, rfl⟩ := elementChecks?_eq_some_iff.mp h
      exact .elements (Or.inl ⟨rfl, hlabel⟩) (Value.eq_of_label hlabel) size
    · cases h
  · split at h
    · rename_i sequence
      obtain ⟨entries, hentries⟩ := exists_labelled sequence
      rw [hentries, Option.getD_some] at h
      obtain ⟨size, rfl⟩ := elementChecks?_eq_some_iff.mp h
      exact .elements (Or.inr ⟨rfl, sequence⟩) hentries size
    · cases h
  · cases h

/-! ### Paths of rejections -/

/-- Whether a node is the rejection by the first of some checks that is not passed. -/
def FirstRejects (checks : List Check) (p n : Node) : Prop :=
  ∃ before c after steps w, checks = before ++ c :: after ∧ (∀ b ∈ before, b.Passes) ∧
    c.schema.RejectsAlong c.value steps w ∧ n.path = ((c.steps ++ steps).foldl Step.descend p).path

namespace FirstRejects

variable {checks : List Check} {c : Check} {p n : Node}

theorem head {steps : List Step} {w : Value} (rejected : c.schema.RejectsAlong c.value steps w)
    (path : n.path = (steps.foldl Step.descend (c.steps.foldl Step.descend p)).path) :
    FirstRejects (c :: checks) p n :=
  ⟨[], c, checks, steps, w, rfl, by simp, rejected, by rw [path, List.foldl_append]⟩

theorem tail (passed : c.Passes) (h : FirstRejects checks p n) :
    FirstRejects (c :: checks) p n := by
  obtain ⟨before, d, after, steps, w, rfl, hbefore, rejected, path⟩ := h
  exact ⟨c :: before, d, after, steps, w, rfl, List.forall_mem_cons.mpr ⟨passed, hbefore⟩,
    rejected, path⟩

end FirstRejects

theorem exists_rejectsAlong {s : Schema} {v : Value} {checks : List Check} {p n : Node}
    (parts : s.parts? v = some checks) (h : FirstRejects checks p n) :
    ∃ steps w, s.RejectsAlong v steps w ∧ n.path = (steps.foldl Step.descend p).path := by
  obtain ⟨before, c, after, steps, w, rfl, passed, rejected, path⟩ := h
  exact ⟨c.steps ++ steps, w, .part parts passed rejected, path⟩

/-- A check that goes on after each acceptance rejects at one of its two halves. -/
theorem of_and_rejects {x rest : Traced Node} {n : Node}
    (h : (x >>= fun m => if m.isValid then rest else pure m).result = .ok n) :
    x.result = .ok n ∨ ∃ m, x.result = .ok m ∧ m.isValid = true ∧ rest.result = .ok n := by
  change (x.bind _).result = _ at h
  unfold Traced.bind at h
  cases hx : x.result with
  | error f =>
    rw [hx] at h
    cases h
  | ok m =>
    rw [hx] at h
    cases hm : m.isValid with
    | true => exact Or.inr ⟨m, rfl, hm, by simpa [hm] using h⟩
    | false =>
      simp only [hm, Bool.false_eq_true, if_false] at h
      exact Or.inl h

/-- Whether every node that a check gives is at the path of its parent. -/
def StaysAt (p : Node) (r : Verdict) : Prop := ∀ n, r = .ok n → n.path = p.path

theorem staysAt_bind {α : Type} {p : Node} {x : Except Fault α} {next : α → Verdict}
    (h : ∀ a, StaysAt p (next a)) : StaysAt p (x >>= next) := by
  intro n hn
  obtain ⟨a, -, hn⟩ := of_bind_eq_ok hn
  exact h a n hn

theorem staysAt_accept (p : Node) (reason : String) : StaysAt p (.ok (p.accept reason)) :=
  fun _ h => Except.ok.inj h ▸ rfl

theorem staysAt_reject (p : Node) (reason : String) : StaysAt p (.ok (p.reject reason)) :=
  fun _ h => Except.ok.inj h ▸ rfl

theorem staysAt_string (r : StringRule) (v : Value) (p : Node) : StaysAt p (r.check v p) := by
  unfold StringRule.check
  split
  · dsimp only
    split
    · exact staysAt_bind fun _ => staysAt_reject p _
    · split
      · exact staysAt_bind fun _ => staysAt_reject p _
      · split
        · unfold Pattern.check
          dsimp only
          split
          · exact fun _ h => nomatch h
          · exact staysAt_accept p _
          · exact staysAt_reject p _
        · exact staysAt_accept p _
  · exact staysAt_bind fun _ => staysAt_reject p _

theorem staysAt_constraints (v : Value) (p : Node) (cs : List Constraint) :
    StaysAt p (checkConstraints v p cs) := by
  induction cs with
  | nil => exact staysAt_bind fun _ => staysAt_accept p _
  | cons c cs ih =>
    rw [checkConstraints]
    split
    · exact ih
    · refine staysAt_bind fun failed => ?_
      cases failed with
      | true => exact staysAt_bind fun _ => staysAt_bind fun _ => staysAt_reject p _
      | false => exact ih

theorem staysAt_number (r : NumberRule) (v : Value) (p : Node) : StaysAt p (r.check v p) := by
  unfold NumberRule.check
  split
  · exact staysAt_constraints v p _
  · exact staysAt_bind fun _ => staysAt_reject p _

theorem staysAt_enumeration (candidates : List Value) (v : Value) (p : Node) :
    StaysAt p (checkEnumeration candidates v p) := by
  refine staysAt_bind fun _ => staysAt_bind fun found => ?_
  cases found with
  | true => exact staysAt_bind fun _ => staysAt_accept p _
  | false => exact staysAt_bind fun _ => staysAt_reject p _

theorem staysAt_custom (q : Predicate) (v : Value) (p : Node) : StaysAt p (q.trace v p).result := by
  refine staysAt_bind fun accepted => ?_
  cases accepted with
  | true => exact staysAt_accept p _
  | false => exact staysAt_reject p _

/-- A union rejects with its own rejection, wherever its members do. -/
theorem eq_of_traceUnion {v : Value} {p n : Node} {rejection : Verdict} {ss : List Schema}
    (h : (traceUnion v p rejection ss).result = .ok n) (invalid : n.isValid = false) :
    rejection = .ok n := by
  induction ss with
  | nil => exact h
  | cons s ss ih =>
    rw [traceUnion] at h
    change ((s.trace v p).bind _).result = _ at h
    unfold Traced.bind at h
    split at h
    · rename_i m hm
      cases hvalid : m.isValid with
      | true =>
        simp only [hvalid, if_true] at h
        cases h
        rw [hvalid] at invalid
        cases invalid
      | false =>
        simp only [hvalid, Bool.false_eq_true, if_false] at h
        exact ih h
    · cases h

theorem isProper_of_labelled {v : Value} {entries : List (String × Value)} (hv : v.IsProper)
    (h : v.labelled? = some entries) : ∀ e ∈ entries, e.2.IsProper := by
  intro e he
  have elements : v.elements? = some (entries.map (·.2)) := by
    rw [Value.elements?_eq_labelled?, h]
    rfl
  exact hv.elements elements e.2 (List.mem_map_of_mem he)

theorem items?_of_isSequence {v : Value} {entries : List (String × Value)}
    (h : v.isSequence = true) (hentries : v.labelled? = some entries) :
    v.items? = some (entries.map (·.2)) := by
  obtain ⟨xs, hxs⟩ := Option.isSome_iff_exists.mp h
  have := Value.elements?_eq_labelled? v
  rw [Value.elements?, hxs, hentries] at this
  rw [hxs]
  exact this

/-- A schema that judges a value as a whole rejects it where it is. -/
theorem exists_whole {s : Schema} {v : Value} (hv : v.IsProper) {p n : Node}
    (whole : s.parts? v = none) (h : (s.trace v p).result = .ok n) (invalid : n.isValid = false)
    (path : n.path = p.path) :
    ∃ steps w, s.RejectsAlong v steps w ∧ n.path = (steps.foldl Step.descend p).path := by
  refine ⟨[], v, .whole whole fun accepted => ?_, path⟩
  rw [(trace_decides s hv.isSound p n h).mpr accepted] at invalid
  cases invalid

/-- The rejection of a collection whose size is admitted is that of an element. -/
theorem rejects_of_entries {element : Schema} {entries : List (String × Value)} {p n : Node}
    (proper : ∀ e ∈ entries, e.2.IsProper)
    (rejects : ∀ x : Value, x.IsProper → ∀ p n : Node, (element.trace x p).result = .ok n →
      n.isValid = false → ∃ steps w, element.RejectsAlong x steps w ∧
        n.path = (steps.foldl Step.descend p).path)
    (h : (traceEntries (fun w n => element.trace w n) p entries).result = .ok n)
    (invalid : n.isValid = false) :
    FirstRejects (entries.map fun e => ⟨[.part e.1], element, e.2⟩) p n := by
  induction entries with
  | nil =>
    cases h
    cases invalid
  | cons e entries ih =>
    obtain ⟨label, x⟩ := e
    obtain ⟨hx, hentries⟩ := List.forall_mem_cons.mp proper
    rw [traceEntries] at h
    rcases of_and_rejects h with h | ⟨m, hm, hvalid, h⟩
    · obtain ⟨steps, w, rejected, path⟩ := rejects x hx _ n h invalid
      exact .head rejected (by simpa [Step.descend, Step.segment] using path)
    · exact .tail ((trace_decides element hx.isSound _ m hm).mp hvalid) (ih hentries h)

/-- A collection is rejected for its size or by one of its elements. -/
theorem rejects_of_collection {element : Schema} {r : SizeRule} {entries : List (String × Value)}
    {p n : Node} (proper : ∀ e ∈ entries, e.2.IsProper)
    (rejects : ∀ x : Value, x.IsProper → ∀ p n : Node, (element.trace x p).result = .ok n →
      n.isValid = false → ∃ steps w, element.RejectsAlong x steps w ∧
        n.path = (steps.foldl Step.descend p).path)
    (h : (traceCollection (fun w n => element.trace w n) r p entries).result = .ok n)
    (invalid : n.isValid = false) :
    (elementChecks? element r entries = none ∧ n.path = p.path) ∨
      ∃ checks, elementChecks? element r entries = some checks ∧ FirstRejects checks p n := by
  unfold traceCollection at h
  cases hsize : r.check (entries.map (·.2)) with
  | error f =>
    rw [hsize] at h
    cases h
  | ok wrong =>
    rw [hsize] at h
    cases wrong with
    | some reason =>
      refine .inl ⟨elementChecks?_eq_none_iff.mpr (by simp [hsize]), ?_⟩
      cases h
      rfl
    | none => exact .inr ⟨_, elementChecks?_eq_some_iff.mpr ⟨hsize, rfl⟩,
        rejects_of_entries proper rejects h invalid⟩

mutual

/-- **The path of a rejection spells the steps to the part that is rejected.** -/
theorem trace_rejectsAlong : ∀ (s : Schema) {v : Value}, v.IsProper → ∀ {p n : Node},
    (s.trace v p).result = .ok n → n.isValid = false →
      ∃ steps w, s.RejectsAlong v steps w ∧ n.path = (steps.foldl Step.descend p).path
  | type t, v, hv, p, n, h, invalid => by
    refine exists_whole hv rfl h invalid ?_
    cases h
    rw [ExpectedType.check]
    split <;> rfl
  | string r, v, hv, p, n, h, invalid => exists_whole hv rfl h invalid (staysAt_string r v p n h)
  | number r, v, hv, p, n, h, invalid => exists_whole hv rfl h invalid (staysAt_number r v p n h)
  | enumeration candidates, v, hv, p, n, h, invalid =>
    exists_whole hv rfl h invalid (staysAt_enumeration candidates v p n h)
  | optional none, v, hv, p, n, h, invalid => by
    rw [trace] at h
    split at h
    · cases h
      cases invalid
    · obtain ⟨shown, -, h⟩ := of_bind_eq_ok h
      cases h
      cases invalid
  | optional (some s), v, hv, p, n, h, invalid => by
    rw [trace] at h
    cases hnull : v.isNull with
    | true =>
      rw [hnull, if_pos rfl] at h
      cases h
      cases invalid
    | false =>
      rw [hnull, if_neg Bool.false_ne_true] at h
      obtain ⟨steps, w, rejected, path⟩ := trace_rejectsAlong s hv h invalid
      have parts : (optional (some s)).parts? v = some [⟨[.optional], s, v⟩] := by
        simp [parts?, hnull]
      exact exists_rejectsAlong parts (.head rejected path)
  -- A union rejects as a whole, wherever its members reject.
  | union members, v, hv, p, n, h, invalid => by
    refine exists_whole hv rfl h invalid ?_
    rw [trace] at h
    exact staysAt_bind (fun _ => staysAt_reject p _) n (eq_of_traceUnion h invalid)
  | intersection members, v, hv, p, n, h, invalid => by
    rw [trace] at h
    exact exists_rejectsAlong rfl (traceIntersection_rejects members hv h invalid)
  | object fields strict, v, hv, p, n, h, invalid => by
    -- No object or one with extraneous keys is rejected as a whole, any other by a field.
    have whole := fun whole path => exists_whole hv whole h invalid path
    rw [trace] at h
    cases hfields : v.fields? with
    | none =>
      rw [hfields] at h
      exact whole (by simp [parts?, hfields]) (staysAt_bind (fun _ => staysAt_reject p _) n h)
    | some entries =>
      simp only [hfields] at h
      cases hothers : strict && !(extraneous fields entries).isEmpty with
      | true =>
        refine whole (by rw [parts?, hfields, Option.bind_some, hothers, if_pos rfl]) ?_
        rw [hothers, if_pos rfl] at h
        cases h
        rfl
      | false =>
        rw [hothers, if_neg Bool.false_ne_true] at h
        have parts : (object fields strict).parts? v =
            some (fields.map fun f => ⟨[.part f.1], f.2, fieldValue f.1 entries⟩) := by
          rw [parts?, hfields, Option.bind_some, hothers, if_neg Bool.false_ne_true]
        exact exists_rejectsAlong parts
          (traceFields_rejects fields (fun name => hv.fieldValue hfields name) h invalid)
  | collection element r, v, hv, p, n, h, invalid => by
    -- Nothing with labels or one of a wrong size is rejected as a whole, any other by an element.
    have whole := fun whole path => exists_whole hv whole h invalid path
    rw [trace] at h
    cases hlabel : v.label with
    | error f =>
      rw [hlabel] at h
      cases h
    | ok labelled =>
      rw [hlabel] at h
      cases labelled with
      | none =>
        exact whole (by simp [parts?, hlabel]) (staysAt_bind (fun _ => staysAt_reject p _) n h)
      | some entries =>
        have proper := isProper_of_labelled hv (Value.eq_of_label hlabel)
        rcases rejects_of_collection proper
          (fun x hx _ _ h invalid => trace_rejectsAlong element hx h invalid) h invalid with
          ⟨none, path⟩ | ⟨checks, some, rejects⟩
        · exact whole (by simp [parts?, hlabel, none]) path
        · exact exists_rejectsAlong (by simp [parts?, hlabel, some]) rejects
  | array element r, v, hv, p, n, h, invalid => by
    have whole := fun whole path => exists_whole hv whole h invalid path
    rw [trace] at h
    cases hsequence : v.isSequence with
    | false =>
      rw [hsequence] at h
      exact whole (by simp [parts?, hsequence]) (staysAt_bind (fun _ => staysAt_reject p _) n h)
    | true =>
      obtain ⟨entries, hlabelled⟩ := exists_labelled hsequence
      rw [hsequence, if_pos rfl, hlabelled, Option.getD_some] at h
      rcases rejects_of_collection (isProper_of_labelled hv hlabelled)
        (fun x hx _ _ h invalid => trace_rejectsAlong element hx h invalid) h invalid with
        ⟨none, path⟩ | ⟨checks, some, rejects⟩
      · exact whole (by simp [parts?, hsequence, hlabelled, none]) path
      · exact exists_rejectsAlong (by simp [parts?, hsequence, hlabelled, some]) rejects
  | custom q, v, hv, p, n, h, invalid => exists_whole hv rfl h invalid (staysAt_custom q v p n h)

theorem traceIntersection_rejects : ∀ (ss : List Schema) {v : Value}, v.IsProper →
    ∀ {p n : Node}, (traceIntersection v p ss).result = .ok n → n.isValid = false →
      FirstRejects (ss.map fun s => ⟨[], s, v⟩) p n
  | [], _, _, _, _, h, invalid => by
    cases h
    cases invalid
  | s :: ss, v, hv, p, n, h, invalid => by
    rw [traceIntersection] at h
    rcases of_and_rejects h with h | ⟨m, hm, hvalid, h⟩
    · obtain ⟨steps, w, rejected, path⟩ := trace_rejectsAlong s hv h invalid
      exact .head rejected path
    · exact .tail ((trace_decides s hv.isSound p m hm).mp hvalid) (traceIntersection_rejects ss hv h invalid)

theorem traceFields_rejects : ∀ (fs : List (String × Schema)) {entries : List (String × Value)},
    (∀ name, (fieldValue name entries).IsProper) → ∀ {p n : Node},
      (traceFields entries p fs).result = .ok n → n.isValid = false →
        FirstRejects (fs.map fun f => ⟨[.part f.1], f.2, fieldValue f.1 entries⟩) p n
  | [], _, _, _, _, h, invalid => by
    cases h
    cases invalid
  | (name, s) :: fs, entries, proper, p, n, h, invalid => by
    rw [traceFields] at h
    rcases of_and_rejects h with h | ⟨m, hm, hvalid, h⟩
    · obtain ⟨steps, w, rejected, path⟩ := trace_rejectsAlong s (proper name) h invalid
      exact .head rejected (by simpa [Step.descend, Step.segment] using path)
    · exact .tail ((trace_decides s (proper name).isSound _ m hm).mp hvalid)
        (traceFields_rejects fs proper h invalid)

end

/-! ### There is one way -/

/-- A schema that checks a value part by part accepts it if every part passes. -/
theorem Parts.accepts_iff {s : Schema} {v : Value} {checks : List Check} (hv : v.IsProper)
    (h : s.Parts v checks) : s.Accepts v ↔ ∀ c ∈ checks, c.Passes := by
  cases h with
  | optional present =>
    rw [accepts_optional_iff, ← isNull_iff, present, List.forall_mem_singleton]
    simp [Check.Passes]
  | intersection =>
    rw [accepts_intersection_iff, List.forall_mem_map]
    rfl
  | @object fields strict _ entries hentries known =>
    -- An object has parts to check only once its names are known, so that condition holds here.
    rw [extraneous_eq_nil_iff] at known
    rw [accepts_object_iff, List.forall_mem_map]
    simp only [hentries, Option.some.injEq, exists_eq_left']
    exact and_iff_right known
  | @elements _ element r _ entries form labelled size =>
    -- The size was checked before the elements, so the rule admits them.
    have items : ∀ x ∈ entries.map (·.2), x.IsRegular :=
      List.forall_mem_map.mpr fun e he => (isProper_of_labelled hv labelled e he).isRegular
    have admits : r.Admits (entries.map (·.2)) :=
      (SizeRule.eq_none_iff_of_check items size).mp rfl
    have passes : (∀ c ∈ entries.map fun e => (⟨[.part e.1], element, e.2⟩ : Check), c.Passes) ↔
        ∀ x ∈ entries.map (·.2), element.Accepts x := by
      rw [List.forall_mem_map, List.forall_mem_map]
      rfl
    rw [passes]
    rcases form with ⟨rfl, -⟩ | ⟨rfl, sequence⟩
    · rw [accepts_collection_iff, Value.elements?_eq_labelled?, labelled]
      simp [admits]
    · rw [accepts_array_iff, items?_of_isSequence sequence labelled]
      simp [admits]

/-- What null has, and with a value all its elements, the values of the checked parts have. -/
theorem Parts.forall_value {P : Value → Prop} (null : P .null)
    (elements : ∀ v, P v → ∀ xs, v.elements? = some xs → ∀ x ∈ xs, P x) {s : Schema} {v : Value}
    {checks : List Check} (h : s.Parts v checks) (hv : P v) : ∀ c ∈ checks, P c.value := by
  cases h with
  | optional present => exact List.forall_mem_singleton.mpr hv
  | intersection => exact List.forall_mem_map.mpr fun _ _ => hv
  | object hentries _ =>
    refine List.forall_mem_map.mpr fun f _ => ?_
    rcases Value.fieldValue_cases hentries f.1 with hnull | ⟨xs, helements, mem⟩
    · exact hnull ▸ null
    · exact elements v hv xs helements _ mem
  | elements _ labelled _ =>
    have helements := Value.elements?_eq_labelled? v
    rw [labelled] at helements
    exact List.forall_mem_map.mpr fun e he => elements v hv _ helements _ (List.mem_map_of_mem he)

theorem Parts.isProper {s : Schema} {v : Value} {checks : List Check} (hv : v.IsProper)
    (h : s.Parts v checks) : ∀ c ∈ checks, c.value.IsProper :=
  h.forall_value (P := Value.IsProper) trivial (fun _ hv _ => hv.elements) hv

theorem RejectsAlong.not_accepts {s : Schema} {v w : Value} {steps : List Step} (hv : v.IsProper)
    (h : s.RejectsAlong v steps w) : ¬s.Accepts v := by
  induction h with
  | whole _ rejected => exact rejected
  | part parts _ _ ih =>
    have parts := parts_of_parts? parts
    rw [parts.accepts_iff hv]
    intro passes
    exact ih (parts.isProper hv _ List.mem_append_cons_self) (passes _ List.mem_append_cons_self)

/-- A value is rejected along one list of steps only, for one part. -/
theorem RejectsAlong.unique {s : Schema} {v w w' : Value} {steps steps' : List Step}
    (hv : v.IsProper) (h : s.RejectsAlong v steps w) (h' : s.RejectsAlong v steps' w') :
    steps = steps' ∧ w = w' := by
  induction h generalizing steps' w' with
  | whole whole _ =>
    cases h' with
    | whole => exact ⟨rfl, rfl⟩
    | part parts =>
      rw [whole] at parts
      cases parts
  | @part s v w before c after steps parts passed rejected ih =>
    cases h' with
    | whole whole =>
      rw [whole] at parts
      cases parts
    | @part _ _ _ before' c' after' steps' parts' passed' rejected' =>
      have hc := (parts_of_parts? parts).isProper hv c List.mem_append_cons_self
      have hc' := (parts_of_parts? parts').isProper hv c' List.mem_append_cons_self
      rw [parts, Option.some.injEq] at parts'
      -- Both ways lead through the first part that does not pass.
      obtain rfl := first_unique parts' passed (rejected.not_accepts hc) passed'
        (rejected'.not_accepts hc')
      obtain ⟨rfl, rfl⟩ := ih hc rejected'
      exact ⟨rfl, rfl⟩

end Conform.Schema
