import Conform.Schema.Trace
/-!
# What a check finds, wherever it stands

The check of a part is made below the node of what holds it, and that node brings a path, a verdict
and a reason of its own.  Nothing but the path comes through: below every node a check makes the same
calls and comes to the same fault or to the same `Judgement`, which is placed by going down its
labels.  The main result is `trace_parent_independent`.
-/
namespace Conform

/-- What a check comes to: the labels from where it is made down to where it judges, the verdict and
the reason. -/
structure Judgement where
  labels : List String := []
  isValid : Bool
  reason : String

namespace Judgement

/-- The node that stands for a judgement of a check below a node. -/
def place (j : Judgement) (p : Node) : Node :=
  { j.labels.foldl Node.child p with isValid := j.isValid, reason := some j.reason }

/-- The judgement as it is seen from one label further up. -/
def below (j : Judgement) (label : String) : Judgement := { j with labels := label :: j.labels }

/-- Whether an acceptance is one of the checked value itself, optional steps apart. -/
def InPlace (j : Judgement) : Prop :=
  j.isValid = true → ∀ label ∈ j.labels, label = Schema.optionalSegment

@[simp] theorem place_isValid (j : Judgement) (p : Node) : (j.place p).isValid = j.isValid := rfl

theorem inPlace_of_rejects {j : Judgement} (h : j.isValid = false) : j.InPlace := by
  intro accepted
  rw [h] at accepted
  cases accepted

theorem InPlace.below {j : Judgement} (h : j.InPlace) : (j.below Schema.optionalSegment).InPlace :=
  fun accepted => List.forall_mem_cons.mpr ⟨rfl, h accepted⟩

end Judgement

/-- Whether a check has the same outcome below every node, where a judgement is one of a sort. -/
def Judges (sort : Judgement → Prop) (check : Node → Verdict) : Prop :=
  ∃ outcome : Except Fault Judgement, (∀ j, outcome = .ok j → sort j) ∧
    ∀ p, check p = outcome.map (·.place p)

/-- Whether a check makes the same calls and has the same outcome below every node. -/
structure Traced.Uniform (sort : Judgement → Prop) (check : Node → Traced Node) : Prop where
  calls : ∃ calls, ∀ p, (check p).calls = calls
  result : Judges sort fun p => (check p).result

theorem judges_ok {sort : Judgement → Prop} {j : Judgement} (h : sort j) :
    Judges sort fun p => .ok (j.place p) :=
  ⟨.ok j, fun _ hg => Except.ok.inj hg ▸ h, fun _ => rfl⟩

theorem judges_accept (reason : String) : Judges Judgement.InPlace fun p => .ok (p.accept reason) :=
  judges_ok (j := { isValid := true, reason }) fun _ => by simp

theorem judges_reject (reason : String) : Judges Judgement.InPlace fun p => .ok (p.reject reason) :=
  judges_ok (j := { isValid := false, reason }) (Judgement.inPlace_of_rejects rfl)

theorem judges_error (sort : Judgement → Prop) (f : Fault) : Judges sort fun _ => .error f :=
  ⟨.error f, by simp, fun _ => rfl⟩

/-- What a check does before it judges does not depend on where it is made. -/
theorem judges_bind {α : Type} {sort : Judgement → Prop} (x : Except Fault α)
    {next : α → Node → Verdict} (h : ∀ a, Judges sort (next a)) :
    Judges sort fun p => x >>= fun a => next a p := by
  cases x with
  | error f => exact judges_error sort f
  | ok a => exact h a

/-! ### The checks of single values -/

theorem ExpectedType.judges (t : ExpectedType) (v : Value) :
    Judges Judgement.InPlace fun p => .ok (t.check v p) := by
  unfold ExpectedType.check
  by_cases h : t = .kind v.kind
  · simp only [if_pos h]
    exact judges_accept _
  · simp only [if_neg h]
    exact judges_reject _

theorem Pattern.judges (q : Pattern) (s : String) : Judges Judgement.InPlace (q.check s) := by
  unfold Pattern.check
  cases q.isFoundIn? s with
  | none => exact judges_error _ _
  | some found =>
    cases found with
    | true => exact judges_accept _
    | false => exact judges_reject _

theorem StringRule.judges (r : StringRule) (v : Value) : Judges Judgement.InPlace (r.check v) := by
  unfold StringRule.check
  cases v with
  | str s =>
    by_cases hshort : (s.length : Int) < r.minLength
    · simp only [if_pos hshort]
      exact judges_bind _ fun _ => judges_reject _
    · simp only [if_neg hshort]
      by_cases hlong : r.maxLength.any (· < (s.length : Int)) = true
      · simp only [if_pos hlong]
        exact judges_bind _ fun _ => judges_reject _
      · simp only [if_neg hlong]
        cases r.pattern with
        | none => exact judges_accept _
        | some q => exact q.judges s
  | _ => exact judges_bind _ fun _ => judges_reject _

theorem judges_checkConstraints (v : Value) (cs : List Constraint) :
    Judges Judgement.InPlace fun p => checkConstraints v p cs := by
  induction cs with
  | nil => exact judges_bind _ fun _ => judges_accept _
  | cons c cs ih =>
    simp only [checkConstraints]
    cases c.option with
    | none => exact ih
    | some bound =>
      refine judges_bind _ fun failed => ?_
      cases failed with
      | true => exact judges_bind _ fun _ => judges_bind _ fun _ => judges_reject _
      | false => exact ih

theorem NumberRule.judges (r : NumberRule) (v : Value) : Judges Judgement.InPlace (r.check v) := by
  unfold NumberRule.check
  cases v.isNumber with
  | true => exact judges_checkConstraints v r.constraints
  | false => exact judges_bind _ fun _ => judges_reject _

theorem judges_checkEnumeration (candidates : List Value) (v : Value) :
    Judges Judgement.InPlace fun p => checkEnumeration candidates v p := by
  unfold checkEnumeration
  refine judges_bind _ fun shown => judges_bind _ fun found => ?_
  cases found with
  | true => exact judges_bind _ fun _ => judges_accept _
  | false => exact judges_bind _ fun _ => judges_reject _

/-! ### Checks that go on -/

namespace Traced

theorem uniform_ofResult {sort : Judgement → Prop} {check : Node → Verdict} (h : Judges sort check) :
    Uniform sort fun p => ofResult (check p) :=
  ⟨⟨[], fun _ => rfl⟩, h⟩

theorem uniform_pure {sort : Judgement → Prop} {check : Node → Node}
    (h : Judges sort fun p => .ok (check p)) : Uniform sort fun p => pure (check p) :=
  uniform_ofResult h

/-- One label further down the judgement has one label more. -/
theorem Uniform.child {sort sort' : Judgement → Prop} {check : Node → Traced Node}
    (h : Uniform sort check) (label : String) (imp : ∀ j, sort j → sort' (j.below label)) :
    Uniform sort' fun p => check (p.child label) := by
  obtain ⟨⟨calls, hcalls⟩, outcome, hsort, hresult⟩ := h
  refine ⟨⟨calls, fun p => hcalls (p.child label)⟩, outcome.map (·.below label), ?_, fun p => ?_⟩
  · intro j hj
    cases outcome with
    | error f => cases hj
    | ok i =>
      cases hj
      exact imp i (hsort i rfl)
  · rw [hresult]
    cases outcome <;> rfl

/-- Below a label that is no optional step a judgement is of no particular sort. -/
theorem Uniform.part {check : Node → Traced Node} (h : Uniform Judgement.InPlace check)
    (label : String) : Uniform (fun _ => True) fun p => check (p.child label) :=
  h.child label fun _ _ => trivial

/-- What a check goes on with after a judgement is made below the same node. -/
theorem uniform_bind {sort sort' : Judgement → Prop} {x : Node → Traced Node}
    {next : Node → Node → Traced Node} (hx : Uniform sort x)
    (hnext : ∀ j, sort j → Uniform sort' fun p => next p (j.place p)) :
    Uniform sort' fun p => x p >>= next p := by
  obtain ⟨⟨calls, hcalls⟩, outcome, hsort, hresult⟩ := hx
  cases outcome with
  | error f =>
    -- The check stops here below every node, so that nothing is gone on with.
    have stops : ∀ p, (x p).result = .error f := hresult
    refine ⟨⟨calls, fun p => ?_⟩, .error f, by simp, fun p => ?_⟩
    · change ((x p).bind _).calls = _
      simp [Traced.bind, stops, hcalls]
    · change ((x p).bind _).result = _
      simp [Traced.bind, stops, Except.map]
  | ok j =>
    have places : ∀ p, (x p).result = .ok (j.place p) := hresult
    obtain ⟨⟨calls', hcalls'⟩, outcome', hsort', hresult'⟩ := hnext j (hsort j rfl)
    refine ⟨⟨calls ++ calls', fun p => ?_⟩, outcome', hsort', fun p => ?_⟩
    · change ((x p).bind _).calls = _
      simp [Traced.bind, places, hcalls, hcalls']
    · change ((x p).bind _).result = _
      simpa [Traced.bind, places] using hresult' p

/-- A check that goes on after each acceptance: what it accepts, the rest has accepted. -/
theorem uniform_and {sort : Judgement → Prop} {x rest : Node → Traced Node} (hx : Uniform sort x)
    (hrest : Uniform Judgement.InPlace rest) :
    Uniform Judgement.InPlace fun p => x p >>= fun n => if n.isValid then rest p else pure n := by
  refine uniform_bind hx fun j _ => ?_
  -- The verdict that the check goes on with is the same below every node.
  cases hvalid : j.isValid with
  | true => simpa only [Judgement.place_isValid, hvalid, if_true] using hrest
  | false =>
    simp only [Judgement.place_isValid, hvalid, Bool.false_eq_true, if_false]
    exact uniform_pure (judges_ok (Judgement.inPlace_of_rejects hvalid))

/-- A check that goes on after each rejection. -/
theorem uniform_or {x rest : Node → Traced Node} (hx : Uniform Judgement.InPlace x)
    (hrest : Uniform Judgement.InPlace rest) :
    Uniform Judgement.InPlace fun p => x p >>= fun n => if n.isValid then pure n else rest p := by
  refine uniform_bind hx fun j hj => ?_
  cases hvalid : j.isValid with
  | true =>
    simp only [Judgement.place_isValid, hvalid, if_true]
    exact uniform_pure (judges_ok hj)
  | false => simpa only [Judgement.place_isValid, hvalid, Bool.false_eq_true, if_false] using hrest

theorem uniform_traceEntries {step : Value → Node → Traced Node}
    (h : ∀ v, Uniform Judgement.InPlace (step v)) (entries : List (String × Value)) :
    Uniform Judgement.InPlace fun p => traceEntries step p entries := by
  induction entries with
  | nil => exact uniform_pure (judges_accept _)
  | cons e entries ih =>
    obtain ⟨label, v⟩ := e
    simp only [traceEntries]
    exact uniform_and ((h v).part label) ih

theorem uniform_traceCollection {step : Value → Node → Traced Node}
    (h : ∀ v, Uniform Judgement.InPlace (step v)) (r : SizeRule) (entries : List (String × Value)) :
    Uniform Judgement.InPlace fun p => traceCollection step r p entries := by
  unfold traceCollection
  cases r.check (entries.map (·.2)) with
  | error f => exact uniform_ofResult (judges_error _ f)
  | ok wrong =>
    cases wrong with
    | none => exact uniform_traceEntries h entries
    | some reason => exact uniform_pure (judges_reject reason)

theorem uniform_predicate (q : Predicate) (v : Value) :
    Uniform Judgement.InPlace (q.trace v) := by
  refine ⟨⟨[⟨q, v⟩], fun _ => rfl⟩, ?_⟩
  simp only [Predicate.trace]
  cases q.test v with
  | error f => exact judges_error _ f
  | ok b =>
    cases b with
    | true => exact judges_accept _
    | false => exact judges_reject _

end Traced

/-! ### The main result -/

namespace Schema

open Traced

mutual

/-- A trace makes the same calls and comes to the same judgement below every node. -/
theorem trace_uniform : ∀ (s : Schema) (v : Value), Uniform Judgement.InPlace fun p => s.trace v p
  | type t, v => uniform_pure (t.judges v)
  | string r, v => uniform_ofResult (r.judges v)
  | number r, v => uniform_ofResult (r.judges v)
  | enumeration candidates, v => uniform_ofResult (judges_checkEnumeration candidates v)
  | optional none, v => by
    simp only [trace]
    cases v.isNull with
    | true => exact uniform_pure (judges_accept _)
    | false => exact uniform_ofResult (judges_bind _ fun _ => judges_accept _)
  | optional (some s), v => by
    simp only [trace]
    cases v.isNull with
    | true => exact uniform_pure (judges_accept _)
    | false => exact (trace_uniform s v).child optionalSegment fun _ => Judgement.InPlace.below
  | union members, v => by
    simp only [trace]
    exact traceUnion_uniform v (judges_bind _ fun _ => judges_reject _) members
  | intersection members, v => by
    simp only [trace]
    exact traceIntersection_uniform v members
  | object fields strict, v => by
    simp only [trace]
    cases v.fields? with
    | none => exact uniform_ofResult (judges_bind _ fun _ => judges_reject _)
    | some entries =>
      dsimp only
      cases strict && !(extraneous fields entries).isEmpty with
      | true => exact uniform_pure (judges_reject _)
      | false => exact traceFields_uniform entries fields
  | collection element r, v => by
    simp only [trace]
    cases v.label with
    | error f => exact uniform_ofResult (judges_error _ f)
    | ok entries =>
      cases entries with
      | none => exact uniform_ofResult (judges_bind _ fun _ => judges_reject _)
      | some entries => exact uniform_traceCollection (trace_uniform element) r entries
  | array element r, v => by
    simp only [trace]
    cases v.isSequence with
    | true => exact uniform_traceCollection (trace_uniform element) r _
    | false => exact uniform_ofResult (judges_bind _ fun _ => judges_reject _)
  | custom q, v => by
    simp only [trace]
    exact uniform_predicate q v

theorem traceUnion_uniform (v : Value) {rejection : Node → Verdict}
    (rejects : Judges Judgement.InPlace rejection) : ∀ ss : List Schema,
      Uniform Judgement.InPlace fun p => traceUnion v p (rejection p) ss
  | [] => uniform_ofResult rejects
  | s :: ss => by
    simp only [traceUnion]
    exact uniform_or (trace_uniform s v) (traceUnion_uniform v rejects ss)

theorem traceIntersection_uniform (v : Value) : ∀ ss : List Schema,
    Uniform Judgement.InPlace fun p => traceIntersection v p ss
  | [] => uniform_pure (judges_accept _)
  | s :: ss => by
    simp only [traceIntersection]
    exact uniform_and (trace_uniform s v) (traceIntersection_uniform v ss)

theorem traceFields_uniform (entries : List (String × Value)) : ∀ fs : List (String × Schema),
    Uniform Judgement.InPlace fun p => traceFields entries p fs
  | [] => uniform_pure (judges_accept _)
  | (name, s) :: fs => by
    simp only [traceFields]
    exact uniform_and ((trace_uniform s _).part name) (traceFields_uniform entries fs)

end

/-- **The parent leaves no mark but its path.**  There are labels, the same for every parent, such
that a trace below the parent makes the calls and meets the fault that it does below the root, or
comes to the verdict and the reason that it comes to there, at the path along the labels; and the
labels on the way to an acceptance are optional steps. -/
theorem trace_parent_independent (s : Schema) (v : Value) : ∃ labels : List String, ∀ p : Node,
    (s.trace v p).calls = (s.trace v .root).calls ∧
    (∀ f, (s.trace v p).result = .error f ↔ (s.trace v .root).result = .error f) ∧
    ∀ n, (s.trace v p).result = .ok n → ∃ m, (s.trace v .root).result = .ok m ∧
      n.isValid = m.isValid ∧ n.reason = m.reason ∧ n.reason ≠ none ∧
      n.path = (labels.foldl Node.child p).path ∧
      (n.isValid = true → ∀ label ∈ labels, label = optionalSegment) := by
  obtain ⟨⟨calls, hcalls⟩, outcome, inPlace, hresult⟩ := trace_uniform s v
  cases outcome with
  | error e =>
    -- A fault is met at no path: any labels do.
    have stops : ∀ p, (s.trace v p).result = .error e := hresult
    refine ⟨[], fun p => ⟨by rw [hcalls, hcalls], fun f => by rw [stops, stops], fun n hn => ?_⟩⟩
    rw [stops] at hn
    cases hn
  | ok j =>
    have places : ∀ p, (s.trace v p).result = .ok (j.place p) := hresult
    refine ⟨j.labels, fun p => ⟨by rw [hcalls, hcalls], fun f => ?_, fun n hn => ?_⟩⟩
    · simp [places]
    · rw [places] at hn
      cases hn
      exact ⟨j.place .root, places .root, rfl, rfl, Option.some_ne_none _, rfl, inPlace j rfl⟩

end Schema

end Conform
