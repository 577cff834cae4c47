import Conform.Proofs.Value.Writing
import Conform.Schema.Trace
/-!
# What objects see of a map

An object looks up its fields in a map, where an absent key is the same as null, and a strict one
lists the keys that are no fields; it sees nothing else of the map.  Optionals, unions and
intersections hand the whole map on.  So two maps that agree on what the objects in a schema see have
the same trace, which is the main result, `trace_eq_of_agree`.
-/
namespace Conform

namespace Value

theorem fields?_eq_some_iff {v : Value} {es : List (String × Value)} :
    v.fields? = some es ↔ ∃ entries, v.unroll = map entries ∧ named? entries = some es := by
  unfold fields? entries?
  cases v.unroll <;> simp

theorem kind_of_fields? {v : Value} {es : List (String × Value)} (h : v.fields? = some es) :
    v.kind = .map := by
  obtain ⟨entries, hv, -⟩ := fields?_eq_some_iff.mp h
  simp only [kind, hv]

theorem isNull_of_fields? {v : Value} {es : List (String × Value)} (h : v.fields? = some es) :
    v.isNull = false := by
  cases v with
  | null => cases h
  | _ => rfl

/-- Names are given to entries with the same keys, and are texts. -/
theorem exists_named {entries : List (Value × Value)} {es : List (String × Value)}
    (h : named? entries = some es) {e : Value × Value} (he : e ∈ entries) :
    ∃ name, e.1 = .str name ∧ (name, e.2) ∈ es := by
  fun_induction named? entries generalizing es with
  | case1 => cases he
  | case2 s x entries ih =>
    obtain ⟨rest, hrest, rfl⟩ := Option.map_eq_some_iff.mp h
    rcases List.mem_cons.mp he with rfl | he
    · exact ⟨s, rfl, List.mem_cons_self ..⟩
    · obtain ⟨name, hkey, hmem⟩ := ih hrest he
      exact ⟨name, hkey, List.mem_cons_of_mem _ hmem⟩
  | case3 => cases h

end Value

namespace Schema

/-! ### Schemas that see a map through objects only -/

mutual

/-- Whether a schema is put together from type and object schemas by optionals with a wrapped schema,
unions and intersections.  The schemas of fields may be any. -/
def isObjectwise : Schema → Bool
  | type _ => true
  | object _ _ => true
  | optional (some s) => s.isObjectwise
  | union members => areObjectwise members
  | intersection members => areObjectwise members
  | _ => false

/-- `isObjectwise` for each member. -/
def areObjectwise : List Schema → Bool
  | [] => true
  | s :: ss => s.isObjectwise && areObjectwise ss

end

mutual

/-- The objects that a schema hands a map on to, each with its fields and whether it is strict. -/
def objects : Schema → List (List (String × Schema) × Bool)
  | object fields strict => [(fields, strict)]
  | optional (some s) => s.objects
  | union members => objectsAll members
  | intersection members => objectsAll members
  | _ => []

/-- The objects of all members. -/
def objectsAll : List Schema → List (List (String × Schema) × Bool)
  | [] => []
  | s :: ss => s.objects ++ objectsAll ss

end

/-- Whether an object sees the same of two maps: the values of its fields, and if it is strict the
keys that are no fields, in order. -/
structure Agree (fields : List (String × Schema)) (strict : Bool) (es fs : List (String × Value)) :
    Prop where
  values : ∀ f ∈ fields, fieldValue f.1 es = fieldValue f.1 fs
  others : strict = true → extraneous fields es = extraneous fields fs

/-! ### Traces of maps that agree -/

section Traces

variable {v w : Value} {es fs : List (String × Value)}

theorem traceFields_congr {fields : List (String × Schema)}
    (values : ∀ f ∈ fields, fieldValue f.1 es = fieldValue f.1 fs) (p : Node) :
    traceFields es p fields = traceFields fs p fields := by
  induction fields with
  | nil => rfl
  | cons f fields ih =>
    obtain ⟨name, s⟩ := f
    obtain ⟨here, others⟩ := List.forall_mem_cons.mp values
    rw [traceFields, traceFields, here, ih others]

theorem trace_object_congr (hv : v.fields? = some es) (hw : w.fields? = some fs)
    {fields : List (String × Schema)} {strict : Bool} (agree : Agree fields strict es fs) (p : Node) :
    (object fields strict).trace v p = (object fields strict).trace w p := by
  rw [trace, trace, hv, hw]
  dsimp only
  rw [traceFields_congr agree.values]
  cases strict with
  | true => rw [agree.others rfl]
  | false => rfl

mutual

theorem trace_congr (hv : v.fields? = some es) (hw : w.fields? = some fs) :
    ∀ {s : Schema}, s.isObjectwise = true → (∀ o ∈ s.objects, Agree o.1 o.2 es fs) →
      ∀ p, s.trace v p = s.trace w p
  | type t, _, _, p => by
    simp only [trace, ExpectedType.check, Value.kind_of_fields? hv, Value.kind_of_fields? hw]
  | object fields strict, _, agree, p =>
    trace_object_congr hv hw (agree _ (List.mem_singleton_self _)) p
  | optional (some s), built, agree, p => by
    simp only [trace, Value.isNull_of_fields? hv, Value.isNull_of_fields? hw]
    exact trace_congr (s := s) hv hw built agree _
  | union members, built, agree, p => by
    rw [trace, trace]
    exact traceUnion_congr hv hw built agree p _
  | intersection members, built, agree, p => by
    rw [trace, trace]
    exact traceIntersection_congr hv hw built agree p

theorem traceUnion_congr (hv : v.fields? = some es) (hw : w.fields? = some fs) :
    ∀ {ss : List Schema}, areObjectwise ss = true → (∀ o ∈ objectsAll ss, Agree o.1 o.2 es fs) →
      ∀ p rejection, traceUnion v p rejection ss = traceUnion w p rejection ss
  | [], _, _, _, _ => rfl
  | s :: ss, built, agree, p, rejection => by
    obtain ⟨first, rest⟩ := Bool.and_eq_true_iff.mp built
    obtain ⟨here, others⟩ := List.forall_mem_append.mp agree
    rw [traceUnion, traceUnion, trace_congr hv hw first here,
      traceUnion_congr hv hw rest others]

theorem traceIntersection_congr (hv : v.fields? = some es) (hw : w.fields? = some fs) :
    ∀ {ss : List Schema}, areObjectwise ss = true → (∀ o ∈ objectsAll ss, Agree o.1 o.2 es fs) →
      ∀ p, traceIntersection v p ss = traceIntersection w p ss
  | [], _, _, _ => rfl
  | s :: ss, built, agree, p => by
    obtain ⟨first, rest⟩ := Bool.and_eq_true_iff.mp built
    obtain ⟨here, others⟩ := List.forall_mem_append.mp agree
    rw [traceIntersection, traceIntersection, trace_congr hv hw first here,
      traceIntersection_congr hv hw rest others]

end

end Traces

/-! ### Strict objects -/

theorem extraneous_ne_nil {fields : List (String × Schema)} {es : List (String × Value)}
    {e : String × Value} (he : e ∈ es) (other : ∀ f ∈ fields, f.1 ≠ e.1) :
    extraneous fields es ≠ [] := by
  refine List.ne_nil_of_mem (a := e.1) (List.mem_filter.mpr ⟨List.mem_map_of_mem he, ?_⟩)
  simpa using fun name s h heq => other (name, s) h heq

/-- A strict object makes no call for a map with a key that is no field, and rejects it where it
is.  A map with other keys than texts has to be written for it. -/
theorem trace_strict_cases {fields : List (String × Schema)} {v : Value}
    {entries : List (Value × Value)} (hv : v.entries? = some entries) {e : Value × Value}
    (he : e ∈ entries) (other : ∀ f ∈ fields, e.1 ≠ .str f.1) (p : Node) :
    (∃ reason : String, (object fields true).trace v p = pure (p.reject reason)) ∨
      v.fields? = none ∧ v.isWritable = false ∧
        (object fields true).trace v p = .ofResult (.error .integerUnwritable) := by
  cases hes : Value.named? entries with
  | none =>
    have none : v.fields? = none := by rw [Value.fields?, hv, Option.bind_some, hes]
    rw [trace, none]
    cases written : v.isWritable with
    | true =>
      rw [Value.writeLiteral_of_isWritable written]
      exact .inl ⟨_, rfl⟩
    | false =>
      rw [Value.writeLiteral_eq_error_iff.mpr ⟨rfl, written⟩]
      exact .inr ⟨rfl, rfl, rfl⟩
  | some es =>
    rw [trace, Value.fields?, hv, Option.bind_some, hes]
    refine .inl ?_
    obtain ⟨name, hkey, hmem⟩ := Value.exists_named hes he
    have some : extraneous fields es ≠ [] :=
      extraneous_ne_nil hmem fun f hf heq => other f hf (hkey.trans (congrArg _ heq.symm))
    refine ⟨_, if_pos ?_⟩
    simpa using some

/-- **Objects see a map through their fields only.**  Where two maps have the same values under the
field names of the objects in a schema, an absent key counting as null, and for each strict one the
same other keys in the same order, the schema makes the same calls for both and comes to the same node
or fault, whatever the parent.  And a strict object rejects each map with a key that is no field at
the node of the parent, unless the map has to be written, as not all of its keys are texts, and cannot be. -/
theorem trace_eq_of_agree (p : Node) :
    (∀ (s : Schema) (v w : Value) (es fs : List (String × Value)), s.isObjectwise = true →
      v.fields? = some es → w.fields? = some fs → (∀ o ∈ s.objects, Agree o.1 o.2 es fs) →
        s.trace v p = s.trace w p) ∧
    ∀ (fields : List (String × Schema)) (v : Value) (entries : List (Value × Value)),
      v.entries? = some entries → (∃ e ∈ entries, ∀ f ∈ fields, e.1 ≠ .str f.1) →
        (∃ reason : String, (object fields true).trace v p = pure (p.reject reason)) ∨
          v.fields? = none ∧ v.isWritable = false ∧
            (object fields true).trace v p = .ofResult (.error .integerUnwritable) := by
  refine ⟨fun s v w es fs built hv hw agree => trace_congr hv hw built agree p, ?_⟩
  rintro fields v entries hv ⟨e, he, other⟩
  exact trace_strict_cases hv he other p

/-- An optional choice between lists and two objects, one of them strict. -/
def twoObjects : Schema :=
  let check : Predicate :=
    { name := "is_number", literal := "<function is_number>", test := fun v => .ok v.isNumber }
  optional (some (union [type (.kind .list), intersection
    [object [("a", custom check), ("b", optional none)] false,
      object [("b", optional none), ("a", number {})] true]]))

/-- The order of keys and a null do not matter, and the other key is seen by the strict object. -/
theorem trace_eq_of_agree_reordered : ∃ v w : Value,
    v = .map [(.str "x", .int 0), (.str "a", .int 1), (.str "b", .null)] ∧
    w = .map [(.str "a", .int 1), (.str "x", .bool true)] ∧
    twoObjects.trace v .root = twoObjects.trace w .root ∧
    ∃ reason : String, (object [("a", number {})] true).trace v (Node.root.child "m") =
      pure ((Node.root.child "m").reject reason) := by
  have same := (trace_eq_of_agree .root).1 twoObjects
  have strict := (trace_eq_of_agree (Node.root.child "m")).2
  refine ⟨_, _, rfl, rfl, same _ _ _ _ rfl rfl rfl ?_, (strict _ _ _ rfl ?_).resolve_right ?_⟩
  · simp only [twoObjects, objects, objectsAll, List.nil_append, List.append_nil, List.cons_append,
      List.forall_mem_cons, List.not_mem_nil, false_implies, implies_true, and_true]
    constructor
    · exact ⟨by simp [fieldValue], fun h => nomatch h⟩
    · exact ⟨by simp [fieldValue], fun _ => by decide⟩
  · exact ⟨_, List.mem_cons_self .., by simp⟩
  · rintro ⟨none, -⟩
    cases none

/-- A strict object fails at a map whose only key is no text and whose value cannot be written. -/
theorem strict_fails_at_large_integer :
    ((object [] true).trace (.map [(.int 1, .int (Nat.pow 10 5000))]) .root).result =
      .error .integerUnwritable := by
  decide +kernel

end Schema

end Conform
