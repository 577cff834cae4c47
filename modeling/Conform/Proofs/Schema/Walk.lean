import Conform.Schema.Trace
/-!
# The walk that does not stop

`trace` ends at the first rejection or fault.  `walk` goes through the same parts of an instance in
the same order and notes every predicate call, every rejection and every fault on its way.  The main
result, `trace_stops_at_firstEvent`, is that a trace is the walk cut at its first event.

A union is judged as a whole: its members are only asked whether their own walks are free of events,
and what they reject is not an event of the union.
-/
namespace Conform

/-- What a check would stop at: a rejecting node or a fault. -/
inductive Event where
  | rejection (n : Node)
  | fault (f : Fault)

/-- A step of a walk. -/
inductive WalkStep where
  | call (c : Call)
  | event (e : Event)

/-- The steps of a walk in order. -/
abbrev Walk := List WalkStep

namespace Walk

/-- The first event of a walk. -/
def firstEvent? : Walk → Option Event
  | [] => none
  | .call _ :: w => firstEvent? w
  | .event e :: _ => some e

/-- The calls that come before the first event. -/
def callsBeforeEvent : Walk → List Call
  | [] => []
  | .call c :: w => c :: callsBeforeEvent w
  | .event _ :: _ => []

/-- The walk of a check that only emits its own event. -/
def ofVerdict : Verdict → Walk
  | .error f => [.event (.fault f)]
  | .ok n => if n.isValid then [] else [.event (.rejection n)]

/-- The walk of a check that accepts as soon as it has an answer. -/
def ofAnswer {α : Type} : Except Fault α → Walk
  | .error f => [.event (.fault f)]
  | .ok _ => []

/-- The calls of a walk up to its first event, as a walk without events. -/
def callsOnly (w : Walk) : Walk := w.callsBeforeEvent.map .call

end Walk

namespace Schema

mutual

/-- The walk of a schema through a value below a node. -/
def walk : Schema → Value → Node → Walk
  | type t, v, parent => .ofVerdict (.ok (t.check v parent))
  | string r, v, parent => .ofVerdict (r.check v parent)
  | number r, v, parent => .ofVerdict (r.check v parent)
  | enumeration candidates, v, parent => .ofVerdict (checkEnumeration candidates v parent)
  | optional none, v, _ => if v.isNull then [] else .ofAnswer v.writeLiteral
  | optional (some s), v, parent =>
    if v.isNull then [] else s.walk v (parent.child optionalSegment)
  -- What the members reject is no event of the union, so that only their calls are kept.
  | union members, v, parent =>
    let rejection : Verdict := do
      return parent.reject s!"no schema could be matched: {← writeDescriptions members}"
    walkUnion v parent rejection members
  | intersection members, v, parent => walkMembers v parent members
  | object fields strict, v, parent =>
    match v.fields? with
    | none => .ofVerdict do return parent.reject s!"not an object: {← v.writeLiteral}"
    | some entries =>
      let others := extraneous fields entries
      if strict && !others.isEmpty then
        .ofVerdict (.ok (parent.reject ("extraneous keys: " ++ ", ".intercalate others)))
      else walkFields entries parent fields
  | collection element r, v, parent =>
    match v.label with
    | .error f => [.event (.fault f)]
    | .ok none => .ofVerdict do
      return parent.reject s!"expected a Map or a List, found {← v.writeLiteral}"
    | .ok (some entries) =>
      match r.check (entries.map (·.2)) with
      | .error f => [.event (.fault f)]
      | .ok (some reason) => [.event (.rejection (parent.reject reason))]
      | .ok none => entries.flatMap fun e => element.walk e.2 (parent.child e.1)
  | array element r, v, parent =>
    if v.isSequence then
      let entries := v.labelled?.getD []
      match r.check (entries.map (·.2)) with
      | .error f => [.event (.fault f)]
      | .ok (some reason) => [.event (.rejection (parent.reject reason))]
      | .ok none => entries.flatMap fun e => element.walk e.2 (parent.child e.1)
    else .ofVerdict do return parent.reject s!"not an array: {← v.writeLiteral}"
  | custom p, v, parent => .call ⟨p, v⟩ :: Walk.ofVerdict (p.trace v parent).result

/-- The calls of the members up to the first that accepts; then nothing, or the own event. -/
def walkUnion (v : Value) (parent : Node) (rejection : Verdict) : List Schema → Walk
  | [] => .ofVerdict rejection
  | s :: ss =>
    let w := s.walk v parent
    match w.firstEvent? with
    | none => w.callsOnly
    | some (.rejection _) => w.callsOnly ++ walkUnion v parent rejection ss
    | some (.fault f) => w.callsOnly ++ [.event (.fault f)]

/-- The walks of all members, one after the other. -/
def walkMembers (v : Value) (parent : Node) : List Schema → Walk
  | [] => []
  | s :: ss => s.walk v parent ++ walkMembers v parent ss

/-- The walks of all fields, one after the other. -/
def walkFields (entries : List (String × Value)) (parent : Node) :
    List (String × Schema) → Walk
  | [] => []
  | (name, s) :: fs =>
    s.walk (fieldValue name entries) (parent.child name) ++ walkFields entries parent fs

end

end Schema

namespace Walk

theorem firstEvent?_append (w w' : Walk) :
    firstEvent? (w ++ w') = (firstEvent? w).or (firstEvent? w') := by
  induction w with
  | nil => rfl
  | cons step w ih =>
    cases step with
    | call c => exact ih
    | event e => rfl

theorem callsBeforeEvent_append_of_none {w : Walk} (h : w.firstEvent? = none) (w' : Walk) :
    callsBeforeEvent (w ++ w') = callsBeforeEvent w ++ callsBeforeEvent w' := by
  induction w with
  | nil => rfl
  | cons step w ih =>
    cases step with
    | call c => exact congrArg (c :: ·) (ih h)
    | event e => simp [firstEvent?] at h

theorem callsBeforeEvent_append_of_some {w : Walk} {e : Event} (h : w.firstEvent? = some e)
    (w' : Walk) : callsBeforeEvent (w ++ w') = callsBeforeEvent w := by
  induction w with
  | nil => simp [firstEvent?] at h
  | cons step w ih =>
    cases step with
    | call c => exact congrArg (c :: ·) (ih h)
    | event e => rfl

@[simp] theorem firstEvent?_callsOnly (w : Walk) : w.callsOnly.firstEvent? = none := by
  unfold callsOnly
  induction w.callsBeforeEvent with
  | nil => rfl
  | cons c cs ih => exact ih

@[simp] theorem callsBeforeEvent_callsOnly (w : Walk) :
    w.callsOnly.callsBeforeEvent = w.callsBeforeEvent := by
  unfold callsOnly
  induction w.callsBeforeEvent with
  | nil => rfl
  | cons c cs ih => exact congrArg (c :: ·) ih

end Walk

/-- An outcome is what a walk comes to at its first event: a fault, a rejection, or an acceptance if
there is none. -/
def Settles (result : Verdict) : Option Event → Prop
  | none => ∃ n, result = .ok n ∧ n.isValid = true
  | some (.rejection n) => result = .ok n ∧ n.isValid = false
  | some (.fault f) => result = .error f

/-- A trace is a walk cut at its first event. -/
structure Traced.Follows (t : Traced Node) (w : Walk) : Prop where
  calls : t.calls = w.callsBeforeEvent
  settles : Settles t.result w.firstEvent?

namespace Traced

theorem follows_ofResult (r : Verdict) : (ofResult r).Follows (.ofVerdict r) := by
  cases r with
  | error f => exact ⟨rfl, rfl⟩
  | ok n =>
    cases h : n.isValid with
    | true =>
      have hw : Walk.ofVerdict (.ok n) = [] := by rw [Walk.ofVerdict, if_pos h]
      rw [hw]
      exact ⟨rfl, n, rfl, h⟩
    | false =>
      have hw : Walk.ofVerdict (.ok n) = [.event (.rejection n)] := by simp [Walk.ofVerdict, h]
      rw [hw]
      exact ⟨rfl, rfl, h⟩

theorem follows_reject {n : Node} (h : n.isValid = false) :
    (pure n : Traced Node).Follows [.event (.rejection n)] :=
  ⟨rfl, rfl, h⟩

theorem follows_answer {α : Type} (x : Except Fault α) {next : α → Node}
    (h : ∀ a, (next a).isValid = true) :
    (ofResult (x >>= fun a => pure (next a))).Follows (.ofAnswer x) := by
  cases x with
  | error f => exact ⟨rfl, rfl⟩
  | ok a => exact ⟨rfl, _, rfl, h a⟩

theorem follows_accept {n : Node} (h : n.isValid = true) : (pure n : Traced Node).Follows [] :=
  ⟨rfl, n, rfl, h⟩

theorem follows_call (c : Call) (r : Verdict) :
    Follows ⟨[c], r⟩ (.call c :: Walk.ofVerdict r) := by
  have h := follows_ofResult r
  exact ⟨congrArg (c :: ·) h.calls, h.settles⟩

/-- A check that goes on after each acceptance follows the two walks one after the other. -/
theorem follows_append {x rest : Traced Node} {w w' : Walk} (hx : x.Follows w)
    (hrest : rest.Follows w') :
    Follows (x >>= fun n => if n.isValid then rest else pure n) (w ++ w') := by
  obtain ⟨hcalls, hsettles⟩ := hx
  show (x.bind _).Follows _
  cases hw : w.firstEvent? with
  | none =>
    rw [hw] at hsettles
    obtain ⟨n, hn, hvalid⟩ := hsettles
    constructor
    · rw [Walk.callsBeforeEvent_append_of_none hw]
      simp [Traced.bind, hn, hvalid, hcalls, hrest.calls]
    · rw [Walk.firstEvent?_append, hw]
      simp [Traced.bind, hn, hvalid, hrest.settles]
  | some e =>
    rw [hw] at hsettles
    -- The check has ended, so that it makes no call of the rest.
    constructor
    · rw [Walk.callsBeforeEvent_append_of_some hw]
      cases e with
      | rejection n => simp [Traced.bind, hsettles.1, hsettles.2, hcalls, pure, ofResult]
      | fault f => simp [Traced.bind, show x.result = .error f from hsettles, hcalls]
    · rw [Walk.firstEvent?_append, hw]
      cases e with
      | rejection n => simp [Traced.bind, hsettles.1, hsettles.2, pure, ofResult, Settles]
      | fault f => simp [Traced.bind, show x.result = .error f from hsettles, Settles]

/-- A union goes on after each rejection, and what it has rejected leaves only calls. -/
theorem follows_orElse {x rest : Traced Node} {w w' : Walk} (hx : x.Follows w)
    (hrest : rest.Follows w') :
    Follows (x >>= fun n => if n.isValid then pure n else rest)
      (match w.firstEvent? with
        | none => w.callsOnly
        | some (.rejection _) => w.callsOnly ++ w'
        | some (.fault f) => w.callsOnly ++ [.event (.fault f)]) := by
  obtain ⟨hcalls, hsettles⟩ := hx
  have hnone := Walk.firstEvent?_callsOnly w
  show (x.bind _).Follows _
  cases hw : w.firstEvent? with
  | none =>
    rw [hw] at hsettles
    obtain ⟨n, hn, hvalid⟩ := hsettles
    constructor
    · simp [Traced.bind, hn, hvalid, hcalls, pure, ofResult]
    · simp [Traced.bind, hn, hvalid, pure, ofResult, Settles]
  | some e =>
    rw [hw] at hsettles
    cases e with
    -- A member that rejects leaves its calls, and the next one is asked.
    | rejection n =>
      obtain ⟨hn, hvalid⟩ := hsettles
      constructor
      · rw [Walk.callsBeforeEvent_append_of_none hnone]
        simp [Traced.bind, hn, hvalid, hcalls, hrest.calls]
      · rw [Walk.firstEvent?_append, hnone]
        simp [Traced.bind, hn, hvalid, hrest.settles]
    -- A fault ends the union as it ends the member.
    | fault f =>
      have hf : x.result = .error f := hsettles
      constructor
      · rw [Walk.callsBeforeEvent_append_of_none hnone]
        simp [Traced.bind, hf, hcalls, Walk.callsBeforeEvent]
      · rw [Walk.firstEvent?_append, hnone]
        simp [Traced.bind, hf, Walk.firstEvent?, Settles]

theorem follows_traceEntries {step : Value → Node → Traced Node} {walk : Value → Node → Walk}
    (h : ∀ v n, (step v n).Follows (walk v n)) (parent : Node) (entries : List (String × Value)) :
    (traceEntries step parent entries).Follows
      (entries.flatMap fun e => walk e.2 (parent.child e.1)) := by
  induction entries with
  | nil => exact follows_accept rfl
  | cons e entries ih =>
    obtain ⟨label, v⟩ := e
    rw [List.flatMap_cons, traceEntries]
    exact follows_append (h v _) ih

theorem follows_traceCollection {step : Value → Node → Traced Node} {walk : Value → Node → Walk}
    (h : ∀ v n, (step v n).Follows (walk v n)) (r : SizeRule) (parent : Node)
    (entries : List (String × Value)) :
    (traceCollection step r parent entries).Follows
      (match r.check (entries.map (·.2)) with
        | .error f => [.event (.fault f)]
        | .ok (some reason) => [.event (.rejection (parent.reject reason))]
        | .ok none => entries.flatMap fun e => walk e.2 (parent.child e.1)) := by
  unfold traceCollection
  cases r.check (entries.map (·.2)) with
  | error f => exact ⟨rfl, rfl⟩
  | ok wrong =>
    cases wrong with
    | some reason => exact follows_reject rfl
    | none => exact follows_traceEntries h parent entries

end Traced

namespace Schema

mutual

/-- Every trace follows the walk through the same parts. -/
theorem trace_follows : ∀ (s : Schema) (v : Value) (p : Node), (s.trace v p).Follows (s.walk v p)
  | type _, _, _ => Traced.follows_ofResult (.ok _)
  | string _, _, _ => Traced.follows_ofResult _
  | number _, _, _ => Traced.follows_ofResult _
  | enumeration _, _, _ => Traced.follows_ofResult _
  | optional none, v, p => by
    rw [trace, walk]
    split
    · exact Traced.follows_accept rfl
    · exact Traced.follows_answer v.writeLiteral fun _ => rfl
  | optional (some s), v, p => by
    rw [trace, walk]
    split
    · exact Traced.follows_accept rfl
    · exact trace_follows s v _
  | union members, v, p => by
    rw [trace, walk]
    exact traceUnion_follows v p _ members
  | intersection members, v, p => by
    rw [trace, walk]
    exact traceIntersection_follows v p members
  | object fields strict, v, p => by
    rw [trace, walk]
    cases v.fields? with
    | none => exact Traced.follows_ofResult _
    -- A strict object rejects unknown names before any field is walked.
    | some entries =>
      dsimp only
      split
      · exact Traced.follows_ofResult (.ok _)
      · exact traceFields_follows entries p fields
  | collection element r, v, p => by
    rw [trace, walk]
    cases v.label with
    | error f => exact ⟨rfl, rfl⟩
    | ok labelled =>
      cases labelled with
      | none => exact Traced.follows_ofResult _
      | some entries => exact Traced.follows_traceCollection (trace_follows element) r p entries
  | array element r, v, p => by
    rw [trace, walk]
    split
    · exact Traced.follows_traceCollection (trace_follows element) r p _
    · exact Traced.follows_ofResult _
  | custom q, v, p => by
    rw [trace, walk]
    exact Traced.follows_call ⟨q, v⟩ _

theorem traceUnion_follows (v : Value) (p : Node) (rejection : Verdict) : ∀ ss : List Schema,
    (traceUnion v p rejection ss).Follows (walkUnion v p rejection ss)
  | [] => Traced.follows_ofResult rejection
  | s :: ss => by
    rw [traceUnion, walkUnion]
    exact Traced.follows_orElse (trace_follows s v p) (traceUnion_follows v p rejection ss)

theorem traceIntersection_follows (v : Value) (p : Node) : ∀ ss : List Schema,
    (traceIntersection v p ss).Follows (walkMembers v p ss)
  | [] => Traced.follows_accept rfl
  | s :: ss => by
    rw [traceIntersection, walkMembers]
    exact Traced.follows_append (trace_follows s v p) (traceIntersection_follows v p ss)

theorem traceFields_follows (entries : List (String × Value)) (p : Node) :
    ∀ fs : List (String × Schema),
      (traceFields entries p fs).Follows (walkFields entries p fs)
  | [] => Traced.follows_accept rfl
  | (name, s) :: fs => by
    rw [traceFields, walkFields]
    exact Traced.follows_append (trace_follows s _ _) (traceFields_follows entries p fs)

end

/-- **A trace is the walk cut at its first event.**  It fails exactly if the first event is a fault,
and with that fault; it rejects exactly if the first event is a rejection, and with that node; it
accepts exactly if there is no event; and it makes the calls that come before the first event. -/
theorem trace_stops_at_firstEvent (s : Schema) (v : Value) (p : Node) :
    (∀ f, (s.trace v p).result = .error f ↔ (s.walk v p).firstEvent? = some (.fault f)) ∧
    (∀ n, (s.trace v p).result = .ok n ∧ n.isValid = false ↔
      (s.walk v p).firstEvent? = some (.rejection n)) ∧
    ((∃ n, (s.trace v p).result = .ok n ∧ n.isValid = true) ↔
      (s.walk v p).firstEvent? = none) ∧
    (s.trace v p).calls = (s.walk v p).callsBeforeEvent := by
  obtain ⟨hcalls, hsettles⟩ := trace_follows s v p
  -- Each of the three ways to end belongs to one kind of first event.
  refine ⟨?_, ?_, ?_, hcalls⟩
  all_goals
    cases he : (s.walk v p).firstEvent? with
    | none =>
      rw [he] at hsettles
      obtain ⟨n, hn, hvalid⟩ := hsettles
      simp_all
    | some e =>
      rw [he] at hsettles
      cases e <;> simp_all [Settles]

end Schema

end Conform
