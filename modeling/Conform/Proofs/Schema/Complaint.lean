import Conform.Proofs.Schema.Validate
import Conform.Proofs.Text.Literals
import Conform.Proofs.Value.Writing
/-!
# Complaints

Where a check does not accept, a report has one complaint about it: the reason of the rejection, or
the fault.  The complaint about a value whose parts are checked is that about the first part about
which there is one.  Below is what each single schema complains of; most of it is printable whatever
the value and the options.
-/
namespace Conform

/-- What is reported of a fault that ends a check. -/
def Fault.unexpected (f : Fault) : String :=
  s!"Unexpected error during check: {f.kind}: {f.message}"

/-- What is reported of a check that does not accept. -/
def Traced.complaint (t : Traced Node) : Option String :=
  match t.result with
  | .error f => some f.unexpected
  | .ok n => if n.isValid then none else some (n.reason.getD "None")

namespace Traced

@[simp] theorem complaint_accept (p : Node) (reason : String) :
    (pure (p.accept reason) : Traced Node).complaint = none := rfl

@[simp] theorem complaint_reject (p : Node) (reason : String) :
    (pure (p.reject reason) : Traced Node).complaint = some reason := rfl

theorem complaint_eq_none_iff {t : Traced Node} : t.complaint = none ↔ t.verdict = .ok true := by
  unfold complaint verdict
  cases t.result with
  | error f => simp [Except.map]
  | ok n => cases hn : n.isValid <;> simp [Except.map, hn]

/-- A check that goes on after each acceptance. -/
theorem complaint_and (x rest : Traced Node) :
    (x >>= fun n => if n.isValid then rest else pure n).complaint =
      x.complaint.or rest.complaint := by
  change (x.bind _).complaint = _
  unfold Traced.bind complaint
  cases x.result with
  | error f => rfl
  | ok n => cases hn : n.isValid <;> simp [hn, pure, ofResult]

end Traced

namespace Schema

/-- What is reported of a value that is not accepted. -/
def complaint (s : Schema) (v : Value) : Option String := (s.trace v .root).complaint

/-- The complaint is the same below every node. -/
theorem complaint_trace (s : Schema) (v : Value) (p : Node) :
    (s.trace v p).complaint = s.complaint v := by
  obtain ⟨-, outcome, -, hresult⟩ := trace_uniform s v
  have places : ∀ q, (s.trace v q).result = outcome.map (·.place q) := hresult
  rw [complaint, Traced.complaint, Traced.complaint, places, places]
  cases outcome <;> rfl

theorem complaint_eq_none_iff {s : Schema} {v : Value} :
    s.complaint v = none ↔ s.validate v = .ok true := by
  rw [complaint, Traced.complaint_eq_none_iff, verdict_trace]

theorem complaint_of_error {s : Schema} {v : Value} {f : Fault} (h : s.validate v = .error f) :
    s.complaint v = some f.unexpected := by
  rw [complaint, Traced.complaint, (result_eq_error_iff .root).mpr h]

/-! ### The first part about which there is a complaint -/

theorem complaint_traceIntersection (v : Value) (p : Node) (ss : List Schema) :
    (traceIntersection v p ss).complaint = ss.findSome? fun s => s.complaint v := by
  induction ss with
  | nil => rfl
  | cons s ss ih =>
    rw [traceIntersection, Traced.complaint_and, complaint_trace, ih, List.findSome?_cons]
    cases s.complaint v <;> rfl

theorem complaint_traceFields (entries : List (String × Value)) (p : Node)
    (fs : List (String × Schema)) : (traceFields entries p fs).complaint =
      fs.findSome? fun f => f.2.complaint (fieldValue f.1 entries) := by
  induction fs with
  | nil => rfl
  | cons f fs ih =>
    rw [traceFields, Traced.complaint_and, complaint_trace, ih, List.findSome?_cons]
    cases f.2.complaint (fieldValue f.1 entries) <;> rfl

theorem complaint_traceEntries (s : Schema) (p : Node) (entries : List (String × Value)) :
    (traceEntries (fun w n => s.trace w n) p entries).complaint =
      entries.findSome? fun e => s.complaint e.2 := by
  induction entries with
  | nil => rfl
  | cons e entries ih =>
    rw [traceEntries, Traced.complaint_and, complaint_trace, ih, List.findSome?_cons]
    cases s.complaint e.2 <;> rfl

/-- The complaint about a part. -/
def Check.complaint (c : Check) : Option String := c.schema.complaint c.value

theorem complaint_of_parts? {s : Schema} {v : Value} {checks : List Check}
    (h : s.parts? v = some checks) : s.complaint v = checks.findSome? Check.complaint := by
  rw [← complaint_trace s v .root]
  cases parts_of_parts? h with
  | @optional s v present =>
    rw [trace, if_neg (by simp [present]), complaint_trace, List.findSome?_singleton]
    rfl
  | intersection =>
    rw [trace, complaint_traceIntersection, List.findSome?_map]
    rfl
  | @object fields strict v entries named known =>
    have admitted : (strict && !(extraneous fields entries).isEmpty) = false := by
      cases strict <;> simp_all
    simp only [trace, named, admitted, Bool.false_eq_true, if_false]
    rw [complaint_traceFields, List.findSome?_map]
    rfl
  | @elements s element r v entries form labelled size =>
    have collected : (traceCollection (fun w n => element.trace w n) r .root entries).complaint =
        (entries.map fun e => (⟨[.part e.1], element, e.2⟩ : Check)).findSome?
          Check.complaint := by
      rw [traceCollection, size, List.findSome?_map]
      exact complaint_traceEntries element .root entries
    rcases form with ⟨rfl, label⟩ | ⟨rfl, sequence⟩
    · simpa only [trace, label] using collected
    · simpa only [trace, sequence, if_true, labelled, Option.getD_some] using collected

end Schema

/-! ### Complaints of single schemas -/

/-- Whether a text is within the bounds of a rule and has no match for its pattern. -/
structure StringRule.Misses (r : StringRule) (s : String) (q : Pattern) : Prop where
  longEnough : r.minLength ≤ s.length
  shortEnough : ∀ m, r.maxLength = some m → (s.length : Int) ≤ m
  pattern : r.pattern = some q
  search : q.isFoundIn? s = some false

open Text

theorem Kind.printable_name (k : Kind) : Printable k.name := by
  cases k <;> decide

theorem Kind.printable_shownName (k : Kind) : Printable k.shownName := by
  cases k <;> decide

namespace Fault

theorem printable_unexpected {f : Fault} (kind : Printable f.kind) (message : Printable f.message) :
    Printable f.unexpected := by
  unfold unexpected
  simp only [printable_append, printable_toString, kind, message]
  decide

theorem printable_remainderOf {l r : String} (hl : Printable l) (hr : Printable r) :
    Printable (remainderOf l r).unexpected := by
  have kind : (remainderOf l r).kind = "TypeError" := rfl
  have message : Printable s!"unsupported operand type(s) for %: '{l}' and '{r}'" := by
    simp only [printable_append, printable_toString, hl, hr]
    decide
  exact printable_unexpected (kind ▸ by decide) message

theorem printable_unordered {operator l r : String} (ho : Printable operator) (hl : Printable l)
    (hr : Printable r) : Printable (unordered operator l r).unexpected := by
  have kind : (unordered operator l r).kind = "TypeError" := rfl
  have message : Printable s!"'{operator}' not supported between instances of '{l}' and '{r}'" := by
    simp only [printable_append, printable_toString, ho, hl, hr]
    decide
  exact printable_unexpected (kind ▸ by decide) message

end Fault

/-- What is reported of a value that cannot be written. -/
theorem Fault.printable_integerUnwritable : Printable Fault.integerUnwritable.unexpected :=
  Fault.printable_unexpected (by decide) (by decide +kernel)

theorem Fault.printable_endlessComparison : Printable Fault.endlessComparison.unexpected :=
  Fault.printable_unexpected (by decide) (by decide)

/-- A check that does something first reports the fault of that, or what is reported of the rest. -/
theorem printable_of_bind {α : Type} {x : Except Fault α} {next : α → Verdict} {m : String}
    (fault : ∀ f, x = .error f → Printable f.unexpected)
    (rest : ∀ a, x = .ok a → (Traced.ofResult (next a)).complaint = some m → Printable m)
    (h : (Traced.ofResult (x >>= next)).complaint = some m) : Printable m := by
  cases x with
  | error f =>
    cases h
    exact fault f rfl
  | ok a => exact rest a rfl h

namespace Value

theorem printable_typeName (v : Value) : Printable v.typeName := v.kind.printable_name

theorem printable_fault_of_writeLiteral {v : Value} {f : Fault} (h : v.writeLiteral = .error f) :
    Printable f.unexpected := by
  obtain ⟨rfl, -⟩ := writeLiteral_eq_error_iff.mp h
  exact Fault.printable_integerUnwritable

theorem printable_fault_of_writeText {v : Value} {f : Fault} (h : v.writeText = .error f) :
    Printable f.unexpected := by
  obtain ⟨rfl, -⟩ := writeText_eq_error_iff.mp h
  exact Fault.printable_integerUnwritable

theorem printable_of_writeLiteral {v : Value} {s : String} (h : v.writeLiteral = .ok s) :
    Printable s :=
  (writeLiteral_eq_ok_iff.mp h).2 ▸ v.printable_literal

theorem printable_of_writeText {v : Value} {s : String} (h : v.writeText = .ok s)
    (other : v.isStr = false) : Printable s :=
  (writeText_eq_ok_iff.mp h).2 ▸ printable_text other

theorem printable_fault_of_compare {v w : Value} {f : Fault} (h : v.compare w = .error f) :
    Printable f.unexpected := by
  obtain ⟨rfl, -⟩ := compare_eq_error_iff.mp h
  exact Fault.printable_endlessComparison

theorem printable_fault_of_count {vs : List Value} {f : Fault} (h : count vs = .error f) :
    Printable f.unexpected := by
  obtain ⟨rfl, -⟩ := of_count_eq_error h
  exact Fault.printable_endlessComparison

theorem eq_of_asFloat? {v : Value} {f : Fault} (h : v.asFloat? = .error f) :
    f = .integerTooLarge := by
  unfold asFloat? at h
  split at h
  · cases h
  · split at h
    · cases h
    · split at h <;> cases h
      rfl

/-- What may go wrong with a remainder. -/
theorem mem_of_isMultipleOf {v m : Value} {f : Fault} (h : v.isMultipleOf m = .error f) :
    f ∈ [.integerRemainderByZero, .floatRemainderByZero, .integerTooLarge,
      .remainderOf v.typeName m.typeName] := by
  unfold isMultipleOf at h
  split at h
  · split at h <;> cases h
    simp
  · split at h
    · cases h
      simp
    · cases hx : v.asFloat? with
      | error g =>
        rw [hx] at h
        cases h
        simp [eq_of_asFloat? hx]
      | ok x =>
        cases hy : m.asFloat? with
        | error g =>
          rw [hx, hy] at h
          cases h
          simp [eq_of_asFloat? hy]
        | ok y =>
          simp only [hx, hy, bind, Except.bind] at h
          split at h
          · split at h <;> cases h
            simp
          · cases h
            simp

/-- A fault of a remainder is about the types of the operands at most. -/
theorem printable_of_isMultipleOf {v m : Value} {f : Fault} (h : v.isMultipleOf m = .error f) :
    Printable f.unexpected := by
  have faults := mem_of_isMultipleOf h
  simp only [List.mem_cons, List.not_mem_nil, or_false] at faults
  rcases faults with rfl | rfl | rfl | rfl
  · exact Fault.printable_unexpected (by decide) (by decide)
  · exact Fault.printable_unexpected (by decide) (by decide)
  · exact Fault.printable_unexpected (by decide) (by decide)
  · exact Fault.printable_remainderOf v.printable_typeName m.printable_typeName

theorem isStr_of_isMultipleOf {v m : Value} {b : Bool} (h : v.isMultipleOf m = .ok b) :
    m.isStr = false := by
  cases m with
  | str s => simp [isMultipleOf, asInt?, quantity?] at h
  | _ => rfl

theorem printable_of_compareBy {operator : String} (words : Printable operator)
    {test : Quantity → Quantity → Bool} {v bound : Value} {f : Fault}
    (h : compareBy operator test v bound = .error f) : Printable f.unexpected := by
  unfold compareBy at h
  split at h
  · cases h
  · cases h
    exact Fault.printable_unordered words v.printable_typeName bound.printable_typeName

theorem isStr_of_compareBy {operator : String} {test : Quantity → Quantity → Bool}
    {v bound : Value} {b : Bool} (h : compareBy operator test v bound = .ok b) :
    bound.isStr = false := by
  cases bound with
  | str s => simp [compareBy, quantity?] at h
  | _ => rfl

end Value

/-- Whether what is reported of a constraint is printable, where its value is a number. -/
structure Constraint.IsPlain (c : Constraint) : Prop where
  words : Printable c.words
  fault : ∀ v bound f, c.fails v bound = .error f → Printable f.unexpected
  bound : ∀ v bound failed, c.fails v bound = .ok failed → bound.isStr = false

theorem Constraint.isPlain_compareBy (option : Option Value) {operator words : String}
    (test : Quantity → Quantity → Bool) (ho : Printable operator) (hw : Printable words) :
    Constraint.IsPlain ⟨option, Value.compareBy operator test, words⟩ :=
  ⟨hw, fun _ _ _ => Value.printable_of_compareBy ho, fun _ _ _ => Value.isStr_of_compareBy⟩

theorem Constraint.isPlain_isMultipleOf (option : Option Value) {words : String}
    (hw : Printable words) :
    Constraint.IsPlain ⟨option, fun v m => (v.isMultipleOf m).map (!·), words⟩ := by
  refine ⟨hw, fun v m f h => ?_, fun v m failed h => ?_⟩
  · cases hm : v.isMultipleOf m with
    | ok b => simp [hm, Except.map] at h
    | error g =>
      simp only [hm, Except.map, Except.error.injEq] at h
      exact h ▸ Value.printable_of_isMultipleOf hm
  · obtain ⟨b, hb, -⟩ := of_map_eq_ok h
    exact Value.isStr_of_isMultipleOf hb

theorem NumberRule.isPlain_constraints (r : NumberRule) : ∀ c ∈ r.constraints, c.IsPlain := by
  simp only [constraints, List.forall_mem_cons, List.not_mem_nil, false_implies, implies_true,
    and_true]
  exact ⟨Constraint.isPlain_isMultipleOf _ (by decide),
    Constraint.isPlain_compareBy _ _ (by decide : Printable ">") (by decide),
    Constraint.isPlain_compareBy _ _ (by decide : Printable ">=") (by decide),
    Constraint.isPlain_compareBy _ _ (by decide : Printable "<") (by decide),
    Constraint.isPlain_compareBy _ _ (by decide : Printable "<=") (by decide)⟩

theorem printable_of_checkConstraints {v : Value} (number : v.isNumber = true) {p : Node}
    {cs : List Constraint} (plain : ∀ c ∈ cs, c.IsPlain) {m : String}
    (h : (Traced.ofResult (checkConstraints v p cs)).complaint = some m) : Printable m := by
  have value : v.isStr = false := by cases v <;> first | rfl | cases number
  have fault : ∀ f, v.writeText = .error f → Printable f.unexpected :=
    fun _ => Value.printable_fault_of_writeText
  induction cs with
  | nil => exact printable_of_bind fault (fun _ _ h => by cases h) h
  | cons c cs ih =>
    obtain ⟨hc, hcs⟩ := List.forall_mem_cons.mp plain
    rw [checkConstraints] at h
    split at h
    · exact ih hcs h
    · rename_i bound hbound
      refine printable_of_bind (hc.fault _ _) (fun failed hfails h => ?_) h
      cases failed with
      | false => exact ih hcs h
      | true =>
        refine printable_of_bind fault (fun shown hshown h => ?_) h
        refine printable_of_bind (fun _ => Value.printable_fault_of_writeText)
          (fun limit hlimit h => ?_) h
        obtain rfl : s!"{shown} {c.words} {limit}" = m := Option.some.inj h
        simp only [printable_append, printable_toString, Value.printable_of_writeText hshown value,
          hc.words, Value.printable_of_writeText hlimit (hc.bound _ _ _ hfails)]
        decide

/-- What is written of an integer is printable. -/
theorem printable_of_writeText_int {n : Int} {s : String} (h : (Value.int n).writeText = .ok s) :
    Printable s :=
  Value.printable_of_writeText h rfl

/-- What is wrong with a size is shown with numbers. -/
theorem SizeRule.printable_of_check {r : SizeRule} {items : List Value} {reason : String}
    (h : r.check items = .ok (some reason)) : Printable reason := by
  unfold SizeRule.check at h
  dsimp only at h
  split at h
  · obtain ⟨least, hleast, h⟩ := of_bind_eq_ok h
    cases h
    simp only [printable_append, printable_toString, printable_intText,
      printable_of_writeText_int hleast]
    decide
  · split at h
    · obtain ⟨greatest, hgreatest, h⟩ := of_bind_eq_ok h
      cases h
      simp only [printable_append, printable_toString, printable_intText,
        printable_of_writeText_int hgreatest]
      decide
    · split at h
      · obtain ⟨distinct, -, h⟩ := of_bind_eq_ok h
        split at h <;> cases h
        simp only [printable_append, printable_toString, printable_intText, printable_natText]
        decide
      · cases h

/-- A fault on the way to what is wrong with a size. -/
theorem SizeRule.printable_fault_of_check {r : SizeRule} {items : List Value} {f : Fault}
    (h : r.check items = .error f) : Printable f.unexpected := by
  unfold SizeRule.check at h
  dsimp only at h
  split at h
  · cases hleast : (Value.int r.minItems).writeText with
    | error g =>
      rw [hleast] at h
      cases h
      exact Value.printable_fault_of_writeText hleast
    | ok least =>
      rw [hleast] at h
      cases h
  · split at h
    · cases hgreatest : (Value.int (r.maxItems.getD 0)).writeText with
      | error g =>
        rw [hgreatest] at h
        cases h
        exact Value.printable_fault_of_writeText hgreatest
      | ok greatest =>
        rw [hgreatest] at h
        cases h
    · split at h
      · cases hdistinct : Value.count items with
        | error g =>
          rw [hdistinct] at h
          cases h
          exact Value.printable_fault_of_count hdistinct
        | ok distinct =>
          simp only [hdistinct, bind, Except.bind] at h
          split at h <;> cases h
      · cases h

namespace Schema

variable {v : Value} {m : String}

/-- A rejection that shows the value after some words. -/
theorem printable_of_shown {words : String} (printable : Printable words)
    (h : (Traced.ofResult (do return Node.root.reject (words ++ (← v.writeLiteral)))).complaint =
      some m) : Printable m := by
  refine printable_of_bind (fun _ => Value.printable_fault_of_writeLiteral)
    (fun shown hshown h => ?_) h
  obtain rfl : words ++ shown = m := Option.some.inj h
  simp [printable, Value.printable_of_writeLiteral hshown]

theorem printable_of_number {r : NumberRule} (h : (number r).complaint v = some m) :
    Printable m := by
  change (Traced.ofResult (r.check v .root)).complaint = some m at h
  unfold NumberRule.check at h
  cases hnumber : v.isNumber with
  | true =>
    rw [hnumber, if_pos rfl] at h
    exact printable_of_checkConstraints hnumber r.isPlain_constraints h
  | false =>
    rw [hnumber, if_neg Bool.false_ne_true] at h
    exact printable_of_shown (by decide) h

theorem printable_of_enumeration {candidates : List Value}
    (h : (enumeration candidates).complaint v = some m) : Printable m := by
  change (Traced.ofResult (checkEnumeration candidates v .root)).complaint = some m at h
  refine printable_of_bind (fun _ => Value.printable_fault_of_writeLiteral)
    (fun listed hlisted h => ?_) h
  refine printable_of_bind (fun f hf => ?_) (fun found _ h => ?_) h
  · obtain ⟨before, c, after, -, -, fails⟩ := anyM_eq_error_iff.mp hf
    exact Value.printable_fault_of_compare fails
  · cases found with
    | true =>
      exact printable_of_bind (fun _ => Value.printable_fault_of_writeLiteral)
        (fun _ _ h => by cases h) h
    | false =>
      refine printable_of_bind (fun _ => Value.printable_fault_of_writeLiteral)
        (fun shown hshown h => ?_) h
      obtain rfl : s!"{shown} is not in the enum {listed}" = m := Option.some.inj h
      simp only [printable_append, printable_toString, Value.printable_of_writeLiteral hlisted,
        Value.printable_of_writeLiteral hshown]
      decide

theorem complaint_type {t : ExpectedType} (other : t ≠ .kind v.kind) :
    (type t).complaint v = some s!"expected {t.describe}, found {v.kind.shownName}" := by
  change (pure (t.check v .root) : Traced Node).complaint = _
  rw [ExpectedType.check, if_neg other, Traced.complaint_reject]

theorem complaint_of_misses {r : StringRule} {s : String} {q : Pattern} (misses : r.Misses s q) :
    (string r).complaint (.str s) = some
      s!"value did not match (pattern: '{q.source}', actual: {(Value.str s).literal})" := by
  have long : ¬(s.length : Int) < r.minLength := Int.not_lt.mpr misses.longEnough
  change (Traced.ofResult (r.check (.str s) .root)).complaint = _
  simp only [StringRule.check, if_neg long, any_lt_eq_false_iff.mpr misses.shortEnough,
    Bool.false_eq_true, if_false, misses.pattern, Pattern.check, misses.search]
  rfl

/-- The complaint about a text that does not miss its pattern is printable. -/
theorem printable_of_string {r : StringRule} (h : (string r).complaint v = some m)
    (matches_ : ∀ s q, v = .str s → ¬r.Misses s q) : Printable m := by
  change (Traced.ofResult (r.check v .root)).complaint = some m at h
  cases v with
  | str s =>
    simp only [StringRule.check] at h
    -- The text itself is quoted only where no match is found, which is the one case left out.
    by_cases hshort : (s.length : Int) < r.minLength
    · rw [if_pos hshort] at h
      refine printable_of_bind (fun _ => Value.printable_fault_of_writeText)
        (fun least hleast h => ?_) h
      cases h
      simp only [Node.reject, Option.getD_some, printable_append, printable_toString,
        printable_intText, printable_of_writeText_int hleast]
      decide
    rw [if_neg hshort] at h
    cases hlong : r.maxLength.any (· < (s.length : Int)) with
    | true =>
      rw [hlong, if_pos rfl] at h
      refine printable_of_bind (fun _ => Value.printable_fault_of_writeText)
        (fun greatest hgreatest h => ?_) h
      cases h
      simp only [Node.reject, Option.getD_some, printable_append, printable_toString,
        printable_intText, printable_of_writeText_int hgreatest]
      decide
    | false =>
      rw [hlong, if_neg Bool.false_ne_true] at h
      cases hpattern : r.pattern with
      | none =>
        rw [hpattern] at h
        cases h
      | some q =>
        simp only [hpattern, Pattern.check] at h
        cases hfound : q.isFoundIn? s with
        | none =>
          rw [hfound] at h
          cases h
          exact Fault.printable_unexpected (by decide) (by decide)
        | some found =>
          rw [hfound] at h
          cases found with
          | true => cases h
          | false =>
            exact absurd ⟨by omega, any_lt_eq_false_iff.mp hlong, hpattern, hfound⟩
              (matches_ s q rfl)
  | _ => exact printable_of_shown (by decide) h

theorem describeAll_eq_map (ss : List Schema) : describeAll ss = ss.map describe := by
  induction ss with
  | nil => rfl
  | cons s ss ih => rw [describeAll, ih, List.map_cons]

/-- A union of which no member accepts complains with their descriptions, or that they cannot be
written. -/
theorem complaint_of_rejected {members : List Schema}
    (rejected : ∀ s ∈ members, s.validate v = .ok false) : (union members).complaint v =
      if areWritable false members then
        some ("no schema could be matched: " ++ ", ".intercalate (members.map describe))
      else some Fault.integerUnwritable.unexpected := by
  have invalid : (union members).validate v = (writeDescriptions members).map fun _ => false := by
    rw [validate_union, anyM_eq_false_iff.mpr rejected]
    rfl
  unfold writeDescriptions at invalid
  cases hwritable : areWritable false members with
  | false =>
    rw [hwritable] at invalid
    rw [complaint_of_error invalid]
    rfl
  | true =>
    rw [hwritable] at invalid
    obtain ⟨n, hn, hvalid⟩ := of_map_eq_ok (x := ((union members).trace v .root).result) invalid
    have own := eq_of_traceUnion hn hvalid
    rw [writeDescriptions, hwritable] at own
    cases own
    rw [complaint, Traced.complaint, hn, describeAll_eq_map]
    rfl

theorem complaint_of_extraneous {fields : List (String × Schema)}
    {entries : List (String × Value)} (named : v.fields? = some entries)
    (others : extraneous fields entries ≠ []) : (object fields true).complaint v =
      some ("extraneous keys: " ++ ", ".intercalate (extraneous fields entries)) := by
  have unknown : (true && !(extraneous fields entries).isEmpty) = true := by simpa using others
  rw [complaint, trace, named]
  dsimp only
  rw [if_pos unknown, Traced.complaint_reject]

theorem complaint_custom (q : Predicate) (v : Value) : (custom q).complaint v =
    match q.test v with
    | .ok true => none
    | .ok false => some s!"callback {q.name} rejected"
    | .error f => some f.unexpected := by
  change (q.trace v .root).complaint = _
  rw [Traced.complaint, Predicate.trace]
  cases q.test v with
  | error f => rfl
  | ok b => cases b <;> rfl

end Schema

end Conform
