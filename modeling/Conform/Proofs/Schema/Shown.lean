import Conform.Proofs.Schema.Complaint
/-!
# What a complaint shows

A complaint is made of fixed words, of literals, which are printable, and of texts that it `Shows` as
they are: an unknown type, the pattern that has no match, the members of a union, extraneous keys,
what is known of a predicate.  Nothing else can break a line, and each of these does if it is broken
itself (`unbroken_complaint_iff`).
-/
namespace Conform.Schema

open Text

variable {v : Value} {text m : String}

/-- The texts that the complaint of a schema itself, not of its parts or members, shows as they are.
-/
inductive ShowsItself : Schema → Value → String → Prop where
  | type {t : ExpectedType} {v : Value} (other : t ≠ .kind v.kind) :
      ShowsItself (type t) v t.describe
  | pattern {r : StringRule} {s : String} {q : Pattern} (misses : r.Misses s q) :
      ShowsItself (string r) (.str s) q.source
  | unmatched {members : List Schema} {v : Value} {member : Schema}
      (rejected : ∀ s ∈ members, s.validate v = .ok false)
      (written : areWritable false members = true) (mem : member ∈ members) :
      ShowsItself (union members) v member.describe
  | unknown {fields : List (String × Schema)} {v : Value} {entries : List (String × Value)}
      {key : String} (named : v.fields? = some entries) (mem : key ∈ extraneous fields entries) :
      ShowsItself (object fields true) v key
  | predicate {q : Predicate} {v : Value} (rejected : q.test v = .ok false) :
      ShowsItself (custom q) v q.name
  | faultKind {q : Predicate} {v : Value} {f : Fault} (fault : q.test v = .error f) :
      ShowsItself (custom q) v f.kind
  | faultMessage {q : Predicate} {v : Value} {f : Fault} (fault : q.test v = .error f) :
      ShowsItself (custom q) v f.message

/-- The texts that the complaint about a value shows as they are: those of the schema itself, of the
first part that is not accepted, or of the member of a union that fails. -/
inductive Shows : Schema → Value → String → Prop where
  | itself {s : Schema} {v : Value} {text : String} (h : s.ShowsItself v text) : Shows s v text
  | part {s : Schema} {v : Value} {before : List Check} {c : Check} {after : List Check}
      {text : String} (parts : s.parts? v = some (before ++ c :: after))
      (passed : ∀ b ∈ before, b.validate = .ok true) (h : Shows c.schema c.value text) :
      Shows s v text
  | member {before : List Schema} {s : Schema} {after : List Schema} {v : Value} {f : Fault}
      {text : String} (rejected : ∀ t ∈ before, t.validate v = .ok false)
      (fault : s.validate v = .error f) (h : Shows s v text) :
      Shows (union (before ++ s :: after)) v text

/-! ### Where a text is shown -/

/-- A union whose members reject up to one that fails fails like this member. -/
theorem validate_of_member {before after : List Schema} {s : Schema} {f : Fault}
    (rejected : ∀ t ∈ before, t.validate v = .ok false) (fault : s.validate v = .error f) :
    (union (before ++ s :: after)).validate v = .error f := by
  rw [validate_union, anyM_eq_error_iff.mpr ⟨before, s, after, rfl, rejected, fault⟩]
  rfl

/-- A schema that shows a text itself complains, and not of a part. -/
theorem ShowsItself.complaint {s : Schema} (h : s.ShowsItself v text) :
    s.complaint v ≠ none ∧ s.parts? v = none := by
  cases h with
  | type other => exact ⟨by simp [complaint_type other], rfl⟩
  | pattern misses => exact ⟨by simp [complaint_of_misses misses], rfl⟩
  | unmatched rejected written => exact ⟨by simp [complaint_of_rejected rejected, written], rfl⟩
  | unknown named mem =>
    have others := List.ne_nil_of_mem mem
    exact ⟨by simp [complaint_of_extraneous named others], by simp [parts?, named, others]⟩
  | predicate rejected => exact ⟨by simp [complaint_custom, rejected], rfl⟩
  | faultKind fault => exact ⟨by simp [complaint_custom, fault], rfl⟩
  | faultMessage fault => exact ⟨by simp [complaint_custom, fault], rfl⟩

/-- What shows a text complains. -/
theorem Shows.complaint {s : Schema} (h : s.Shows v text) : s.complaint v ≠ none := by
  induction h with
  | itself h => exact h.complaint.1
  | part parts _ _ ih =>
    rw [Ne, complaint_of_parts? parts, List.findSome?_eq_none_iff]
    exact fun none => ih (none _ List.mem_append_cons_self)
  | member rejected fault _ _ =>
    simp [complaint_of_error (validate_of_member rejected fault)]

/-- The first part about which there is a complaint decides what is shown. -/
theorem shows_iff_of_parts? {s : Schema} {before : List Check} {c : Check} {after : List Check}
    (parts : s.parts? v = some (before ++ c :: after))
    (passed : ∀ d ∈ before, d.validate = .ok true) (fails : c.validate ≠ .ok true) :
    s.Shows v text ↔ c.schema.Shows c.value text := by
  refine ⟨fun h => ?_, .part parts passed⟩
  cases h with
  | itself h =>
    rw [h.complaint.2] at parts
    cases parts
  | part parts' passed' h =>
    rw [parts, Option.some.injEq] at parts'
    have fails' := mt complaint_eq_none_iff.mpr h.complaint
    obtain rfl := first_unique parts' passed fails passed' fails'
    exact h
  | member => cases parts

/-- The first member that does not reject decides what is shown, if it fails. -/
theorem shows_union_iff {members before : List Schema} {s : Schema} {after : List Schema}
    {f : Fault} (split : members = before ++ s :: after)
    (rejected : ∀ t ∈ before, t.validate v = .ok false) (fault : s.validate v = .error f) :
    (union members).Shows v text ↔ s.Shows v text := by
  refine ⟨fun h => ?_, fun h => split ▸ .member rejected fault h⟩
  have fails : ¬s.validate v = .ok false := by simp [fault]
  cases h with
  | itself h =>
    cases h with
    | unmatched rejected' => exact absurd (rejected' s (by simp [split])) fails
  | part parts => cases parts
  | member rejected' fault' h =>
    obtain rfl := first_unique split.symm rejected fails rejected' (by simp [fault'])
    exact h

/-- What is judged as a whole and is no union with a member that fails shows what it shows itself. -/
theorem shows_iff_of_whole {s : Schema} (whole : s.parts? v = none)
    (decided : ∀ members f, s = union members → (members.anyM fun t => t.validate v) ≠ .error f) :
    s.Shows v text ↔ s.ShowsItself v text := by
  refine ⟨fun h => ?_, .itself⟩
  cases h with
  | itself h => exact h
  | part parts =>
    rw [whole] at parts
    cases parts
  | member rejected fault _ =>
    exact absurd (anyM_eq_error_iff.mpr ⟨_, _, _, rfl, rejected, fault⟩) (decided _ _ rfl)

/-! ### What breaks a complaint -/

variable {b : LineBreaks}

/-- Whether a complaint is broken by the texts that a schema shows itself, and by nothing else. -/
def BrokenBy (b : LineBreaks) (s : Schema) (v : Value) (m : String) : Prop :=
  b.Unbroken m ↔ ∀ text, s.ShowsItself v text → b.Unbroken text

theorem brokenBy_of_printable {s : Schema} (printable : Printable m)
    (nothing : ∀ text, ¬s.ShowsItself v text) : s.BrokenBy b v m :=
  iff_of_true (b.unbroken_of_printable printable) fun text h => absurd h (nothing text)

theorem brokenBy_type {t : ExpectedType} (h : (type t).complaint v = some m) :
    (type t).BrokenBy b v m := by
  have other : t ≠ .kind v.kind := by
    intro same
    have accepts : (type t).complaint v = none := by
      change (pure (t.check v .root) : Traced Node).complaint = none
      rw [ExpectedType.check, if_pos same, Traced.complaint_accept]
    rw [accepts] at h
    cases h
  obtain rfl := Option.some.inj ((complaint_type other).symm.trans h)
  have shown : b.Unbroken s!"expected {t.describe}, found {v.kind.shownName}" ↔
      b.Unbroken t.describe := by
    have kind := b.unbroken_of_printable v.kind.printable_shownName
    have first := b.unbroken_of_printable (by decide : Printable "expected ")
    have second := b.unbroken_of_printable (by decide : Printable ", found ")
    simp [kind, first, second]
  refine shown.trans ⟨fun unbroken text h => ?_, fun h => h _ (.type other)⟩
  cases h
  exact unbroken

theorem brokenBy_string {r : StringRule} (h : (string r).complaint v = some m) :
    (string r).BrokenBy b v m := by
  by_cases missed : ∃ s q, v = .str s ∧ r.Misses s q
  · obtain ⟨s, q, rfl, misses⟩ := missed
    obtain rfl := Option.some.inj ((complaint_of_misses misses).symm.trans h)
    have shown : b.Unbroken
        s!"value did not match (pattern: '{q.source}', actual: {(Value.str s).literal})" ↔
        b.Unbroken q.source := by
      have literal := b.unbroken_of_printable (Value.str s).printable_literal
      have first := b.unbroken_of_printable
        (by decide : Printable "value did not match (pattern: '")
      have second := b.unbroken_of_printable (by decide : Printable "', actual: ")
      have third := b.unbroken_of_printable (by decide : Printable ")")
      simp [literal, first, second, third]
    refine shown.trans ⟨fun unbroken text h => ?_, fun h => h _ (.pattern misses)⟩
    cases h with
    | pattern misses' =>
      obtain rfl := Option.some.inj (misses.pattern.symm.trans misses'.pattern)
      exact unbroken
  · have found : ∀ s q, v = .str s → ¬r.Misses s q := fun s q hv hm => missed ⟨s, q, hv, hm⟩
    refine brokenBy_of_printable (printable_of_string h found) fun text h => ?_
    cases h with
    | pattern misses => exact found _ _ rfl misses

theorem brokenBy_union {members : List Schema}
    (rejected : ∀ s ∈ members, s.validate v = .ok false)
    (h : (union members).complaint v = some m) : (union members).BrokenBy b v m := by
  rw [complaint_of_rejected rejected] at h
  cases written : areWritable false members with
  | true =>
    rw [written, if_pos rfl] at h
    obtain rfl := Option.some.inj h
    refine (LineBreaks.unbroken_listed (by decide)).trans (List.forall_mem_map.trans
      ⟨fun unbroken text h => ?_, fun h s hs => h _ (.unmatched rejected written hs)⟩)
    cases h with
    | unmatched _ _ mem => exact unbroken _ mem
  | false =>
    -- What cannot be written is not shown.
    rw [written, if_neg Bool.false_ne_true] at h
    obtain rfl := Option.some.inj h
    refine brokenBy_of_printable Fault.printable_integerUnwritable fun text h => ?_
    cases h with
    | unmatched _ written' _ =>
      rw [written] at written'
      cases written'

/-- An object that is not checked field by field is none, or it has keys that it should not have. -/
theorem brokenBy_object {fields : List (String × Schema)} {strict : Bool}
    (whole : (object fields strict).parts? v = none)
    (h : (object fields strict).complaint v = some m) :
    (object fields strict).BrokenBy b v m := by
  cases named : v.fields? with
  | none =>
    rw [complaint, trace, named] at h
    have printable : Printable m := printable_of_shown (by decide : Printable "not an object: ") h
    refine brokenBy_of_printable printable fun text h => ?_
    cases h with
    | unknown named' =>
      rw [named] at named'
      cases named'
  | some entries =>
    have known : (strict && !(extraneous fields entries).isEmpty) = true := by
      simpa [parts?, named] using whole
    obtain ⟨rfl, others⟩ := Bool.and_eq_true_iff.mp known
    have others : extraneous fields entries ≠ [] := by simpa using others
    obtain rfl := Option.some.inj ((complaint_of_extraneous named others).symm.trans h)
    refine (LineBreaks.unbroken_listed (by decide)).trans
      ⟨fun unbroken text h => ?_, fun h key hkey => h _ (.unknown named hkey)⟩
    cases h with
    | unknown named' mem =>
      obtain rfl := Option.some.inj (named.symm.trans named')
      exact unbroken _ mem

theorem unbroken_unexpected {f : Fault} :
    b.Unbroken f.unexpected ↔ b.Unbroken f.kind ∧ b.Unbroken f.message := by
  have first := b.unbroken_of_printable (by decide : Printable "Unexpected error during check: ")
  have second := b.unbroken_of_printable (by decide : Printable ": ")
  unfold Fault.unexpected
  generalize f.kind = kind
  generalize f.message = message
  simp [first, second]

theorem brokenBy_custom {q : Predicate} (h : (custom q).complaint v = some m) :
    (custom q).BrokenBy b v m := by
  rw [complaint_custom] at h
  cases test : q.test v with
  | error f =>
    rw [test] at h
    obtain rfl : f.unexpected = m := Option.some.inj h
    refine unbroken_unexpected.trans ⟨fun unbroken text h => ?_,
      fun h => ⟨h _ (.faultKind test), h _ (.faultMessage test)⟩⟩
    cases h with
    | predicate rejected =>
      rw [test] at rejected
      cases rejected
    | faultKind fault =>
      obtain rfl := Except.error.inj (test.symm.trans fault)
      exact unbroken.1
    | faultMessage fault =>
      obtain rfl := Except.error.inj (test.symm.trans fault)
      exact unbroken.2
  | ok accepted =>
    rw [test] at h
    cases accepted with
    | true => cases h
    | false =>
      obtain rfl : s!"callback {q.name} rejected" = m := Option.some.inj h
      have shown : b.Unbroken s!"callback {q.name} rejected" ↔ b.Unbroken q.name := by
        have first := b.unbroken_of_printable (by decide : Printable "callback ")
        have second := b.unbroken_of_printable (by decide : Printable " rejected")
        simp [first, second]
      refine shown.trans ⟨fun unbroken text h => ?_, fun h => h _ (.predicate test)⟩
      cases h with
      | predicate => exact unbroken
      | faultKind fault =>
        rw [test] at fault
        cases fault
      | faultMessage fault =>
        rw [test] at fault
        cases fault

/-- A collection whose elements are not checked is of a wrong size. -/
theorem printable_of_elements {element : Schema} {r : SizeRule} {entries : List (String × Value)}
    (whole : elementChecks? element r entries = none)
    (h : (traceCollection (fun w n => element.trace w n) r .root entries).complaint = some m) :
    Printable m := by
  unfold traceCollection at h
  cases hsize : r.check (entries.map (·.2)) with
  | error f =>
    rw [hsize] at h
    cases h
    exact SizeRule.printable_fault_of_check hsize
  | ok wrong =>
    cases wrong with
    | none => exact absurd hsize (elementChecks?_eq_none_iff.mp whole)
    | some reason =>
      rw [hsize] at h
      cases h
      exact SizeRule.printable_of_check hsize

/-- A collection that is not checked item by item is none, or it is of a wrong size. -/
theorem printable_of_collection {element : Schema} {r : SizeRule}
    (whole : (collection element r).parts? v = none)
    (h : (collection element r).complaint v = some m) : Printable m := by
  rw [complaint, trace] at h
  cases label : v.label with
  | error f =>
    rw [label] at h
    cases h
    unfold Value.label at label
    split at label <;> cases label
    exact Fault.printable_integerUnwritable
  | ok labelled =>
    rw [label] at h
    cases labelled with
    | none => exact printable_of_shown (by decide) h
    | some entries => exact printable_of_elements (by simpa [parts?, label] using whole) h

theorem printable_of_array {element : Schema} {r : SizeRule}
    (whole : (array element r).parts? v = none)
    (h : (array element r).complaint v = some m) : Printable m := by
  rw [complaint, trace] at h
  cases sequence : v.isSequence with
  | false =>
    rw [sequence] at h
    exact printable_of_shown (by decide) h
  | true =>
    rw [sequence, if_pos rfl] at h
    exact printable_of_elements (by simpa [parts?, sequence] using whole) h

/-- What judges a value as a whole is broken by what it shows itself, unless a member of it fails. -/
theorem brokenBy_of_whole {s : Schema} (whole : s.parts? v = none)
    (decided : ∀ members f, s = union members → (members.anyM fun t => t.validate v) ≠ .error f)
    (h : s.complaint v = some m) : s.BrokenBy b v m := by
  cases s with
  | type t => exact brokenBy_type h
  | string r => exact brokenBy_string h
  | number r => exact brokenBy_of_printable (printable_of_number h) fun _ h => by cases h
  | enumeration candidates =>
    exact brokenBy_of_printable (printable_of_enumeration h) fun _ h => by cases h
  | optional wrapped =>
    -- An optional schema that judges a value itself accepts it, or the value cannot be written.
    refine brokenBy_of_printable ?_ fun _ h => by cases h
    rw [complaint] at h
    cases hnull : v.isNull with
    | true => cases wrapped <;> rw [trace, if_pos hnull] at h <;> cases h
    | false =>
      cases wrapped with
      | some s => simp [parts?, hnull] at whole
      | none =>
        rw [trace, if_neg (by simp [hnull])] at h
        exact printable_of_bind (fun _ => Value.printable_fault_of_writeLiteral)
          (fun _ _ h => by cases h) h
  | union members =>
    refine brokenBy_union ?_ h
    cases hany : members.anyM fun t => t.validate v with
    | error f => exact absurd hany (decided members f rfl)
    | ok accepted =>
      cases accepted with
      | true =>
        have valid : (union members).validate v = .ok true := by
          rw [validate_union, hany]
          rfl
        rw [complaint_eq_none_iff.mpr valid] at h
        cases h
      | false => exact anyM_eq_false_iff.mp hany
  | intersection members => cases whole
  | object fields strict => exact brokenBy_object whole h
  | collection element r =>
    exact brokenBy_of_printable (printable_of_collection whole h) fun _ h => by cases h
  | array element r => exact brokenBy_of_printable (printable_of_array whole h) fun _ h => by cases h
  | custom q => exact brokenBy_custom h

/-- **What breaks a complaint.**  A complaint about a value stays on one line exactly if the texts do
that it shows as they are. -/
theorem unbroken_complaint_iff {s : Schema} (h : s.complaint v = some m) :
    b.Unbroken m ↔ ∀ text, s.Shows v text → b.Unbroken text := by
  induction s using inductionOnChildren generalizing v m with
  | step s ih =>
    -- Either the reason is that of the first part that fails, or the schema rejects the value as a whole.
    cases parts : s.parts? v with
    | some checks =>
      rw [complaint_of_parts? parts, List.findSome?_eq_some_iff] at h
      obtain ⟨before, c, after, rfl, hc, none⟩ := h
      have passed : ∀ d ∈ before, d.validate = .ok true :=
        fun d hd => complaint_eq_none_iff.mp (none d hd)
      have fails : c.validate ≠ .ok true := by
        intro accepted
        have := complaint_eq_none_iff.mpr accepted
        rw [Check.complaint] at hc
        rw [hc] at this
        cases this
      simp only [shows_iff_of_parts? parts passed fails]
      exact ih c.schema (mem_children_of_parts? parts c (by simp)) hc
    | none =>
      -- A union whose search goes wrong gives the reason of the member at which it does.
      by_cases decided : ∀ members f, s = union members →
          (members.anyM fun t => t.validate v) ≠ .error f
      · simp only [shows_iff_of_whole parts decided]
        exact brokenBy_of_whole parts decided h
      · simp only [not_forall, ne_eq, not_not] at decided
        obtain ⟨members, f, rfl, fails⟩ := decided
        obtain ⟨before, t, after, rfl, rejected, fault⟩ := anyM_eq_error_iff.mp fails
        simp only [shows_union_iff rfl rejected fault]
        have same : t.complaint v = some m := by
          rw [complaint_of_error fault, ← complaint_of_error (validate_of_member rejected fault), h]
        exact ih t (by simp [children]) same

end Conform.Schema
