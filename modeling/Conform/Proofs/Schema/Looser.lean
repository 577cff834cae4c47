import Conform.Proofs.Schema.Verdict
/-!
# Loosening a schema

A schema is loosened by easing its options or by leaving out what it asks for, at any depth.  Each
way to do so keeps what is accepted, as is seen from the meaning of the schema, where no order of
checks and no dropped repetition among candidates plays a part.  The main result,
`accepted_of_looser`, carries this over to traces.
-/
namespace Conform

/-- Whether a greatest length or number is raised, left as it is or removed. -/
def Raised (old new : Option Int) : Prop := ∀ m, new = some m → ∃ k, old = some k ∧ k ≤ m

/-- Whether a least length or number is lowered, left as it is or removed, which makes it zero. -/
def Lowered (old new : Int) : Prop := new ≤ old ∨ new = 0

theorem Raised.keeps {old new : Option Int} (h : Raised old new) {n : Int}
    (within : ∀ m, old = some m → n ≤ m) : ∀ m, new = some m → n ≤ m := by
  intro m hm
  obtain ⟨k, hk, hkm⟩ := h m hm
  exact Int.le_trans (within k hk) hkm

theorem Lowered.keeps {old new : Int} (h : Lowered old new) {n : Nat} (within : old ≤ n) :
    new ≤ n := by
  rcases h with h | h
  · exact Int.le_trans h within
  · omega

/-! ### Bounds of numbers -/

/-- Whether a bound is left as it is, removed, or moved in a direction. -/
inductive Eased (moves : Quantity → Quantity → Prop) : Option Value → Option Value → Prop where
  | same (b : Option Value) : Eased moves b b
  | removed (b : Option Value) : Eased moves b none
  | moved {a b : Value} {p q : Quantity} (old : a.quantity? = some p) (new : b.quantity? = some q)
      (direction : moves p q) : Eased moves (some a) (some b)

/-- Quantities that come up to others, as no undefined one does. -/
def Upwards (p q : Quantity) : Prop := p.le q = true

/-- Quantities that come down to others. -/
def Downwards (p q : Quantity) : Prop := q.le p = true

/-- What a bound lets pass, it lets pass when it is moved in a direction in which it fails less. -/
theorem Eased.keeps {moves : Quantity → Quantity → Prop} {test : Quantity → Quantity → Bool}
    {old new : Option Value} (h : Eased moves old new) {operator : String} {v : Value}
    {x : Quantity} (hv : v.quantity? = some x)
    (passes : ∀ a, old = some a → Value.compareBy operator test v a = .ok false)
    (fewer : ∀ p q, moves p q → test x q = true → test x p = true) :
    ∀ b, new = some b → Value.compareBy operator test v b = .ok false := by
  intro b hb
  cases h with
  | same => exact passes b hb
  | removed => cases hb
  | moved ha hb' direction =>
    cases hb
    have allowed := passes _ rfl
    simp only [Value.compareBy, hv, ha, Except.ok.injEq] at allowed
    simp only [Value.compareBy, hv, hb', Except.ok.injEq]
    refine Bool.eq_false_iff.mpr fun fails => ?_
    rw [fewer _ _ direction fails] at allowed
    cases allowed

/-! ### Rules -/

/-- Whether the bounds of a string rule are eased, and its pattern is kept or removed. -/
structure StringRule.Looser (r s : StringRule) : Prop where
  minLength : Lowered r.minLength s.minLength
  maxLength : Raised r.maxLength s.maxLength
  pattern : s.pattern = r.pattern ∨ s.pattern = none

/-- Whether the bounds of a number rule are eased, and its divisor is kept or removed. -/
structure NumberRule.Looser (r s : NumberRule) : Prop where
  multipleOf : s.multipleOf = r.multipleOf ∨ s.multipleOf = none
  maximum : Eased Upwards r.maximum s.maximum
  exclusiveMaximum : Eased Upwards r.exclusiveMaximum s.exclusiveMaximum
  minimum : Eased Downwards r.minimum s.minimum
  exclusiveMinimum : Eased Downwards r.exclusiveMinimum s.exclusiveMinimum

/-- Whether the bounds of a size rule are eased, and items have to differ only if they had to. -/
structure SizeRule.Looser (r s : SizeRule) : Prop where
  minItems : Lowered r.minItems s.minItems
  maxItems : Raised r.maxItems s.maxItems
  uniqueItems : s.uniqueItems = true → r.uniqueItems = true

theorem StringRule.Looser.admits {r s : StringRule} (h : r.Looser s) {text : String}
    (admits : r.Admits text) : s.Admits text where
  longEnough := h.minLength.keeps admits.longEnough
  shortEnough := h.maxLength.keeps admits.shortEnough
  matched p hp := by
    rcases h.pattern with kept | removed
    · exact admits.matched p (kept ▸ hp)
    · rw [removed] at hp
      cases hp

theorem SizeRule.Looser.admits {r s : SizeRule} (h : r.Looser s) {items : List Value}
    (admits : r.Admits items) : s.Admits items where
  manyEnough := h.minItems.keeps admits.manyEnough
  fewEnough := h.maxItems.keeps admits.fewEnough
  unique distinct := admits.unique (h.uniqueItems distinct)

theorem NumberRule.Looser.admits {r s : NumberRule} (h : r.Looser s) {v : Value}
    (number : v.isNumber = true) (admits : r.Admits v) : s.Admits v := by
  obtain ⟨x, hx⟩ := Value.quantity?_of_isNumber number
  rw [NumberRule.admits_iff] at admits ⊢
  obtain ⟨multiple, maximum, exclusiveMaximum, minimum, exclusiveMinimum⟩ := admits
  refine ⟨fun m hm => ?_, ?_, ?_, ?_, ?_⟩
  · rcases h.multipleOf with kept | removed
    · exact multiple m (kept ▸ hm)
    · rw [removed] at hm
      cases hm
  -- Each bound fails the quantities on one side of it, of which an eased bound has fewer.
  · exact h.maximum.keeps hx maximum fun _ _ up fails => Quantity.lt_of_le_of_lt up fails
  · exact h.exclusiveMaximum.keeps hx exclusiveMaximum fun _ _ up fails =>
      Quantity.le_trans up fails
  · exact h.minimum.keeps hx minimum fun _ _ down fails => Quantity.lt_of_lt_of_le fails down
  · exact h.exclusiveMinimum.keeps hx exclusiveMinimum fun _ _ down fails =>
      Quantity.le_trans fails down

namespace Schema

/-! ### Schemas -/

/-- Schemas of which the second is made of the first by loosening it, at any depth. -/
inductive Looser : Schema → Schema → Prop where
  | refl (s : Schema) : Looser s s
  | trans {s t u : Schema} (left : Looser s t) (right : Looser t u) : Looser s u
  | string {r r' : StringRule} (rule : r.Looser r') : Looser (string r) (string r')
  | number {r r' : NumberRule} (rule : r.Looser r') : Looser (number r) (number r')
  | candidates {vs ws : List Value} (added : vs.Sublist ws) :
      Looser (enumeration vs) (enumeration ws)
  | toOptional (s : Schema) : Looser s (.optional (some s))
  | toUnion {s : Schema} {members : List Schema} (member : s ∈ members) : Looser s (union members)
  | toCollection (s : Schema) (r : SizeRule) : Looser (.array s r) (.collection s r)
  | unionMembers {ss ts : List Schema} (added : ss.Sublist ts) : Looser (union ss) (union ts)
  | intersectionMembers {ss ts : List Schema} (removed : ts.Sublist ss) :
      Looser (intersection ss) (intersection ts)
  | fields {fs gs : List (String × Schema)} (removed : gs.Sublist fs) :
      Looser (object fs false) (object gs false)
  | strict (fs : List (String × Schema)) : Looser (object fs true) (object fs false)
  | optional {s t : Schema} (part : Looser s t) :
      Looser (.optional (some s)) (.optional (some t))
  | unionMember {before after : List Schema} {s t : Schema} (part : Looser s t) :
      Looser (union (before ++ s :: after)) (union (before ++ t :: after))
  | intersectionMember {before after : List Schema} {s t : Schema} (part : Looser s t) :
      Looser (intersection (before ++ s :: after)) (intersection (before ++ t :: after))
  | field {before after : List (String × Schema)} {name : String} {s t : Schema} {strict : Bool}
      (part : Looser s t) :
      Looser (object (before ++ (name, s) :: after) strict)
        (object (before ++ (name, t) :: after) strict)
  | collection {s t : Schema} {r r' : SizeRule} (part : Looser s t) (rule : r.Looser r') :
      Looser (.collection s r) (.collection t r')
  | array {s t : Schema} {r r' : SizeRule} (part : Looser s t) (rule : r.Looser r') :
      Looser (.array s r) (.array t r')

namespace Looser

/-- A looser schema accepts whatever is accepted. -/
theorem accepts {s t : Schema} (h : Looser s t) {v : Value} (accepted : s.Accepts v) :
    t.Accepts v := by
  -- By induction on the loosening, at every value at once, as a part is checked at another value.
  induction h generalizing v with
  | refl => exact accepted
  | trans _ _ ih ih' => exact ih' (ih accepted)
  | string rule =>
    cases accepted with
    | string admits => exact .string (rule.admits admits)
  | number rule =>
    cases accepted with
    | number number admits => exact .number number (rule.admits number admits)
  | candidates added =>
    cases accepted with
    | enumeration candidate equal => exact .enumeration (added.subset candidate) equal
  | toOptional => exact .present accepted
  | toUnion member => exact .union member accepted
  | toCollection =>
    cases accepted with
    | array array admits each => exact .collection (Value.elements?_of_items? array) admits each
  | unionMembers added =>
    cases accepted with
    | union member accepted => exact .union (added.subset member) accepted
  | intersectionMembers removed =>
    cases accepted with
    | intersection all => exact .intersection fun s hs => all s (removed.subset hs)
  | fields removed =>
    cases accepted with
    | object object _ all => exact .object object (by simp) fun f hf => all f (removed.subset hf)
  | strict =>
    cases accepted with
    | object object _ all => exact .object object (by simp) all
  | optional _ ih =>
    rw [accepts_optional_iff] at accepted ⊢
    exact accepted.imp_right ih
  | unionMember _ ih =>
    simp only [accepts_union_iff, List.mem_append, List.mem_cons, or_and_right, exists_or,
      exists_eq_left] at accepted ⊢
    exact accepted.imp_right (Or.imp_left ih)
  | intersectionMember _ ih =>
    simp only [accepts_intersection_iff, List.forall_mem_append,
      List.forall_mem_cons] at accepted ⊢
    exact accepted.imp_right (And.imp_left ih)
  | field _ ih =>
    simp only [accepts_object_iff, List.forall_mem_append, List.forall_mem_cons, List.map_append,
      List.map_cons] at accepted ⊢
    -- The names stay the same, so that no key becomes extraneous.
    obtain ⟨entries, object, known, before, part, after⟩ := accepted
    exact ⟨entries, object, known, before, ih part, after⟩
  | collection _ rule ih =>
    cases accepted with
    | collection collection admits each =>
      exact .collection collection (rule.admits admits) fun x hx => ih (each x hx)
  | array _ rule ih =>
    cases accepted with
    | array array admits each => exact .array array (rule.admits admits) fun x hx => ih (each x hx)

end Looser

/-- **Loosening rejects nothing that was accepted.**  If a trace accepts a value, then a trace of it
with a looser schema, below whatever node, accepts it too or comes to no verdict. -/
theorem accepted_of_looser {s t : Schema} (looser : Looser s t) (hs : s.HasSoundCandidates)
    (ht : t.HasSoundCandidates) {v : Value} (hv : v.IsSound) {p q n m : Node}
    (traced : (s.stored.trace v p).result = .ok n) (accepted : n.isValid = true)
    (traced' : (t.stored.trace v q).result = .ok m) : m.isValid = true := by
  have before : s.Accepts v :=
    (accepts_stored_iff hs hv).mp ((trace_decides s.stored hv p n traced).mp accepted)
  have after : t.stored.Accepts v := (accepts_stored_iff ht hv).mpr (looser.accepts before)
  exact (trace_decides t.stored hv q m traced').mpr after

/-- A record with a quantity out of a few and a remark. -/
def plainRecord : Schema :=
  object [("quantity", enumeration [.int 1, .int 2]),
    ("remark", string { maxLength := some 3 })] true

/-- The record with more quantities, given as floating-point numbers too, and a remark that may be
longer or absent, among further keys. -/
def openRecord : Schema :=
  object [("quantity", enumeration [.float (.finite false 1 0), .int 1, .int 2, .int 3]),
    ("remark", optional (some (string { maxLength := some 5 })))] false

theorem looser_openRecord : Looser plainRecord openRecord := by
  have quantity : Looser (enumeration [.int 1, .int 2])
      (enumeration [.float (.finite false 1 0), .int 1, .int 2, .int 3]) :=
    .candidates ((List.sublist_append_left [_, _] [_]).cons _)
  have longer : StringRule.Looser { maxLength := some 3 } { maxLength := some 5 } :=
    ⟨Or.inl (Int.le_refl 0), fun m hm => ⟨3, rfl, by cases hm; decide⟩, Or.inl rfl⟩
  have remark : Looser (string { maxLength := some 3 })
      (.optional (some (string { maxLength := some 5 }))) := .trans (.string longer) (.toOptional _)
  exact .trans (@Looser.field [] _ _ _ _ _ quantity)
    (.trans (@Looser.field [_] [] _ _ _ _ remark) (.strict _))

theorem accepted_of_looser_record :
    Looser plainRecord openRecord ∧
    plainRecord.stored.validate (.map [(.str "quantity", .int 1), (.str "remark", .str "new")]) =
      .ok true ∧
    openRecord.stored.validate (.map [(.str "quantity", .int 1), (.str "remark", .str "new")]) =
      .ok true := by
  have hs : plainRecord.HasSoundCandidates := by
    simp [HasSoundCandidates, plainRecord, candidates, candidatesFields, Value.IsProper]
  have ht : openRecord.HasSoundCandidates := by
    simp [HasSoundCandidates, openRecord, candidates, candidatesFields, Value.IsProper]
  have hv : (Value.map [(.str "quantity", .int 1), (.str "remark", .str "new")]).IsProper := by
    simp [Value.IsProper, Value.AreProperEntries, Value.Apart, Value.sameKey]
  have plain : plainRecord.stored.validate
      (.map [(.str "quantity", .int 1), (.str "remark", .str "new")]) = .ok true := by
    decide +kernel
  obtain ⟨n, traced, accepted⟩ := validate_eq_ok_iff.mp plain
  obtain ⟨b, verdict⟩ : ∃ b, openRecord.stored.validate
      (.map [(.str "quantity", .int 1), (.str "remark", .str "new")]) = .ok b :=
    ⟨true, by decide +kernel⟩
  obtain ⟨m, traced', rfl⟩ := validate_eq_ok_iff.mp verdict
  have again := accepted_of_looser looser_openRecord hs ht hv.isSound traced accepted traced'
  exact ⟨looser_openRecord, plain, again ▸ verdict⟩

end Schema

end Conform
