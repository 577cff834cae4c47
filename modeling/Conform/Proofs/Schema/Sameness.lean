import Conform.Proofs.Schema.Validate
import Conform.Proofs.Value.SameKey
import Conform.Schema.Equality
/-!
# Schemas that are the same

Schemas are compared by their options as keys, by which a boolean is a number and an integer a
floating-point number.  An instance is judged with more care, so that schemas that are the same can
come to different verdicts: about a boolean candidate in the place of a number, and about an integer
that has to be rounded before it is divided by a floating-point number.  Without these two they come to
the same verdict, which is the main result, `verdict_eq_of_same`.
-/
namespace Conform

/-- Whether the divisors of two rules are an integer and none. -/
def NumberRule.DividesUnlike (r s : NumberRule) : Prop :=
  ∃ m m', r.multipleOf = some m ∧ s.multipleOf = some m' ∧ m.asInt?.isSome ≠ m'.asInt?.isSome

namespace Schema

/-- Whether a schema is one that can be built: the pattern is that of its text, the candidates are
values that can be built, a divisor is a number of the format, and no field is given twice. -/
def IsBuilt (release : Pattern.Release) : Schema → Prop
  | string r => ∀ q, r.pattern = some q → Pattern.compile release q.source = .ok q
  | number r => ∀ y, r.multipleOf = some (.float y) → y.InFormat
  | enumeration candidates => ∀ c ∈ candidates, c.IsRegular
  | object fields _ => (fields.map (·.1)).Nodup
  | _ => True

/-! ### Where schemas meet -/

/-- What two schemas come to ask about a value and its parts in the same places: their members
position by position, and their fields by name. -/
inductive Meets (a b : Schema) (w : Value) : Schema → Schema → Value → Prop where
  | here : Meets a b w a b w
  | optional {s t : Schema} {v : Value} (part : Meets a b w s t v) :
      Meets a b w (.optional (some s)) (.optional (some t)) v
  | unionMember {ss ts : List Schema} {s t : Schema} {v : Value} (place : (s, t) ∈ ss.zip ts)
      (part : Meets a b w s t v) : Meets a b w (union ss) (union ts) v
  | intersectionMember {ss ts : List Schema} {s t : Schema} {v : Value}
      (place : (s, t) ∈ ss.zip ts) (part : Meets a b w s t v) :
      Meets a b w (intersection ss) (intersection ts) v
  | field {fs gs : List (String × Schema)} {strict strict' : Bool} {name : String} {s t : Schema}
      {v : Value} {entries : List (String × Value)} (left : (name, s) ∈ fs) (right : (name, t) ∈ gs)
      (named : v.fields? = some entries) (part : Meets a b w s t (fieldValue name entries)) :
      Meets a b w (object fs strict) (object gs strict') v
  | element {s t : Schema} {r r' : SizeRule} {v x : Value} {xs : List Value}
      (elements : v.elements? = some xs) (mem : x ∈ xs) (part : Meets a b w s t x) :
      Meets a b w (collection s r) (collection t r') v
  | item {s t : Schema} {r r' : SizeRule} {v x : Value} {xs : List Value}
      (items : v.items? = some xs) (mem : x ∈ xs) (part : Meets a b w s t x) :
      Meets a b w (array s r) (array t r') v

/-- What it takes for schemas that are the same to judge a value alike.  Where they meet, predicates
of one name are one, candidates have their booleans in the same places, and no integer that has to be
rounded is divided by an integer here and by a floating-point number there. -/
structure Interchangeable (s t : Schema) (v : Value) : Prop where
  predicates : ∀ p q w, Meets (custom p) (custom q) w s t v → p.name = q.name → p.test = q.test
  booleans : ∀ vs ws w, Meets (enumeration vs) (enumeration ws) w s t v →
    List.Forall₂ Value.SameBooleans vs ws
  divisors : ∀ r r' n, Meets (number r) (number r') (.int n) s t v → r.DividesUnlike r' →
    Value.IsExact n

theorem Interchangeable.part {s t a b : Schema} {v w : Value} (h : Interchangeable s t v)
    (step : ∀ {c d x}, Meets c d x a b w → Meets c d x s t v) : Interchangeable a b w where
  predicates p q x meets := h.predicates p q x (step meets)
  booleans vs ws x meets := h.booleans vs ws x (step meets)
  divisors r r' n meets := h.divisors r r' n (step meets)

/-! ### Rules that are the same -/

end Schema

theorem StringRule.eq_of_same {release : Pattern.Release} {r s : StringRule} (h : r.same s = true)
    (hr : ∀ q, r.pattern = some q → Pattern.compile release q.source = .ok q)
    (hs : ∀ q, s.pattern = some q → Pattern.compile release q.source = .ok q) : r = s := by
  obtain ⟨minLength, maxLength, pattern⟩ := r
  obtain ⟨minLength', maxLength', pattern'⟩ := s
  simp only [StringRule.same, Bool.and_eq_true, beq_iff_eq] at h
  obtain ⟨⟨rfl, rfl⟩, source⟩ := h
  cases pattern with
  | none =>
    cases pattern' with
    | none => rfl
    | some q => cases source
  | some p =>
    cases pattern' with
    | none => cases source
    | some q =>
      -- A text is compiled to one pattern only.
      have source : p.source = q.source := Option.some.inj source
      have compiled := hr p rfl
      rw [source, hs q rfl] at compiled
      cases compiled
      rfl

theorem sameOption_cases {o o' : Option Value} (h : sameOption o o' = true) :
    o = none ∧ o' = none ∨ ∃ a b, o = some a ∧ o' = some b ∧ a.sameKey b = true := by
  cases o <;> cases o' <;> simp_all [sameOption]

/-- What holds of an option that is set holds of one that is the same. -/
theorem forall_of_sameOption {p : Value → Prop} {o o' : Option Value} (h : sameOption o o' = true)
    (iff : ∀ a b, o = some a → o' = some b → a.sameKey b = true → (p a ↔ p b)) :
    (∀ a, o = some a → p a) ↔ ∀ b, o' = some b → p b := by
  rcases sameOption_cases h with ⟨rfl, rfl⟩ | ⟨a, b, rfl, rfl, key⟩
  · simp
  · simpa using iff a b rfl rfl key

/-- Rules that are the same admit the same numbers. -/
theorem NumberRule.admits_iff_of_same {r s : NumberRule} (h : r.same s = true)
    (hr : ∀ y, r.multipleOf = some (.float y) → y.InFormat)
    (hs : ∀ y, s.multipleOf = some (.float y) → y.InFormat) {v : Value} (number : v.isNumber = true)
    (exact : r.DividesUnlike s → ∀ n, v = .int n → Value.IsExact n) : r.Admits v ↔ s.Admits v := by
  simp only [NumberRule.same, Bool.and_eq_true] at h
  obtain ⟨⟨⟨⟨multiple, maximum⟩, exclusiveMaximum⟩, minimum⟩, exclusiveMinimum⟩ := h
  -- Comparisons are exact, and so only the quantity of a bound matters.
  have bound : ∀ (operator : String) (test : Quantity → Quantity → Bool) {o o' : Option Value},
      sameOption o o' = true →
      ((∀ b, o = some b → Value.compareBy operator test v b = .ok false) ↔
        ∀ b, o' = some b → Value.compareBy operator test v b = .ok false) := fun _ _ _ _ same =>
    forall_of_sameOption same fun _ _ _ _ key => Value.compareBy_of_sameKey key ..
  have divisor : (∀ m, r.multipleOf = some m → (v.isMultipleOf m).map (!·) = .ok false) ↔
      ∀ m, s.multipleOf = some m → (v.isMultipleOf m).map (!·) = .ok false := by
    refine forall_of_sameOption multiple fun m m' hm hm' key => ?_
    have iff := Value.isMultipleOf_of_sameKey number key (fun y hy => hr y (hy ▸ hm))
      (fun y hy => hs y (hy ▸ hm')) (fun unlike => exact ⟨m, m', hm, hm', unlike⟩) (b := true)
    have divided : ∀ m, (v.isMultipleOf m).map (!·) = .ok false ↔ v.isMultipleOf m = .ok true := by
      intro m
      cases v.isMultipleOf m <;> simp [Except.map]
    rw [divided, divided, iff]
  rw [NumberRule.admits_iff, NumberRule.admits_iff, divisor]
  exact and_congr_right fun _ => and_congr (bound _ _ maximum)
    (and_congr (bound _ _ exclusiveMaximum) (and_congr (bound _ _ minimum)
      (bound _ _ exclusiveMinimum)))

namespace Schema

/-! ### Schemas that are the same -/

theorem sameAll_iff {ss ts : List Schema} :
    sameAll ss ts = true ↔ List.Forall₂ (fun s t => s.same t = true) ss ts := by
  induction ss generalizing ts with
  | nil => cases ts <;> simp [sameAll]
  | cons s ss ih => cases ts <;> simp [sameAll, ih]

theorem sameFields_iff {fs gs : List (String × Schema)} : sameFields fs gs = true ↔
    ∀ f ∈ fs, ∃ g, gs.find? (·.1 == f.1) = some g ∧ f.2.same g.2 = true := by
  induction fs with
  | nil => simp [sameFields]
  | cons f fs ih =>
    obtain ⟨name, s⟩ := f
    rw [sameFields, List.forall_mem_cons, ← ih]
    cases gs.find? fun g => g.1 == name <;> simp

/-- Fields of which each has one of its name on the other side that is the same. -/
structure Partners (fs gs : List (String × Schema)) : Prop where
  right : ∀ f ∈ fs, ∃ g ∈ gs, f.1 = g.1 ∧ f.2.same g.2 = true
  left : ∀ g ∈ gs, ∃ f ∈ fs, f.1 = g.1 ∧ f.2.same g.2 = true

namespace Partners

variable {fs gs : List (String × Schema)}

theorem of_sameFields (length : fs.length = gs.length) (same : sameFields fs gs = true)
    (nodup : (fs.map (·.1)).Nodup) : Partners fs gs := by
  have right : ∀ f ∈ fs, ∃ g ∈ gs, f.1 = g.1 ∧ f.2.same g.2 = true := by
    intro f hf
    obtain ⟨g, hg, hfg⟩ := sameFields_iff.mp same f hf
    have name : g.1 = f.1 := by simpa using List.find?_some hg
    exact ⟨g, List.mem_of_find?_eq_some hg, name.symm, hfg⟩
  have single : fs.Pairwise fun a b => ∀ g : String × Schema,
      (a.1 = g.1 ∧ a.2.same g.2 = true) → ¬(b.1 = g.1 ∧ b.2.same g.2 = true) :=
    (List.pairwise_map.mp nodup).imp fun ne g ha hb => ne (ha.1.trans hb.1.symm)
  -- As many fields on both sides: none on the right is left without a partner.
  exact ⟨right, exists_partner length right single⟩

variable (h : Partners fs gs)

include h

theorem mem_names_iff (name : String) : name ∈ fs.map (·.1) ↔ name ∈ gs.map (·.1) := by
  simp only [List.mem_map]
  constructor
  · rintro ⟨f, hf, rfl⟩
    obtain ⟨g, hg, hname, -⟩ := h.right f hf
    exact ⟨g, hg, hname.symm⟩
  · rintro ⟨g, hg, rfl⟩
    obtain ⟨f, hf, hname, -⟩ := h.left g hg
    exact ⟨f, hf, hname⟩

theorem forall_iff {p q : String × Schema → Prop}
    (iff : ∀ f ∈ fs, ∀ g ∈ gs, f.1 = g.1 → f.2.same g.2 = true → (p f ↔ q g)) :
    (∀ f ∈ fs, p f) ↔ ∀ g ∈ gs, q g := by
  constructor
  · intro all g hg
    obtain ⟨f, hf, name, same⟩ := h.left g hg
    exact (iff f hf g hg name same).mp (all f hf)
  · intro all f hf
    obtain ⟨g, hg, name, same⟩ := h.right f hf
    exact (iff f hf g hg name same).mpr (all g hg)

end Partners

/-- Schemas that are the same and interchangeable accept the same values. -/
theorem accepts_iff_of_same {release : Pattern.Release} {s t : Schema}
    (hs : s.Everywhere (IsBuilt release)) (ht : t.Everywhere (IsBuilt release))
    (same : s.same t = true) {v : Value} (hv : v.IsSound) (h : Interchangeable s t v) :
    s.Accepts v ↔ t.Accepts v := by
  -- The induction is on the schema on the left.  The one on the right has the same form, for else the
  -- two would not be the same.
  induction hs generalizing t v with
  | @intro s here below ih =>
    cases s with
    | type a =>
      cases t with
      | type b =>
        rw [Schema.same, beq_iff_eq] at same
        rw [same]
      | _ => simp [Schema.same] at same
    | string r =>
      cases t with
      | string r' =>
        rw [Schema.same] at same
        rw [StringRule.eq_of_same same here ht.here]
      | _ => simp [Schema.same] at same
    | number r =>
      cases t with
      | number r' =>
        rw [Schema.same] at same
        have admits : v.isNumber = true → (r.Admits v ↔ r'.Admits v) := fun number =>
          NumberRule.admits_iff_of_same same here ht.here number fun unlike n hn =>
            h.divisors r r' n (hn ▸ .here) unlike
        rw [accepts_number_iff, accepts_number_iff]
        exact and_congr_right admits
      | _ => simp [Schema.same] at same
    | enumeration vs =>
      cases t with
      | enumeration ws =>
        rw [Schema.same, Value.sameKeys_iff, List.forall₂_iff_zip] at same
        have booleans := List.forall₂_iff_zip.mp (h.booleans vs ws v .here)
        rw [accepts_enumeration_iff, accepts_enumeration_iff]
        refine exists_iff_of_forall₂ (List.forall₂_iff_zip.mpr ⟨same.1, fun {c c'} place => ?_⟩)
        obtain ⟨hc, hc'⟩ := List.of_mem_zip place
        exact Value.equals_iff_of_sameKey hv.isRegular (here c hc) (ht.here c' hc')
          (same.2 place) (booleans.2 place)
      | _ => simp [Schema.same] at same
    | optional wrapped =>
      cases t with
      | optional wrapped' =>
        cases wrapped with
        | none =>
          cases wrapped' with
          | none => rfl
          | some t => simp [Schema.same] at same
        | some s =>
          cases wrapped' with
          | none => simp [Schema.same] at same
          | some t =>
            rw [Schema.same] at same
            rw [accepts_optional_iff, accepts_optional_iff]
            exact or_congr_right (ih s (by simp [children]) (ht.child t (by simp [children])) same
              hv (h.part .optional))
      | _ => simp [Schema.same] at same
    | union ss =>
      cases t with
      | union ts =>
        rw [Schema.same, sameAll_iff, List.forall₂_iff_zip] at same
        rw [accepts_union_iff, accepts_union_iff]
        refine exists_iff_of_forall₂ (List.forall₂_iff_zip.mpr ⟨same.1, fun {s t} place => ?_⟩)
        obtain ⟨hs, ht'⟩ := List.of_mem_zip place
        exact ih s hs (ht.child t ht') (same.2 place) hv (h.part (.unionMember place))
      | _ => simp [Schema.same] at same
    | intersection ss =>
      cases t with
      | intersection ts =>
        rw [Schema.same, sameAll_iff, List.forall₂_iff_zip] at same
        rw [accepts_intersection_iff, accepts_intersection_iff]
        refine forall_iff_of_forall₂ (List.forall₂_iff_zip.mpr ⟨same.1, fun {s t} place => ?_⟩)
        obtain ⟨hs, ht'⟩ := List.of_mem_zip place
        exact ih s hs (ht.child t ht') (same.2 place) hv (h.part (.intersectionMember place))
      | _ => simp [Schema.same] at same
    | object fs strict =>
      cases t with
      | object gs strict' =>
        simp only [Schema.same, Bool.and_eq_true, beq_iff_eq] at same
        obtain ⟨⟨length, fields⟩, rfl⟩ := same
        -- The order of the fields may differ, but each has a partner of its name on the other side.
        have partners := Partners.of_sameFields length fields here
        rw [accepts_object_iff, accepts_object_iff]
        refine exists_congr fun entries => and_congr_right fun named => ?_
        simp only [partners.mem_names_iff]
        refine and_congr_right fun _ => partners.forall_iff ?_
        rintro ⟨name, s⟩ hf ⟨_, t⟩ hg rfl same
        exact ih s (List.mem_map_of_mem hf) (ht.child t (List.mem_map_of_mem hg)) same
          (hv.fieldValue named name) (h.part (.field hf hg named))
      | _ => simp [Schema.same] at same
    | collection element r =>
      cases t with
      | collection element' r' =>
        simp only [Schema.same, Bool.and_eq_true, beq_iff_eq] at same
        obtain ⟨same, rfl⟩ := same
        rw [accepts_collection_iff, accepts_collection_iff]
        refine exists_congr fun xs => and_congr_right fun elements => and_congr_right fun _ => ?_
        refine forall₂_congr fun x hx => ?_
        exact ih element (by simp [children]) (ht.child _ (by simp [children])) same
          (hv.elements elements x hx) (h.part (.element elements hx))
      | _ => simp [Schema.same] at same
    | array element r =>
      cases t with
      | array element' r' =>
        simp only [Schema.same, Bool.and_eq_true, beq_iff_eq] at same
        obtain ⟨same, rfl⟩ := same
        rw [accepts_array_iff, accepts_array_iff]
        refine exists_congr fun xs => and_congr_right fun items => and_congr_right fun _ => ?_
        refine forall₂_congr fun x hx => ?_
        exact ih element (by simp [children]) (ht.child _ (by simp [children])) same
          (hv.items items x hx) (h.part (.item items hx))
      | _ => simp [Schema.same] at same
    | custom p =>
      cases t with
      | custom q =>
        rw [Schema.same, beq_iff_eq] at same
        rw [accepts_custom_iff, accepts_custom_iff, h.predicates p q v .here same]
      | _ => simp [Schema.same] at same

/-- **Equal schemas come to one verdict, some numbers apart.**  Two schemas that are the same come to
the same verdict on a value on which both come to one, unless a boolean candidate stands in the place
of a number, or an integer that no floating-point number equals is divided by an integer under one
schema and by a floating-point number under the other. -/
theorem verdict_eq_of_same {release : Pattern.Release} {s t : Schema}
    (hs : s.Everywhere (IsBuilt release)) (ht : t.Everywhere (IsBuilt release))
    (same : s.same t = true) {v : Value} (hv : v.IsSound) (h : Interchangeable s t v) {b c : Bool}
    (hb : s.validate v = .ok b) (hc : t.validate v = .ok c) : b = c := by
  obtain ⟨n, hn, rfl⟩ := validate_eq_ok_iff.mp hb
  obtain ⟨m, hm, rfl⟩ := validate_eq_ok_iff.mp hc
  have left := trace_decides s hv .root n hn
  have right := trace_decides t hv .root m hm
  exact Bool.eq_iff_iff.mpr (left.trans ((accepts_iff_of_same hs ht same hv h).trans right.symm))

/-- An even count and a kind that is one or true. -/
def evenCount : Schema :=
  object [("count", number { multipleOf := some (.int 2) }),
    ("kind", enumeration [.int 1, .bool true])] true

/-- The same with floating-point numbers, in another order. -/
def evenFloatCount : Schema :=
  object [("kind", enumeration [.float (.finite false 1 0), .bool true]),
    ("count", number { multipleOf := some (.float (.finite false 1 1)) })] true

/-- A count and a kind. -/
def counted : Value := .map [(.str "count", .int 4), (.str "kind", .bool true)]

theorem isBuilt_evenCount (release : Pattern.Release) :
    evenCount.Everywhere (IsBuilt release) ∧ evenFloatCount.Everywhere (IsBuilt release) := by
  have leaf : ∀ {s : Schema}, s.children = [] → s.IsBuilt release → s.Everywhere (IsBuilt release) :=
    fun none built => .intro built (by simp [none])
  have one : (Value.int 1).IsRegular := Or.inl trivial
  have float : (Value.float (.finite false 1 0)).IsRegular := Or.inl trivial
  have yes : (Value.bool true).IsRegular := Or.inl trivial
  have divisor : (number { multipleOf := some (.float (.finite false 1 1)) }).IsBuilt release := by
    intro y hy
    cases hy
    exact ⟨by decide, by decide, by decide⟩
  refine ⟨.intro (by simp [evenCount, IsBuilt]) ?_, .intro (by simp [evenFloatCount, IsBuilt]) ?_⟩
  · simp only [evenCount, children, List.map_cons, List.map_nil, List.forall_mem_cons]
    exact ⟨leaf rfl (by simp [IsBuilt]), leaf rfl (by simp [IsBuilt, one, yes]), by simp⟩
  · simp only [evenFloatCount, children, List.map_cons, List.map_nil, List.forall_mem_cons]
    exact ⟨leaf rfl (by simp [IsBuilt, float, yes]), leaf rfl divisor, by simp⟩

theorem interchangeable_evenCount : Interchangeable evenCount evenFloatCount counted := by
  -- Below the objects only fields of one name meet.
  have meets : ∀ {a b : Schema} {w : Value}, Meets a b w evenCount evenFloatCount counted →
      a = evenCount ∨
      a = number { multipleOf := some (.int 2) } ∧ w = .int 4 ∨
      a = enumeration [.int 1, .bool true] ∧
        b = enumeration [.float (.finite false 1 0), .bool true] := by
    intro a b w h
    cases h with
    | here => exact Or.inl rfl
    | field left right named part =>
      simp only [List.mem_cons, Prod.mk.injEq, List.not_mem_nil, or_false] at left right
      cases named
      rcases left with ⟨rfl, rfl⟩ | ⟨rfl, rfl⟩
      · rcases right with ⟨name, -⟩ | ⟨-, rfl⟩
        · exact absurd name (by decide)
        · cases part
          exact Or.inr (Or.inl ⟨rfl, by rfl⟩)
      · rcases right with ⟨-, rfl⟩ | ⟨name, -⟩
        · cases part
          exact Or.inr (Or.inr ⟨rfl, rfl⟩)
        · exact absurd name (by decide)
  refine ⟨fun p q w h => ?_, fun vs ws w h => ?_, fun r r' n h => ?_⟩
  · rcases meets h with h | ⟨h, -⟩ | ⟨h, -⟩ <;> cases h
  · rcases meets h with h | ⟨h, -⟩ | ⟨h, h'⟩ <;> cases h
    cases h'
    exact .cons (.whole rfl rfl) (.cons (.bool true true) .nil)
  · rcases meets h with h | ⟨-, h⟩ | ⟨h, -⟩ <;> cases h
    exact fun _ => ⟨_, rfl, by decide +kernel⟩

theorem verdict_eq_of_same_counted :
    evenCount.same evenFloatCount = true ∧ evenCount.validate counted = .ok true ∧
      evenFloatCount.validate counted = .ok true := by
  have proper : counted.IsProper := by
    simp [counted, Value.IsProper, Value.Apart, Value.sameKey]
  have same : evenCount.same evenFloatCount = true := by decide +kernel
  have left : evenCount.validate counted = .ok true := by decide +kernel
  obtain ⟨c, right⟩ : ∃ c, evenFloatCount.validate counted = .ok c := ⟨true, by decide +kernel⟩
  obtain ⟨built, built'⟩ := isBuilt_evenCount .early
  have verdict := verdict_eq_of_same built built' same proper.isSound interchangeable_evenCount
    left right
  exact ⟨same, left, verdict ▸ right⟩

/-- Equal schemas that judge one value differently: a boolean candidate equals no number, and the
integer is rounded to an even one before it is divided. -/
theorem same_not_interchangeable :
    ((enumeration [.int 1]).same (enumeration [.bool true]) = true ∧
      (enumeration [.int 1]).validate (.int 1) = .ok true ∧
      (enumeration [.bool true]).validate (.int 1) = .ok false) ∧
    (number { multipleOf := some (.int 2) }).same
        (number { multipleOf := some (.float (.finite false 1 1)) }) = true ∧
      (number { multipleOf := some (.int 2) }).validate (.int 9007199254740993) = .ok false ∧
      (number { multipleOf := some (.float (.finite false 1 1)) }).validate
        (.int 9007199254740993) = .ok true := by
  decide +kernel

end Schema

end Conform
