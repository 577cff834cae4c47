import Conform.Proofs.Value.Comparing
import Conform.Schema.Trace
/-!
# What a schema means

`Accepts` says which values a schema accepts, without any order in which parts are looked at.  A
check `Decides` a proposition if it comes to no verdict but that of the proposition; here are the
rules for checks that follow each other, and what the checks of single values and of sizes decide.

A schema holds the candidates of an enumeration without repetitions.  What it means is stated for the
candidates as they were given, of which `stored` is the schema that is made.
-/
namespace Conform

/-- Whether a text is within the bounds and holds a match of the pattern. -/
structure StringRule.Admits (r : StringRule) (s : String) : Prop where
  longEnough : r.minLength ≤ s.length
  shortEnough : ∀ m, r.maxLength = some m → (s.length : Int) ≤ m
  matched : ∀ p, r.pattern = some p → p.isFoundIn? s = some true

/-- Whether a value violates none of the constraints that are set. -/
def NumberRule.Admits (r : NumberRule) (v : Value) : Prop :=
  ∀ c ∈ r.constraints, ∀ bound, c.option = some bound → c.fails v bound = .ok false

/-- Whether there are as many items as there may be and, if they have to differ, no two of them at
different places are alike. -/
structure SizeRule.Admits (r : SizeRule) (items : List Value) : Prop where
  manyEnough : r.minItems ≤ items.length
  fewEnough : ∀ m, r.maxItems = some m → (items.length : Int) ≤ m
  unique : r.uniqueItems = true → ∀ (i j : Nat) (x y : Value), items[i]? = some x →
    items[j]? = some y → i ≠ j → ¬x.Alike y

/-- The items of a list or tuple, or the values of a map. -/
def Value.elements? (v : Value) : Option (List Value) :=
  match v.items? with
  | some xs => some xs
  | none => v.entries?.map fun es => es.map (·.2)

namespace Schema

/-- The values that a schema accepts. -/
inductive Accepts : Schema → Value → Prop where
  | type {t : ExpectedType} {v : Value} (same : t = .kind v.kind) : Accepts (.type t) v
  | string {r : StringRule} {s : String} (admits : r.Admits s) : Accepts (.string r) (.str s)
  | number {r : NumberRule} {v : Value} (number : v.isNumber = true) (admits : r.Admits v) :
      Accepts (.number r) v
  | enumeration {candidates : List Value} {c v : Value} (candidate : c ∈ candidates)
      (equal : v.equals c = true) : Accepts (.enumeration candidates) v
  | absent {wrapped : Option Schema} : Accepts (.optional wrapped) .null
  | unwrapped {v : Value} : Accepts (.optional none) v
  | present {s : Schema} {v : Value} (accepted : Accepts s v) : Accepts (.optional (some s)) v
  | union {members : List Schema} {s : Schema} {v : Value} (member : s ∈ members)
      (accepted : Accepts s v) : Accepts (.union members) v
  | intersection {members : List Schema} {v : Value} (accepted : ∀ s ∈ members, Accepts s v) :
      Accepts (.intersection members) v
  | object {fields : List (String × Schema)} {strict : Bool} {v : Value}
      {entries : List (String × Value)} (object : v.fields? = some entries)
      (known : strict = true → ∀ e ∈ entries, e.1 ∈ fields.map (·.1))
      (accepted : ∀ f ∈ fields, Accepts f.2 (fieldValue f.1 entries)) :
      Accepts (.object fields strict) v
  | collection {element : Schema} {r : SizeRule} {v : Value} {items : List Value}
      (collection : v.elements? = some items) (admits : r.Admits items)
      (accepted : ∀ x ∈ items, Accepts element x) : Accepts (.collection element r) v
  | array {element : Schema} {r : SizeRule} {v : Value} {items : List Value}
      (array : v.items? = some items) (admits : r.Admits items)
      (accepted : ∀ x ∈ items, Accepts element x) : Accepts (.array element r) v
  | custom {p : Predicate} {v : Value} (holds : p.test v = .ok true) : Accepts (.custom p) v

mutual

/-- The schema that is made of given candidates: repetitions are dropped, at every depth. -/
def stored : Schema → Schema
  | enumeration candidates => enumeration (Value.keepFirst Value.equals candidates)
  | optional (some s) => optional (some s.stored)
  | union members => union (storedAll members)
  | intersection members => intersection (storedAll members)
  | object fields strict => object (storedFields fields) strict
  | collection element r => collection element.stored r
  | array element r => array element.stored r
  | s => s

/-- `stored` for each member. -/
def storedAll : List Schema → List Schema
  | [] => []
  | s :: ss => s.stored :: storedAll ss

/-- `stored` for each field. -/
def storedFields : List (String × Schema) → List (String × Schema)
  | [] => []
  | (name, s) :: fs => (name, s.stored) :: storedFields fs

end

mutual

/-- The candidates of all enumerations in a schema. -/
def candidates : Schema → List Value
  | enumeration vs => vs
  | optional (some s) => s.candidates
  | union members => candidatesAll members
  | intersection members => candidatesAll members
  | object fields _ => candidatesFields fields
  | collection element _ => element.candidates
  | array element _ => element.candidates
  | _ => []

/-- `candidates` for each member. -/
def candidatesAll : List Schema → List Value
  | [] => []
  | s :: ss => s.candidates ++ candidatesAll ss

/-- `candidates` for each field. -/
def candidatesFields : List (String × Schema) → List Value
  | [] => []
  | (_, s) :: fs => s.candidates ++ candidatesFields fs

end

end Schema

/-! ### Checks that come to a verdict -/

/-- Whether every verdict of a check is that of a proposition. -/
def Traced.Decides (t : Traced Node) (a : Prop) : Prop :=
  ∀ n, t.result = .ok n → (n.isValid = true ↔ a)

namespace Traced

theorem decides_pure {n : Node} {a : Prop} (h : n.isValid = true ↔ a) :
    (pure n : Traced Node).Decides a := by
  intro m hm
  cases hm
  exact h

theorem decides_reject {n : Node} {a : Prop} (hn : n.isValid = false) (ha : ¬a) :
    (pure n : Traced Node).Decides a :=
  decides_pure (iff_of_false (by simp [hn]) ha)

theorem decides_accept {n : Node} {a : Prop} (hn : n.isValid = true) (ha : a) :
    (pure n : Traced Node).Decides a :=
  decides_pure (iff_of_true hn ha)

theorem decides_ofResult {r : Verdict} {a : Prop}
    (h : ∀ n, r = .ok n → (n.isValid = true ↔ a)) : (ofResult r).Decides a := h

theorem decides_error (f : Fault) (a : Prop) : (ofResult (.error f)).Decides a :=
  fun _ hn => nomatch hn

/-- A check decides what it decides after whatever is done before it. -/
theorem decides_bind {α : Type} {x : Except Fault α} {next : α → Verdict} {a : Prop}
    (h : ∀ y, (ofResult (next y)).Decides a) : (ofResult (x >>= next)).Decides a := by
  cases x with
  | error f => exact decides_error f a
  | ok y => exact h y

theorem Decides.congr {t : Traced Node} {a b : Prop} (h : t.Decides a) (hab : a ↔ b) :
    t.Decides b :=
  fun n hn => (h n hn).trans hab

/-- A check that goes on after each acceptance decides whether both parts accept. -/
theorem decides_and {x rest : Traced Node} {a b : Prop} (hx : x.Decides a) (hrest : rest.Decides b) :
    Decides (x >>= fun n => if n.isValid then rest else pure n) (a ∧ b) := by
  intro n hn
  change (x.bind _).result = _ at hn
  rw [Traced.bind] at hn
  cases hxr : x.result with
  | error f => simp [hxr] at hn
  | ok m =>
    have ha := hx m hxr
    rw [hxr] at hn
    cases hm : m.isValid with
    | true =>
      simp only [hm, if_true] at hn
      rw [hrest n hn]
      exact ⟨fun hb => ⟨ha.mp hm, hb⟩, And.right⟩
    | false =>
      simp only [hm, Bool.false_eq_true, if_false] at hn
      cases hn
      -- The first part has rejected, so that its proposition fails.
      exact iff_of_false (by simp [hm]) fun hab => by simp [hm, hab.1] at ha

/-- A check that goes on after each rejection decides whether any of both parts accepts. -/
theorem decides_or {x rest : Traced Node} {a b : Prop} (hx : x.Decides a) (hrest : rest.Decides b) :
    Decides (x >>= fun n => if n.isValid then pure n else rest) (a ∨ b) := by
  intro n hn
  change (x.bind _).result = _ at hn
  rw [Traced.bind] at hn
  cases hxr : x.result with
  | error f => simp [hxr] at hn
  | ok m =>
    have ha := hx m hxr
    rw [hxr] at hn
    cases hm : m.isValid with
    | true =>
      simp only [hm, if_true] at hn
      cases hn
      exact iff_of_true hm (Or.inl (ha.mp hm))
    | false =>
      simp only [hm, Bool.false_eq_true, if_false] at hn
      rw [hrest n hn]
      refine ⟨Or.inr, fun h => h.resolve_left fun h => ?_⟩
      simp [hm, h] at ha

theorem decides_traceEntries {step : Value → Node → Traced Node} {p : Value → Prop}
    {entries : List (String × Value)} (h : ∀ e ∈ entries, ∀ n, (step e.2 n).Decides (p e.2))
    (parent : Node) :
    (traceEntries step parent entries).Decides (∀ x ∈ entries.map (·.2), p x) := by
  induction entries with
  | nil => exact decides_accept rfl (by simp)
  | cons e entries ih =>
    obtain ⟨label, v⟩ := e
    rw [traceEntries]
    have rest := ih fun e he => h e (List.mem_cons_of_mem _ he)
    exact (decides_and (h _ (List.mem_cons_self ..) _) rest).congr (by simp)

end Traced

/-! ### The checks of single values -/

theorem ExpectedType.check_isValid_iff (t : ExpectedType) (v : Value) (parent : Node) :
    (t.check v parent).isValid = true ↔ t = .kind v.kind := by
  unfold ExpectedType.check
  split
  · rename_i h
    exact iff_of_true rfl h
  · rename_i h
    exact iff_of_false (by simp) h

theorem Pattern.check_isValid_iff {p : Pattern} {s : String} {parent n : Node}
    (h : p.check s parent = .ok n) : n.isValid = true ↔ p.isFoundIn? s = some true := by
  unfold Pattern.check at h
  cases hp : p.isFoundIn? s with
  | none => simp [hp] at h
  | some found =>
    cases found <;> simp only [hp, Except.ok.injEq] at h <;> simp [← h]

theorem any_lt_eq_false_iff {bound : Option Int} {n : Int} :
    bound.any (· < n) = false ↔ ∀ m, bound = some m → n ≤ m := by
  cases bound <;> simp

theorem StringRule.check_isValid_iff {r : StringRule} {v : Value} {parent n : Node}
    (h : r.check v parent = .ok n) : n.isValid = true ↔ ∃ s, v = .str s ∧ r.Admits s := by
  cases v with
  | str s =>
    simp only [Value.str.injEq, exists_eq_left']
    simp only [StringRule.check] at h
    -- The checks in their order: each one is reached only by what passes those before it.
    by_cases hshort : (s.length : Int) < r.minLength
    · rw [if_pos hshort] at h
      obtain ⟨least, -, h⟩ := of_bind_eq_ok h
      cases h
      exact iff_of_false (by simp) fun admits => absurd admits.longEnough (by omega)
    · cases hlong : r.maxLength.any (· < (s.length : Int)) with
      | true =>
        rw [if_neg hshort, if_pos hlong] at h
        obtain ⟨greatest, -, h⟩ := of_bind_eq_ok h
        cases h
        refine iff_of_false (by simp) fun admits => ?_
        rw [any_lt_eq_false_iff.mpr admits.shortEnough] at hlong
        cases hlong
      | false =>
        simp only [hshort, hlong, Bool.false_eq_true, if_false] at h
        have bounds := any_lt_eq_false_iff.mp hlong
        cases hp : r.pattern with
        | none =>
          simp only [hp, Except.ok.injEq] at h
          exact iff_of_true (by simp [← h]) ⟨by omega, bounds, by simp [hp]⟩
        | some p =>
          rw [hp] at h
          rw [Pattern.check_isValid_iff h]
          exact ⟨fun found => ⟨by omega, bounds, by simp [hp, found]⟩,
            fun admits => admits.matched p hp⟩
  | _ =>
    obtain ⟨shown, -, h⟩ := of_bind_eq_ok h
    cases h
    exact iff_of_false (by simp) (by simp)

theorem checkConstraints_isValid_iff {v : Value} {parent n : Node} {cs : List Constraint}
    (h : checkConstraints v parent cs = .ok n) : n.isValid = true ↔
      ∀ c ∈ cs, ∀ bound, c.option = some bound → c.fails v bound = .ok false := by
  induction cs with
  | nil =>
    obtain ⟨shown, -, h⟩ := of_bind_eq_ok h
    cases h
    exact iff_of_true rfl (by simp)
  | cons c cs ih =>
    rw [checkConstraints] at h
    rw [List.forall_mem_cons]
    cases hopt : c.option with
    | none =>
      rw [hopt] at h
      simpa using ih h
    | some bound =>
      rw [hopt] at h
      simp only [Option.some.injEq, forall_eq']
      obtain ⟨failed, hfails, h⟩ := of_bind_eq_ok h
      cases failed with
      | true =>
        obtain ⟨shown, -, h⟩ := of_bind_eq_ok h
        obtain ⟨limit, -, h⟩ := of_bind_eq_ok h
        cases h
        exact iff_of_false (by simp) (by simp [hfails])
      | false => simpa [hfails] using ih h

theorem NumberRule.admits_iff {r : NumberRule} {v : Value} : r.Admits v ↔
    (∀ m, r.multipleOf = some m → (v.isMultipleOf m).map (!·) = .ok false) ∧
    (∀ b, r.maximum = some b → v.exceeds b = .ok false) ∧
    (∀ b, r.exclusiveMaximum = some b → v.reaches b = .ok false) ∧
    (∀ b, r.minimum = some b → v.fallsBelow b = .ok false) ∧
    ∀ b, r.exclusiveMinimum = some b → v.fallsTo b = .ok false := by
  simp [Admits, constraints]

theorem NumberRule.check_isValid_iff {r : NumberRule} {v : Value} {parent n : Node}
    (h : r.check v parent = .ok n) : n.isValid = true ↔ v.isNumber = true ∧ r.Admits v := by
  unfold NumberRule.check at h
  cases hv : v.isNumber with
  | true =>
    simp only [hv, if_true] at h
    rw [checkConstraints_isValid_iff h]
    simp [NumberRule.Admits]
  | false =>
    rw [hv, if_neg Bool.false_ne_true] at h
    obtain ⟨shown, -, h⟩ := of_bind_eq_ok h
    cases h
    simp

theorem checkEnumeration_isValid_iff {candidates : List Value} {v : Value} {parent n : Node}
    (h : checkEnumeration candidates v parent = .ok n) :
    n.isValid = true ↔ ∃ c ∈ candidates, v.equals c = true := by
  obtain ⟨shown, -, h⟩ := of_bind_eq_ok h
  obtain ⟨found, hfound, h⟩ := of_bind_eq_ok h
  rw [← List.any_eq_true, Value.of_anyM_compare hfound]
  cases found with
  | true =>
    obtain ⟨literal, -, h⟩ := of_bind_eq_ok h
    cases h
    simp
  | false =>
    obtain ⟨literal, -, h⟩ := of_bind_eq_ok h
    cases h
    simp

/-- Being equal to a candidate does not depend on repetitions having been dropped. -/
theorem exists_equal_keepFirst_iff {candidates : List Value}
    (sound : ∀ c ∈ candidates, c.IsRegular) {v : Value} (hv : v.IsRegular) :
    (∃ c ∈ Value.keepFirst Value.equals candidates, v.equals c = true) ↔
      ∃ c ∈ candidates, v.equals c = true := by
  have sub := (Value.keepFirst_sublist Value.equals candidates).subset
  constructor
  · rintro ⟨c, hc, h⟩
    exact ⟨c, sub hc, h⟩
  · rintro ⟨c, hc, h⟩
    obtain ⟨k, hk, hck⟩ := Value.exists_mem_keepFirst (r := Value.equals) hc
    refine ⟨k, hk, ?_⟩
    rcases hck with rfl | hck
    · exact h
    · exact Value.equals_trans hv (sound c hc) (sound k (sub hk)) h hck

namespace SizeRule

theorem admits_iff {r : SizeRule} {items : List Value} (regular : ∀ x ∈ items, x.IsRegular) :
    r.Admits items ↔ r.minItems ≤ items.length ∧
      r.maxItems.any (· < (items.length : Int)) = false ∧
      (r.uniqueItems = true → Value.countDistinct items = items.length) := by
  rw [any_lt_eq_false_iff, Value.countDistinct_eq_length_iff regular,
    Value.pairwise_not_alike_iff regular]
  exact ⟨fun h => ⟨h.manyEnough, h.fewEnough, h.unique⟩, fun ⟨h, h', h''⟩ => ⟨h, h', h''⟩⟩

/-- A check of a size that has an answer finds nothing wrong exactly if the size is admitted. -/
theorem eq_none_iff_of_check {r : SizeRule} {items : List Value}
    (regular : ∀ x ∈ items, x.IsRegular) {wrong : Option String} (h : r.check items = .ok wrong) :
    wrong = none ↔ r.Admits items := by
  rw [admits_iff regular]
  unfold check at h
  dsimp only at h
  -- The three tests in the order of the check: each complaint contradicts one part of what the rule admits.
  by_cases hfew : (items.length : Int) < r.minItems
  · rw [if_pos hfew] at h
    obtain ⟨least, -, h⟩ := of_bind_eq_ok h
    cases h
    exact iff_of_false (by simp) fun ⟨enough, _⟩ => by omega
  have enough : r.minItems ≤ items.length := by omega
  rw [if_neg hfew] at h
  cases hmany : r.maxItems.any (· < (items.length : Int)) with
  | true =>
    rw [hmany, if_pos rfl] at h
    obtain ⟨greatest, -, h⟩ := of_bind_eq_ok h
    cases h
    simp
  | false =>
    rw [hmany, if_neg Bool.false_ne_true] at h
    cases hunique : r.uniqueItems with
    | false =>
      rw [hunique, if_neg Bool.false_ne_true] at h
      cases h
      simp [enough]
    | true =>
      rw [hunique, if_pos rfl] at h
      obtain ⟨distinct, hdistinct, h⟩ := of_bind_eq_ok h
      rw [← Value.eq_of_count hdistinct]
      by_cases hsame : distinct = items.length
      · rw [if_neg (by simp [hsame])] at h
        cases h
        simp [enough, hsame]
      · rw [if_pos (by simp [hsame])] at h
        cases h
        simp [hsame]

end SizeRule

/-! ### Parts of values -/

namespace Value

theorem mem_of_named? {es : List (Value × Value)} {entries : List (String × Value)}
    (h : named? es = some entries) : ∀ e ∈ entries, (str e.1, e.2) ∈ es := by
  fun_induction named? es generalizing entries with
  | case1 => simp_all
  | case2 s x es ih =>
    obtain ⟨rest, hrest, rfl⟩ := Option.map_eq_some_iff.mp h
    intro e he
    rcases List.mem_cons.mp he with rfl | he
    · exact List.mem_cons_self ..
    · exact List.mem_cons_of_mem _ (ih hrest e he)
  | case3 => cases h

theorem IsProper.entries {v : Value} {es : List (Value × Value)} (hv : v.IsProper)
    (h : v.entries? = some es) : v = map es := by
  rw [entries?, hv.unroll] at h
  cases v <;> simp_all

theorem IsProper.items {v : Value} {xs : List Value} (hv : v.IsProper) (h : v.items? = some xs) :
    ∀ x ∈ xs, x.IsProper := by
  rw [items?, hv.unroll] at h
  cases v <;> simp_all

theorem IsProper.elements {v : Value} {xs : List Value} (hv : v.IsProper)
    (h : v.elements? = some xs) : ∀ x ∈ xs, x.IsProper := by
  unfold elements? at h
  cases hitems : v.items? with
  | some ys =>
    rw [hitems] at h
    cases h
    exact hv.items hitems
  | none =>
    rw [hitems] at h
    obtain ⟨es, hes, rfl⟩ := Option.map_eq_some_iff.mp h
    rw [hv.entries hes, isProper_map_iff] at hv
    intro x hx
    obtain ⟨e, he, rfl⟩ := List.mem_map.mp hx
    exact (hv.1 e he).2

theorem IsProper.fieldValue {v : Value} {entries : List (String × Value)} (hv : v.IsProper)
    (h : v.fields? = some entries) (name : String) : (fieldValue name entries).IsProper := by
  obtain ⟨es, hes, hnamed⟩ := Option.bind_eq_some_iff.mp h
  rw [hv.entries hes, isProper_map_iff] at hv
  unfold Conform.fieldValue
  cases hfind : entries.find? (·.1 == name) with
  | none => simp [IsProper]
  | some e => exact (hv.1 _ (mem_of_named? hnamed e (List.mem_of_find?_eq_some hfind))).2

theorem elements?_of_entries? {v : Value} {es : List (Value × Value)} (h : v.entries? = some es) :
    v.elements? = some (es.map (·.2)) := by
  have items : v.items? = none := by
    unfold entries? at h
    unfold items?
    cases hv : v.unroll <;> simp_all
  rw [elements?, items, h]
  rfl

theorem elements?_of_items? {v : Value} {xs : List Value} (h : v.items? = some xs) :
    v.elements? = some xs := by
  rw [elements?, h]

/-- Whether a value is a part of another one: the value itself, or a part of one of its elements. -/
inductive IsPartOf (w : Value) : Value → Prop where
  | self : IsPartOf w w
  | element {v x : Value} {xs : List Value} (elements : v.elements? = some xs) (mem : x ∈ xs)
      (part : IsPartOf w x) : IsPartOf w v

/-- Whether every part of a value is proper or holds itself, as in every value that can be built. -/
def IsSound (v : Value) : Prop := ∀ w : Value, w.IsPartOf v → w.IsRegular

theorem IsProper.of_isPartOf {v w : Value} (hv : v.IsProper) (h : w.IsPartOf v) : w.IsProper := by
  induction h with
  | self => exact hv
  | element elements mem _ ih => exact ih (hv.elements elements _ mem)

theorem IsProper.isSound {v : Value} (h : v.IsProper) : v.IsSound :=
  fun _ hw => (h.of_isPartOf hw).isRegular

namespace IsSound

variable {v : Value} (hv : v.IsSound)

include hv

theorem isRegular : v.IsRegular := hv v .self

theorem elements {xs : List Value} (h : v.elements? = some xs) : ∀ x ∈ xs, x.IsSound :=
  fun _ hx w hw => hv w (.element h hx hw)

theorem items {xs : List Value} (h : v.items? = some xs) : ∀ x ∈ xs, x.IsSound :=
  hv.elements (elements?_of_items? h)

end IsSound

/-- The value of a field is null or one of the elements. -/
theorem fieldValue_cases {v : Value} {entries : List (String × Value)}
    (h : v.fields? = some entries) (name : String) : fieldValue name entries = .null ∨
      ∃ xs, v.elements? = some xs ∧ fieldValue name entries ∈ xs := by
  obtain ⟨es, hes, hnamed⟩ := Option.bind_eq_some_iff.mp h
  unfold Conform.fieldValue
  cases hfind : entries.find? (·.1 == name) with
  | none => exact Or.inl rfl
  | some e =>
    have mem := mem_of_named? hnamed e (List.mem_of_find?_eq_some hfind)
    exact Or.inr ⟨_, elements?_of_entries? hes, List.mem_map.mpr ⟨_, mem, rfl⟩⟩

theorem isSound_null : null.IsSound := IsProper.isSound trivial

theorem IsSound.fieldValue {v : Value} (hv : v.IsSound) {entries : List (String × Value)}
    (h : v.fields? = some entries) (name : String) : (fieldValue name entries).IsSound := by
  rcases fieldValue_cases h name with hnull | ⟨xs, elements, mem⟩
  · exact hnull ▸ isSound_null
  · exact hv.elements elements _ mem

theorem eq_of_label {v : Value} {labelled : Option (List (String × Value))}
    (h : v.label = .ok labelled) : v.labelled? = labelled := by
  unfold label at h
  split at h
  · exact Except.ok.inj h
  · cases h

theorem elements?_eq_labelled? (v : Value) :
    v.elements? = v.labelled?.map fun entries => entries.map (·.2) := by
  unfold elements? labelled?
  cases v.items? with
  | some xs => simp [List.mapIdx_eq_zipIdx_map, Function.comp_def]
  | none => cases v.entries? <;> simp

end Value

theorem extraneous_eq_nil_iff {fields : List (String × Schema)} {entries : List (String × Value)} :
    extraneous fields entries = [] ↔ ∀ e ∈ entries, e.1 ∈ fields.map (·.1) := by
  simp [extraneous, List.filter_eq_nil_iff]

end Conform
