import Conform.Proofs.Schema.Meaning
/-!
# Verdicts and meanings

A trace of a value that can be built, where it comes to a verdict, comes to that of `Accepts`, for
each schema as it is (`trace_decides`).  Neither the repetitions among candidates that are dropped
nor the order of candidates, members and fields matter to `Accepts`.  The main result,
`verdict_iff_accepts`, puts these together.
-/
namespace Conform.Schema

/-! ### What each schema accepts -/

theorem accepts_string_iff {r : StringRule} {v : Value} :
    Accepts (string r) v ↔ ∃ s, v = .str s ∧ r.Admits s :=
  ⟨fun h => by cases h with | string admits => exact ⟨_, rfl, admits⟩,
    fun ⟨_, hv, admits⟩ => hv ▸ .string admits⟩

theorem accepts_number_iff {r : NumberRule} {v : Value} :
    Accepts (number r) v ↔ v.isNumber = true ∧ r.Admits v :=
  ⟨fun h => by cases h with | number isNumber admits => exact ⟨isNumber, admits⟩,
    fun ⟨isNumber, admits⟩ => .number isNumber admits⟩

theorem accepts_enumeration_iff {candidates : List Value} {v : Value} :
    Accepts (enumeration candidates) v ↔ ∃ c ∈ candidates, v.equals c = true :=
  ⟨fun h => by cases h with | enumeration hc h => exact ⟨_, hc, h⟩,
    fun ⟨_, hc, h⟩ => .enumeration hc h⟩

theorem accepts_optional_iff {s : Schema} {v : Value} :
    Accepts (optional (some s)) v ↔ v = .null ∨ Accepts s v := by
  constructor
  · intro h
    cases h with
    | absent => exact Or.inl rfl
    | present h => exact Or.inr h
  · rintro (rfl | h)
    · exact .absent
    · exact .present h

theorem accepts_union_iff {members : List Schema} {v : Value} :
    Accepts (union members) v ↔ ∃ s ∈ members, Accepts s v :=
  ⟨fun h => by cases h with | union hs h => exact ⟨_, hs, h⟩, fun ⟨_, hs, h⟩ => .union hs h⟩

theorem accepts_intersection_iff {members : List Schema} {v : Value} :
    Accepts (intersection members) v ↔ ∀ s ∈ members, Accepts s v :=
  ⟨fun h => by cases h with | intersection h => exact h, .intersection⟩

theorem accepts_object_iff {fields : List (String × Schema)} {strict : Bool} {v : Value} :
    Accepts (object fields strict) v ↔ ∃ entries, v.fields? = some entries ∧
      (strict = true → ∀ e ∈ entries, e.1 ∈ fields.map (·.1)) ∧
      ∀ f ∈ fields, Accepts f.2 (fieldValue f.1 entries) :=
  ⟨fun h => by cases h with | object hv known h => exact ⟨_, hv, known, h⟩,
    fun ⟨_, hv, known, h⟩ => .object hv known h⟩

theorem accepts_collection_iff {element : Schema} {r : SizeRule} {v : Value} :
    Accepts (collection element r) v ↔ ∃ items, v.elements? = some items ∧ r.Admits items ∧
      ∀ x ∈ items, Accepts element x :=
  ⟨fun h => by cases h with | collection hv admits h => exact ⟨_, hv, admits, h⟩,
    fun ⟨_, hv, admits, h⟩ => .collection hv admits h⟩

theorem accepts_array_iff {element : Schema} {r : SizeRule} {v : Value} :
    Accepts (array element r) v ↔ ∃ items, v.items? = some items ∧ r.Admits items ∧
      ∀ x ∈ items, Accepts element x :=
  ⟨fun h => by cases h with | array hv admits h => exact ⟨_, hv, admits, h⟩,
    fun ⟨_, hv, admits, h⟩ => .array hv admits h⟩

theorem accepts_custom_iff {q : Predicate} {v : Value} :
    Accepts (custom q) v ↔ q.test v = .ok true :=
  ⟨fun h => by cases h with | custom holds => exact holds, .custom⟩

/-! ### Traces come to the verdict of the meaning -/

theorem isNull_iff {v : Value} : v.isNull = true ↔ v = .null := by
  cases v <;> simp [Value.isNull]

/-- A collection is decided if its elements are. -/
theorem decides_traceCollection {element : Schema} {r : SizeRule} {entries : List (String × Value)}
    (sound : ∀ x ∈ entries.map (·.2), x.IsSound)
    (h : ∀ x : Value, x.IsSound → ∀ n, (element.trace x n).Decides (element.Accepts x))
    (p : Node) :
    (traceCollection (fun w n => element.trace w n) r p entries).Decides
      (r.Admits (entries.map (·.2)) ∧ ∀ x ∈ entries.map (·.2), element.Accepts x) := by
  have regular : ∀ x ∈ entries.map (·.2), x.IsRegular := fun x hx => (sound x hx).isRegular
  unfold traceCollection
  cases hcheck : r.check (entries.map (·.2)) with
  | error f => exact Traced.decides_error f _
  | ok wrong =>
    have size := SizeRule.eq_none_iff_of_check regular hcheck
    cases wrong with
    | some reason =>
      refine Traced.decides_reject rfl fun hadmits => ?_
      cases size.mpr hadmits.1
    | none =>
      have each := Traced.decides_traceEntries (p := element.Accepts)
        (fun e he n => h e.2 (sound _ (List.mem_map_of_mem he)) n) p
      exact each.congr (by simp [size.mp rfl])

mutual

/-- A trace of a value that can be built comes to no verdict but that of the meaning. -/
theorem trace_decides : ∀ (s : Schema) {v : Value}, v.IsSound → ∀ p : Node,
    (s.trace v p).Decides (s.Accepts v)
  | type t, v, _, p => by
    refine Traced.decides_pure ((t.check_isValid_iff v p).trans ⟨.type, fun h => ?_⟩)
    cases h with | type same => exact same
  | string r, v, _, p => by
    refine Traced.decides_ofResult fun n hn => ?_
    rw [StringRule.check_isValid_iff hn, accepts_string_iff]
  | number r, v, _, p => by
    refine Traced.decides_ofResult fun n hn => ?_
    rw [NumberRule.check_isValid_iff hn, accepts_number_iff]
  | enumeration candidates, v, _, p => by
    refine Traced.decides_ofResult fun n hn => ?_
    rw [checkEnumeration_isValid_iff hn, accepts_enumeration_iff]
  | optional none, v, _, p => by
    rw [trace]
    split
    · exact Traced.decides_accept rfl .unwrapped
    · exact Traced.decides_bind fun _ => Traced.decides_accept rfl .unwrapped
  | optional (some s), v, hv, p => by
    rw [trace]
    split
    · rename_i hnull
      exact Traced.decides_accept rfl (accepts_optional_iff.mpr (Or.inl (isNull_iff.mp hnull)))
    · rename_i hnull
      refine (trace_decides s hv _).congr ?_
      rw [accepts_optional_iff, ← isNull_iff]
      exact ⟨Or.inr, fun h => h.resolve_left hnull⟩
  | union members, v, hv, p => by
    rw [trace]
    refine (traceUnion_decides hv p ?_ members).congr accepts_union_iff.symm
    exact Traced.decides_bind fun _ => Traced.decides_reject rfl id
  | intersection members, v, hv, p => by
    rw [trace]
    exact (traceIntersection_decides hv p members).congr accepts_intersection_iff.symm
  | object fields strict, v, hv, p => by
    rw [trace]
    cases hfields : v.fields? with
    | none =>
      refine Traced.decides_bind fun _ => Traced.decides_reject rfl fun h => ?_
      obtain ⟨entries, hentries, -⟩ := accepts_object_iff.mp h
      rw [hfields] at hentries
      cases hentries
    | some entries =>
      have meaning : Accepts (object fields strict) v ↔
          (strict = true → ∀ e ∈ entries, e.1 ∈ fields.map (·.1)) ∧
            ∀ f ∈ fields, Accepts f.2 (fieldValue f.1 entries) := by
        simp [accepts_object_iff, hfields]
      -- Extraneous keys are what the check looks for; the meaning speaks of keys without a field.
      rw [← extraneous_eq_nil_iff] at meaning
      dsimp only
      cases hothers : strict && !(extraneous fields entries).isEmpty with
      | true =>
        refine Traced.decides_reject rfl fun h => ?_
        simp_all
      | false =>
        refine (traceFields_decides (fun name => hv.fieldValue hfields name) p fields).congr ?_
        rw [meaning]
        simp_all
  | collection element r, v, hv, p => by
    rw [trace, accepts_collection_iff, Value.elements?_eq_labelled?]
    cases hlabel : v.label with
    | error f => exact Traced.decides_error f _
    | ok labelled =>
      rw [Value.eq_of_label hlabel]
      cases labelled with
      | none => exact Traced.decides_bind fun _ => Traced.decides_reject rfl (by simp)
      | some entries =>
        have elements : v.elements? = some (entries.map (·.2)) := by
          rw [Value.elements?_eq_labelled?, Value.eq_of_label hlabel]
          rfl
        have sound := hv.elements elements
        exact (decides_traceCollection sound (fun _ hx => trace_decides element hx) p).congr
          (by simp)
  | array element r, v, hv, p => by
    rw [trace, accepts_array_iff, Value.isSequence]
    cases hitems : v.items? with
    | none => exact Traced.decides_bind fun _ => Traced.decides_reject rfl (by simp)
    | some xs =>
      have sound := hv.items hitems
      -- The elements of a sequence are its items, and the labels are their places.
      have labelled : (v.labelled?.getD []).map (·.2) = xs := by
        have := Value.elements?_eq_labelled? v
        simp only [Value.elements?, hitems] at this
        obtain ⟨entries, hentries, hxs⟩ := Option.map_eq_some_iff.mp this.symm
        rw [hentries, Option.getD_some, hxs]
      have decides := decides_traceCollection (r := r) (labelled ▸ sound)
        (fun _ hx => trace_decides element hx) p
      exact decides.congr (by simp [labelled])
  | custom q, v, _, p => by
    intro n hn
    rw [trace] at hn
    simp only [Predicate.trace] at hn
    rw [accepts_custom_iff]
    cases htest : q.test v with
    | error f => simp [htest, bind, Except.bind] at hn
    | ok b =>
      cases b <;>
        simp only [htest, bind, Except.bind, pure, Except.pure, if_true, Bool.false_eq_true,
          if_false, Except.ok.injEq] at hn <;>
        simp [← hn]

theorem traceUnion_decides {v : Value} (hv : v.IsSound) (p : Node) {rejection : Verdict}
    (rejected : (Traced.ofResult rejection).Decides False) : ∀ ss : List Schema,
      (traceUnion v p rejection ss).Decides (∃ s ∈ ss, s.Accepts v)
  | [] => rejected.congr (by simp)
  | s :: ss => by
    rw [traceUnion]
    exact (Traced.decides_or (trace_decides s hv p) (traceUnion_decides hv p rejected ss)).congr
      (by simp)

theorem traceIntersection_decides {v : Value} (hv : v.IsSound) (p : Node) : ∀ ss : List Schema,
    (traceIntersection v p ss).Decides (∀ s ∈ ss, s.Accepts v)
  | [] => Traced.decides_accept rfl (by simp)
  | s :: ss => by
    rw [traceIntersection]
    exact (Traced.decides_and (trace_decides s hv p) (traceIntersection_decides hv p ss)).congr
      (by simp)

theorem traceFields_decides {entries : List (String × Value)}
    (sound : ∀ name, (fieldValue name entries).IsSound) (p : Node) :
    ∀ fs : List (String × Schema), (traceFields entries p fs).Decides
      (∀ f ∈ fs, f.2.Accepts (fieldValue f.1 entries))
  | [] => Traced.decides_accept rfl (by simp)
  | (name, s) :: fs => by
    rw [traceFields]
    exact (Traced.decides_and (trace_decides s (sound name) _)
      (traceFields_decides sound p fs)).congr (by simp)

end

/-! ### Repetitions among candidates -/

theorem mem_storedAll_iff {members : List Schema} {t : Schema} :
    t ∈ storedAll members ↔ ∃ s ∈ members, s.stored = t := by
  induction members with
  | nil => simp [storedAll]
  | cons s ss ih => simp [storedAll, ih, eq_comm]

theorem mem_storedFields_iff {fields : List (String × Schema)} {g : String × Schema} :
    g ∈ storedFields fields ↔ ∃ f ∈ fields, (f.1, f.2.stored) = g := by
  induction fields with
  | nil => simp [storedFields]
  | cons f fs ih =>
    obtain ⟨name, s⟩ := f
    simp only [storedFields, List.mem_cons, ih, exists_eq_or_imp]
    exact or_congr_left eq_comm

theorem names_storedFields (fields : List (String × Schema)) :
    (storedFields fields).map (·.1) = fields.map (·.1) := by
  induction fields with
  | nil => rfl
  | cons f fs ih =>
    obtain ⟨name, s⟩ := f
    rw [storedFields, List.map_cons, List.map_cons, ih]

theorem mem_candidatesAll_iff {members : List Schema} {c : Value} :
    c ∈ candidatesAll members ↔ ∃ s ∈ members, c ∈ s.candidates := by
  induction members with
  | nil => simp [candidatesAll]
  | cons s ss ih => simp [candidatesAll, ih]

theorem mem_candidatesFields_iff {fields : List (String × Schema)} {c : Value} :
    c ∈ candidatesFields fields ↔ ∃ f ∈ fields, c ∈ f.2.candidates := by
  induction fields with
  | nil => simp [candidatesFields]
  | cons f fs ih =>
    obtain ⟨name, s⟩ := f
    simp [candidatesFields, ih]

/-- Whether each candidate of a schema is proper or holds itself, as every value does that can be
built. -/
def HasSoundCandidates (s : Schema) : Prop := ∀ c ∈ s.candidates, c.IsProper ∨ c.IsCyclic

namespace HasSoundCandidates

theorem member {members : List Schema} (h : ∀ c ∈ candidatesAll members, c.IsProper ∨ c.IsCyclic)
    {s : Schema} (hs : s ∈ members) : s.HasSoundCandidates :=
  fun c hc => h c (mem_candidatesAll_iff.mpr ⟨s, hs, hc⟩)

theorem field {fields : List (String × Schema)}
    (h : ∀ c ∈ candidatesFields fields, c.IsProper ∨ c.IsCyclic) {f : String × Schema}
    (hf : f ∈ fields) : f.2.HasSoundCandidates :=
  fun c hc => h c (mem_candidatesFields_iff.mpr ⟨f, hf, hc⟩)

end HasSoundCandidates

/-- What is inherited from the parts of a schema holds of all schemas. -/
@[elab_as_elim]
theorem inductionOnParts {motive : Schema → Prop} (s : Schema)
    (type : ∀ t, motive (type t)) (string : ∀ r, motive (string r))
    (number : ∀ r, motive (number r)) (enumeration : ∀ vs, motive (enumeration vs))
    (empty : motive (optional none)) (optional : ∀ s, motive s → motive (optional (some s)))
    (union : ∀ ss, (∀ s ∈ ss, motive s) → motive (union ss))
    (intersection : ∀ ss, (∀ s ∈ ss, motive s) → motive (intersection ss))
    (object : ∀ (fs : List (String × Schema)) (strict : Bool), (∀ f ∈ fs, motive f.2) →
      motive (object fs strict))
    (collection : ∀ s r, motive s → motive (collection s r))
    (array : ∀ s r, motive s → motive (array s r)) (custom : ∀ p, motive (custom p)) : motive s :=
  @Schema.rec motive (fun w => ∀ s, w = some s → motive s) (fun ss => ∀ s ∈ ss, motive s)
    (fun fs => ∀ f ∈ fs, motive f.2) (fun f => motive f.2)
    type string number enumeration
    (fun w hw => match w, hw with
      | none, _ => empty
      | some s, hw => optional s (hw s rfl))
    union intersection object collection array custom
    (by simp) (by simp)
    (by simp) (fun _ _ hs hss => List.forall_mem_cons.mpr ⟨hs, hss⟩)
    (by simp) (fun _ _ hf hfs => List.forall_mem_cons.mpr ⟨hf, hfs⟩)
    (fun _ _ hs => hs) s

/-- A schema accepts what the one that is made of it accepts. -/
theorem accepts_stored_iff {s : Schema} (hs : s.HasSoundCandidates) {v : Value} (hv : v.IsSound) :
    s.stored.Accepts v ↔ s.Accepts v := by
  induction s using inductionOnParts generalizing v with
  | type t => rfl
  | string r => rfl
  | number r => rfl
  | enumeration candidates =>
    -- Only here does storing change anything: the candidates lose their repetitions.
    rw [stored, accepts_enumeration_iff, accepts_enumeration_iff]
    exact exists_equal_keepFirst_iff hs hv.isRegular
  | empty => rfl
  | optional s ih => rw [stored, accepts_optional_iff, accepts_optional_iff, ih hs hv]
  | union ss ih =>
    rw [stored, accepts_union_iff, accepts_union_iff]
    simp only [mem_storedAll_iff, exists_exists_and_eq_and]
    exact exists_congr fun s => and_congr_right fun hmem => ih s hmem (.member hs hmem) hv
  | intersection ss ih =>
    rw [stored, accepts_intersection_iff, accepts_intersection_iff]
    simp only [mem_storedAll_iff, forall_exists_index, and_imp, forall_apply_eq_imp_iff₂]
    exact forall₂_congr fun s hmem => ih s hmem (.member hs hmem) hv
  | object fs strict ih =>
    rw [stored, accepts_object_iff, accepts_object_iff]
    simp only [mem_storedFields_iff, names_storedFields, forall_exists_index, and_imp,
      forall_apply_eq_imp_iff₂]
    refine exists_congr fun entries => and_congr_right fun hentries => and_congr_right fun _ => ?_
    exact forall₂_congr fun f hmem => ih f hmem (.field hs hmem) (hv.fieldValue hentries f.1)
  | collection s r ih =>
    rw [stored, accepts_collection_iff, accepts_collection_iff]
    refine exists_congr fun items => and_congr_right fun hitems => and_congr_right fun _ => ?_
    exact forall₂_congr fun x hx => ih hs (hv.elements hitems x hx)
  | array s r ih =>
    rw [stored, accepts_array_iff, accepts_array_iff]
    refine exists_congr fun items => and_congr_right fun hitems => and_congr_right fun _ => ?_
    exact forall₂_congr fun x hx => ih hs (hv.items hitems x hx)
  | custom p => rfl

/-! ### Order -/

/-- Schemas that differ in the order of candidates, members and fields only, at any depth. -/
inductive Reordered : Schema → Schema → Prop where
  | refl (s : Schema) : Reordered s s
  | trans {s t u : Schema} (left : Reordered s t) (right : Reordered t u) : Reordered s u
  | candidates {vs ws : List Value} (perm : vs.Perm ws) :
      Reordered (enumeration vs) (enumeration ws)
  | optional {s t : Schema} (part : Reordered s t) :
      Reordered (.optional (some s)) (.optional (some t))
  | unionMembers {ss ts : List Schema} (perm : ss.Perm ts) : Reordered (union ss) (union ts)
  | unionMember {before after : List Schema} {s t : Schema} (part : Reordered s t) :
      Reordered (union (before ++ s :: after)) (union (before ++ t :: after))
  | intersectionMembers {ss ts : List Schema} (perm : ss.Perm ts) :
      Reordered (intersection ss) (intersection ts)
  | intersectionMember {before after : List Schema} {s t : Schema} (part : Reordered s t) :
      Reordered (intersection (before ++ s :: after)) (intersection (before ++ t :: after))
  | fields {fs gs : List (String × Schema)} {strict : Bool} (perm : fs.Perm gs) :
      Reordered (object fs strict) (object gs strict)
  | field {before after : List (String × Schema)} {name : String} {s t : Schema} {strict : Bool}
      (part : Reordered s t) :
      Reordered (object (before ++ (name, s) :: after) strict)
        (object (before ++ (name, t) :: after) strict)
  | collection {s t : Schema} {r : SizeRule} (part : Reordered s t) :
      Reordered (.collection s r) (.collection t r)
  | array {s t : Schema} {r : SizeRule} (part : Reordered s t) :
      Reordered (.array s r) (.array t r)

namespace Reordered

theorem mem_candidates_iff {s t : Schema} (h : Reordered s t) (c : Value) :
    c ∈ s.candidates ↔ c ∈ t.candidates := by
  induction h with
  | refl => rfl
  | trans _ _ ih ih' => exact ih.trans ih'
  | candidates perm => exact perm.mem_iff
  | optional _ ih => exact ih
  | unionMembers perm => simp [Schema.candidates, mem_candidatesAll_iff, perm.mem_iff]
  | unionMember _ ih => simp [Schema.candidates, mem_candidatesAll_iff, or_and_right, exists_or, ih]
  | intersectionMembers perm => simp [Schema.candidates, mem_candidatesAll_iff, perm.mem_iff]
  | intersectionMember _ ih =>
    simp [Schema.candidates, mem_candidatesAll_iff, or_and_right, exists_or, ih]
  | fields perm => simp only [Schema.candidates, mem_candidatesFields_iff, perm.mem_iff]
  | field _ ih =>
    simp only [Schema.candidates, mem_candidatesFields_iff, List.mem_append, List.mem_cons,
      or_and_right, exists_or, exists_eq_left, ih]
  | collection _ ih => exact ih
  | array _ ih => exact ih

/-- Order does not matter to what is accepted. -/
theorem accepts_iff {s t : Schema} (h : Reordered s t) (v : Value) :
    s.Accepts v ↔ t.Accepts v := by
  induction h generalizing v with
  | refl => rfl
  | trans _ _ ih ih' => exact (ih v).trans (ih' v)
  | candidates perm => simp only [accepts_enumeration_iff, perm.mem_iff]
  | optional _ ih => rw [accepts_optional_iff, accepts_optional_iff, ih]
  | unionMembers perm => simp only [accepts_union_iff, perm.mem_iff]
  | unionMember _ ih =>
    simp only [accepts_union_iff, List.mem_append, List.mem_cons, or_and_right, exists_or,
      exists_eq_left, ih]
  | intersectionMembers perm => simp only [accepts_intersection_iff, perm.mem_iff]
  | intersectionMember _ ih =>
    simp only [accepts_intersection_iff, List.forall_mem_append, List.forall_mem_cons, ih]
  | fields perm => simp only [accepts_object_iff, (perm.map _).mem_iff, perm.mem_iff]
  | field _ ih =>
    simp only [accepts_object_iff, List.forall_mem_append, List.forall_mem_cons, ih,
      List.map_append, List.map_cons]
  | collection _ ih => simp only [accepts_collection_iff, ih]
  | array _ ih => simp only [accepts_array_iff, ih]

end Reordered

/-! ### The main result -/

theorem trace_stored_iff_accepts {s : Schema} (hs : s.HasSoundCandidates) {v : Value}
    (hv : v.IsProper) {p n : Node} (h : (s.stored.trace v p).result = .ok n) :
    n.isValid = true ↔ s.Accepts v :=
  (trace_decides s.stored hv.isSound p n h).trans (accepts_stored_iff hs hv.isSound)

theorem validate_eq_ok_iff {s : Schema} {v : Value} {b : Bool} :
    s.validate v = .ok b ↔ ∃ n, (s.trace v .root).result = .ok n ∧ n.isValid = b := by
  unfold validate
  cases (s.trace v .root).result <;> simp [Except.map]

theorem validate_stored_iff_accepts {s : Schema} (hs : s.HasSoundCandidates) {v : Value}
    (hv : v.IsProper) {b : Bool} (h : s.stored.validate v = .ok b) : b = true ↔ s.Accepts v := by
  obtain ⟨n, hn, rfl⟩ := validate_eq_ok_iff.mp h
  exact trace_stored_iff_accepts hs hv hn

/-- **What a verdict means.**  Where a check comes to a verdict on a proper value, it accepts exactly
the values that the schema accepts as it was given; hence the order of candidates, members and fields
changes no verdict. -/
theorem verdict_iff_accepts {s : Schema} (hs : s.HasSoundCandidates) {v : Value}
    (hv : v.IsProper) :
    (∀ p n, (s.stored.trace v p).result = .ok n → (n.isValid = true ↔ s.Accepts v)) ∧
    (∀ b, s.stored.validate v = .ok b → (b = true ↔ s.Accepts v)) ∧
    ∀ t, Reordered s t → ∀ b c, s.stored.validate v = .ok b → t.stored.validate v = .ok c →
      b = c := by
  refine ⟨fun p n h => trace_stored_iff_accepts hs hv h,
    fun b h => validate_stored_iff_accepts hs hv h, fun t reordered b c hb hc => ?_⟩
  -- Reordering moves candidates and drops none, so that both verdicts have a meaning.
  have ht : t.HasSoundCandidates := fun c hc => hs c ((reordered.mem_candidates_iff c).mpr hc)
  have hs' := validate_stored_iff_accepts hs hv hb
  have ht' := validate_stored_iff_accepts ht hv hc
  rw [← reordered.accepts_iff v] at ht'
  exact Bool.eq_iff_iff.mpr (hs'.trans ht'.symm)

/-- A list that holds itself. -/
def selfList : Value := .loop 0 (.list [.back 0])

theorem isCyclic_selfList : selfList.IsCyclic := by
  -- However often it is expanded, a list around it is left.
  have nested : ∀ n v,
      Nat.repeat Value.expand n (.list [v]) = .list [Nat.repeat Value.expand n v] := by
    intro n v
    induction n with
    | zero => rfl
    | succ n ih => rw [Nat.repeat, ih, Nat.repeat, Value.expand]; rfl
  have shifted : ∀ n v, Nat.repeat Value.expand (n + 1) v = Nat.repeat Value.expand n v.expand := by
    intro n v
    induction n with
    | zero => rfl
    | succ n ih => rw [Nat.repeat, ih, Nat.repeat]
  intro n
  induction n with
  | zero => rfl
  | succ n ih =>
    rw [shifted, show selfList.expand = .list [selfList] from rfl, nested]
    simp [Value.isTree, Value.isTreeItems, ih]

/-- A field that is an enumeration of repeated numbers and of a list that holds itself, and another
that may be absent. -/
def sampleSchema : Schema :=
  object [("a", enumeration [.int 1, .float (.finite false 1 0), .int 2, selfList]),
    ("b", optional (some (string {})))] true

theorem verdict_iff_accepts_sample :
    sampleSchema.HasSoundCandidates ∧ (Value.map [(.str "a", .int 2)]).IsProper ∧
      sampleSchema.Accepts (.map [(.str "a", .int 2)]) := by
  have hs : sampleSchema.HasSoundCandidates := by
    intro c hc
    simp only [sampleSchema, candidates, candidatesFields, List.append_nil, List.mem_cons,
      List.not_mem_nil, or_false] at hc
    rcases hc with rfl | rfl | rfl | rfl
    · exact Or.inl trivial
    · exact Or.inl trivial
    · exact Or.inl trivial
    · exact Or.inr isCyclic_selfList
  have hv : (Value.map [(.str "a", .int 2)]).IsProper := by
    simp [Value.IsProper, Value.AreProperEntries]
  exact ⟨hs, hv, ((verdict_iff_accepts hs hv).2.1 true (by decide +kernel)).mp rfl⟩

end Conform.Schema
