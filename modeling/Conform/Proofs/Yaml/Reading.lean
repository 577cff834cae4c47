import Conform.Proofs.Value.Building
import Conform.Proofs.Value.Equality
import Conform.Proofs.Yaml.Filling
/-!
# Reading a plain document

What is constructed of a plain document, node by node and with the edits of the moment, is what can be
read off its tree (`plainValue?_of_instance?`).
-/
namespace Conform.Yaml

/-! ### Scalars are scalars -/

namespace Scalar

private theorem keyClass?_of_int {s : List Char} {v : Value} (h : int s = .ok v) :
    v.keyClass?.isSome = true := by
  unfold int at h
  split at h
  · cases h
  · obtain ⟨n, -, h⟩ := of_bind_eq_ok h
    cases h
    rfl

private theorem keyClass?_of_float {i : Nat} {s : List Char} {v : Value}
    (h : float i s = .ok v) : v.keyClass?.isSome = true := by
  unfold float at h
  split at h
  · cases h
  · dsimp only at h
    split at h
    · cases h
      rfl
    · split at h
      · cases h
        rfl
      · split at h
        · obtain ⟨parts, -, h⟩ := of_bind_eq_ok h
          obtain ⟨x, -, h⟩ := of_bind_eq_ok h
          cases h
          rfl
        · obtain ⟨x, -, h⟩ := of_bind_eq_ok h
          cases h
          rfl

private theorem keyClass?_of_bool {s : List Char} {v : Value} (h : bool s = .ok v) :
    v.keyClass?.isSome = true := by
  unfold bool at h
  dsimp only at h
  split at h
  · cases h
    rfl
  · split at h <;> cases h
    rfl

private theorem keyClass?_of_binary {s : List Char} {v : Value} (h : binary s = .ok v) :
    v.keyClass?.isSome = true := by
  unfold binary at h
  split at h
  · split at h <;> cases h
    rfl
  · cases h

private theorem keyClass?_of_timestamp {s : List Char} {v : Value} (h : timestamp s = .ok v) :
    v.keyClass?.isSome = true := by
  unfold timestamp at h
  split at h
  · unfold ofTimeParts at h
    split at h
    · obtain ⟨date, -, h⟩ := of_bind_eq_ok h
      cases h
      rfl
    · dsimp only at h
      split at h
      all_goals
        obtain ⟨offset, -, h⟩ := of_bind_eq_ok h
        obtain ⟨time, -, h⟩ := of_bind_eq_ok h
        cases h
        rfl
  · cases h

end Scalar

namespace Tree

theorem keyClass?_of_scalarValue {t : Tree} {m : Meaning} {s : List Char} {v : Value}
    (h : scalarValue t m s = .ok v) : v.keyClass?.isSome = true := by
  unfold scalarValue at h
  split at h
  · cases h
    rfl
  · exact Scalar.keyClass?_of_bool h
  · exact Scalar.keyClass?_of_int h
  · exact Scalar.keyClass?_of_float h
  · exact Scalar.keyClass?_of_binary h
  · split at h
    · exact Scalar.keyClass?_of_timestamp h
    · cases h
  · cases h
    rfl
  · cases h

theorem keyClass?_of_scalar? {t : Tree} {v : Value} (h : t.scalar? = some v) :
    v.keyClass?.isSome = true := by
  unfold scalar? at h
  split at h
  · split at h
    · cases h
      rfl
    · obtain ⟨m, -, hv⟩ := Option.bind_eq_some_iff.mp h
      cases hs : scalarValue _ m _ with
      | error f =>
        rw [hs] at hv
        cases hv
      | ok w =>
        rw [hs] at hv
        cases hv
        exact keyClass?_of_scalarValue hs
  · cases h

/-- The instance of a plain document is proper. -/
theorem isProper_of_plainValue? {t : Tree} {v : Value} (h : t.plainValue? = some v) :
    v.IsProper := by
  induction t using inductionOnParts generalizing v with
  | scalar i tag m text =>
    rw [plainValue?] at h
    exact Value.isProper_of_keyClass? (keyClass?_of_scalar? h)
  | sequence i tag m ts ih =>
    obtain ⟨xs, hxs, rfl⟩ := Option.map_eq_some_iff.mp h
    refine Value.isProper_list_iff.mpr fun x hx => ?_
    obtain ⟨t, ht, htx⟩ := exists_of_forall₂ (plainValues?_eq_some_iff.mp hxs).flip hx
    exact ih t ht htx
  | mapping i tag m es ih =>
    obtain ⟨ps, hps, rfl⟩ := Option.map_eq_some_iff.mp h
    refine Value.isProper_mapOf fun p hp => ?_
    obtain ⟨e, he, hk, hv⟩ := exists_of_forall₂ (plainPairs?_eq_some_iff.mp hps).flip hp
    exact ⟨Value.isProper_of_keyClass? (keyClass?_of_scalar? hk), (ih e he).2 hv⟩
  | reference i => cases h

end Tree

/-! ### Constructing values -/

namespace Tree

variable {d : Tree} {h : History}

theorem History.IsMild.begunWith (mild : h.IsMild d) (t : Tree) : (h.begunWith t).IsMild d := by
  unfold History.begunWith
  cases hfind : h.begun.find? (·.1 == t.id) with
  | none => exact Edits.isMild_empty d
  | some p => exact mild.begun p (List.mem_of_find?_eq_some hfind)

theorem History.IsMild.filledWith (mild : h.IsMild d) (t : Tree) : (h.filledWith t).IsMild d := by
  unfold History.filledWith
  cases hfind : h.filled.find? (·.1 == t.id) with
  | none => exact Edits.isMild_empty d
  | some p => exact mild.filled p (List.mem_of_find?_eq_some hfind)

/-- A scalar begins with the value that it has by itself. -/
theorem begin_scalar (hd : d.Plain) {e : Edits} (he : e.IsMild d) {i : Nat} {tag : String}
    {m : Mark} {text : String} (ht : scalar i tag m text ∈ d.nodes)
    (leaf : (scalar i tag m text).tagContainer? = none) {b : Begun}
    (hb : Tree.begin d e (scalar i tag m text) = .ok b) :
    ∃ v, b = .value v ∧ (scalar i tag m text).scalar? = some v := by
  cases b with
  | container c =>
    have := container_of_begin hb
    rw [he.container_eq hd ht, leaf] at this
    cases this
  | value v =>
    refine ⟨v, rfl, ?_⟩
    obtain ⟨mean, s, hmean, -, hs, hv⟩ := value_of_begin hb
    have hs : s = text := (Option.some.inj hs).symm
    subst hs
    unfold Tree.meaning? at hmean
    rw [scalar?]
    by_cases hvalue : tag = Meaning.value.tag
    · rw [if_pos hvalue]
      rcases he.tagOf_cases hd ht with htag | ⟨-, htag⟩
      · -- A default value that is not a text yet has no value.
        rw [htag, Tree.tag, hvalue, meaning?_tag] at hmean
        cases hmean
        cases hv
      · rw [htag, meaning?_tag] at hmean
        cases hmean
        cases hv
        simp
    · rw [if_neg hvalue]
      rcases he.tagOf_cases hd ht with htag | ⟨htag, -⟩
      · rw [htag, Tree.tag] at hmean
        simp [hmean, hv, Except.toOption]
      · exact absurd htag hvalue

/-- A collection begins with the container that its tag asks for. -/
theorem begin_container (hd : d.Plain) {e : Edits} (he : e.IsMild d) {t : Tree}
    (ht : t ∈ d.nodes) {c : Container} (hc : t.tagContainer? = some c) {b : Begun}
    (hb : Tree.begin d e t = .ok b) : b = .container c := by
  have asked := he.container_eq hd ht
  rw [hc] at asked
  cases b with
  | container c' =>
    rw [container_of_begin hb, Option.some.injEq] at asked
    rw [asked]
  | value v =>
    obtain ⟨m, s, hm, hnone, -⟩ := value_of_begin hb
    rw [hm, Option.bind_some, hnone] at asked
    cases asked

theorem mem_idsItems {ts : List Tree} {t : Tree} (ht : t ∈ ts) {i : Nat} (hi : i ∈ t.ids) :
    i ∈ idsItems ts := by
  obtain ⟨u, hu, rfl⟩ := List.mem_map.mp hi
  exact List.mem_map_of_mem (mem_nodesItems_iff.mpr ⟨t, ht, hu⟩)

theorem mem_idsEntries {es : List (Tree × Tree)} {e : Tree × Tree} (he : e ∈ es) {i : Nat}
    (hi : i ∈ e.1.ids ∨ i ∈ e.2.ids) : i ∈ idsEntries es := by
  rcases hi with hi | hi
  · obtain ⟨u, hu, rfl⟩ := List.mem_map.mp hi
    exact List.mem_map_of_mem (mem_nodesEntries_iff.mpr ⟨e, he, Or.inl hu⟩)
  · obtain ⟨u, hu, rfl⟩ := List.mem_map.mp hi
    exact List.mem_map_of_mem (mem_nodesEntries_iff.mpr ⟨e, he, Or.inr hu⟩)

theorem map_written (t : Tree) : t.written.map (fun x => (x.key, x.value)) = t.entries := by
  simp [written, List.mapIdx_eq_zipIdx_map, Function.comp_def]

theorem close_of_isProper {v : Value} (hv : v.IsProper) (label : Nat) : close label v = v := by
  rw [close, Value.isClosed_of_isTree hv.isTree, if_pos rfl]

/-- **What is constructed is what can be read off.**  No node is met inside itself, for the numbers
of the parts of a node are other ones. -/
theorem plainValue?_of_construct (hd : d.Plain) (mild : h.IsMild d)
    (regular : ∀ t ∈ d.nodes, t.IsRegular) {fuel : Nat} {open_ : List Nat} {t : Tree} {v : Value}
    (ht : t ∈ d.nodes) (free : ∀ i ∈ t.ids, i ∉ open_)
    (hv : d.construct h fuel open_ t = .ok v) : t.plainValue? = some v := by
  induction fuel generalizing open_ t v with
  | zero => cases hv
  | succ fuel ih =>
    have plain := hd.isPlain_of_mem ht
    have closed : open_.contains t.id = false := by
      simpa using free t.id (List.mem_map_of_mem (mem_nodes_self plain))
    -- A part is constructed with the number of its node open.
    have part : ∀ u ∈ d.nodes, u.size < t.size → (∀ i ∈ u.ids, i ∈ t.ids) → ∀ w,
        d.construct h fuel (t.id :: open_) u = .ok w → u.plainValue? = some w := by
      intro u hu smaller sub w hw
      refine ih hu (fun i hi => ?_) hw
      rw [List.mem_cons, not_or]
      exact ⟨fun heq => hd.id_not_mem_ids ht hu smaller (heq ▸ hi), free i (sub i hi)⟩
    rw [construct] at hv
    simp only [hd.resolve ht, closed, Bool.false_eq_true, if_false] at hv
    obtain ⟨b, hb, hv⟩ := of_bind_eq_ok hv
    have mildBegun := History.IsMild.begunWith mild t
    cases t with
    | scalar i tag m text =>
      obtain ⟨w, rfl, hw⟩ := begin_scalar hd mildBegun ht (regular _ ht) hb
      cases hv
      rwa [plainValue?]
    | sequence i tag m ts =>
      rw [begin_container hd mildBegun ht (tagContainer?_sequence plain) hb] at hv
      obtain ⟨xs, hxs, hv⟩ := of_bind_eq_ok hv
      have items : plainValues? ts = some xs := by
        refine plainValues?_eq_some_iff.mpr (forall₂_imp_of_mem (mapM_eq_ok_iff.mp hxs) ?_)
        intro u hu x hx
        refine part u (hd.item ht hu) ?_ (fun j hj => ?_) x hx
        · have := size_le_sizeItems hu
          rw [size]
          omega
        · exact List.mem_cons_of_mem _ (mem_idsItems hu hj)
      -- A value without references is closed as it is.
      have value : (sequence i tag m ts).plainValue? = some (.list xs) := by
        rw [plainValue?, items]
        rfl
      cases hv
      rw [close_of_isProper (isProper_of_plainValue? value)]
      exact value
    | mapping i tag m es =>
      rw [begin_container hd mildBegun ht (tagContainer?_mapping plain) hb] at hv
      obtain ⟨ps, hps, hv⟩ := of_bind_eq_ok hv
      rw [(History.IsMild.filledWith mild _).entries_eq] at hps
      have entries : plainPairs? es = some ps := by
        have hwritten : (mapping i tag m es).written.map (fun x => (x.key, x.value)) = es :=
          map_written _
        rw [plainPairs?_eq_some_iff, ← hwritten, List.forall₂_map_left_iff]
        refine forall₂_imp_of_mem (mapM_eq_ok_iff.mp hps) ?_
        intro x hx p hp
        have hmem : (x.key, x.value) ∈ es := mem_entries_of_mem_written hx
        have smaller : x.key.size + x.value.size ≤ sizeEntries es := size_le_sizeEntries hmem
        obtain ⟨k, hk, hp⟩ := of_bind_eq_ok hp
        obtain ⟨w, hw, hp⟩ := of_bind_eq_ok hp
        cases hp
        constructor
        -- The key is a scalar, and so it is read as one.
        · obtain ⟨j, tag', m', text, hkey⟩ := regular _ ht _ hmem
          have := part x.key (hd.key ht hmem) (by rw [size]; omega)
            (fun j hj => List.mem_cons_of_mem _ (mem_idsEntries hmem (Or.inl hj))) k hk
          rw [show x.key = scalar j tag' m' text from hkey, plainValue?] at this
          rw [show x.key = scalar j tag' m' text from hkey]
          exact this
        · exact part x.value (hd.value ht hmem) (by rw [size]; omega)
            (fun j hj => List.mem_cons_of_mem _ (mem_idsEntries hmem (Or.inr hj))) w hw
      have value : (mapping i tag m es).plainValue? = some (.mapOf ps) := by
        rw [plainValue?, entries]
        rfl
      cases hv
      rw [close_of_isProper (isProper_of_plainValue? value)]
      exact value
    | reference i => simp [isPlain] at plain

/-- **The instance of a plain document can be read off its tree**, whose keys are scalars. -/
theorem plainValue?_of_instance? (hd : d.Plain) {v : Value} (hv : d.instance? = .ok v) :
    d.plainValue? = some v ∧ ∀ t ∈ d.nodes, t.IsRegular := by
  obtain ⟨h, hfill, hv⟩ := of_bind_eq_ok hv
  obtain ⟨mild, regular⟩ := fillIn_regular hd hfill
  have root := mem_nodes_self hd.isPlain
  exact ⟨plainValue?_of_construct hd mild regular root (by simp) hv, regular⟩

end Tree

end Conform.Yaml
