import Conform.Proofs.Yaml.Reading
/-!
# Loading a plain document

A plain document whose value can be read off its tree is loaded as this value, if it has no default
values: nothing is ever changed in it, and no node fails (`instance?_of_plainValue?`).
-/
namespace Conform.Yaml

namespace Tree

/-- Whether no node has the tag of a default value. -/
def HasNoDefaults (d : Tree) : Prop := ∀ t ∈ d.nodes, t.tag ≠ Meaning.value.tag

variable {d t : Tree}

/-- What a node begins with where nothing has been changed. -/
def begunAs (t : Tree) (v : Value) : Begun :=
  match t with
  | sequence .. => .container .list
  | mapping .. => .container .map
  | _ => .value v

/-- A node whose value can be read off can be begun. -/
theorem begin_eq (plain : t.isPlain = true) (noDefault : t.tag ≠ Meaning.value.tag) {v : Value}
    (hv : t.plainValue? = some v) : Tree.begin d {} t = .ok (t.begunAs v) := by
  have tagOf (t : Tree) : ({} : Edits).tagOf t = t.tag := rfl
  cases t with
  | scalar i tag m text =>
    rw [plainValue?, scalar?, if_neg (show tag ≠ _ from noDefault)] at hv
    obtain ⟨mean, hmean, hv⟩ := Option.bind_eq_some_iff.mp hv
    have read : scalarValue (scalar i tag m text) mean text.toList = .ok v := by
      cases h : scalarValue (scalar i tag m text) mean text.toList with
      | error f =>
        rw [h] at hv
        cases hv
      | ok w =>
        rw [h] at hv
        exact congrArg Except.ok (Option.some.inj hv)
    have leaf : container? mean = none := by
      cases mean <;> first | rfl | cases read
    rw [Tree.begin, meaning?, tagOf, Tree.tag, hmean]
    simp only [leaf, scalarText?, resolve_scalar, read]
    rfl
  | sequence i tag m ts =>
    obtain ⟨rfl, -⟩ := isPlain_sequence_iff.mp plain
    rw [Tree.begin, meaning?, tagOf, Tree.tag, meaning?_tag]
    rfl
  | mapping i tag m es =>
    obtain ⟨rfl, -⟩ := isPlain_mapping_iff.mp plain
    rw [Tree.begin, meaning?, tagOf, Tree.tag, meaning?_tag]
    rfl
  | reference i => cases hv

/-- A plain document without default values whose value can be read off. -/
structure Loads (d : Tree) (v : Value) : Prop where
  plain : d.Plain
  noDefaults : d.HasNoDefaults
  value : d.plainValue? = some v

namespace Loads

variable {v : Value}

theorem begin_eq (hd : d.Loads v) (ht : t ∈ d.nodes) :
    ∃ w, t.plainValue? = some w ∧ Tree.begin d {} t = .ok (t.begunAs w) := by
  obtain ⟨w, hw⟩ := exists_plainValue?_of_mem hd.value ht
  exact ⟨w, hw, Tree.begin_eq (hd.plain.isPlain_of_mem ht) (hd.noDefaults t ht) hw⟩

/-- The keys of a mapping are scalars and left alone. -/
theorem key (hd : d.Loads v) {i : Nat} {tag : String} {m : Mark} {es : List (Tree × Tree)}
    (ht : mapping i tag m es ∈ d.nodes) {e : Tree × Tree} (he : e ∈ es) :
    (∃ j tag m text, e.1 = scalar j tag m text) ∧ ({} : Edits).isPlainKey e.1 = true := by
  obtain ⟨w, hw⟩ := exists_plainValue?_of_mem hd.value ht
  obtain ⟨ps, hps, -⟩ := Option.map_eq_some_iff.mp hw
  obtain ⟨p, -, hkey, -⟩ := exists_of_forall₂ (plainPairs?_eq_some_iff.mp hps) he
  have noMerge := ((isPlain_mapping_iff.mp (hd.plain.isPlain_of_mem ht)).2 e he).1
  have noDefault := hd.noDefaults e.1 (hd.plain.key ht he)
  refine ⟨exists_of_scalar? hkey, ?_⟩
  have tagOf : ({} : Edits).tagOf e.1 = e.1.tag := rfl
  rw [Edits.isPlainKey, Edits.means, Edits.means, tagOf, beq_eq_false_iff_ne.mpr noMerge,
    beq_eq_false_iff_ne.mpr noDefault]
  rfl

end Loads

/-! ### Filling in -/

namespace Filling

variable {v : Value} {f : Filling}

/-- What holds while a document is filled in in which nothing is changed. -/
structure Clean (d : Tree) (f : Filling) : Prop where
  edits : f.edits = {}
  history : f.history = {}
  queue : ∀ q ∈ f.queue, q.2 ∈ d.nodes ∧ q.2.tagContainer? = some q.1

theorem begin_clean (hd : d.Loads v) (hf : f.Clean d) (ht : t ∈ d.nodes) :
    ∃ f', f.begin d t = .ok f' ∧ f'.Clean d := by
  obtain ⟨w, hw, begun⟩ := hd.begin_eq ht
  have plain := hd.plain.isPlain_of_mem ht
  have history : f.history.recordBegun t f.edits = {} := by
    rw [hf.edits, hf.history]
    rfl
  unfold Filling.begin
  split
  · exact ⟨f, rfl, hf⟩
  · rw [hf.edits, begun, ← hf.edits, history]
    cases t with
    | scalar i tag m text => exact ⟨_, rfl, hf.edits, rfl, hf.queue⟩
    | sequence i tag m ts =>
      refine ⟨_, rfl, hf.edits, rfl, fun q hq => ?_⟩
      rcases List.mem_append.mp hq with hq | hq
      · exact hf.queue q hq
      · obtain rfl := List.mem_singleton.mp hq
        exact ⟨ht, tagContainer?_sequence plain⟩
    | mapping i tag m es =>
      refine ⟨_, rfl, hf.edits, rfl, fun q hq => ?_⟩
      rcases List.mem_append.mp hq with hq | hq
      · exact hf.queue q hq
      · obtain rfl := List.mem_singleton.mp hq
        exact ⟨ht, tagContainer?_mapping plain⟩
    | reference i => cases hw

theorem foldlM_addPart_clean (hd : d.Loads v) {ps : List Part} (hf : f.Clean d)
    (hps : ∀ p ∈ ps, (∃ t ∈ d.nodes, p = .item t) ∨
      ∃ i tag m text, scalar i tag m text ∈ d.nodes ∧ p = .key (scalar i tag m text)) :
    ∃ f', ps.foldlM (addPart d) f = .ok f' ∧ f'.Clean d := by
  induction ps generalizing f with
  | nil => exact ⟨f, rfl, hf⟩
  | cons p ps ih =>
    obtain ⟨hp, hps⟩ := List.forall_mem_cons.mp hps
    have part : ∃ f', f.addPart d p = .ok f' ∧ f'.Clean d := by
      rcases hp with ⟨t, ht, rfl⟩ | ⟨i, tag, m, text, ht, rfl⟩
      · obtain ⟨f', begun, hf'⟩ := begin_clean hd hf ht
        refine ⟨f', ?_, hf'⟩
        rw [addPart, hd.plain.resolve ht, begun]
      · obtain ⟨f', begun, hf'⟩ := begin_clean hd hf ht
        obtain ⟨w, -, hbegin⟩ := hd.begin_eq ht
        obtain ⟨mean, -, hmean, leaf, -⟩ := value_of_begin hbegin
        have noContainer : (scalar i tag m text).isContainer f'.edits = false := by
          rw [isContainer, hf'.edits, hmean, Option.bind_some, leaf]
          rfl
        refine ⟨f', ?_, hf'⟩
        rw [addPart, hd.plain.resolve ht, begun]
        exact if_neg (by rw [noContainer]; exact Bool.false_ne_true)
    obtain ⟨f', hadd, hf'⟩ := part
    obtain ⟨f'', hrest, hf''⟩ := ih hf' hps
    exact ⟨f'', by rw [List.foldlM_cons, hadd]; exact hrest, hf''⟩

/-- Where no key is changed, nothing is merged. -/
theorem flatten_eq (hd : d.Loads v) {i : Nat} {tag : String} {m : Mark} {es : List (Tree × Tree)}
    (ht : mapping i tag m es ∈ d.nodes) :
    ({} : Edits).flatten d (mapping i tag m es) = ({}, true) := by
  obtain ⟨n, hn⟩ : ∃ n, Edits.fuelFor d = n + 1 :=
    Nat.exists_eq_succ_of_ne_zero (Nat.pos_iff_ne_zero.mp (Nat.pow_pos (Nat.succ_pos _)))
  have left : (({} : Edits).entries (mapping i tag m es)).all
      (fun entry => ({} : Edits).isPlainKey (d.resolve entry.key)) = true := by
    refine List.all_eq_true.mpr fun x hx => ?_
    have hmem : (x.key, x.value) ∈ es := mem_entries_of_mem_written hx
    rw [hd.plain.resolve (hd.plain.key ht hmem)]
    exact (hd.key ht hmem).2
  rw [Edits.flatten, isMapping, if_pos rfl, hn, Edits.mergeAll, left, if_pos rfl]

theorem fill_clean (hd : d.Loads v) {c : Container} (hf : f.Clean d) (ht : t ∈ d.nodes)
    (hc : t.tagContainer? = some c) : ∃ f', f.fill d c t = .ok f' ∧ f'.Clean d := by
  have plain := hd.plain.isPlain_of_mem ht
  have recorded : f.history.recordFilled t f.edits = f.history := by
    rw [hf.edits]
    rfl
  have filled (resolved : f.resolveKeys d c t = .ok f)
      (hparts : ∀ p ∈ d.parts f.edits c t, (∃ u ∈ d.nodes, p = .item u) ∨
        ∃ i tag m text, scalar i tag m text ∈ d.nodes ∧ p = .key (scalar i tag m text)) :
      ∃ f', f.fill d c t = .ok f' ∧ f'.Clean d := by
    obtain ⟨f', done, hf'⟩ := foldlM_addPart_clean hd hf hparts
    refine ⟨f', ?_, hf'⟩
    rw [fill, resolved]
    change (d.parts f.edits c t).foldlM (addPart d)
      { f with history := f.history.recordFilled t f.edits } = .ok f'
    rw [recorded]
    exact done
  cases t with
  | scalar i tag m text =>
    -- A scalar with a value is no container.
    obtain ⟨w, -, hbegin⟩ := hd.begin_eq ht
    obtain ⟨mean, -, hmean, leaf, -⟩ := value_of_begin hbegin
    have noContainer : (scalar i tag m text).tagContainer? = none := by
      rw [← (Edits.isMild_empty d).container_eq hd.plain ht, hmean]
      exact leaf
    rw [noContainer] at hc
    cases hc
  | sequence i tag m ts =>
    rw [tagContainer?_sequence plain] at hc
    cases hc
    refine filled rfl fun p hp => .inl ?_
    obtain ⟨u, hu, rfl⟩ := List.mem_map.mp hp
    exact ⟨u, hd.plain.item ht hu, rfl⟩
  | mapping i tag m es =>
    rw [tagContainer?_mapping plain] at hc
    cases hc
    refine filled ?_ fun p hp => ?_
    · rw [Filling.resolveKeys, hf.edits, flatten_eq hd ht, ← hf.edits]
      all_goals
        intro h
        cases h
    · rw [hf.edits] at hp
      obtain ⟨x, hx, hp⟩ := List.mem_flatMap.mp hp
      have hmem : (x.key, x.value) ∈ es := mem_entries_of_mem_written hx
      simp only [List.mem_cons, List.not_mem_nil, or_false] at hp
      rcases hp with rfl | rfl
      · obtain ⟨⟨j, tag', m', text, hk⟩, -⟩ := hd.key ht hmem
        have hkey := hd.plain.key ht hmem
        exact .inr ⟨j, tag', m', text, by rwa [hk] at hkey, congrArg Part.key hk⟩
      · exact .inl ⟨x.value, hd.plain.value ht hmem, rfl⟩
  | reference i => simp [isPlain] at plain

theorem run_clean (hd : d.Loads v) {fuel : Nat} (hf : f.Clean d) : f.run d fuel = .ok {} := by
  induction fuel generalizing f with
  | zero => exact congrArg Except.ok hf.history
  | succ fuel ih =>
    rw [run]
    cases hq : f.queue with
    | nil => exact congrArg Except.ok hf.history
    | cons q rest =>
      obtain ⟨ht, hc⟩ := hf.queue q (by rw [hq]; exact List.mem_cons_self ..)
      have left : Clean d { f with queue := rest } :=
        ⟨hf.edits, hf.history, fun p hp => hf.queue p (by rw [hq]; exact List.mem_cons_of_mem _ hp)⟩
      obtain ⟨f', hfill, hf'⟩ := fill_clean hd left ht hc
      dsimp only
      rw [hfill]
      exact ih hf'

end Filling

/-- Filling in notes nothing where nothing is changed. -/
theorem fillIn_eq {v : Value} (hd : d.Loads v) : d.fillIn = .ok {} := by
  have start : Filling.Clean d {} := ⟨rfl, rfl, by simp⟩
  obtain ⟨f, hbegin, hf⟩ := Filling.begin_clean hd start (mem_nodes_self hd.plain.isPlain)
  rw [fillIn, hbegin]
  exact Filling.run_clean hd hf

/-! ### Constructing -/

section Parts

variable {make : Tree → Except Failure Value}

/-- Items that are constructed as what can be read off them. -/
theorem mapM_items (hd : d.Plain) {i : Nat} {tag : String} {m : Mark} {ts : List Tree} {xs : List Value}
    (ht : sequence i tag m ts ∈ d.nodes) (hxs : plainValues? ts = some xs)
    (part : ∀ u ∈ d.nodes, u.size < (sequence i tag m ts).size →
      (∀ j ∈ u.ids, j ∈ (sequence i tag m ts).ids) → ∀ x, u.plainValue? = some x → make u = .ok x) :
    ts.mapM make = .ok xs := by
  refine mapM_eq_ok_iff.mpr (forall₂_imp_of_mem (plainValues?_eq_some_iff.mp hxs) ?_)
  intro u hu x hx
  refine part u (hd.item ht hu) ?_ (fun j hj => ?_) x hx
  · have := size_le_sizeItems hu
    rw [size]
    omega
  · exact List.mem_cons_of_mem _ (mem_idsItems hu hj)

/-- Keys and values that are constructed as what can be read off them. -/
theorem mapM_entries (hd : d.Plain) {i : Nat} {tag : String} {m : Mark} {es : List (Tree × Tree)}
    {ps : List (Value × Value)} (ht : mapping i tag m es ∈ d.nodes) (hps : plainPairs? es = some ps)
    (part : ∀ u ∈ d.nodes, u.size < (mapping i tag m es).size →
      (∀ j ∈ u.ids, j ∈ (mapping i tag m es).ids) → ∀ x, u.plainValue? = some x → make u = .ok x) :
    (({} : Edits).entries (mapping i tag m es)).mapM
      (fun x => do let k ← make x.key; return (k, ← make x.value)) = .ok ps := by
  have pairs := plainPairs?_eq_some_iff.mp hps
  have hwritten : (mapping i tag m es).written.map (fun x => (x.key, x.value)) = es :=
    map_written _
  rw [← hwritten, List.forall₂_map_left_iff] at pairs
  rw [(Edits.isMild_empty d).entries_eq, mapM_eq_ok_iff]
  refine forall₂_imp_of_mem pairs fun x hx p hp => ?_
  have hmem : (x.key, x.value) ∈ es := mem_entries_of_mem_written hx
  have smaller : x.key.size + x.value.size ≤ sizeEntries es := size_le_sizeEntries hmem
  have key : make x.key = .ok p.1 := by
    obtain ⟨j, tag', m', text, hk⟩ := exists_of_scalar? hp.1
    refine part x.key (hd.key ht hmem) (by rw [size]; omega)
      (fun j hj => List.mem_cons_of_mem _ (mem_idsEntries hmem (Or.inl hj))) p.1 ?_
    rw [show x.key = scalar j tag' m' text from hk, plainValue?]
    exact hk ▸ hp.1
  have value : make x.value = .ok p.2 :=
    part x.value (hd.value ht hmem) (by rw [size]; omega)
      (fun j hj => List.mem_cons_of_mem _ (mem_idsEntries hmem (Or.inr hj))) p.2 hp.2
  rw [key, value]
  rfl

end Parts

/-- A node is constructed as what can be read off it. -/
theorem construct_eq {v : Value} (hd : d.Loads v) {fuel : Nat} {open_ : List Nat} {w : Value}
    (ht : t ∈ d.nodes) (free : ∀ i ∈ t.ids, i ∉ open_) (enough : t.size < fuel)
    (hw : t.plainValue? = some w) : d.construct {} fuel open_ t = .ok w := by
  induction fuel generalizing open_ t w with
  | zero => exact absurd enough (Nat.not_lt_zero _)
  | succ fuel ih =>
    have plain := hd.plain.isPlain_of_mem ht
    have closed : open_.contains t.id = false := by
      simpa using free t.id (List.mem_map_of_mem (mem_nodes_self plain))
    -- A part is constructed with the number of its node open.
    have part : ∀ u ∈ d.nodes, u.size < t.size → (∀ i ∈ u.ids, i ∈ t.ids) → ∀ x,
        u.plainValue? = some x → d.construct {} fuel (t.id :: open_) u = .ok x := by
      intro u hu smaller sub x hx
      refine ih hu (fun i hi => ?_) (by omega) hx
      rw [List.mem_cons, not_or]
      exact ⟨fun heq => hd.plain.id_not_mem_ids ht hu smaller (heq ▸ hi), free i (sub i hi)⟩
    have begun := Tree.begin_eq (d := d) plain (hd.noDefaults t ht) hw
    have unchanged : ({} : History).begunWith t = {} ∧ ({} : History).filledWith t = {} := ⟨rfl, rfl⟩
    rw [construct]
    simp only [hd.plain.resolve ht, closed, Bool.false_eq_true, if_false, unchanged, begun]
    cases t with
    | scalar i tag m text => rfl
    | sequence i tag m ts =>
      obtain ⟨xs, hxs, rfl⟩ := Option.map_eq_some_iff.mp hw
      have items := mapM_items hd.plain ht hxs part
      change (do return close i (.list (← ts.mapM (d.construct {} fuel _))) : Except Failure Value) = _
      rw [items]
      exact congrArg Except.ok (close_of_isProper (isProper_of_plainValue? hw) i)
    | mapping i tag m es =>
      obtain ⟨ps, hps, rfl⟩ := Option.map_eq_some_iff.mp hw
      have entries := mapM_entries hd.plain ht hps part
      change (do
        return close i (Value.mapOf (← (({} : Edits).entries (mapping i tag m es)).mapM _)) :
          Except Failure Value) = _
      rw [entries]
      exact congrArg Except.ok (close_of_isProper (isProper_of_plainValue? hw) i)
    | reference i => cases hw

/-- **A document that can be read off is loaded as what is read off it.** -/
theorem instance?_of_plainValue? {v : Value} (hd : d.Loads v) : d.instance? = .ok v := by
  rw [instance?, fillIn_eq hd]
  exact construct_eq hd (mem_nodes_self hd.plain.isPlain) (by simp) (Nat.lt_succ_self _) hd.value

end Tree

end Conform.Yaml
