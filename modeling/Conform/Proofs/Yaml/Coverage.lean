import Conform.Proofs.Yaml.Merging
/-!
# What has been begun when a document is filled in

A document that can be filled in has had all nodes begun that its instance is made of: the root, the
items of a list that has been begun, and the keys and values of all entries that a map or a set offers,
merged ones included (`exists_isCovered`).  What has been begun stays without a fault, whatever is
resolved later, as long as no mapping has the tag of a scalar (`begin_ne_fault`).
-/
namespace Conform.Yaml

open Conform.Yaml.Tree

/-- Whether the key and the value of an entry have been begun. -/
def Entry.IsBegun (d : Tree) (begun : List Nat) (x : Entry) : Prop :=
  (d.resolve x.key).id ∈ begun ∧ (d.resolve x.value).id ∈ begun

theorem Entry.IsBegun.mono {d : Tree} {begun begun' : List Nat} {x : Entry} (sub : begun ⊆ begun')
    (h : x.IsBegun d begun) : x.IsBegun d begun' :=
  ⟨sub h.1, sub h.2⟩

namespace Tree

variable {d t : Tree} {e : Edits} {begun begun' : List Nat} {c : Container}

/-! ### Nodes with values -/

/-- Whether a node has the tag of a scalar. -/
def hasScalarTag (t : Tree) : Bool :=
  match Yaml.meaning? t.tag with
  | none => false
  | some m => m != .merge && (container? m).isNone

/-- Whether no mapping of a document has the tag of a scalar. -/
def HasProperMappings (d : Tree) : Prop :=
  ∀ t ∈ d.nodes, t.isMapping = true → t.hasScalarTag = false

instance (d : Tree) : Decidable d.HasProperMappings :=
  inferInstanceAs (Decidable (∀ t ∈ d.nodes, t.isMapping = true → t.hasScalarTag = false))

/-- Whether a node begins with a value in the course of resolving merge keys. -/
def Begins (d t : Tree) : Prop := ∃ e v, e.IsTame d ∧ Tree.begin d e t = .ok (.value v)

theorem not_mem_nodes_reference (i : Nat) : reference i ∉ d.nodes := by
  induction d using inductionOnParts with
  | scalar j tag m text => simp [nodes]
  | sequence j tag m ts ih =>
    intro h
    rcases List.mem_cons.mp h with h | h
    · cases h
    · obtain ⟨t, ht, h⟩ := mem_nodesItems_iff.mp h
      exact ih t ht h
  | mapping j tag m es ih =>
    intro h
    rcases List.mem_cons.mp h with h | h
    · cases h
    · obtain ⟨e, he, h⟩ := mem_nodesEntries_iff.mp h
      exact h.elim (ih e he).1 (ih e he).2
  | reference j => simp [nodes]

/-- A node with the merge tag cannot be begun, which is no fault. -/
theorem begin_merge (hd : d.IsGraph) (he : e.IsTame d) (ht : t ∈ d.nodes)
    (htag : t.tag = Meaning.merge.tag) : Tree.begin d e t = .error .malformed := by
  have mean : t.meaning? e = some .merge := by
    rcases he.tagOf_cases hd ht with same | ⟨hvalue, -⟩
    · rw [Tree.meaning?, same, htag, meaning?_tag]
    · rw [htag] at hvalue
      exact absurd hvalue (by decide)
  rw [Tree.begin, mean]
  simp only [container?]
  cases scalarText? d e (d.size + 1) t <;> rfl

/-- A collection is no scalar: it becomes a container or cannot be begun, which is no fault. -/
theorem begin_collection (hd : d.IsGraph) (tags : d.HasProperMappings) (ht : t ∈ d.nodes)
    (he : e.IsTame d) (collection : t.isCollection = true) :
    Tree.begin d e t = .error .malformed ∨ ∃ c, Tree.begin d e t = .ok (.container c) := by
  rw [Tree.begin]
  cases hmean : t.meaning? e with
  | none => exact Or.inl rfl
  | some mean =>
    cases hc : container? mean with
    | some c => exact Or.inr ⟨c, by simp only [hc]⟩
    | none =>
      refine Or.inl ?_
      simp only [hc]
      cases t with
      | sequence i tag m ts =>
        -- A sequence holds no text: it has no entries.
        have entries : e.entries (sequence i tag m ts) = [] :=
          List.eq_nil_iff_forall_not_mem.mpr fun x hx => nomatch (he.offers ht hx).isMapping
        have none : scalarText? d e (d.size + 1) (sequence i tag m ts) = none := by
          rw [scalarText?, resolve_sequence]
          simp [entries]
        rw [none]
      | mapping i tag m es =>
        have proper := tags _ ht rfl
        have merge : mean = .merge := by
          rcases he.tagOf_cases hd ht with same | ⟨hvalue, -⟩
          · rw [Tree.meaning?, same] at hmean
            rw [hasScalarTag, hmean] at proper
            simpa [hc] using proper
          · rw [hasScalarTag, hvalue, meaning?_tag] at proper
            cases proper
        rw [merge]
        cases scalarText? d e (d.size + 1) (mapping i tag m es) <;> rfl
      | scalar i tag m text => cases collection
      | reference i => cases collection

/-- What begins with a value is a scalar, and its tag is that of a default value, or its text has a
value under the tag. -/
theorem Begins.scalar (hd : d.IsGraph) (tags : d.HasProperMappings) (ht : t ∈ d.nodes)
    (h : d.Begins t) : ∃ i tag m text, t = .scalar i tag m text ∧ (tag = Meaning.value.tag ∨
      ∃ mean v, Yaml.meaning? tag = some mean ∧ container? mean = none ∧
        scalarValue t mean text.toList = .ok v) := by
  obtain ⟨e, v, he, h⟩ := h
  have scalar : t.isCollection = false := by
    refine Bool.eq_false_iff.mpr fun collection => ?_
    rcases begin_collection hd tags ht he collection with h' | ⟨c, h'⟩
    · cases h.symm.trans h'
    · cases h.symm.trans h'
  cases t with
  | scalar i tag m text =>
    obtain ⟨mean, s, hmean, none, hs, hv⟩ := value_of_begin h
    refine ⟨i, tag, m, text, rfl, ?_⟩
    rcases he.tagOf_cases hd ht with same | ⟨hvalue, -⟩
    · rw [Tree.meaning?, same] at hmean
      cases hs
      exact Or.inr ⟨mean, v, hmean, none, hv⟩
    · exact Or.inl hvalue
  | sequence i tag m ts => cases scalar
  | mapping i tag m es => cases scalar
  | reference i => exact absurd ht (not_mem_nodes_reference i)

/-- **What begins with a value never comes to a fault**, whatever is resolved. -/
theorem Begins.begin_ne_fault (hd : d.IsGraph) (tags : d.HasProperMappings) (ht : t ∈ d.nodes)
    (h : d.Begins t) (he : e.IsTame d) (f : Fault) : Tree.begin d e t ≠ .error (.fault f) := by
  obtain ⟨i, tag, m, text, rfl, value⟩ := h.scalar hd tags ht
  have htext : scalarText? d e (d.size + 1) (Tree.scalar i tag m text) = some text := rfl
  rw [Tree.begin, Tree.meaning?]
  rcases he.tagOf_cases hd ht with same | ⟨-, str⟩
  · rw [same]
    rcases value with hvalue | ⟨mean, v, hmean, none, hv⟩
    · rw [show (Tree.scalar i tag m text).tag = Meaning.value.tag from hvalue, meaning?_tag]
      simp [container?, htext, scalarValue, Functor.map, Except.map]
    · rw [show (Tree.scalar i tag m text).tag = tag from rfl, hmean]
      simp [none, htext, hv, Functor.map, Except.map]
  · rw [str, meaning?_tag]
    simp [container?, htext, scalarValue, Functor.map, Except.map]

/-! ### Containers that have been filled -/

/-- Whether all entries that a mapping offers have been begun. -/
def Dissolves (d : Tree) (begun : List Nat) (t : Tree) : Prop :=
  ∀ y, y.named? d = none → Edits.Offers d {} t y → y.IsBegun d begun

/-- Whether all parts of a container have been begun. -/
inductive IsFilled (d : Tree) (begun : List Nat) : Container → Tree → Prop
  | list {i : Nat} {tag : String} {m : Mark} {ts : List Tree}
    (items : ∀ t ∈ ts, (d.resolve t).id ∈ begun) : IsFilled d begun .list (sequence i tag m ts)
  | pairs {i : Nat} {tag : String} {m : Mark} {ts : List Tree}
    (items : ∀ t ∈ ts, (d.resolve t).isMapping = true ∧ d.Dissolves begun (d.resolve t)) :
    IsFilled d begun .pairs (sequence i tag m ts)
  | keyed {c : Container} {t : Tree} (isKeyed : c = .map ∨ c = .set) (mapping : t.isMapping = true)
    (entries : d.Dissolves begun t) : IsFilled d begun c t

theorem Dissolves.mono (sub : begun ⊆ begun') (h : d.Dissolves begun t) : d.Dissolves begun' t :=
  fun y kept offer => (h y kept offer).mono sub

theorem IsFilled.mono (sub : begun ⊆ begun') (h : d.IsFilled begun c t) :
    d.IsFilled begun' c t := by
  cases h with
  | list items => exact .list fun t ht => sub (items t ht)
  | pairs items => exact .pairs fun t ht => (items t ht).imp_right (.mono sub)
  | keyed isKeyed mapping entries => exact .keyed isKeyed mapping (entries.mono sub)

/-- Whether the nodes that have been begun are all that the instance of a document is made of. -/
structure IsCovered (d : Tree) (begun : List Nat) : Prop where
  root : d.id ∈ begun
  nodes : ∀ t ∈ d.nodes, t.id ∈ begun →
    d.Begins t ∨ ∃ c, t.tagContainer? = some c ∧ d.IsFilled begun c t

/-- Whether what mappings offer has not been lost, or has been begun. -/
def Keeps (d : Tree) (e : Edits) (begun : List Nat) : Prop :=
  ∀ w ∈ d.nodes, ∀ y, y.named? d = none → Edits.Offers d {} w y →
    Edits.Offers d e w y ∨ y.IsBegun d begun

/-- Once its merge keys are resolved, a mapping has all that has not been begun. -/
theorem Keeps.dissolves (keeps : d.Keeps e begun) (ht : t ∈ d.nodes)
    (resolved : Edits.AreResolved d (e.entries t))
    (entries : ∀ y ∈ e.entries t, y.IsBegun d begun) : d.Dissolves begun t := by
  intro y kept offer
  rcases keeps t ht y kept offer with offer | hbegun
  · exact entries y (offer.mem_of_areResolved resolved)
  · exact hbegun

/-! ### Filling in -/

/-- Whether a part stands for a node of the document. -/
def Part.StandsFor (d : Tree) : Part → Prop
  | .key t => d.resolve t ∈ d.nodes
  | .item t => d.resolve t ∈ d.nodes
  | .refused => True

/-- Whether the node that a part stands for has been begun. -/
def Part.IsMet (d : Tree) (begun : List Nat) : Part → Prop
  | .key t => (d.resolve t).id ∈ begun
  | .item t => (d.resolve t).id ∈ begun
  | .refused => False

theorem Part.IsMet.mono (sub : begun ⊆ begun') {p : Part} (h : p.IsMet d begun) :
    p.IsMet d begun' := by
  cases p with
  | key t => exact sub h
  | item t => exact sub h
  | refused => exact h

namespace Filling

variable {taken : List Tree} {f f' : Filling}

/-- What holds while a document is filled in; `taken` are the containers that have been taken from the
queue. -/
structure Queued (d : Tree) (taken : List Tree) (f : Filling) : Prop where
  edits : f.edits.IsTame d
  begun : ∀ t ∈ d.nodes, t.id ∈ f.begun → d.Begins t ∨ t ∈ taken ++ f.queue.map (·.2)
  containers : ∀ t ∈ taken ++ f.queue.map (·.2), t ∈ d.nodes ∧ t.id ∈ f.begun ∧
    t.tagContainer? ≠ none
  queue : ∀ q ∈ f.queue, q.2.tagContainer? = some q.1
  nodup : (taken ++ f.queue.map (·.2)).Nodup

/-- No node with the merge tag has been begun. -/
theorem Queued.tag_ne_merge (hd : d.IsGraph) (hf : f.Queued d taken) (ht : t ∈ d.nodes)
    (hbegun : t.id ∈ f.begun) : t.tag ≠ Meaning.merge.tag := by
  intro htag
  rcases hf.begun t ht hbegun with ⟨e, v, he, h⟩ | h
  · rw [begin_merge hd he ht htag] at h
    cases h
  · refine (hf.containers t h).2.2 ?_
    rw [tagContainer?, htag, meaning?_tag]
    rfl

theorem begin_queued (hd : d.IsGraph) (hf : f.Queued d taken) (ht : t ∈ d.nodes)
    (h : f.begin d t = .ok f') : f'.Queued d taken ∧ f.begun ⊆ f'.begun ∧ t.id ∈ f'.begun ∧
      f'.edits = f.edits := by
  rcases begin_cases h with ⟨old, rfl⟩ | ⟨new, _, rfl, ⟨v, hb, rfl⟩ | ⟨c, hb, rfl⟩⟩
  · exact ⟨hf, fun _ h => h, old, rfl⟩
  · refine ⟨⟨hf.edits, fun u hu hmem => ?_, fun u hu => ?_, hf.queue, hf.nodup⟩,
      List.subset_cons_self .., List.mem_cons_self .., rfl⟩
    · rcases List.mem_cons.mp hmem with hid | hmem
      · exact Or.inl (hd.eq_of_id_eq hu ht hid ▸ ⟨f.edits, v, hf.edits, hb⟩)
      · exact hf.begun u hu hmem
    · exact (hf.containers u hu).imp_right (.imp_left (List.mem_cons_of_mem _))
  · have htag : t.tagContainer? = some c :=
      (hf.edits.container_eq hd ht).symm.trans (container_of_begin hb)
    refine ⟨⟨hf.edits, fun u hu hmem => ?_, fun u hu => ?_, fun q hq => ?_, ?_⟩,
      List.subset_cons_self .., List.mem_cons_self .., rfl⟩
    · rw [mem_queued_concat, ← or_assoc]
      rcases List.mem_cons.mp hmem with hid | hmem
      · exact Or.inr (hd.eq_of_id_eq hu ht hid)
      · exact Or.inl (hf.begun u hu hmem)
    · rcases mem_queued_concat.mp hu with hu | rfl
      · exact (hf.containers u hu).imp_right (.imp_left (List.mem_cons_of_mem _))
      · exact ⟨ht, List.mem_cons_self .., by simp [htag]⟩
    · rcases List.mem_append.mp hq with hq | hq
      · exact hf.queue q hq
      · cases List.mem_singleton.mp hq
        exact htag
    -- A container that was queued before would have been begun.
    · exact nodup_queued_concat hf.nodup fun h => new (hf.containers t h).2.1

theorem addPart_queued (hd : d.IsGraph) (hf : f.Queued d taken) {p : Part} (hp : p.StandsFor d)
    (h : f.addPart d p = .ok f') : f'.Queued d taken ∧ f.begun ⊆ f'.begun ∧ p.IsMet d f'.begun ∧
      f'.edits = f.edits := by
  cases p with
  | refused => cases h
  | item t => exact begin_queued hd hf hp h
  | key t =>
    obtain ⟨f₁, h₁, h⟩ := of_bind_eq_ok h
    cases hc : (d.resolve t).isContainer f₁.edits with
    | true =>
      rw [hc] at h
      cases h
    | false =>
      rw [hc] at h
      cases h
      exact begin_queued hd hf hp h₁

theorem foldlM_addPart_queued (hd : d.IsGraph) {ps : List Part} (hps : ∀ p ∈ ps, p.StandsFor d)
    (hf : f.Queued d taken) (h : ps.foldlM (addPart d) f = .ok f') :
    f'.Queued d taken ∧ f.begun ⊆ f'.begun ∧ (∀ p ∈ ps, p.IsMet d f'.begun) ∧
      f'.edits = f.edits := by
  induction ps generalizing f with
  | nil =>
    cases h
    exact ⟨hf, fun _ h => h, by simp, rfl⟩
  | cons p ps ih =>
    rw [List.foldlM_cons] at h
    obtain ⟨f₁, h₁, h⟩ := of_bind_eq_ok h
    obtain ⟨hp, hps⟩ := List.forall_mem_cons.mp hps
    obtain ⟨queued, sub, met, same⟩ := addPart_queued hd hf hp h₁
    obtain ⟨queued', sub', met', same'⟩ := ih hps queued h
    exact ⟨queued', fun i hi => sub' (sub hi), List.forall_mem_cons.mpr ⟨met.mono sub', met'⟩,
      same'.trans same⟩

/-- The parts of a list are its items, which only a sequence has. -/
theorem isFilled_list (ht : t ∈ d.nodes) (met : ∀ p ∈ d.parts e .list t, p.IsMet d begun) :
    d.IsFilled begun .list t := by
  cases t with
  | sequence i tag m ts => exact .list fun t ht => met (.item t) (List.mem_map_of_mem ht)
  | reference i => exact absurd ht (not_mem_nodes_reference i)
  | _ => exact (met .refused (by simp [parts])).elim

/-- The parts of a mapping are the keys and values of its entries. -/
theorem entries_isBegun (hc : c = .map ∨ c = .set) (mapping : t.isMapping = true)
    (met : ∀ p ∈ d.parts e c t, p.IsMet d begun) : ∀ x ∈ e.entries t, x.IsBegun d begun := by
  have hparts : d.parts e c t = (e.entries t).flatMap fun x => [.key x.key, .item x.value] := by
    cases t with
    | mapping i tag m es => rcases hc with rfl | rfl <;> rfl
    | _ => cases mapping
  intro x hx
  rw [hparts] at met
  exact ⟨met (.key x.key) (List.mem_flatMap.mpr ⟨x, hx, by simp⟩),
    met (.item x.value) (List.mem_flatMap.mpr ⟨x, hx, by simp⟩)⟩

/-- The only entry of a mapping. -/
theorem of_single? {x : Entry} (h : t.single? e = some x) :
    t.isMapping = true ∧ e.entries t = [x] := by
  unfold single? at h
  split at h
  · cases h
    exact ⟨‹_›, ‹_›⟩
  · cases h

/-- The parts of pairs are the keys and values of items with one entry, which only a sequence has. -/
theorem exists_single (ht : t ∈ d.nodes) (met : ∀ p ∈ d.parts e .pairs t, p.IsMet d begun) :
    ∃ i tag m ts, t = sequence i tag m ts ∧ ∀ u ∈ ts, ∃ x, (d.resolve u).single? e = some x ∧
      x.IsBegun d begun := by
  cases t with
  | sequence i tag m ts =>
    refine ⟨i, tag, m, ts, rfl, fun u hu => ?_⟩
    cases hx : (d.resolve u).single? e with
    | none => exact (met .refused (List.mem_flatMap.mpr ⟨u, hu, by simp [hx]⟩)).elim
    | some x =>
      have key := met (.item x.key) (List.mem_flatMap.mpr ⟨u, hu, by simp [hx]⟩)
      have value := met (.item x.value) (List.mem_flatMap.mpr ⟨u, hu, by simp [hx]⟩)
      exact ⟨x, rfl, key, value⟩
  | reference i => exact absurd ht (not_mem_nodes_reference i)
  | _ => exact (met .refused (by simp [parts])).elim

/-- An item of pairs offers nothing but its one entry: another one would be kept. -/
theorem isFilled_pairs (hd : d.IsGraph) (hf : f.Queued d taken) (keeps : d.Keeps f.edits f.begun)
    (ht : t ∈ d.nodes) (met : ∀ p ∈ d.parts f.edits .pairs t, p.IsMet d f.begun) :
    d.IsFilled f.begun .pairs t := by
  obtain ⟨i, tag, m, ts, rfl, single⟩ := exists_single ht met
  refine .pairs fun u hu => ?_
  obtain ⟨x, hx, begun⟩ := single u hu
  obtain ⟨mapping, only⟩ := of_single? hx
  have hu' : d.resolve u ∈ d.nodes := hd.item ht hu
  have offer := hf.edits.offers hu' (only ▸ List.mem_singleton_self x)
  -- A merge key could not have been begun.
  have other : x.isMerge d = false :=
    beq_eq_false_iff_ne.mpr (hf.tag_ne_merge hd (offer.part_mem hd hu').1 begun.1)
  refine ⟨mapping, keeps.dissolves hu' ?_ ?_⟩
  · rw [only]
    exact List.forall_mem_singleton.mpr other
  · rw [only]
    exact List.forall_mem_singleton.mpr begun

theorem parts_standFor (hd : d.IsGraph) (he : e.IsTame d) (ht : t ∈ d.nodes) (c : Container) :
    ∀ p ∈ d.parts e c t, p.StandsFor d := by
  have entry {w : Tree} (hw : w ∈ d.nodes) {x : Entry} (hx : x ∈ e.entries w) :
      d.resolve x.key ∈ d.nodes ∧ d.resolve x.value ∈ d.nodes :=
    (he.offers hw hx).part_mem hd hw
  intro p hp
  unfold parts at hp
  split at hp
  · obtain ⟨u, hu, rfl⟩ := List.mem_map.mp hp
    exact hd.item ht hu
  · obtain ⟨u, hu, hp⟩ := List.mem_flatMap.mp hp
    cases hx : (d.resolve u).single? e with
    | none =>
      rw [hx] at hp
      cases List.mem_singleton.mp hp
      trivial
    | some x =>
      rw [hx] at hp
      have hmem := entry (hd.item ht hu) ((of_single? hx).2 ▸ List.mem_singleton_self x)
      rcases List.mem_pair.mp hp with rfl | rfl
      · exact hmem.1
      · exact hmem.2
  · cases List.mem_singleton.mp hp
    trivial
  · cases List.mem_singleton.mp hp
    trivial
  · obtain ⟨x, hx, hp⟩ := List.mem_flatMap.mp hp
    rcases List.mem_pair.mp hp with rfl | rfl
    · exact (entry ht hx).1
    · exact (entry ht hx).2

/-- Resolving keys changes nothing for a list, and resolves the merge keys of a mapping. -/
theorem resolveKeys_cases (h : f.resolveKeys d c t = .ok f') :
    (c = .list ∨ c = .pairs) ∧ f' = f ∨ (c = .map ∨ c = .set) ∧ t.isMapping = true ∧
      ∃ e, Edits.mergeAll d (Edits.fuelFor d) f.edits t = (e, true) ∧
        f' = { f with edits := e } := by
  unfold resolveKeys at h
  split at h
  · cases h
    exact Or.inl ⟨Or.inl rfl, rfl⟩
  · cases h
    exact Or.inl ⟨Or.inr rfl, rfl⟩
  · rename_i notList notPairs
    -- Only the containers with keys resolve merge keys.
    have keyed : c = .map ∨ c = .set := by
      cases c with
      | list => exact absurd rfl notList
      | pairs => exact absurd rfl notPairs
      | map => exact Or.inl rfl
      | set => exact Or.inr rfl
    split at h
    · rename_i e resolving
      cases h
      rw [Edits.flatten] at resolving
      split at resolving
      · exact Or.inr ⟨keyed, ‹_›, e, resolving, rfl⟩
      · cases resolving
    · cases h

/-- Filling a container begins its parts, and nothing that was offered is lost but what has been
begun. -/
theorem fill_queued (hd : d.IsGraph) (hf : f.Queued d taken) (keeps : d.Keeps f.edits f.begun)
    (ht : t ∈ d.nodes) (h : f.fill d c t = .ok f') :
    f'.Queued d taken ∧ f.begun ⊆ f'.begun ∧ d.Keeps f'.edits f'.begun ∧
      d.IsFilled f'.begun c t := by
  obtain ⟨f₁, h₁, h⟩ := of_bind_eq_ok h
  have hparts : (d.parts f₁.edits c t).foldlM (addPart d)
      { f₁ with history := f₁.history.recordFilled t f₁.edits } = .ok f' := h
  rcases resolveKeys_cases h₁ with ⟨hc, rfl⟩ | ⟨hc, mapping, e, resolving, rfl⟩
  -- Nothing is resolved for a list or for pairs.
  · have start : ({ f₁ with history := f₁.history.recordFilled t f₁.edits } : Filling).Queued d
        taken := { hf with }
    obtain ⟨queued, sub, met, same⟩ :=
      foldlM_addPart_queued hd (parts_standFor hd hf.edits ht c) start hparts
    have keeps' : d.Keeps f'.edits f'.begun := fun w hw y kept offer =>
      (keeps w hw y kept offer).imp (fun h => same ▸ h) (.mono sub)
    rw [← same] at met
    refine ⟨queued, sub, keeps', ?_⟩
    rcases hc with rfl | rfl
    · exact isFilled_list ht met
    · exact isFilled_pairs hd queued keeps' ht met
  -- What another mapping loses when the merge keys of this one are resolved, this one has.
  · have resolves := Edits.mergeAll_resolves hd _ ht hf.edits resolving
    have tame : e.IsTame d := by
      have := Edits.mergeAll_isTame hd (Edits.fuelFor d) ht hf.edits
      rwa [resolving] at this
    have start : ({ f with edits := e, history := f.history.recordFilled t e } : Filling).Queued d
        taken := { hf with edits := tame }
    obtain ⟨queued, sub, met, same⟩ :=
      foldlM_addPart_queued hd (parts_standFor hd tame ht c) start hparts
    rw [← show f'.edits = e from same] at met resolves
    have entries := entries_isBegun hc mapping met
    have keeps' : d.Keeps f'.edits f'.begun := by
      intro w hw y kept offer
      rcases keeps w hw y kept offer with offer | begun
      · exact (resolves.offers w hw y kept offer).imp_right (entries y)
      · exact Or.inr (begun.mono sub)
    exact ⟨queued, sub, keeps',
      .keyed hc mapping (keeps'.dissolves ht resolves.resolved entries)⟩

/-- Taking a container from the queue. -/
theorem Queued.take {q : Container × Tree} {rest : List (Container × Tree)} (hf : f.Queued d taken)
    (hq : f.queue = q :: rest) : ({ f with queue := rest } : Filling).Queued d (q.2 :: taken) := by
  have perm : (taken ++ f.queue.map (·.2)).Perm (q.2 :: taken ++ rest.map (·.2)) := by
    rw [hq]
    exact List.perm_middle
  refine ⟨hf.edits, fun t ht hbegun => ?_, fun t ht => ?_, fun p hp => ?_, perm.nodup hf.nodup⟩
  · exact (hf.begun t ht hbegun).imp_right perm.mem_iff.mp
  · exact hf.containers t (perm.mem_iff.mpr ht)
  · exact hf.queue p (hq ▸ List.mem_cons_of_mem _ hp)

/-- When the queue is empty, every container that has been begun has been filled.  There is fuel for
it: the containers that are taken are different nodes of the document. -/
theorem run_queued (hd : d.IsGraph) {fuel : Nat} (hf : f.Queued d taken)
    (keeps : d.Keeps f.edits f.begun)
    (filled : ∀ t ∈ taken, ∃ c, t.tagContainer? = some c ∧ d.IsFilled f.begun c t)
    (enough : d.nodes.length < fuel + taken.length) {h : History} (hrun : f.run d fuel = .ok h) :
    ∃ begun, f.begun ⊆ begun ∧ ∀ t ∈ d.nodes, t.id ∈ begun →
      d.Begins t ∨ ∃ c, t.tagContainer? = some c ∧ d.IsFilled begun c t := by
  induction fuel generalizing f taken with
  -- Without fuel, more containers would have been taken than there are nodes.
  | zero =>
    have distinct : taken.Nodup := (List.nodup_append.mp hf.nodup).1
    have sub : taken ⊆ d.nodes := fun t ht => (hf.containers t (List.mem_append_left _ ht)).1
    have := (List.subperm_of_subset distinct sub).length_le
    omega
  | succ fuel ih =>
    rw [run] at hrun
    cases hq : f.queue with
    | nil =>
      -- Nothing is queued, so that what has been begun has been taken.
      have begun := hf.begun
      rw [hq, List.map_nil, List.append_nil] at begun
      exact ⟨f.begun, fun _ hi => hi, fun t ht hbegun => (begun t ht hbegun).imp_right (filled t)⟩
    | cons q rest =>
      rw [hq] at hrun
      obtain ⟨f', hfill, hrun⟩ := of_bind_eq_ok hrun
      obtain ⟨ht, -⟩ := hf.containers q.2 (by simp [hq])
      have htag : q.2.tagContainer? = some q.1 := hf.queue q (by simp [hq])
      obtain ⟨queued, sub, keeps', parts⟩ := fill_queued hd (hf.take hq) keeps ht hfill
      have filled' : ∀ t ∈ q.2 :: taken, ∃ c, t.tagContainer? = some c ∧ d.IsFilled f'.begun c t :=
        List.forall_mem_cons.mpr ⟨⟨q.1, htag, parts⟩, fun t ht => by
          obtain ⟨c, hc, parts⟩ := filled t ht
          exact ⟨c, hc, parts.mono sub⟩⟩
      obtain ⟨begun, sub', covered⟩ :=
        ih queued keeps' filled' (by rw [List.length_cons]; omega) hrun
      exact ⟨begun, fun i hi => sub' (sub hi), covered⟩

end Filling

/-- **A document that can be filled in is covered**: from the root on, all that its instance is made of
has been begun, with or without merge keys, aliases and cycles. -/
theorem exists_isCovered (hd : d.IsGraph) {h : History} (hfill : d.fillIn = .ok h) :
    ∃ begun, d.IsCovered begun := by
  obtain ⟨f, hbegin, hrun⟩ := of_bind_eq_ok hfill
  have start : Filling.Queued d [] {} := ⟨Edits.isTame_empty d, by simp, by simp, by simp, by simp⟩
  obtain ⟨queued, -, hroot, same⟩ := Filling.begin_queued hd start hd.root_mem hbegin
  have keeps : d.Keeps f.edits f.begun := fun w _ y _ offer => Or.inl (same ▸ offer)
  have enough : d.nodes.length < d.size + 1 + ([] : List Tree).length :=
    Nat.lt_succ_of_le (length_nodes_le_size d)
  obtain ⟨begun, sub, nodes⟩ := Filling.run_queued hd queued keeps (by simp) enough hrun
  exact ⟨begun, sub hroot, nodes⟩

/-! ### What lies open -/

/-- Whether all that can be reached in a node has been begun: the node itself has, or it is a mapping
whose entries have, or a sequence of such mappings, as it may stand behind a merge key. -/
inductive IsOpen (d : Tree) (begun : List Nat) : Tree → Prop
  | begun {t : Tree} (h : t.id ∈ begun) : IsOpen d begun t
  | mapping {t : Tree} (entries : d.Dissolves begun t) (mapping : t.isMapping = true) :
    IsOpen d begun t
  | sequence {i : Nat} {tag : String} {m : Mark} {ts : List Tree}
    (items : ∀ t ∈ ts, (d.resolve t).isMapping = true ∧ d.Dissolves begun (d.resolve t)) :
    IsOpen d begun (.sequence i tag m ts)

namespace IsOpen

variable (hd : d.IsGraph) (tags : d.HasProperMappings) (covered : d.IsCovered begun)
include hd tags covered

/-- The items of a sequence that is open are. -/
theorem item {i : Nat} {tag : String} {m : Mark} {ts : List Tree}
    (h : d.IsOpen begun (.sequence i tag m ts)) (hmem : Tree.sequence i tag m ts ∈ d.nodes)
    (ht : t ∈ ts) : d.IsOpen begun (d.resolve t) := by
  cases h with
  | begun h =>
    rcases covered.nodes _ hmem h with begins | ⟨c, -, filled⟩
    · obtain ⟨_, _, _, _, same, -⟩ := begins.scalar hd tags hmem
      cases same
    · cases filled with
      | list items => exact .begun (items t ht)
      | pairs items => exact .mapping (items t ht).2 (items t ht).1
      | keyed _ mapping _ => cases mapping
  | mapping _ mapping => cases mapping
  | sequence items => exact .mapping (items t ht).2 (items t ht).1

/-- The entries of a mapping that is open have been begun. -/
theorem dissolves (h : d.IsOpen begun t) (ht : t ∈ d.nodes) (mapping : t.isMapping = true) :
    d.Dissolves begun t := by
  cases h with
  | begun h =>
    rcases covered.nodes _ ht h with begins | ⟨c, -, filled⟩
    · obtain ⟨_, _, _, _, rfl, -⟩ := begins.scalar hd tags ht
      cases mapping
    · cases filled with
      | list => cases mapping
      | pairs => cases mapping
      | keyed _ _ entries => exact entries
  | mapping entries _ => exact entries
  | sequence => cases mapping

/-- The value of an entry that a mapping offers is open if the mapping is, and so is the key if it has
not the merge tag. -/
theorem entry {x : Entry} (h : d.IsOpen begun t) (ht : t ∈ d.nodes)
    (offer : Edits.Offers d {} t x) :
    (d.IsOpen begun (d.resolve x.key) ∨ (d.resolve x.key).tag = Meaning.merge.tag) ∧
      d.IsOpen begun (d.resolve x.value) := by
  have entries := h.dissolves hd tags covered ht offer.isMapping
  cases names : x.named? d with
  | none => exact ⟨Or.inl (.begun (entries x names offer).1), .begun (entries x names offer).2⟩
  | some ms =>
    obtain ⟨merge, hms⟩ := Entry.named?_eq_some_iff.mp names
    -- What the mappings behind the merge key offer is offered by the mapping itself.
    have behind : ∀ u ∈ ms, d.Dissolves begun u := fun u hu y kept offer' =>
      entries y kept (offer.trans names hu offer')
    refine ⟨Or.inr (beq_iff_eq.mp merge), ?_⟩
    cases hv : d.resolve x.value with
    | sequence i tag m ts =>
      rw [hv] at hms
      obtain ⟨all, rfl⟩ := mappings?_sequence hms
      exact .sequence fun s hs => ⟨all s hs, behind _ (List.mem_map_of_mem hs)⟩
    | mapping i tag m es =>
      rw [hv] at hms
      cases hms
      exact .mapping (behind _ (List.mem_singleton_self _)) rfl
    | scalar i tag m text =>
      rw [hv] at hms
      cases hms
    | reference i =>
      rw [hv] at hms
      cases hms

/-- **What is open never comes to a fault** when it is begun. -/
theorem begin_ne_fault (h : d.IsOpen begun t) (ht : t ∈ d.nodes) (he : e.IsTame d) (f : Fault) :
    Tree.begin d e t ≠ .error (.fault f) := by
  cases hcollection : t.isCollection with
  | true =>
    rcases begin_collection hd tags ht he hcollection with h' | ⟨c, h'⟩
    · simp [h']
    · simp [h']
  | false =>
    cases h with
    | begun h =>
      rcases covered.nodes _ ht h with begins | ⟨c, -, filled⟩
      · exact begins.begin_ne_fault hd tags ht he f
      · cases filled with
        | list => cases hcollection
        | pairs => cases hcollection
        | keyed _ mapping _ => cases t <;> cases mapping; cases hcollection
    | mapping _ mapping => cases t <;> cases mapping; cases hcollection
    | sequence => cases hcollection

end IsOpen

end Tree

end Conform.Yaml
