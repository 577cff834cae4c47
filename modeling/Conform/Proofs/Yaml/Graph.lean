import Conform.Proofs.Yaml.Plain
import Conform.Value.Text
/-!
# Documents as graphs

With its aliases a document is a graph.  Its nodes are told apart by their numbers, an alias stands for
one of them (`isGraph_of_ofText`), and from a collection there are links to the nodes of its items or
values; keys are no places to go to, but name the links of a mapping.
-/
namespace Conform.Yaml.Tree

variable {d t u : Tree}

/-! ### Uses of numbers -/

theorem mem_usesItems_iff {ts : List Tree} {x : Use} :
    x ∈ usesItems ts ↔ ∃ t ∈ ts, x ∈ t.uses := by
  induction ts with
  | nil => simp [usesItems]
  | cons t ts ih => simp [usesItems, ih]

theorem mem_usesEntries_iff {es : List (Tree × Tree)} {x : Use} :
    x ∈ usesEntries es ↔ ∃ e ∈ es, x ∈ e.1.uses ∨ x ∈ e.2.uses := by
  induction es with
  | nil => simp [usesEntries]
  | cons e es ih =>
    obtain ⟨k, v⟩ := e
    simp [usesEntries, ih, or_assoc]

/-- What is done with numbers in a node of a tree is done in the tree. -/
theorem mem_uses_of_mem_nodes (ht : t ∈ u.nodes) {x : Use} (hx : x ∈ t.uses) : x ∈ u.uses := by
  induction u using inductionOnParts with
  | scalar i tag m text =>
    cases List.mem_singleton.mp ht
    exact hx
  | sequence i tag m ts ih =>
    rcases List.mem_cons.mp ht with rfl | ht
    · exact hx
    · obtain ⟨w, hw, ht⟩ := mem_nodesItems_iff.mp ht
      exact List.mem_cons_of_mem _ (mem_usesItems_iff.mpr ⟨w, hw, ih w hw ht⟩)
  | mapping i tag m es ih =>
    rcases List.mem_cons.mp ht with rfl | ht
    · exact hx
    · obtain ⟨e, he, ht⟩ := mem_nodesEntries_iff.mp ht
      refine List.mem_cons_of_mem _ (mem_usesEntries_iff.mpr ⟨e, he, ?_⟩)
      exact ht.imp (ih e he).1 (ih e he).2
  | reference i => cases ht

/-- A plain tree has no alias that holds a number. -/
theorem held_not_mem_uses (h : t.isPlain = true) (i : Nat) : Use.held i ∉ t.uses := by
  intro hi
  induction t using inductionOnParts with
  | scalar j tag m text => cases List.mem_singleton.mp hi
  | sequence j tag m ts ih =>
    rcases List.mem_cons.mp hi with hi | hi
    · cases hi
    · obtain ⟨w, hw, hi⟩ := mem_usesItems_iff.mp hi
      exact ih w hw ((isPlain_sequence_iff.mp h).2 w hw) hi
  | mapping j tag m es ih =>
    rcases List.mem_cons.mp hi with hi | hi
    · cases hi
    · obtain ⟨e, he, hi⟩ := mem_usesEntries_iff.mp hi
      obtain ⟨-, hk, hv⟩ := (isPlain_mapping_iff.mp h).2 e he
      rcases hi with hi | hi
      · exact (ih e he).1 hk hi
      · exact (ih e he).2 hv hi
  | reference j => cases h

/-! ### Graphs -/

/-- Whether the nodes of a document are told apart by their numbers and aliases stand for nodes. -/
structure IsGraph (d : Tree) : Prop where
  nodup : d.ids.Nodup
  held : ∀ i, Use.held i ∈ d.uses → i ∈ d.ids

theorem isGraph_of_ofText {text : List Char} (h : ofText text = .ok (some d)) : d.IsGraph :=
  ⟨nodup_ids_of_ofText h, fun _ => mem_ids_of_held h⟩

theorem Plain.isGraph (hd : d.Plain) : d.IsGraph :=
  ⟨hd.nodup, fun i hi => absurd hi (held_not_mem_uses hd.isPlain i)⟩

/-- The links of a node: the nodes that its parts, keys left out, stand for, and their labels. -/
def links (d : Tree) : Tree → List (String × Tree)
  | sequence _ _ _ ts => ts.mapIdx fun i t => (toString i, d.resolve t)
  | mapping _ _ _ es => es.map fun e =>
    (((d.resolve e.1).scalar?.getD .null).text, d.resolve e.2)
  | _ => []

/-- Whether each key of a document stands for a scalar that has a value. -/
def HasScalarKeys (d : Tree) : Prop :=
  ∀ t ∈ d.nodes, ∀ e ∈ t.entries, ∃ v, (d.resolve e.1).scalar? = some v

namespace IsGraph

theorem eq_of_id_eq (hd : d.IsGraph) (ht : t ∈ d.nodes) (hu : u ∈ d.nodes) (h : t.id = u.id) :
    t = u :=
  List.inj_on_of_nodup_map hd.nodup ht hu h

/-- What a tree stands for is a node of the document if its nodes and numbers are. -/
theorem resolve_mem (hd : d.IsGraph) (nodes : ∀ w ∈ t.nodes, w ∈ d.nodes)
    (uses : ∀ x ∈ t.uses, x ∈ d.uses) : d.resolve t ∈ d.nodes := by
  cases t with
  -- The number of an alias is that of a node, so that the search for such a node succeeds.
  | reference i =>
    obtain ⟨w, hw, hid⟩ := List.mem_map.mp (hd.held i (uses _ (List.mem_singleton_self _)))
    have some : (d.nodes.find? (·.id == i)).isSome :=
      List.find?_isSome.mpr ⟨w, hw, beq_iff_eq.mpr hid⟩
    obtain ⟨w', found⟩ := Option.isSome_iff_exists.mp some
    rw [resolve, found, Option.getD_some]
    exact List.mem_of_find?_eq_some found
  | _ => exact nodes _ (List.mem_cons_self ..)

theorem item (hd : d.IsGraph) {i : Nat} {tag : String} {m : Mark} {ts : List Tree}
    (h : sequence i tag m ts ∈ d.nodes) (ht : t ∈ ts) : d.resolve t ∈ d.nodes := by
  refine hd.resolve_mem (fun w hw => mem_nodes_trans h ?_) fun x hx => mem_uses_of_mem_nodes h ?_
  · exact List.mem_cons_of_mem _ (mem_nodesItems_iff.mpr ⟨t, ht, hw⟩)
  · exact List.mem_cons_of_mem _ (mem_usesItems_iff.mpr ⟨t, ht, hx⟩)

theorem key (hd : d.IsGraph) {i : Nat} {tag : String} {m : Mark} {es : List (Tree × Tree)}
    (h : mapping i tag m es ∈ d.nodes) {e : Tree × Tree} (he : e ∈ es) :
    d.resolve e.1 ∈ d.nodes := by
  refine hd.resolve_mem (fun w hw => mem_nodes_trans h ?_) fun x hx => mem_uses_of_mem_nodes h ?_
  · exact List.mem_cons_of_mem _ (mem_nodesEntries_iff.mpr ⟨e, he, Or.inl hw⟩)
  · exact List.mem_cons_of_mem _ (mem_usesEntries_iff.mpr ⟨e, he, Or.inl hx⟩)

theorem value (hd : d.IsGraph) {i : Nat} {tag : String} {m : Mark} {es : List (Tree × Tree)}
    (h : mapping i tag m es ∈ d.nodes) {e : Tree × Tree} (he : e ∈ es) :
    d.resolve e.2 ∈ d.nodes := by
  refine hd.resolve_mem (fun w hw => mem_nodes_trans h ?_) fun x hx => mem_uses_of_mem_nodes h ?_
  · exact List.mem_cons_of_mem _ (mem_nodesEntries_iff.mpr ⟨e, he, Or.inr hw⟩)
  · exact List.mem_cons_of_mem _ (mem_usesEntries_iff.mpr ⟨e, he, Or.inr hx⟩)

/-- The root is no alias. -/
theorem root_mem (hd : d.IsGraph) : d ∈ d.nodes := by
  cases d with
  | reference i => cases hd.held i (List.mem_singleton_self _)
  | _ => exact List.mem_cons_self ..

/-- Links lead to nodes of the document. -/
theorem mem_of_links (hd : d.IsGraph) (ht : t ∈ d.nodes) {p : String × Tree}
    (hp : p ∈ d.links t) : p.2 ∈ d.nodes := by
  cases t with
  | sequence i tag m ts =>
    obtain ⟨j, hj, rfl⟩ := List.mem_mapIdx.mp hp
    exact hd.item ht (List.getElem_mem hj)
  | mapping i tag m es =>
    obtain ⟨e, he, rfl⟩ := List.mem_map.mp hp
    exact hd.value ht he
  | _ => cases hp

end IsGraph

end Conform.Yaml.Tree
