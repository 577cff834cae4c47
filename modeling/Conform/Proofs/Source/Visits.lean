import Conform.Proofs.Source.Walk
/-!
# The walk through a plain document

In a plain document no two links lead to the same node, so that the walk comes to each node that is no
key once, in reading order (`visits_eq`).
-/
namespace Conform.Yaml.Tree

variable {d : Tree}

/-! ### Parts -/

/-- The parts of a node that are no keys, with their labels. -/
def labelled : Tree → List (String × Tree)
  | sequence _ _ _ ts => ts.mapIdx fun i t => (toString i, t)
  | mapping _ _ _ es => es.map fun e => ((e.1.scalar?.getD .null).text, e.2)
  | _ => []

/-- Whether each key of a document has a value that can be written. -/
def HasKeys (d : Tree) : Prop :=
  ∀ t ∈ d.nodes, ∀ e ∈ t.entries, ∃ v, e.1.scalar? = some v ∧ v.isWritable = true

mutual

/-- What a walk comes to below a node at a path. -/
def spots (path : List Char) : Tree → List Visit
  | sequence _ _ _ ts => spotsItems path 0 ts
  | mapping _ _ _ es => spotsEntries path es
  | _ => []

/-- `spots` for the items from a place on. -/
def spotsItems (path : List Char) (i : Nat) : List Tree → List Visit
  | [] => []
  | t :: ts =>
    let here := Path.child path (toString i).toList
    ⟨here, t⟩ :: t.spots here ++ spotsItems path (i + 1) ts

/-- `spots` for the values of entries. -/
def spotsEntries (path : List Char) : List (Tree × Tree) → List Visit
  | [] => []
  | (k, t) :: es =>
    let here := Path.child path (k.scalar?.getD .null).text.toList
    ⟨here, t⟩ :: t.spots here ++ spotsEntries path es

end

/-- What a walk comes to at a labelled part and below it. -/
def spotsAt (path : List Char) (p : String × Tree) : List Visit :=
  ⟨Path.child path p.1.toList, p.2⟩ :: p.2.spots (Path.child path p.1.toList)

theorem spotsItems_eq (path : List Char) (i : Nat) (ts : List Tree) : spotsItems path i ts =
    (ts.mapIdx fun j t => (toString (i + j), t)).flatMap (spotsAt path) := by
  induction ts generalizing i with
  | nil => rfl
  | cons t ts ih =>
    rw [spotsItems, ih, List.mapIdx_cons, List.flatMap_cons, spotsAt]
    simp [Nat.add_assoc, Nat.add_comm 1]

theorem spotsEntries_eq (path : List Char) (es : List (Tree × Tree)) : spotsEntries path es =
    (es.map fun e => ((e.1.scalar?.getD .null).text, e.2)).flatMap (spotsAt path) := by
  induction es with
  | nil => rfl
  | cons e es ih => rw [spotsEntries, ih, List.map_cons, List.flatMap_cons, spotsAt]

/-- A walk comes to the parts of a node in order. -/
theorem spots_eq (path : List Char) (t : Tree) :
    t.spots path = t.labelled.flatMap (spotsAt path) := by
  cases t with
  | sequence i tag m ts =>
    rw [spots, spotsItems_eq, labelled]
    simp
  | mapping i tag m es => rw [spots, spotsEntries_eq, labelled]
  | _ => rfl

/-! ### The walk -/

/-- The links of a plain document go down the tree. -/
theorem Plain.links_eq (hd : d.Plain) {t : Tree} (ht : t ∈ d.nodes) : d.links t = t.labelled := by
  cases t with
  | sequence i tag m ts =>
    rw [links, labelled]
    refine List.mapIdx_eq_mapIdx_iff.mpr fun j hj => ?_
    rw [hd.resolve (hd.item ht (List.getElem_mem hj))]
  | mapping i tag m es =>
    refine List.map_congr_left fun e he => ?_
    rw [hd.resolve (hd.key ht he), hd.resolve (hd.value ht he)]
  | _ => rfl

/-- A key is no alias. -/
theorem HasKeys.resolve (keys : d.HasKeys) {t : Tree} (ht : t ∈ d.nodes) {e : Tree × Tree}
    (he : e ∈ t.entries) : ∃ v, (d.resolve e.1).scalar? = some v ∧ v.isWritable = true := by
  obtain ⟨v, hv, written⟩ := keys t ht e he
  obtain ⟨i, tag, m, text, hk⟩ := exists_of_scalar? hv
  exact ⟨v, by rw [hk, resolve_scalar, ← hk, hv], written⟩

theorem HasKeys.hasScalarKeys (keys : d.HasKeys) : d.HasScalarKeys := by
  intro t ht e he
  obtain ⟨v, hv, -⟩ := keys.resolve ht he
  exact ⟨v, hv⟩

theorem HasKeys.writesKeys (keys : d.HasKeys) (hd : d.IsGraph) : d.WritesKeys := by
  intro ls t reached e he
  obtain ⟨v, hv, written⟩ := keys.resolve (hd.mem_of_reaches reached hd.root_mem) he
  rwa [nameValue, hv, Option.getD_some]

/-- All that is below a stop comes after it. -/
def Visit.whole (v : Visit) : List Visit := v :: v.node.spots v.path

theorem Plain.spots_eq (hd : d.Plain) {v : Visit} (hv : v.node ∈ d.nodes) :
    v.node.spots v.path = (Visit.parts d v).flatMap Visit.whole := by
  rw [Tree.spots_eq, Visit.parts, hd.links_eq hv, List.flatMap_map]
  rfl

/-- **A walk goes into all that there is to do**, where the numbers there differ and are all left. -/
theorem follow_eq (hd : d.Plain) {remaining : List Nat} {todo : List Visit}
    (nodes : ∀ v ∈ todo, v.node ∈ d.nodes)
    (nodup : ((todo.flatMap Visit.whole).map (·.node.id)).Nodup)
    (sub : ∀ v ∈ todo.flatMap Visit.whole, v.node.id ∈ remaining) :
    Walks.follow (·.node.id) (Visit.parts d) remaining todo = todo.flatMap Visit.whole := by
  fun_induction Walks.follow (·.node.id) (Visit.parts d) remaining todo with
  | case1 => rfl
  | case2 remaining v todo hmem ih =>
    obtain ⟨hv, htodo⟩ := List.forall_mem_cons.mp nodes
    have whole : (v :: todo).flatMap Visit.whole =
        v :: (Visit.parts d v ++ todo).flatMap Visit.whole := by
      rw [List.flatMap_cons, Visit.whole, hd.spots_eq hv, List.flatMap_append, List.cons_append]
    rw [whole, List.map_cons, List.nodup_cons] at nodup
    rw [whole, List.forall_mem_cons] at sub
    rw [whole, ih ?_ nodup.2 ?_]
    · intro u hu
      rcases List.mem_append.mp hu with hu | hu
      · obtain ⟨p, hp, rfl⟩ := List.mem_map.mp hu
        exact hd.isGraph.mem_of_links hv hp
      · exact htodo u hu
    · intro u hu
      -- The numbers of what comes later differ from that of the node that is walked into.
      refine (List.mem_erase_of_ne fun hid => nodup.1 ?_).mpr (sub.2 u hu)
      exact List.mem_map.mpr ⟨u, hu, hid⟩
  -- No part that is left has been walked into.
  | case3 remaining v todo hmem ih =>
    refine absurd (sub v ?_) hmem
    rw [List.flatMap_cons]
    exact List.mem_append_left _ (List.mem_cons_self ..)

mutual

/-- The numbers of what a walk comes to are numbers of parts, in order. -/
theorem sublist_ids_spots : ∀ (path : List Char) {t : Tree}, t.isPlain = true →
    (t.id :: (t.spots path).map (·.node.id)).Sublist t.ids
  | _, scalar .., _ => .refl _
  | path, sequence i tag m ts, h => by
    rw [ids_sequence, spots]
    exact (sublist_ids_spotsItems path 0 (isPlain_sequence_iff.mp h).2).cons_cons i
  | path, mapping i tag m es, h => by
    rw [ids_mapping, spots]
    exact (sublist_ids_spotsEntries path (isPlain_mapping_iff.mp h).2).cons_cons i

theorem sublist_ids_spotsItems (path : List Char) : ∀ (i : Nat) {ts : List Tree},
    (∀ t ∈ ts, t.isPlain = true) →
      ((spotsItems path i ts).map (·.node.id)).Sublist (idsItems ts)
  | _, [], _ => .refl _
  | i, t :: ts, h => by
    obtain ⟨ht, hts⟩ := List.forall_mem_cons.mp h
    rw [spotsItems, idsItems_cons]
    have := (sublist_ids_spots (Path.child path (toString i).toList) ht).append
      (sublist_ids_spotsItems path (i + 1) hts)
    simpa using this

theorem sublist_ids_spotsEntries (path : List Char) : ∀ {es : List (Tree × Tree)},
    (∀ e ∈ es, e.1.tag ≠ Meaning.merge.tag ∧ e.1.isPlain = true ∧ e.2.isPlain = true) →
      ((spotsEntries path es).map (·.node.id)).Sublist (idsEntries es)
  | [], _ => .refl _
  | (k, t) :: es, h => by
    obtain ⟨⟨-, -, ht⟩, hes⟩ := List.forall_mem_cons.mp h
    rw [spotsEntries, idsEntries_cons]
    have := (sublist_ids_spots (Path.child path (k.scalar?.getD .null).text.toList) ht).append
      (sublist_ids_spotsEntries path hes)
    -- The numbers of the key are left out.
    rw [List.append_assoc]
    exact .trans (by simpa using this) (List.sublist_append_right k.ids _)

end

/-- **A walk through a plain document comes to each node that is no key**, in reading order. -/
theorem visits_eq (hd : d.Plain) (keys : d.HasKeys) :
    d.visits = .ok (⟨[], d⟩ :: d.spots []) := by
  have parts := sublist_ids_spots [] hd.isPlain
  have whole : [(⟨[], d⟩ : Visit)].flatMap Visit.whole = ⟨[], d⟩ :: d.spots [] :=
    List.flatMap_singleton ..
  have nodes := List.forall_mem_singleton (p := fun v : Visit => v.node ∈ d.nodes) (a := ⟨[], d⟩)
  rw [visits_eq_follow hd.isGraph keys.hasScalarKeys (keys.writesKeys hd.isGraph),
    follow_eq hd (nodes.mpr hd.isGraph.root_mem) ?_ ?_, whole]
  · rw [whole]
    exact hd.nodup.sublist parts
  · rw [whole]
    intro v hv
    have hmem : v.node.id ∈ (⟨[], d⟩ :: d.spots [] : List Visit).map (·.node.id) :=
      List.mem_map_of_mem hv
    exact parts.subset hmem

/-- The values of the keys of a mapping. -/
def keyValues (t : Tree) : List Value := t.entries.filterMap (·.1.scalar?)

/-- The keys of a plain document that has an instance have values. -/
theorem hasKeys_of_plainValue? {v : Value} (h : d.plainValue? = some v)
    (written : ∀ t ∈ d.nodes, ∀ k ∈ t.keyValues, k.isWritable = true) : d.HasKeys := by
  intro t ht e he
  obtain ⟨w, hw⟩ := exists_plainValue?_of_mem h ht
  cases t with
  | mapping i tag m es =>
    obtain ⟨ps, hps, -⟩ := Option.map_eq_some_iff.mp hw
    obtain ⟨p, -, hk, -⟩ := exists_of_forall₂ (plainPairs?_eq_some_iff.mp hps) he
    exact ⟨p.1, hk, written _ ht _ (List.mem_filterMap.mpr ⟨e, he, hk⟩)⟩
  | _ => cases he

end Conform.Yaml.Tree
