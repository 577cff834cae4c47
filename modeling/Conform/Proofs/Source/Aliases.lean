import Conform.Proofs.Source.Tours
/-!
# The walk through a document with aliases

The walk that a source map is drawn from is a tour of the document (`isTour_tour`).  It goes into a node
at its first place only.  So it ends on a document that is part of itself, an alias is located at the
node that it stands for, and nothing is located below an alias of a node that has been found earlier
(`walk_enters_each_node_once`).
-/
namespace Conform

namespace Yaml.Tree

variable {d : Tree}

/-! ### The tour of a document -/

/-- The stops of the walk through a document. -/
def tour (d : Tree) : List Stop := Walks.follow (·.node.id) (Stop.parts d) d.ids [.start d]

/-- The stops at which the walk goes into a node. -/
def turns (d : Tree) : List Stop := Walks.entered (·.node.id) d.ids d.tour

theorem follow_eq_tour (d : Tree) : Walks.follow (·.node.id) (Visit.parts d) d.ids [⟨[], d⟩] =
    d.tour.map fun s => s.visit :=
  Walks.follow_map (fun _ => rfl) Stop.parts_visit d.ids [.start d]

theorem visits_eq_tour (hd : d.IsGraph) (keys : d.HasScalarKeys) (writes : d.WritesKeys) :
    d.visits = .ok (d.tour.map fun s => s.visit) := by
  rw [visits_eq_follow hd keys writes, follow_eq_tour]

theorem tour_perm (d : Tree) : d.tour.Perm (.start d :: d.turns.flatMap (Stop.parts d)) :=
  Walks.follow_perm d.ids [Stop.start d]

theorem node_mem_of_mem_tour (hd : d.IsGraph) : ∀ s ∈ d.tour, s.node ∈ d.nodes := by
  refine Walks.forall_mem_follow (List.forall_mem_singleton.mpr hd.root_mem) fun s hs t ht => ?_
  obtain ⟨i, l, u, h, rfl⟩ := Stop.mem_parts_iff.mp ht
  exact hd.mem_of_links hs (List.mem_of_getElem? h)

/-- All that a walk comes to is at or below one of the stops to come. -/
theorem exists_prefix_of_mem_follow {remaining : List Nat} {todo : List Stop} :
    ∀ t ∈ Walks.follow (·.node.id) (Stop.parts d) remaining todo,
      ∃ s ∈ todo, s.place <+: t.place := by
  refine Walks.forall_mem_follow (fun s hs => ⟨s, hs, List.prefix_refl _⟩) ?_
  rintro t ⟨s, hs, above⟩ u hu
  obtain ⟨i, l, v, -, rfl⟩ := Stop.mem_parts_iff.mp hu
  exact ⟨s, hs, above.trans (List.prefix_append ..)⟩

/-- Where the stops to come are beside each other, a walk is in document order. -/
theorem pairwise_follow {remaining : List Nat} {todo : List Stop}
    (beside : todo.Pairwise fun s t => IsLeftOf s.place t.place) :
    (Walks.follow (·.node.id) (Stop.parts d) remaining todo).Pairwise
      fun s t => s.place < t.place := by
  fun_induction Walks.follow (·.node.id) (Stop.parts d) remaining todo with
  | case1 => exact .nil
  -- The parts of the stop in front are below it, and on the left of the others as it is.
  | case2 remaining s todo h ih =>
    obtain ⟨left, beside⟩ := List.pairwise_cons.mp beside
    refine List.pairwise_cons.mpr ⟨fun t ht => ?_, ih (List.pairwise_append.mpr ⟨?_, beside, ?_⟩)⟩
    · obtain ⟨r, hr, above⟩ := exists_prefix_of_mem_follow t ht
      rcases List.mem_append.mp hr with hr | hr
      · exact lt_of_lt_of_le (Stop.place_lt hr) (le_of_isPrefix above)
      · exact (left r hr).lt_of_isPrefix above
    · refine List.pairwise_iff_getElem.mpr fun i j hi hj hij => ?_
      simpa [Stop.parts] using isLeftOf_concat hij s.place
    · intro r hr t ht
      obtain ⟨i, l, u, -, rfl⟩ := Stop.mem_parts_iff.mp hr
      simpa using (left t ht).append [i] []
  | case3 remaining s todo h ih =>
    obtain ⟨left, beside⟩ := List.pairwise_cons.mp beside
    refine List.pairwise_cons.mpr ⟨fun t ht => ?_, ih beside⟩
    obtain ⟨r, hr, above⟩ := exists_prefix_of_mem_follow t ht
    exact (left r hr).lt_of_isPrefix above

theorem pairwise_tour (d : Tree) : d.tour.Pairwise fun s t => s.place < t.place :=
  pairwise_follow (List.pairwise_singleton ..)

/-- The walk goes into the first stop at each node. -/
theorem mem_turns_iff (hd : d.IsGraph) {r : Stop} : r ∈ d.turns ↔ IsFirstOf d.tour r := by
  have ordered := d.pairwise_tour
  have nodes := node_mem_of_mem_tour hd
  rw [turns, Walks.mem_entered_iff hd.nodup]
  constructor
  · rintro ⟨-, before, after, split, first⟩
    have hr : r ∈ d.tour := by simp [split]
    refine ⟨hr, fun t ht same => ?_⟩
    rw [split] at ht ordered
    -- No stop before it is at its node, and those after it have later places.
    rcases List.mem_append.mp ht with ht | ht
    · exact absurd (congrArg Tree.id same) (first t ht)
    · rcases List.mem_cons.mp ht with rfl | ht
      · exact le_refl _
      · exact ((List.pairwise_cons.mp (List.pairwise_append.mp ordered).2.1).1 t ht).le
  · rintro ⟨hr, least⟩
    obtain ⟨before, after, split⟩ := List.append_of_mem hr
    refine ⟨List.mem_map_of_mem (nodes r hr), before, after, split, fun s hs same => ?_⟩
    have hs' : s ∈ d.tour := by simp [split, hs]
    have le := least s hs' (hd.eq_of_id_eq (nodes s hs') (nodes r hr) same)
    rw [split] at ordered
    exact le.not_gt ((List.pairwise_append.mp ordered).2.2 s hs r (List.mem_cons_self ..))

theorem isTour_tour (hd : d.IsGraph) : IsTour d d.tour where
  ordered := d.pairwise_tour
  mem_iff s := by
    rw [d.tour_perm.mem_iff, List.mem_cons, List.mem_flatMap]
    simp only [mem_turns_iff hd]

/-- **The walk fails at a key that cannot be written**, as it goes into each node that is reached. -/
theorem visits_eq_error (hd : d.IsGraph) (keys : d.HasScalarKeys) (h : ¬d.WritesKeys) :
    d.visits = .error .integerUnwritable := by
  obtain ⟨ends, fails⟩ := visits_spec hd keys
  cases hvisits : d.visits with
  | error f => rw [(fails f hvisits).1]
  | ok vs =>
    obtain ⟨rfl, named⟩ := ends vs hvisits
    have turns : Walks.entered (·.node.id) d.ids (d.tour.map fun s => s.visit) =
        d.turns.map fun s => s.visit := Walks.entered_map (fun _ => rfl) ..
    rw [follow_eq_tour, turns] at named
    refine absurd (fun ls t reached e he => ?_) h
    obtain ⟨r, hr, rfl⟩ := (isTour_tour hd).reaches_iff.mp ⟨ls, reached⟩
    obtain ⟨i, hi⟩ := List.getElem?_of_mem he
    exact named _ (List.mem_map_of_mem ((mem_turns_iff hd).mpr hr)) i e hi

/-- The nodes that a walk goes into are the distinct ones that are reached. -/
theorem nodup_turns (hd : d.IsGraph) : (d.turns.map fun r => r.node).Nodup := by
  refine List.Nodup.of_map Tree.id ?_
  rw [List.map_map]
  exact Walks.nodup_entered hd.nodup _

theorem length_flatMap_parts (stops : List Stop) : (stops.flatMap (Stop.parts d)).length =
    ((stops.map fun s => s.node).flatMap d.links).length := by
  induction stops with
  | nil => rfl
  | cons s stops ih =>
    rw [List.flatMap_cons, List.map_cons, List.flatMap_cons, List.length_append,
      List.length_append, Stop.length_parts, ih]

/-- There is a stop for each link of the nodes that the walk goes into, besides the one at the root. -/
theorem length_tour (d : Tree) :
    d.tour.length = 1 + ((d.turns.map fun r => r.node).flatMap d.links).length := by
  rw [d.tour_perm.length_eq, List.length_cons, length_flatMap_parts, Nat.add_comm]

/-- The source map of what a walk comes to. -/
def tourMap (d : Tree) : SourceMap :=
  .ofList (d.tour.map fun s => (spelled s.labels, .ofMark s.node.mark))

theorem sourceMap_eq_tourMap (hd : d.IsGraph) (keys : d.HasScalarKeys) (writes : d.WritesKeys) :
    d.sourceMap = .ok d.tourMap := by
  rw [sourceMap, visits_eq_tour hd keys writes]
  change Except.ok (SourceMap.ofList ((d.tour.map fun s => s.visit).map _)) = _
  rw [List.map_map]
  rfl

/-- Where the paths of all stops differ, the map has the position of each stop at its path. -/
theorem get?_tourMap (nodup : (d.tour.map fun s => spelled s.labels).Nodup) {path : List Char}
    {p : Position} : d.tourMap.get? path = some p ↔
      ∃ s ∈ d.tour, path = spelled s.labels ∧ p = .ofMark s.node.mark := by
  rw [tourMap, SourceMap.get?_ofList_iff (by rwa [List.map_map]), List.mem_map]
  simp only [Prod.mk.injEq, eq_comm]

end Yaml.Tree

open Yaml.Tree in
/-- **The walk through a document with aliases enters each node once**, whatever graph the document
is, if all keys stand for scalars that have a value.  Its stops are in document order,
and are those at the root and at the parts of the first stop at each node.  There is exactly one first
stop at each node that is reached, and a stop for each link of these nodes besides the one at the
root.  Nothing comes below a stop that is not the first one at its node.  The walk ends well if and only if
the keys of all nodes that are reached can be written.  If it does and the paths of all stops
differ, the source map has at the path of each stop, and nowhere else, the start of the node that the
labels of the stop lead to. -/
theorem walk_enters_each_node_once {text : List Char} {d : Yaml.Tree}
    (composed : Yaml.Tree.ofText text = .ok (some d)) (keys : d.HasScalarKeys) :
    ∃ stops : List Stop, stops.Pairwise (fun s t => s.place < t.place) ∧
      (∀ s, s ∈ stops ↔ s = .start d ∨ ∃ r : Stop, r.IsFirst d ∧ s ∈ r.parts d) ∧
      (∀ ls t, Path.Reaches d.links d ls t → ∃! r : Stop, r.IsFirst d ∧ r.node = t) ∧
      (∃ nodes : List Yaml.Tree, nodes.Nodup ∧
        (∀ t, t ∈ nodes ↔ ∃ ls, Path.Reaches d.links d ls t) ∧
        stops.length = 1 + (nodes.flatMap d.links).length) ∧
      (∀ s ∈ stops, Path.Reaches d.links d s.labels s.node) ∧
      (∀ s ∈ stops, ¬s.IsFirst d → ∀ t ∈ stops, s.place <+: t.place → s = t) ∧
      (d.WritesKeys → d.visits = .ok (stops.map fun s => s.visit) ∧
        ∃ m, SourceMap.ofText text = .ok m ∧ ((stops.map fun s => spelled s.labels).Nodup →
          ∀ path p, m.get? path = some p ↔
            ∃ s ∈ stops, path = spelled s.labels ∧ p = .ofMark s.node.mark)) ∧
      (¬d.WritesKeys → d.visits = .error .integerUnwritable ∧
        SourceMap.ofText text = .error .integerUnwritable) := by
  have hd := isGraph_of_ofText composed
  -- The stops are those of the tour, which is the walk without its keys.
  have tour := isTour_tour hd
  have drawn : SourceMap.ofText text = d.sourceMap := by rw [SourceMap.ofText, composed]
  refine ⟨d.tour, tour.ordered, ?_, ?_, ⟨_, nodup_turns hd, ?_, length_tour d⟩, ?_, ?_,
    fun writes => ⟨visits_eq_tour hd keys writes, d.tourMap, ?_, ?_⟩, fun unwritable => ?_⟩
  · intro s
    rw [tour.mem_iff]
    simp only [tour.isFirstOf_iff]
  · intro ls t h
    exact tour.existsUnique_isFirst ⟨ls, h⟩
  · intro t
    rw [tour.reaches_iff, List.mem_map]
    simp only [mem_turns_iff hd]
  · intro s hs
    obtain ⟨_, way, -⟩ := tour.exists_way hs
    exact way.reaches
  · intro s hs later t ht above
    -- A stop with another one below it is the first at its node.
    by_contra other
    exact later (tour.isFirstOf_iff.mp (tour.isFirstOf_of_isPrefix hs ht above other))
  · rw [drawn, sourceMap_eq_tourMap hd keys writes]
  · exact fun nodup path p => get?_tourMap nodup
  · have fails := visits_eq_error hd keys unwritable
    refine ⟨fails, ?_⟩
    rw [drawn, sourceMap, fails]
    rfl

section Sample

open Yaml Yaml.Tree

variable (tag : String) (mark place : Mark)

/-- A mapping with itself as the only value, under the key `a`. -/
def selfValued : Yaml.Tree := mapping 0 tag mark [(scalar 1 Meaning.str.tag place "a", reference 0)]

/-- Whether a document is such a mapping. -/
def isSelfValued : Yaml.Tree → Bool
  | mapping 0 _ _ [(scalar 1 tag _ "a", reference 0)] => tag == Meaning.str.tag
  | _ => false

theorem exists_of_isSelfValued {d : Yaml.Tree} (h : isSelfValued d = true) :
    ∃ tag mark place, d = selfValued tag mark place := by
  unfold isSelfValued at h
  split at h
  · rw [beq_iff_eq] at h
    exact ⟨_, _, _, by rw [h]; rfl⟩
  · cases h

theorem scalar?_key : (scalar 1 Meaning.str.tag place "a").scalar? = some (.str "a") := by
  have other : Meaning.str.tag ≠ Meaning.value.tag := by decide
  rw [scalar?, if_neg other, meaning?_tag]
  rfl

theorem key_selfValued {t : Yaml.Tree} (ht : t ∈ (selfValued tag mark place).nodes)
    {e : Yaml.Tree × Yaml.Tree} (he : e ∈ t.entries) :
    ((selfValued tag mark place).resolve e.1).scalar? = some (.str "a") := by
  rcases List.mem_cons.mp ht with rfl | ht
  · obtain rfl := List.mem_singleton.mp he
    exact scalar?_key place
  · obtain rfl := List.mem_singleton.mp ht
    cases he

theorem hasScalarKeys_selfValued : (selfValued tag mark place).HasScalarKeys :=
  fun _ ht _ he => ⟨_, key_selfValued tag mark place ht he⟩

theorem writesKeys_selfValued (hd : (selfValued tag mark place).IsGraph) :
    (selfValued tag mark place).WritesKeys := by
  intro ls t reached e he
  rw [nameValue, key_selfValued tag mark place (hd.mem_of_reaches reached hd.root_mem) he]
  rfl

theorem tour_selfValued : (selfValued tag mark place).tour = [.start (selfValued tag mark place),
    { labels := ["a"], node := selfValued tag mark place, place := [0] }] := by
  -- All that matters of the mapping is its numbers and its only link, which leads back to it.
  generalize hd : selfValued tag mark place = d
  have ids : d.ids = [0, 1] := hd ▸ rfl
  have id : d.id = 0 := hd ▸ rfl
  have links : d.links d = [("a", d)] := by
    rw [← hd, selfValued, links, List.map_singleton, resolve_scalar, scalar?_key]
    rfl
  have parts : (Stop.start d).parts d = [{ labels := ["a"], node := d, place := [0] }] := by
    rw [Stop.parts, Stop.start, links]
    rfl
  rw [Tree.tour, ids, Walks.follow, if_pos (by simp [Stop.start, id]), parts, List.append_nil,
    Walks.follow, if_neg (by simp [Stop.start, id]), Walks.follow]

/-- The walk comes to the mapping twice, and both paths are located where it starts. -/
theorem walk_enters_each_node_once_selfValued :
    ∃ (d : Yaml.Tree) (stops : List Stop) (m : SourceMap),
      Yaml.Tree.ofText "&x {a: *x}".toList = .ok (some d) ∧ d.HasScalarKeys ∧ d.WritesKeys ∧
        d.visits = .ok (stops.map fun s => s.visit) ∧ stops.length = 2 ∧
        SourceMap.ofText "&x {a: *x}".toList = .ok m ∧
        m.get? [] = some (.ofMark d.mark) ∧ m.get? "a".toList = some (.ofMark d.mark) := by
  have composed : ∃ d, Yaml.Tree.ofText "&x {a: *x}".toList = .ok (some d) ∧
      isSelfValued d = true := by
    apply exists_of_any
    decide +kernel
  obtain ⟨d, composed, h⟩ := composed
  obtain ⟨tag, mark, place, rfl⟩ := exists_of_isSelfValued h
  have keys := hasScalarKeys_selfValued tag mark place
  have writes := writesKeys_selfValued tag mark place (isGraph_of_ofText composed)
  obtain ⟨stops, -, -, -, -, -, -, ends, -⟩ := walk_enters_each_node_once composed keys
  obtain ⟨visits, m, drawn, found⟩ := ends writes
  have same := Except.ok.inj
    (visits.symm.trans (visits_eq_tour (isGraph_of_ofText composed) keys writes))
  rw [tour_selfValued] at same
  have nodup : (stops.map fun s => spelled s.labels).Nodup := by
    have paths : stops.map (fun s => spelled s.labels) =
        (stops.map fun s => s.visit).map (·.path) := by
      rw [List.map_map]
      rfl
    rw [paths, same]
    simp only [List.map_cons, List.map_nil, Step.visit, Stop.start]
    decide
  have located (v : Visit) (hv : v ∈ stops.map fun s => s.visit) :
      m.get? v.path = some (.ofMark v.node.mark) := by
    obtain ⟨s, hs, rfl⟩ := List.mem_map.mp hv
    exact (found nodup _ _).mpr ⟨s, hs, rfl, rfl⟩
  refine ⟨_, stops, m, composed, keys, writes, visits, ?_, drawn, ?_, ?_⟩
  · simpa using congrArg List.length same
  · exact located ⟨[], _⟩ (same ▸ List.mem_cons_self ..)
  · exact located ⟨"a".toList, _⟩ (same ▸ List.mem_cons_of_mem _ (List.mem_cons_self ..))

/-- An integer in base sixteen that has more than 4300 digits in base ten. -/
def longDigits : List Char := '0' :: 'x' :: List.replicate 4000 'f'

/-- A mapping with such an integer as its only key. -/
def longKeyed : Yaml.Tree := mapping 0 Meaning.map.tag {}
  [(scalar 1 Meaning.int.tag ⟨2, 0, 2⟩ (String.ofList longDigits),
    scalar 2 Meaning.int.tag ⟨4006, 1, 2⟩ "1")]

theorem exists_scalar?_longDigits (i : Nat) : ∃ v,
    (scalar i Meaning.int.tag mark (String.ofList longDigits)).scalar? = some v ∧
      v.isWritable = false := by
  have other : Meaning.int.tag ≠ Meaning.value.tag := by decide
  have read : ((Scalar.int longDigits).toOption.any fun v => !v.isWritable) = true := by
    decide +kernel
  rw [scalar?, if_neg other, meaning?_tag, Option.bind_some, String.toList_ofList, scalarValue]
  cases h : (Scalar.int longDigits).toOption with
  | none =>
    rw [h] at read
    cases read
  | some v =>
    rw [h] at read
    exact ⟨v, rfl, by simpa using read⟩

/-- The walk ends at a key that cannot be written. -/
theorem unwritable_key_ends_walk : longKeyed.IsGraph ∧ longKeyed.HasScalarKeys ∧
    longKeyed.visits = .error .integerUnwritable := by
  obtain ⟨v, hv, unwritable⟩ := exists_scalar?_longDigits ⟨2, 0, 2⟩ 1
  have hd : longKeyed.IsGraph := Plain.isGraph ⟨by decide +kernel, by decide +kernel⟩
  have keys : longKeyed.HasScalarKeys := by
    intro t ht e he
    have : t = longKeyed ∨ t.entries = [] := by
      rcases List.mem_cons.mp ht with rfl | ht
      · exact .inl rfl
      · rcases List.mem_cons.mp ht with rfl | ht
        · exact .inr rfl
        · obtain rfl := List.mem_singleton.mp ht
          exact .inr rfl
    rcases this with rfl | none
    · obtain rfl := List.mem_singleton.mp he
      exact ⟨v, hv⟩
    · rw [none] at he
      cases he
  refine ⟨hd, keys, visits_eq_error hd keys fun writes => ?_⟩
  have written := writes [] longKeyed (.here _) _ (List.mem_singleton_self _)
  rw [nameValue, longKeyed, resolve_scalar, hv, Option.getD_some, unwritable] at written
  cases written

end Sample

end Conform
