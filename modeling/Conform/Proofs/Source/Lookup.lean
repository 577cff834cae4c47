import Conform.Proofs.Path
import Conform.Proofs.Source.Visits
import Mathlib.Data.List.Induction
/-!
# Looking up positions

Where the keys of each mapping of a plain document are told apart by their values and by their texts,
the source map has the position of the node that labels lead to at the path that they spell
(`get?_sourceMap`), and a lookup comes to the deepest node on the way (`closest?_sourceMap`).
-/
namespace Conform

open Conform.Path

/-! ### Source maps of lists -/

namespace SourceMap

theorem get?_foldl_insert (es : List (List Char × Position)) (m : SourceMap) (path : List Char) :
    (∀ p, (path, p) ∉ es) ∧ (es.foldl (fun m e => m.insert e.1 e.2) m).get? path = m.get? path ∨
      ∃ p, (path, p) ∈ es ∧ (es.foldl (fun m e => m.insert e.1 e.2) m).get? path = some p := by
  induction es generalizing m with
  | nil => exact Or.inl ⟨by simp, rfl⟩
  | cons e es ih =>
    obtain ⟨other, q⟩ := e
    rw [List.foldl_cons]
    -- A later entry for the path counts more than this one.
    rcases ih (m.insert other q) with ⟨hnot, h⟩ | ⟨p, hp, h⟩
    · by_cases hpath : path = other
      · subst hpath
        exact Or.inr ⟨q, List.mem_cons_self .., by rw [h, get?_insert_self]⟩
      · refine Or.inl ⟨fun p => ?_, by rw [h, get?_insert_of_ne m hpath]⟩
        simp [hpath, hnot p]
    · exact Or.inr ⟨p, List.mem_cons_of_mem _ hp, h⟩

/-- What a list says of a path, if it does not say two things, is what its source map says. -/
theorem get?_ofList {es : List (List Char × Position)} {path : List Char} {q : Option Position}
    (h : ∀ p, (path, p) ∈ es ↔ q = some p) : (ofList es).get? path = q := by
  rcases get?_foldl_insert es {} path with ⟨hnot, hget⟩ | ⟨p, hp, hget⟩
  · rw [ofList, hget]
    cases q with
    | none => rfl
    | some p => exact absurd ((h p).mpr rfl) (hnot p)
  · rw [ofList, hget, (h p).mp hp]

/-- The last entry for a path counts. -/
theorem get?_ofList_eq (es : List (List Char × Position)) (path : List Char) :
    (ofList es).get? path = (es.reverse.find? (·.1 == path)).map (·.2) := by
  induction es using List.reverseRecOn with
  | nil => rfl
  | append_singleton es e ih =>
    have step : ofList (es ++ [e]) = (ofList es).insert e.1 e.2 := by
      rw [ofList, List.foldl_append]
      rfl
    rw [step, List.reverse_append, List.reverse_singleton, List.singleton_append]
    by_cases h : e.1 = path
    · subst h
      rw [get?_insert_self, List.find?_cons_of_pos (by simp), Option.map_some]
    · rw [get?_insert_of_ne _ (Ne.symm h), ih, List.find?_cons_of_neg (by simpa using h)]

/-- Where all paths differ, each entry counts. -/
theorem get?_ofList_iff {es : List (List Char × Position)} (nodup : (es.map (·.1)).Nodup)
    {path : List Char} {p : Position} : (ofList es).get? path = some p ↔ (path, p) ∈ es := by
  have reversed : (es.reverse.map (·.1)).Nodup := by
    rw [List.map_reverse]
    exact List.nodup_reverse.mpr nodup
  rw [get?_ofList_eq, find?_key_eq_some_iff reversed, List.mem_reverse]

end SourceMap

namespace Yaml.Tree

variable {d : Tree}

/-! ### Parts under labels -/

/-- Whether the keys of a mapping have texts, differ in their values and in their texts, and each text is
a label. -/
structure HasDistinctKeys (t : Tree) : Prop where
  written : ∀ k ∈ t.keyValues, k.isWritable = true
  values : t.keyValues.Pairwise Value.Apart
  texts : (t.keyValues.map Value.text).Nodup
  labels : ∀ k ∈ t.keyValues, IsLabel k.text.toList

instance (t : Tree) : Decidable t.HasDistinctKeys :=
  decidable_of_iff ((∀ k ∈ t.keyValues, k.isWritable = true) ∧ t.keyValues.Pairwise Value.Apart ∧
      (t.keyValues.map Value.text).Nodup ∧ ∀ k ∈ t.keyValues, IsLabel k.text.toList)
    ⟨fun h => ⟨h.1, h.2.1, h.2.2.1, h.2.2.2⟩, fun h => ⟨h.written, h.values, h.texts, h.labels⟩⟩

/-- A plain document whose mappings have distinct keys, all with a value. -/
structure Labelled (d : Tree) : Prop where
  plain : d.Plain
  keys : d.HasKeys
  distinct : ∀ t ∈ d.nodes, t.HasDistinctKeys

/-- The tree of a text, if there is one and it is checked to have a property. -/
theorem exists_of_any {text : List Char} {p : Tree → Prop} [DecidablePred p]
    (h : (ofText text).toOption.join.any (fun d => decide (p d)) = true) :
    ∃ d, ofText text = .ok (some d) ∧ p d := by
  cases hd : ofText text with
  | error f =>
    rw [hd] at h
    cases h
  | ok d? =>
    cases d? with
    | none =>
      rw [hd] at h
      cases h
    | some d =>
      rw [hd] at h
      exact ⟨d, rfl, of_decide_eq_true h⟩

/-- The source map of what a walk comes to in a plain document. -/
def spotMap (d : Tree) : SourceMap :=
  .ofList ((⟨[], d⟩ :: d.spots []).map fun v => (v.path, .ofMark v.node.mark))

theorem sourceMap_eq (hd : d.Plain) (keys : d.HasKeys) : d.sourceMap = .ok d.spotMap := by
  rw [sourceMap, visits_eq hd keys]
  rfl

/-- What is inherited from the labelled parts of a tree holds of all trees. -/
@[elab_as_elim]
theorem inductionOnLabelled {motive : Tree → Prop} (t : Tree)
    (step : ∀ t : Tree, (∀ p ∈ t.labelled, motive p.2) → motive t) : motive t := by
  induction t using inductionOnParts with
  | scalar i tag m text => exact step _ (by simp [labelled])
  | reference i => exact step _ (by simp [labelled])
  | sequence i tag m ts ih =>
    refine step _ fun p hp => ?_
    obtain ⟨j, hj, rfl⟩ := List.mem_mapIdx.mp hp
    exact ih _ (List.getElem_mem hj)
  | mapping i tag m es ih =>
    refine step _ fun p hp => ?_
    obtain ⟨e, he, rfl⟩ := List.mem_map.mp hp
    exact (ih e he).2

/-- A plain document whose keys have values, the text of each being one segment of a path. -/
structure Named (d : Tree) : Prop where
  plain : d.Plain
  keys : d.HasKeys
  segments : ∀ t ∈ d.nodes, AreSegments (t.keyValues.map Value.text)

theorem keyValues_mapping (hd : d.HasKeys) {i : Nat} {tag : String} {m : Mark}
    {es : List (Tree × Tree)} (ht : mapping i tag m es ∈ d.nodes) :
    (mapping i tag m es).keyValues = es.map fun e => e.1.scalar?.getD .null := by
  rw [keyValues, entries, ← List.filterMap_eq_map]
  refine List.filterMap_congr fun e he => ?_
  obtain ⟨v, hv, -⟩ := hd _ ht e he
  simp [hv]

namespace Named

/-- The labels of the parts of a node are segments, and the parts are nodes. -/
theorem labelled (hd : d.Named) {t : Tree} (ht : t ∈ d.nodes) {p : String × Tree}
    (hp : p ∈ t.labelled) : AreSegments [p.1] ∧ p.2 ∈ d.nodes := by
  cases t with
  | sequence i tag m ts =>
    obtain ⟨j, hj, rfl⟩ := List.mem_mapIdx.mp hp
    exact ⟨.of_isLabel (List.forall_mem_singleton.mpr (isLabel_index j)),
      hd.plain.item ht (List.getElem_mem hj)⟩
  | mapping i tag m es =>
    obtain ⟨e, he, rfl⟩ := List.mem_map.mp hp
    refine ⟨List.forall_mem_singleton.mpr (hd.segments _ ht _ ?_), hd.plain.value ht he⟩
    rw [keyValues_mapping hd.keys ht, List.map_map]
    exact List.mem_map_of_mem (f := fun e => (e.1.scalar?.getD .null).text) he
  | scalar i tag m text => cases hp
  | reference i => cases hp

/-- What a walk comes to at a part and below it is what labels reach from there. -/
theorem mem_spotsAt_iff (hd : d.Named) {p : String × Tree} (hp : p.2 ∈ d.nodes) {ls : List String}
    (hls : AreSegments ls) (hl : AreSegments [p.1]) {x : Visit} : x ∈ spotsAt (ofLabels ls) p ↔
      ∃ ks, Reaches Tree.labelled p.2 ks x.node ∧ x.path = ofLabels (ls ++ p.1 :: ks) := by
  obtain ⟨l, t⟩ := p
  dsimp only at hp hl ⊢
  induction t using inductionOnLabelled generalizing ls l with
  | step t ih =>
    have here := areSegments_append_iff.mpr ⟨hls, hl⟩
    rw [spotsAt, child_ofLabels hls, List.mem_cons, spots_eq, List.mem_flatMap]
    constructor
    · rintro (rfl | ⟨q, hq, hx⟩)
      · exact ⟨[], .here t, rfl⟩
      · obtain ⟨hk, hu⟩ := hd.labelled hp hq
        obtain ⟨ks, reach, hpath⟩ := (ih q hq here q.1 hu hk).mp hx
        exact ⟨q.1 :: ks, .step hq reach, by simpa using hpath⟩
    · rintro ⟨ks, reach, hpath⟩
      cases reach with
      | here => exact Or.inl (by rw [← hpath])
      | @step _ u _ k ks hmem reach =>
        obtain ⟨hk, hu⟩ := hd.labelled hp hmem
        refine Or.inr ⟨(k, u), hmem, (ih _ hmem here k hu hk).mpr ⟨ks, reach, ?_⟩⟩
        simpa using hpath

/-- What a walk comes to below a node is what labels reach from there. -/
theorem mem_spots_iff (hd : d.Named) {t : Tree} (ht : t ∈ d.nodes) {ls : List String}
    (hls : AreSegments ls) {x : Visit} : x ∈ t.spots (ofLabels ls) ↔
      ∃ k ks, Reaches Tree.labelled t (k :: ks) x.node ∧ x.path = ofLabels (ls ++ k :: ks) := by
  rw [spots_eq, List.mem_flatMap]
  constructor
  · rintro ⟨p, hp, hx⟩
    obtain ⟨hl, hu⟩ := hd.labelled ht hp
    obtain ⟨ks, reach, hpath⟩ := (hd.mem_spotsAt_iff hu hls hl).mp hx
    exact ⟨p.1, ks, .step hp reach, hpath⟩
  · rintro ⟨k, ks, reach, hpath⟩
    obtain ⟨u, hmem, reach⟩ := reaches_cons_iff.mp reach
    obtain ⟨hl, hu⟩ := hd.labelled ht hmem
    exact ⟨(k, u), hmem, (hd.mem_spotsAt_iff hu hls hl).mpr ⟨ks, reach, hpath⟩⟩

theorem areSegments_of_reaches (hd : d.Named) {t u : Tree} (ht : t ∈ d.nodes) {ls : List String}
    (h : Reaches Tree.labelled t ls u) : AreSegments ls := by
  induction h with
  | here => simp [AreSegments]
  | step part _ ih =>
    obtain ⟨hl, hu⟩ := hd.labelled ht part
    exact areSegments_append_iff.mpr ⟨hl, ih hu⟩

theorem mem_visits_iff (hd : d.Named) {x : Visit} : x ∈ (⟨[], d⟩ :: d.spots [] : List Visit) ↔
    ∃ ls, Reaches Tree.labelled d ls x.node ∧ x.path = ofLabels ls := by
  have below := hd.mem_spots_iff (mem_nodes_self hd.plain.isPlain)
    (show AreSegments [] by simp [AreSegments]) (x := x)
  rw [List.mem_cons]
  constructor
  · rintro (rfl | hx)
    · exact ⟨[], .here d, rfl⟩
    · obtain ⟨k, ks, reach, hpath⟩ := below.mp hx
      exact ⟨k :: ks, reach, hpath⟩
  · rintro ⟨ls, reach, hpath⟩
    cases ls with
    | nil =>
      obtain ⟨path, node⟩ := x
      cases reach
      cases hpath
      exact Or.inl rfl
    | cons k ks => exact Or.inr (below.mpr ⟨k, ks, reach, hpath⟩)

end Named

theorem nodup_labels_sequence (i : Nat) (tag : String) (m : Mark) (ts : List Tree) :
    ((sequence i tag m ts).labelled.map (·.1)).Nodup := by
  have indices : (Tree.labelled (sequence i tag m ts)).map (·.1) =
      (List.range ts.length).map fun i => toString i := by
    rw [Tree.labelled, List.mapIdx_eq_zipIdx_map, List.map_map, List.range_eq_range',
      ← List.zipIdx_map_snd 0 ts, List.map_map]
    rfl
  rw [indices]
  refine List.Nodup.map (fun i j h => ?_) List.nodup_range
  exact toString_index_injective (congrArg String.toList h)

/-- The part of a node that has a label. -/
def part? (t : Tree) (label : String) : Option Tree :=
  (t.labelled.find? (·.1 == label)).map (·.2)

namespace Labelled

theorem named (hd : d.Labelled) : d.Named := by
  refine ⟨hd.plain, hd.keys, fun t ht => ?_⟩
  refine .of_isLabel fun l hl => ?_
  obtain ⟨k, hk, rfl⟩ := List.mem_map.mp hl
  exact (hd.distinct t ht).labels k hk

/-- The parts of a node have labels of their own. -/
theorem labelled (hd : d.Labelled) {t : Tree} (ht : t ∈ d.nodes) :
    (t.labelled.map (·.1)).Nodup ∧ ∀ p ∈ t.labelled, IsLabel p.1.toList ∧ p.2 ∈ d.nodes := by
  cases t with
  | sequence i tag m ts =>
    refine ⟨nodup_labels_sequence i tag m ts, fun p hp => ?_⟩
    obtain ⟨j, hj, rfl⟩ := List.mem_mapIdx.mp hp
    exact ⟨isLabel_index j, hd.plain.item ht (List.getElem_mem hj)⟩
  | mapping i tag m es =>
    have distinct := hd.distinct _ ht
    have values := keyValues_mapping hd.keys ht
    constructor
    · have := distinct.texts
      rw [values, List.map_map] at this
      rw [Tree.labelled, List.map_map]
      exact this
    · intro p hp
      obtain ⟨e, he, rfl⟩ := List.mem_map.mp hp
      refine ⟨distinct.labels _ ?_, hd.plain.value ht he⟩
      rw [values]
      exact List.mem_map_of_mem he
  | scalar i tag m text => simp [Tree.labelled]
  | reference i => simp [Tree.labelled]

theorem part?_eq_some_iff (hd : d.Labelled) {t u : Tree} (ht : t ∈ d.nodes) {l : String} :
    t.part? l = some u ↔ (l, u) ∈ t.labelled :=
  find?_key_eq_some_iff (hd.labelled ht).1

/-- Labels reach the part that they lead to, and no other one. -/
theorem reaches_iff (hd : d.Labelled) {t u : Tree} (ht : t ∈ d.nodes) {ls : List String} :
    Reaches Tree.labelled t ls u ↔ at? part? t ls = some u :=
  reaches_iff_at? (P := (· ∈ d.nodes))
    (fun _ ht => ⟨fun _ _ => hd.part?_eq_some_iff ht, fun p hp => ((hd.labelled ht).2 p hp).2⟩) ht

/-- **The source map has the position of each node**, at the path that the labels to it spell, and no
other positions. -/
theorem get?_sourceMap (hd : d.Labelled) : ∃ m, d.sourceMap = .ok m ∧
    ∀ ls : List String, (∀ l ∈ ls, IsLabel l.toList) →
      m.get? (ofLabels ls) = (at? part? d ls).map fun t => .ofMark t.mark := by
  have root := mem_nodes_self hd.plain.isPlain
  refine ⟨_, sourceMap_eq hd.plain hd.keys, fun ls hls => ?_⟩
  refine SourceMap.get?_ofList fun p => ?_
  rw [List.mem_map, Option.map_eq_some_iff]
  constructor
  · rintro ⟨x, hx, heq⟩
    obtain ⟨hpath, hp⟩ := Prod.mk.inj heq
    obtain ⟨ks, reach, hpath'⟩ := hd.named.mem_visits_iff.mp hx
    -- Only these labels spell the path.
    obtain rfl := ofLabels_injective (hd.named.areSegments_of_reaches root reach)
      (.of_isLabel hls) (hpath'.symm.trans hpath)
    exact ⟨x.node, (hd.reaches_iff root).mp reach, hp⟩
  · rintro ⟨t, hat, hp⟩
    have reach := (hd.reaches_iff root).mpr hat
    exact ⟨⟨ofLabels ls, t⟩, hd.named.mem_visits_iff.mpr ⟨ls, reach, rfl⟩, by rw [hp]⟩

/-- **A lookup comes to the deepest node** on the way along the labels. -/
theorem closest?_sourceMap (hd : d.Labelled) {m : SourceMap} (hm : d.sourceMap = .ok m)
    {ls : List String} (hls : ∀ l ∈ ls, IsLabel l.toList) :
    m.closest? (ofLabels ls) = some (.ofMark (deepest part? d ls).mark) := by
  obtain ⟨m', hm', get⟩ := hd.get?_sourceMap
  cases hm'.symm.trans hm
  -- From the last label, for this is the one that a step up drops.
  induction ls using List.reverseRecOn with
  | nil =>
    have known : m.known? (ofLabels []) = some (.ofMark d.mark) := by
      rw [SourceMap.known?, get [] hls]
      rfl
    rw [SourceMap.closest?, known]
    rfl
  | append_singleton ls l ih =>
    have before := fun k hk => hls k (List.mem_append_left _ hk)
    have last := hls l (List.mem_append_right _ (List.mem_singleton_self l))
    rw [SourceMap.closest?, SourceMap.known?, get _ hls]
    cases hat : at? part? d (ls ++ [l]) with
    | some t =>
      rw [deepest_of_at? hat]
      rfl
    | none =>
      -- There is no node, and the lookup goes on one label higher.
      have ne := ofLabels_ne_nil (.of_isLabel hls) (by simp)
      simp only [Option.map_none, Option.filter_none, dif_neg ne, parent_ofLabels ls last]
      rw [ih before, deepest_concat hat]

end Labelled

end Yaml.Tree

end Conform
