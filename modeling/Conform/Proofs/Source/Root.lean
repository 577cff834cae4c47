import Conform.Proofs.Source.Kept
import Conform.Proofs.Source.Positions
/-!
# The entry at the empty path

The walk that a source map is drawn from starts at the root, whose path is empty.  A part gets the
empty path again if all labels on the way to it are empty texts (`spelled_eq_nil_iff`), and the last
such step counts.  So the empty path locates the root unless the root has a part under the empty text,
which is the main result, `empty_path_locates`.
-/
namespace Conform

theorem Node.isRoot_foldl_child_iff {n : Node} {ls : List String} :
    (ls.foldl child n).isRoot = true ↔ n.isRoot = true ∧ ∀ l ∈ ls, l = "" := by
  induction ls generalizing n with
  | nil => simp
  | cons l ls ih => rw [List.foldl_cons, ih, isRoot_child_iff, List.forall_mem_cons, and_assoc]

/-- Labels spell the empty path if all of them are empty. -/
theorem spelled_eq_nil_iff {ls : List String} : spelled ls = [] ↔ ∀ l ∈ ls, l = "" := by
  have root : Node.root.isRoot = true := rfl
  rw [spelled, ← Node.isRoot_iff, Node.isRoot_foldl_child_iff, root]
  simp

namespace Yaml.Tree

variable {d t : Tree} {m : SourceMap} {mk : Making} {ls : List String}

/-! ### What a source map has -/

/-- The walk starts at the root. -/
theorem exists_visits (hm : d.sourceMap = .ok m) : ∃ vs, d.visits = .ok (⟨[], d⟩ :: vs) := by
  obtain ⟨vs, visits, -⟩ := of_bind_eq_ok hm
  obtain ⟨rest, -, rfl⟩ := of_map_eq_ok visits
  exact ⟨rest, visits⟩

/-- At each path the map has the start of the last node that the walk came to there. -/
theorem get?_sourceMap_eq {vs : List Visit} (visits : d.visits = .ok vs) (hm : d.sourceMap = .ok m)
    (path : List Char) : m.get? path =
      (vs.reverse.find? (·.path == path)).map fun v => .ofMark v.node.mark := by
  rw [sourceMap, visits] at hm
  cases hm
  rw [SourceMap.get?_ofList_eq, ← List.map_reverse, List.find?_map, Option.map_map]
  rfl

/-- All positions of a map are starts of nodes. -/
theorem exists_mark_of_get? (hm : d.sourceMap = .ok m) {path : List Char} {p : Position}
    (h : m.get? path = some p) : ∃ mark, p = .ofMark mark := by
  obtain ⟨vs, visits, -⟩ := of_bind_eq_ok hm
  rw [get?_sourceMap_eq visits hm] at h
  obtain ⟨v, -, rfl⟩ := Option.map_eq_some_iff.mp h
  exact ⟨_, rfl⟩

/-- There is a position at the empty path. -/
theorem exists_mark_root (hm : d.sourceMap = .ok m) : ∃ mark, m.get? [] = some (.ofMark mark) := by
  obtain ⟨vs, visits⟩ := exists_visits hm
  have found : ((⟨[], d⟩ :: vs : List Visit).reverse.find? (·.path == [])).isSome = true :=
    List.find?_isSome.mpr ⟨⟨[], d⟩, List.mem_reverse.mpr (List.mem_cons_self ..), rfl⟩
  obtain ⟨v, hv⟩ := Option.isSome_iff_exists.mp found
  exact ⟨v.node.mark, by rw [get?_sourceMap_eq visits hm, hv, Option.map_some]⟩

/-! ### Parts under the empty text -/

/-- No label at all leads to the root. -/
theorem LeadsTo.eq_root (h : LeadsTo d mk ls t) (none : ls = []) : t = d := by
  induction h with
  | root => rfl
  | part => simp at none
  | later _ _ before => exact before none

/-- The first of some labels leads to a part of the root. -/
theorem LeadsTo.exists_first {l : String} (h : LeadsTo d mk ls t) (first : ls.head? = some l) :
    ∃ mk' u, LeadsTo d mk' [l] u := by
  induction h with
  | root => cases first
  | later _ _ before => exact before first
  | @part mk mk' ls p label part name around next naming ih =>
    cases ls with
    | nil =>
      obtain rfl : String.ofList name = l := Option.some.inj first
      exact ⟨mk', _, .part around next naming⟩
    | cons k ls => exact ih first

/-- Where nothing has been changed, a mapping has the entries that it is written with. -/
theorem mem_written_of_entriesAt {age i : Nat} {x : Entry}
    (h : (({} : Edits).entriesAt t age)[i]? = some x) : x ∈ t.written := by
  have lists : Edits.listsOf {} t = [t.written] := rfl
  rw [Edits.entriesAt, lists] at h
  cases hage : Edits.age {} t - age with
  | zero => exact List.mem_of_getElem? (by simpa [hage] using h)
  | succ n => simp [hage] at h

/-- Where keys stand for scalars that have a value, labels lead along links. -/
theorem LeadsTo.reaches (hd : d.IsGraph) (keys : d.HasScalarKeys) (h : LeadsTo d mk ls t) :
    mk.IsFaithful d ∧ t ∈ d.nodes ∧ Path.Reaches d.links d ls t := by
  induction h with
  | root => exact ⟨Making.isFaithful_empty d, hd.root_mem, .here d⟩
  | later _ _ before now => exact ⟨now.1, before.2⟩
  | @part mk mk' ls p label part name around next naming ih =>
    obtain ⟨path, node, age, index, left⟩ := p
    obtain ⟨faithful, hnode, reach⟩ := ih
    -- It is enough that the name the walk gave the part is the label of a link to it.
    have along (hlink : (String.ofList name, d.resolve part) ∈ d.links node) :
        d.resolve part ∈ d.nodes ∧
          Path.Reaches d.links d (ls ++ [String.ofList name]) (d.resolve part) :=
      ⟨hd.mem_of_links hnode hlink, reach.concat hlink⟩
    rw [faithful.edits] at next
    cases node with
    | sequence i tag m ts =>
      obtain ⟨u, hu, heq⟩ := Option.map_eq_some_iff.mp next
      cases heq
      cases naming
      obtain ⟨hindex, rfl⟩ := List.getElem?_eq_some_iff.mp hu
      refine ⟨faithful, along ?_⟩
      rw [String.ofList_toList]
      exact List.mem_mapIdx.mpr ⟨index, hindex, rfl⟩
    | mapping i tag m es =>
      obtain ⟨x, hx, heq⟩ := Option.map_eq_some_iff.mp next
      cases heq
      have hmem : (x.key, x.value) ∈ es := mem_entries_of_mem_written (mem_written_of_entriesAt hx)
      obtain ⟨v, hv⟩ := keys _ hnode _ hmem
      obtain ⟨mk'', named, faithful'⟩ := keyText_spec hd faithful (hd.key hnode hmem) hv
      obtain ⟨text, written, heq⟩ := of_map_eq_ok (named.symm.trans naming)
      cases heq
      refine ⟨faithful', along (List.mem_map.mpr ⟨_, hmem, ?_⟩)⟩
      rw [String.ofList_toList, hv, Option.getD_some, (Value.writeText_eq_ok_iff.mp written).2]
    | scalar i tag m text =>
      obtain ⟨x, hx, -⟩ := Option.map_eq_some_iff.mp next
      cases mem_written_of_entriesAt hx
    | reference i =>
      obtain ⟨x, hx, -⟩ := Option.map_eq_some_iff.mp next
      cases mem_written_of_entriesAt hx

/-- The empty text leads nowhere from a root none of whose links it labels. -/
theorem not_leadsTo_empty (hd : d.IsGraph) (keys : d.HasScalarKeys)
    (links : ∀ p ∈ d.links d, p.1 ≠ "") (mk : Making) (t : Tree) : ¬LeadsTo d mk [""] t := by
  intro h
  obtain ⟨-, -, reach⟩ := h.reaches hd keys
  obtain ⟨u, hu, -⟩ := Path.reaches_cons_iff.mp reach
  exact links _ hu rfl

/-- The last step along empty labels only is at the root if the root has no part under the empty
text. -/
theorem Step.IsMade.eq_root {s : Step} (made : s.IsMade d) (empty : ∀ l ∈ s.labels, l = "")
    (none : ∀ mk t, ¬LeadsTo d mk [""] t) : s.node = d := by
  obtain ⟨mk, h⟩ := made
  cases hls : s.labels with
  | nil => exact h.eq_root hls
  | cons l ls =>
    have hl : s.labels.head? = some "" := by
      rw [hls, List.head?_cons, empty l (hls ▸ List.mem_cons_self ..)]
    obtain ⟨mk', u, hu⟩ := h.exists_first hl
    exact absurd hu (none mk' u)

end Yaml.Tree

open Yaml.Tree in
/-- **The empty path locates the last of the nodes that empty labels lead to.**  Whatever document a
source map is drawn from, the walk goes down along labels, the map has at the empty path the start of
the node of the last step whose labels are all empty, and this is the root of the document if the
empty text leads nowhere from there. -/
theorem empty_path_locates {text : List Char} {d : Yaml.Tree} {m : SourceMap}
    (composed : Yaml.Tree.ofText text = .ok (some d)) (drawn : SourceMap.ofText text = .ok m) :
    ∃ steps : List Step, d.visits = .ok (steps.map Step.visit) ∧ (∀ s ∈ steps, s.IsMade d) ∧
      (∃ before s after, steps = before ++ s :: after ∧ (∀ l ∈ s.labels, l = "") ∧
        (∀ r ∈ after, ∃ l ∈ r.labels, l ≠ "") ∧ m.get? [] = some (.ofMark s.node.mark)) ∧
      ((∀ mk t, ¬LeadsTo d mk [""] t) → m.get? [] = some (.ofMark d.mark)) := by
  have hm : d.sourceMap = .ok m := by rwa [SourceMap.ofText, composed] at drawn
  obtain ⟨vs, visits⟩ := exists_visits hm
  obtain ⟨steps, made, hsteps⟩ := goesAlong_visits d _ visits
  rw [hsteps] at visits
  -- The root is at the empty path, so that some step is the last one there.
  obtain ⟨s, found⟩ : ∃ s, steps.reverse.find? (spelled ·.labels == []) = some s := by
    rw [← Option.isSome_iff_exists, List.find?_isSome]
    obtain ⟨s, hs, hroot⟩ := List.mem_map.mp (hsteps ▸ List.mem_cons_self .. :
      (⟨[], d⟩ : Visit) ∈ steps.map Step.visit)
    exact ⟨s, List.mem_reverse.mpr hs, beq_iff_eq.mpr (congrArg Visit.path hroot)⟩
  have entry : m.get? [] = some (.ofMark s.node.mark) := by
    rw [get?_sourceMap_eq visits hm, ← List.map_reverse, List.find?_map, Option.map_map]
    exact congrArg (Option.map _) found
  obtain ⟨here, after, before, split, later⟩ := List.find?_eq_some_iff_append.mp found
  have empty : ∀ l ∈ s.labels, l = "" := spelled_eq_nil_iff.mp (beq_iff_eq.mp here)
  refine ⟨steps, visits, made, ⟨before.reverse, s, after.reverse, ?_, empty, ?_, entry⟩, ?_⟩
  · rw [← List.reverse_reverse steps, split]
    simp
  · intro r hr
    have other := later r (List.mem_reverse.mp hr)
    rw [Bool.not_eq_true', beq_eq_false_iff_ne, Ne, spelled_eq_nil_iff] at other
    simpa using other
  · intro none
    rw [entry, (made s ?_).eq_root empty none]
    rw [← List.mem_reverse, split]
    simp

namespace Yaml

open Conform.Yaml.Tree

/-- An empty key below another one does not matter. -/
theorem empty_path_locates_nested : ∃ d m,
    Tree.ofText "\x7ba: \x7b'': 1\x7d\x7d".toList = .ok (some d) ∧
      SourceMap.ofText "\x7ba: \x7b'': 1\x7d\x7d".toList = .ok m ∧
        m.get? [] = some (.ofMark d.mark) := by
  have composed : ∃ d, Tree.ofText "\x7ba: \x7b'': 1\x7d\x7d".toList = .ok (some d) ∧
      d.isPlain = true ∧ d.plainValue?.isSome = true ∧
      (∀ t ∈ d.nodes, ∀ k ∈ t.keyValues, k.isWritable = true) ∧ ∀ p ∈ d.links d, p.1 ≠ "" := by
    apply exists_of_any
    decide +kernel
  obtain ⟨d, composed, plain, value, written, links⟩ := composed
  obtain ⟨v, value⟩ := Option.isSome_iff_exists.mp value
  have hd : d.Plain := ⟨plain, nodup_ids_of_ofText composed⟩
  have keys := hasKeys_of_plainValue? value written
  have drawn : SourceMap.ofText "\x7ba: \x7b'': 1\x7d\x7d".toList = .ok d.spotMap := by
    rw [SourceMap.ofText, composed]
    exact sourceMap_eq hd keys
  obtain ⟨-, -, -, -, root⟩ := empty_path_locates composed drawn
  exact ⟨d, _, composed, drawn,
    root (not_leadsTo_empty hd.isGraph keys.hasScalarKeys links)⟩

/-- The value of an empty key takes the place of the root. -/
theorem empty_key_displaces_root : (∃ d m, Tree.ofText "'': 1".toList = .ok (some d) ∧
      SourceMap.ofText "'': 1".toList = .ok m ∧ Position.ofMark d.mark = ⟨some 1, some 1⟩ ∧
        m.get? [] = some ⟨some 1, some 5⟩) ∧
    ¬∀ text d m, Tree.ofText text = .ok (some d) → SourceMap.ofText text = .ok m →
      m.get? [] = some (.ofMark d.mark) := by
  have composed : ∃ d, Tree.ofText "'': 1".toList = .ok (some d) ∧ d.isPlain = true ∧
      d.plainValue?.isSome = true ∧ (∀ t ∈ d.nodes, ∀ k ∈ t.keyValues, k.isWritable = true) ∧
      Position.ofMark d.mark = ⟨some 1, some 1⟩ ∧
        d.spotMap.get? [] = some ⟨some 1, some 5⟩ := by
    apply exists_of_any
    decide +kernel
  obtain ⟨d, composed, plain, value, written, start, entry⟩ := composed
  obtain ⟨v, value⟩ := Option.isSome_iff_exists.mp value
  have drawn : SourceMap.ofText "'': 1".toList = .ok d.spotMap := by
    rw [SourceMap.ofText, composed]
    exact sourceMap_eq ⟨plain, nodup_ids_of_ofText composed⟩ (hasKeys_of_plainValue? value written)
  refine ⟨⟨d, _, composed, drawn, start, entry⟩, fun all => ?_⟩
  have := all _ _ _ composed drawn
  rw [entry, start] at this
  revert this
  decide

end Yaml

end Conform
