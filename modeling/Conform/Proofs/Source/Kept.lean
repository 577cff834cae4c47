import Conform.Document
import Conform.Proofs.Source.Lookup
import Conform.Proofs.Value.Built
import Conform.Schema.Trace
/-!
# What a map keeps and what the source map has

A map keeps the first of equal keys and the value of the last one, and the source map keeps by the
text of keys.  The parts whose values are kept are those of the instance (`forall₂_keptParts`).  Where
equal keys are the keys with one text, the source map has at each path the start of the kept node; and
where nothing lies below a value that is not kept but what lies below the kept one too, it has no
other paths (`sourceMap_describes_instance`).
-/
namespace Conform

open Conform.Path

namespace Value

variable {α : Type} {k : Value} {x : α} {es : List (Value × α)}

/-- What is kept under the text of the key is the item, and under other texts nothing is changed. -/
theorem find?_setEntry_text (same : ∀ e ∈ es, sameKey k e.1 = true ↔ k.text = e.1.text) (l : String) :
    ((setEntry sameKey k x es).find? (·.1.text == l)).map (·.2) =
      if k.text = l then some x else (es.find? (·.1.text == l)).map (·.2) := by
  induction es with
  | nil => by_cases h : k.text = l <;> simp [h]
  | cons e es ih =>
    obtain ⟨he, hes⟩ := List.forall_mem_cons.mp same
    rw [setEntry_cons]
    by_cases htext : k.text = e.1.text
    · rw [if_pos (he.mpr htext), htext]
      by_cases hl : e.1.text = l <;> simp [hl]
    · rw [if_neg (mt he.mp htext)]
      by_cases hl : e.1.text = l
      · have : k.text ≠ l := fun h => htext (h.trans hl.symm)
        simp [hl, this]
      · rw [List.find?_cons_of_neg (by simpa using hl), List.find?_cons_of_neg (by simpa using hl),
          ih hes]

theorem nodup_texts_setEntry (same : ∀ e ∈ es, sameKey k e.1 = true ↔ k.text = e.1.text)
    (nodup : (es.map (·.1.text)).Nodup) : ((setEntry sameKey k x es).map (·.1.text)).Nodup := by
  induction es with
  | nil => simp
  | cons e es ih =>
    obtain ⟨he, hes⟩ := List.forall_mem_cons.mp same
    rw [List.map_cons, List.nodup_cons] at nodup
    rw [setEntry_cons]
    split
    · simpa using nodup
    · rename_i hne
      rw [List.map_cons, List.nodup_cons]
      refine ⟨fun h => ?_, ih hes nodup.2⟩
      obtain ⟨f, hf, heq⟩ := List.mem_map.mp h
      rcases mem_setEntry hf with old | ⟨-, hk | ⟨-, g, hg, hk⟩⟩
      · exact nodup.1 (List.mem_map.mpr ⟨f, old, heq⟩)
      · exact hne (he.mpr (by rw [← hk, heq]))
      · exact nodup.1 (List.mem_map.mpr ⟨g, hg, by rw [← hk, heq]⟩)

/-- Related items are kept in the same places. -/
theorem forall₂_setEntry {β : Type} {R : α → β → Prop} {y : β} {fs : List (Value × β)}
    (h : List.Forall₂ (fun e f => e.1 = f.1 ∧ R e.2 f.2) es fs) (hxy : R x y) (k : Value) :
    List.Forall₂ (fun e f => e.1 = f.1 ∧ R e.2 f.2) (setEntry sameKey k x es)
      (setEntry sameKey k y fs) := by
  induction h with
  | nil => exact .cons ⟨rfl, hxy⟩ .nil
  | cons hef hrest ih =>
    rw [setEntry_cons, setEntry_cons, ← hef.1]
    split
    · exact .cons ⟨rfl, hxy⟩ hrest
    · exact .cons hef ih

/-- The labelled parts of a value. -/
def parts (v : Value) : List (String × Value) := v.labelled?.getD []

end Value

namespace Yaml.Tree

variable {d : Tree}

/-! ### Kept parts -/

/-- The entries that a map keeps, each with its key and the node of its value. -/
def keptEntries (es : List (Tree × Tree)) : List (Value × Tree) :=
  es.foldl (fun kept e => setEntry Value.sameKey (e.1.scalar?.getD .null) e.2 kept) []

/-- The parts of a node whose values are kept, with the labels that they have in the instance. -/
def keptParts : Tree → List (String × Tree)
  | mapping _ _ _ es => (keptEntries es).map fun e => (e.1.text, e.2)
  | t => t.labelled

theorem keptEntries_concat (es : List (Tree × Tree)) (e : Tree × Tree) : keptEntries (es ++ [e]) =
    setEntry Value.sameKey (e.1.scalar?.getD .null) e.2 (keptEntries es) := by
  rw [keptEntries, List.foldl_append]
  rfl

theorem forall₂_keptEntries {es : List (Tree × Tree)} {ps : List (Value × Value)}
    (h : List.Forall₂ (fun e p => e.1.scalar? = some p.1 ∧ e.2.plainValue? = some p.2) es ps) :
    List.Forall₂ (fun e p => e.1 = p.1 ∧ e.2.plainValue? = some p.2) (keptEntries es)
      (Value.entriesOf ps) := by
  rw [keptEntries, Value.entriesOf]
  have start : List.Forall₂ (fun (e : Value × Tree) (p : Value × Value) =>
    e.1 = p.1 ∧ e.2.plainValue? = some p.2) [] [] := .nil
  -- From any entries that are kept already.
  generalize ([] : List (Value × Tree)) = kept at start ⊢
  generalize ([] : List (Value × Value)) = entries at start ⊢
  induction h generalizing kept entries with
  | nil => exact start
  | @cons e p es ps hep _ ih =>
    rw [List.foldl_cons, List.foldl_cons, hep.1, Option.getD_some]
    exact ih _ _ (Value.forall₂_setEntry (R := fun (t : Tree) x => t.plainValue? = some x) start hep.2 p.1)

/-- **The kept parts of a node are the parts of its value.** -/
theorem forall₂_keptParts {t : Tree} {v : Value} (hv : t.plainValue? = some v) :
    List.Forall₂ (fun p q => p.1 = q.1 ∧ p.2.plainValue? = some q.2) t.keptParts v.parts := by
  cases t with
  | scalar i tag m text =>
    rw [plainValue?] at hv
    have := keyClass?_of_scalar? hv
    have none : v.labelled? = none := by
      cases v <;> first | rfl | cases this
    rw [Value.parts, none]
    exact .nil
  | sequence i tag m ts =>
    obtain ⟨xs, hxs, rfl⟩ := Option.map_eq_some_iff.mp hv
    exact forall₂_mapIdx (plainValues?_eq_some_iff.mp hxs) fun j t x h => ⟨rfl, h⟩
  | mapping i tag m es =>
    obtain ⟨ps, hps, rfl⟩ := Option.map_eq_some_iff.mp hv
    change List.Forall₂ _ ((keptEntries es).map _) ((Value.entriesOf ps).map _)
    rw [List.forall₂_map_left_iff, List.forall₂_map_right_iff]
    refine (forall₂_keptEntries (plainPairs?_eq_some_iff.mp hps)).imp fun e p h => ⟨?_, h.2⟩
    rw [h.1]
  | reference i => cases hv

/-! ### Kept parts by their labels -/

/-- Whether equal keys are the keys with one text. -/
def GoByText (ks : List Value) : Prop :=
  ∀ k ∈ ks, ∀ j ∈ ks, Value.sameKey k j = true ↔ k.text = j.text

instance (ks : List Value) : Decidable (GoByText ks) :=
  inferInstanceAs (Decidable (∀ k ∈ ks, ∀ j ∈ ks, Value.sameKey k j = true ↔ k.text = j.text))

/-- Whether equal keys of a node are the keys with one text, and below a part that is not kept nothing
lies but where something lies below the kept part with its label. -/
structure IsTidy (t : Tree) : Prop where
  keys : GoByText t.keyValues
  below : ∀ p ∈ t.labelled, ∀ q ∈ t.keptParts, p.1 = q.1 →
    ∀ x ∈ p.2.spots [], ∃ y ∈ q.2.spots [], y.path = x.path

instance (t : Tree) : Decidable t.IsTidy :=
  decidable_of_iff
    (GoByText t.keyValues ∧
      ∀ p ∈ t.labelled, ∀ q ∈ t.keptParts, p.1 = q.1 →
        ∀ x ∈ p.2.spots [], ∃ y ∈ q.2.spots [], y.path = x.path)
    ⟨fun h => ⟨h.1, h.2⟩, fun h => ⟨h.keys, h.below⟩⟩

section Entries

variable {es : List (Tree × Tree)}

/-- The key of an entry; a key without a value counts as null. -/
def keyOf (e : Tree × Tree) : Value := e.1.scalar?.getD .null

theorem key_of_mem_keptEntries {k : Value × Tree} (h : k ∈ keptEntries es) :
    k.1 ∈ es.map keyOf := by
  induction es using List.reverseRecOn generalizing k with
  | nil => cases h
  | append_singleton es e ih =>
    rw [keptEntries_concat] at h
    rw [List.map_append, List.mem_append]
    rcases mem_setEntry h with old | ⟨-, heq | ⟨-, f, hf, heq⟩⟩
    · exact Or.inl (ih old)
    · exact Or.inr (List.mem_singleton.mpr heq)
    · exact Or.inl (heq ▸ ih hf)

theorem same_of_goByText {e : Tree × Tree} (h : GoByText ((es ++ [e]).map keyOf)) :
    ∀ k ∈ keptEntries es, Value.sameKey (keyOf e) k.1 = true ↔ (keyOf e).text = k.1.text := by
  intro k hk
  refine h _ (by simp) _ ?_
  rw [List.map_append]
  exact List.mem_append_left _ (key_of_mem_keptEntries hk)

theorem GoByText.init {e : Tree × Tree} (h : GoByText ((es ++ [e]).map keyOf)) :
    GoByText (es.map keyOf) := by
  rw [List.map_append] at h
  exact fun k hk j hj => h k (List.mem_append_left _ hk) j (List.mem_append_left _ hj)

theorem nodup_texts_keptEntries (h : GoByText (es.map keyOf)) :
    ((keptEntries es).map (·.1.text)).Nodup := by
  induction es using List.reverseRecOn with
  | nil => exact List.nodup_nil
  | append_singleton es e ih =>
    rw [keptEntries_concat]
    exact Value.nodup_texts_setEntry (same_of_goByText h) (ih h.init)

/-- The node that is kept under a text is that of the last entry with a key of this text. -/
theorem find?_keptEntries (h : GoByText (es.map keyOf)) (l : String) :
    ((keptEntries es).find? (·.1.text == l)).map (·.2) =
      (es.reverse.find? fun e => (keyOf e).text == l).map (·.2) := by
  induction es using List.reverseRecOn with
  | nil => rfl
  | append_singleton es e ih =>
    rw [keptEntries_concat, List.reverse_append, List.reverse_singleton, List.singleton_append]
    rw [show e.1.scalar?.getD .null = keyOf e from rfl,
      Value.find?_setEntry_text (same_of_goByText h), ih h.init]
    by_cases hl : (keyOf e).text = l
    · rw [if_pos hl, List.find?_cons_of_pos (by simpa using hl), Option.map_some]
    · rw [if_neg hl, List.find?_cons_of_neg (by simpa using hl)]

end Entries

/-- The kept parts have labels of their own, and each is the last part with its label. -/
theorem IsTidy.keptParts (hd : d.Named) {t : Tree} (ht : t ∈ d.nodes) (tidy : t.IsTidy) :
    (t.keptParts.map (·.1)).Nodup ∧ ∀ l, (t.keptParts.find? (·.1 == l)).map (·.2) =
      (t.labelled.reverse.find? (·.1 == l)).map (·.2) := by
  cases t with
  | sequence i tag m ts =>
    have nodup := nodup_labels_sequence i tag m ts
    refine ⟨nodup, fun l => Option.ext fun u => ?_⟩
    have nodup' : ((Tree.labelled (sequence i tag m ts)).reverse.map (·.1)).Nodup := by
      rw [List.map_reverse]
      exact List.nodup_reverse.mpr nodup
    -- An item is the first and the last one with its label.
    have kept : Tree.keptParts (sequence i tag m ts) = Tree.labelled (sequence i tag m ts) := rfl
    rw [kept, find?_key_eq_some_iff nodup, find?_key_eq_some_iff nodup', List.mem_reverse]
  | mapping i tag m es =>
    have values : (mapping i tag m es).keyValues = es.map keyOf := keyValues_mapping hd.keys ht
    have text : GoByText (es.map keyOf) := values ▸ tidy.keys
    constructor
    · rw [Tree.keptParts, List.map_map]
      exact nodup_texts_keptEntries text
    · intro l
      have := find?_keptEntries text l
      rw [Tree.keptParts, Tree.labelled, List.find?_map, Option.map_map, ← List.map_reverse,
        List.find?_map, Option.map_map]
      exact this
  | scalar i tag m text => exact ⟨List.nodup_nil, fun l => rfl⟩
  | reference i => exact ⟨List.nodup_nil, fun l => rfl⟩

/-- No part after a kept one has its label. -/
theorem IsTidy.exists_last (hd : d.Named) {t u : Tree} (ht : t ∈ d.nodes) (tidy : t.IsTidy)
    {l : String} (h : (l, u) ∈ t.keptParts) :
    ∃ before after, t.labelled = before ++ (l, u) :: after ∧ ∀ q ∈ after, q.1 ≠ l := by
  obtain ⟨nodup, last⟩ := tidy.keptParts hd ht
  have found := (last l).symm.trans ((find?_key_eq_some_iff nodup).mpr h)
  obtain ⟨⟨k, u'⟩, hfind, rfl⟩ := Option.map_eq_some_iff.mp found
  obtain ⟨hk, after, before, hsplit, hafter⟩ := List.find?_eq_some_iff_append.mp hfind
  obtain rfl : k = l := by simpa using hk
  refine ⟨before.reverse, after.reverse, ?_, fun q hq => ?_⟩
  · rw [← List.reverse_reverse t.labelled, hsplit]
    simp
  · have := hafter q (List.mem_reverse.mp hq)
    simpa using this

/-- Each label of a part is the label of a kept part. -/
theorem IsTidy.exists_kept (hd : d.Named) {t u : Tree} (ht : t ∈ d.nodes) (tidy : t.IsTidy)
    {l : String} (h : (l, u) ∈ t.labelled) : ∃ w, (l, w) ∈ t.keptParts := by
  obtain ⟨nodup, last⟩ := tidy.keptParts hd ht
  have found : (t.labelled.reverse.find? (·.1 == l)).isSome = true := by
    rw [List.find?_isSome]
    exact ⟨(l, u), List.mem_reverse.mpr h, beq_self_eq_true l⟩
  obtain ⟨q, hq⟩ := Option.isSome_iff_exists.mp found
  refine ⟨q.2, (find?_key_eq_some_iff nodup).mp ?_⟩
  rw [last l, hq, Option.map_some]

/-! ### The last visits -/

/-- A visit at a kept part or below it is the last one if it is the last one there. -/
theorem find?_spots_of_kept (hd : d.Named) {t w : Tree} (ht : t ∈ d.nodes) (tidy : t.IsTidy)
    {l : String} {ls ks : List String} (hks : AreSegments ks) (hls : AreSegments (l :: ls))
    (kept : (l, w) ∈ t.keptParts) {x : Visit}
    (h : (spotsAt (ofLabels ks) (l, w)).reverse.find? (·.path == ofLabels (ks ++ l :: ls)) = some x) :
    (t.spots (ofLabels ks)).reverse.find? (·.path == ofLabels (ks ++ l :: ls)) = some x := by
  obtain ⟨before, after, hsplit, hafter⟩ := tidy.exists_last hd ht kept
  -- What comes after has another label.
  have later : (after.flatMap (spotsAt (ofLabels ks))).reverse.find?
      (·.path == ofLabels (ks ++ l :: ls)) = none := by
    rw [List.find?_eq_none]
    intro y hy hpath
    obtain ⟨q, hq, hy⟩ := List.mem_flatMap.mp (List.mem_reverse.mp hy)
    have hmem : q ∈ t.labelled := by
      rw [hsplit]
      exact List.mem_append_right _ (List.mem_cons_of_mem _ hq)
    obtain ⟨hlabel, hnode⟩ := hd.labelled ht hmem
    obtain ⟨js, reach, hy⟩ := (hd.mem_spotsAt_iff hnode hks hlabel).mp hy
    have hjs : AreSegments (q.1 :: js) :=
      areSegments_append_iff.mpr ⟨hlabel, hd.areSegments_of_reaches hnode reach⟩
    have same := ofLabels_injective (areSegments_append_iff.mpr ⟨hks, hjs⟩)
      (areSegments_append_iff.mpr ⟨hks, hls⟩) (hy.symm.trans (by simpa using hpath))
    exact hafter q hq (List.cons_eq_cons.mp (List.append_cancel_left same)).1
  rw [spots_eq, hsplit, List.flatMap_append, List.flatMap_cons, List.reverse_append,
    List.reverse_append, List.append_assoc, List.find?_append, later, Option.none_or,
    List.find?_append, h, Option.some_or]

/-- Kept parts are parts. -/
theorem reaches_of_kept (hd : d.Named) {t u : Tree} (ht : t ∈ d.nodes) {ls : List String}
    (tidy : ∀ ls w, Reaches keptParts t ls w → w.IsTidy) (h : Reaches keptParts t ls u) :
    Reaches Tree.labelled t ls u := by
  induction h with
  | here t => exact .here t
  | @step t w u l ls kept _ ih =>
    obtain ⟨before, after, hsplit, -⟩ := (tidy [] t (.here t)).exists_last hd ht kept
    have hmem : (l, w) ∈ t.labelled := by simp [hsplit]
    refine .step hmem (ih (hd.labelled ht hmem).2 fun js v hv => ?_)
    exact tidy (l :: js) v (.step kept hv)

/-- In a document of tidy nodes only, labels lead to tidy nodes. -/
theorem isTidy_of_reaches (hd : d.Named) (all : ∀ t ∈ d.nodes, t.IsTidy) {t u : Tree}
    (ht : t ∈ d.nodes) {ls : List String} (h : Reaches keptParts t ls u) : u.IsTidy := by
  induction h with
  | here t => exact all t ht
  | @step t w u l ls kept _ ih =>
    obtain ⟨before, after, hsplit, -⟩ := (all t ht).exists_last hd ht kept
    exact ih (hd.labelled ht (p := (l, w)) (by simp [hsplit])).2

/-- **The last visit along the labels of kept parts is at the kept part.** -/
theorem find?_visits (hd : d.Named) {t u : Tree} (ht : t ∈ d.nodes) {ls ks : List String}
    (hks : AreSegments ks) (tidy : ∀ ls w, Reaches keptParts t ls w → w.IsTidy)
    (h : Reaches keptParts t ls u) : (⟨ofLabels ks, t⟩ :: t.spots (ofLabels ks)).reverse.find?
      (·.path == ofLabels (ks ++ ls)) = some (⟨ofLabels (ks ++ ls), u⟩ : Visit) := by
  have hls := hd.areSegments_of_reaches ht (reaches_of_kept hd ht tidy h)
  rw [List.reverse_cons, List.find?_append]
  induction ls generalizing t ks with
  | nil =>
    obtain rfl := reaches_nil_iff.mp h
    -- The paths below the node are longer.
    have below : (u.spots (ofLabels ks)).reverse.find? (·.path == ofLabels (ks ++ [])) = none := by
      rw [List.find?_eq_none]
      intro y hy hpath
      obtain ⟨k, js, reach, hy⟩ := (hd.mem_spots_iff ht hks).mp (List.mem_reverse.mp hy)
      have hjs := hd.areSegments_of_reaches ht reach
      have same := ofLabels_injective (areSegments_append_iff.mpr ⟨hks, hjs⟩)
        (areSegments_append_iff.mpr ⟨hks, hls⟩) (hy.symm.trans (by simpa using hpath))
      cases List.append_cancel_left same
    rw [below, Option.none_or, List.find?_cons_of_pos (by simp), List.append_nil]
  | cons l ls ih =>
    obtain ⟨w, kept, reach⟩ := reaches_cons_iff.mp h
    have here := tidy [] t (.here t)
    obtain ⟨before, after, hsplit, -⟩ := here.exists_last hd ht kept
    obtain ⟨hl, hw⟩ := hd.labelled ht (p := (l, w)) (by simp [hsplit])
    have below := ih hw (areSegments_append_iff.mpr ⟨hks, hl⟩)
      (fun js v hv => tidy (l :: js) v (.step kept hv)) reach
      (areSegments_append_iff.mp (show AreSegments ([l] ++ ls) from hls)).2
    rw [List.append_assoc, List.singleton_append] at below
    have last := find?_spots_of_kept hd ht here hks hls kept (x := ⟨ofLabels (ks ++ l :: ls), u⟩) (by
      rw [spotsAt, child_ofLabels hks, List.reverse_cons, List.find?_append]
      exact below)
    rw [last, Option.some_or]

/-- Where labels lead to parts, they lead to kept parts. -/
theorem exists_reaches_kept (hd : d.Named) {t u : Tree} (ht : t ∈ d.nodes) {ls : List String}
    (tidy : ∀ ls w, Reaches keptParts t ls w → w.IsTidy) (h : Reaches Tree.labelled t ls u) :
    ∃ w, Reaches keptParts t ls w := by
  induction ls generalizing t u with
  | nil => exact ⟨t, .here t⟩
  | cons l ls ih =>
    obtain ⟨x, hx, reach⟩ := reaches_cons_iff.mp h
    have here := tidy [] t (.here t)
    obtain ⟨w, kept⟩ := here.exists_kept hd ht hx
    obtain ⟨before, after, hsplit, -⟩ := here.exists_last hd ht kept
    have hw := (hd.labelled ht (p := (l, w)) (by simp [hsplit])).2
    have hx' := (hd.labelled ht hx).2
    have tidy' : ∀ js v, Reaches keptParts w js v → v.IsTidy :=
      fun js v hv => tidy (l :: js) v (.step kept hv)
    -- What lies below a part with the label lies below the kept one too.
    obtain ⟨v, reach⟩ : ∃ v, Reaches Tree.labelled w ls v := by
      cases ls with
      | nil => exact ⟨w, .here w⟩
      | cons k ls =>
        have none : AreSegments [] := by simp [AreSegments]
        have visited := (hd.mem_spots_iff hx' none (x := ⟨ofLabels (k :: ls), u⟩)).mpr
          ⟨k, ls, reach, rfl⟩
        obtain ⟨y, hy, hpath⟩ := here.below _ hx _ kept rfl _ visited
        obtain ⟨k', ls', reach', hy⟩ := (hd.mem_spots_iff hw none).mp hy
        have same := ofLabels_injective (hd.areSegments_of_reaches hw reach')
          (hd.areSegments_of_reaches hx' reach) (hy.symm.trans hpath)
        exact ⟨y.node, same ▸ reach'⟩
    obtain ⟨z, hz⟩ := ih hw tidy' reach
    exact ⟨z, .step kept hz⟩

/-- **The source map has the start of each kept part**, at the path that the labels to it spell, and no
other paths. -/
theorem get?_spotMap (hd : d.Named) (tidy : ∀ ls t, Reaches keptParts d ls t → t.IsTidy) :
    (∀ ls t, Reaches keptParts d ls t → d.spotMap.get? (ofLabels ls) = some (.ofMark t.mark)) ∧
      ∀ path, (d.spotMap.get? path).isSome = true →
        ∃ ls t, Reaches keptParts d ls t ∧ path = ofLabels ls := by
  have root := mem_nodes_self hd.plain.isPlain
  refine ⟨fun ls t h => ?_, fun path h => ?_⟩
  · have top : AreSegments [] := by simp [AreSegments]
    have last := find?_visits hd root top tidy h
    rw [spotMap, SourceMap.get?_ofList_eq, ← List.map_reverse, List.find?_map, Option.map_map]
    exact congrArg (Option.map fun x : Visit => Position.ofMark x.node.mark) last
  · rw [spotMap, SourceMap.get?_ofList_eq, Option.isSome_map, List.find?_isSome] at h
    obtain ⟨e, he, hpath⟩ := h
    obtain ⟨x, hx, rfl⟩ := List.mem_map.mp (List.mem_reverse.mp he)
    obtain ⟨ls, reach, hspelled⟩ := hd.mem_visits_iff.mp hx
    obtain ⟨w, kept⟩ := exists_reaches_kept hd root tidy reach
    have hpath : x.path = path := by simpa using hpath
    exact ⟨ls, w, kept, hpath.symm.trans hspelled⟩

end Yaml.Tree

namespace Yaml

/-- A plain document has the value that is read off its tree, and the source map of the walk through
it. -/
theorem ofText_of_loaded {text : List Char} {d : Tree} {v : Value}
    (composed : Tree.ofText text = .ok (some d)) (plain : d.isPlain = true)
    (loaded : load text = .ok v) (written : ∀ t ∈ d.nodes, ∀ k ∈ t.keyValues, k.isWritable = true) :
    d.Plain ∧ d.plainValue? = some v ∧
      ∀ syntaxError origin, Document.ofText syntaxError origin text = .ok ⟨v, d.spotMap⟩ := by
  have hd : d.Plain := ⟨plain, Tree.nodup_ids_of_ofText composed⟩
  have hload : load text = d.instance? := by
    rw [load, composed]
    rfl
  obtain ⟨value, -⟩ := Tree.plainValue?_of_instance? hd (hload.symm.trans loaded)
  have source : SourceMap.ofText text = .ok d.spotMap := by
    rw [SourceMap.ofText, composed]
    exact Tree.sourceMap_eq hd (Tree.hasKeys_of_plainValue? value written)
  refine ⟨hd, value, fun syntaxError origin => ?_⟩
  simp only [Document.ofText, loaded, source]
  rfl

/-- **The source map describes the instance.**  A plain document is loaded whose keys can be written as
texts that are segments of paths.  Wherever the load keeps a part, equal keys are those with one text, and no
position lies below a part that is not kept but below the kept one.  Then the source map has just the
paths of the positions of the instance, and at each of them the start of the node whose value the load
kept. -/
theorem sourceMap_describes_instance {text : List Char} {d : Tree} {v : Value}
    (composed : Tree.ofText text = .ok (some d)) (plain : d.isPlain = true)
    (loaded : load text = .ok v)
    (written : ∀ t ∈ d.nodes, ∀ k ∈ t.keyValues, k.isWritable = true)
    (segments : ∀ t ∈ d.nodes, AreSegments (t.keyValues.map Value.text))
    (tidy : ∀ ls t, Reaches Tree.keptParts d ls t → t.IsTidy) :
    ∃ m, (∀ syntaxError origin, Document.ofText syntaxError origin text = .ok ⟨v, m⟩) ∧
      (∀ path, (m.get? path).isSome = true ↔
        ∃ ls w, Reaches Value.parts v ls w ∧ path = ofLabels ls) ∧
      ∀ ls w, Reaches Value.parts v ls w → ∃ t, Reaches Tree.keptParts d ls t ∧
        t.plainValue? = some w ∧ m.get? (ofLabels ls) = some (.ofMark t.mark) := by
  obtain ⟨hd, value, document⟩ := ofText_of_loaded composed plain loaded written
  have named : d.Named := ⟨hd, Tree.hasKeys_of_plainValue? value written, segments⟩
  obtain ⟨starts, paths⟩ := Tree.get?_spotMap named tidy
  -- The positions of the instance are those of the kept parts.
  have toNode : ∀ {ls w}, Reaches Value.parts v ls w →
      ∃ t, Reaches Tree.keptParts d ls t ∧ t.plainValue? = some w := by
    intro ls w h
    refine h.related (R := fun v t => Tree.plainValue? t = some v) (fun v t hv q hq => ?_) value
    obtain ⟨p, hp, hlabel, hvalue⟩ := exists_of_forall₂ (Tree.forall₂_keptParts hv).flip hq
    exact ⟨p, hp, hlabel.symm, hvalue⟩
  have toValue : ∀ {ls t}, Reaches Tree.keptParts d ls t →
      ∃ w, Reaches Value.parts v ls w ∧ t.plainValue? = some w := by
    intro ls t h
    refine h.related (R := fun t v => Tree.plainValue? t = some v) (fun t v hv p hp => ?_) value
    exact exists_of_forall₂ (Tree.forall₂_keptParts hv) hp
  refine ⟨d.spotMap, document, fun path => ⟨fun h => ?_, ?_⟩, fun ls w h => ?_⟩
  · obtain ⟨ls, t, reach, hpath⟩ := paths path h
    obtain ⟨w, hw, -⟩ := toValue reach
    exact ⟨ls, w, hw, hpath⟩
  · rintro ⟨ls, w, h, rfl⟩
    obtain ⟨t, reach, -⟩ := toNode h
    rw [starts ls t reach]
    rfl
  · obtain ⟨t, reach, hvalue⟩ := toNode h
    exact ⟨t, reach, hvalue, starts ls t reach⟩

/-- The later value of the key `a` has what the earlier one has, and more. -/
theorem sourceMap_describes_instance_repeated : ∃ v m,
    (∀ syntaxError origin, Document.ofText syntaxError origin
      "{a: {b: 1}, a: {b: 2, c: 3}}".toList = .ok ⟨v, m⟩) ∧
      ∀ path, (m.get? path).isSome = true ↔
        ∃ ls w, Reaches Value.parts v ls w ∧ path = ofLabels ls := by
  have composed : ∃ d, Tree.ofText "{a: {b: 1}, a: {b: 2, c: 3}}".toList = .ok (some d) ∧
      d.isPlain = true ∧ (∀ t ∈ d.nodes, ∀ k ∈ t.keyValues, k.isWritable = true) ∧
      (∀ t ∈ d.nodes, AreSegments (t.keyValues.map Value.text)) ∧ ∀ t ∈ d.nodes, t.IsTidy := by
    apply Tree.exists_of_any
    decide +kernel
  have loaded : ∃ v, load "{a: {b: 1}, a: {b: 2, c: 3}}".toList = .ok v := by
    have checked : (load "{a: {b: 1}, a: {b: 2, c: 3}}".toList).toOption.isSome = true := by
      decide +kernel
    generalize load _ = r at checked ⊢
    cases r with
    | error f => cases checked
    | ok v => exact ⟨v, rfl⟩
  obtain ⟨d, composed, plain, written, segments, all⟩ := composed
  obtain ⟨v, loaded⟩ := loaded
  obtain ⟨hd, value, -⟩ := ofText_of_loaded composed plain loaded written
  have named : d.Named := ⟨hd, Tree.hasKeys_of_plainValue? value written, segments⟩
  obtain ⟨m, hm, paths, -⟩ := sourceMap_describes_instance composed plain loaded written segments
    fun ls t h => Tree.isTidy_of_reaches named all (Tree.mem_nodes_self plain) h
  exact ⟨v, m, hm, paths⟩

/-- The keys `1` and `1.0` are equal, and the map keeps the first one with the later value.  The source
map has the start of the earlier value there, and a path for the key that is not kept. -/
theorem sourceMap_has_dropped_key : ∃ v m,
    (∀ syntaxError origin,
      Document.ofText syntaxError origin "{1: a, 1.0: b}".toList = .ok ⟨v, m⟩) ∧
      v = .map [(.int 1, .str "b")] ∧ m.get? "1".toList = some ⟨some 1, some 5⟩ ∧
      ¬∀ path, (m.get? path).isSome = true ↔
        ∃ ls w, Reaches Value.parts v ls w ∧ path = ofLabels ls := by
  have composed : ∃ d, Tree.ofText "{1: a, 1.0: b}".toList = .ok (some d) ∧ d.isPlain = true ∧
      d.spotMap.get? "1".toList = some ⟨some 1, some 5⟩ ∧
      (∀ t ∈ d.nodes, ∀ k ∈ t.keyValues, k.isWritable = true) ∧
      (d.spotMap.get? "1.0".toList).isSome = true := by
    apply Tree.exists_of_any
    decide +kernel
  have loaded : load "{1: a, 1.0: b}".toList = .ok (.map [(.int 1, .str "b")]) :=
    Value.eq_ok_of_builtLike (by decide +kernel)
  obtain ⟨d, composed, plain, start, written, dropped⟩ := composed
  obtain ⟨-, -, document⟩ := ofText_of_loaded composed plain loaded written
  refine ⟨_, d.spotMap, document, rfl, start, fun paths => ?_⟩
  obtain ⟨ls, w, reach, hpath⟩ := (paths _).mp dropped
  -- The instance has two positions, the root and the one under the key `1`.
  cases reach with
  | here => exact absurd hpath (by decide)
  | @step _ b _ l ls hmem rest =>
    have hmem : (l, b) ∈ [((Value.int 1).text, Value.str "b")] := hmem
    obtain ⟨rfl, rfl⟩ := Prod.mk.inj (List.mem_singleton.mp hmem)
    cases rest with
    | here => exact absurd hpath (by decide)
    | step hmem _ => exact absurd hmem List.not_mem_nil

end Yaml

end Conform
