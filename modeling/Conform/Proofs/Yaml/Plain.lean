import Conform.Proofs.Lists
import Conform.Proofs.Yaml.Numbering
import Conform.Yaml.Instance
import Mathlib.Data.List.Nodup
/-!
# Plain documents

A plain document has no aliases and no merge keys, and its collections have the usual tags.  Its
instance is read off the tree from the leaves upwards (`plainValue?`), without the moments at which
nodes are begun and filled; a key with the tag of a default value is the only thing that is ever
changed in it, to a text.
-/
namespace Conform.Yaml

namespace Tree

/-! ### Nodes -/

/-- What is inherited from the parts of a tree holds of all trees. -/
@[elab_as_elim]
theorem inductionOnParts {motive : Tree → Prop} (t : Tree)
    (scalar : ∀ i tag m text, motive (scalar i tag m text))
    (sequence : ∀ i tag m ts, (∀ t ∈ ts, motive t) → motive (sequence i tag m ts))
    (mapping : ∀ i tag m (es : List (Tree × Tree)), (∀ e ∈ es, motive e.1 ∧ motive e.2) →
      motive (mapping i tag m es))
    (reference : ∀ i, motive (reference i)) : motive t :=
  @Tree.rec motive (fun ts => ∀ t ∈ ts, motive t) (fun es => ∀ e ∈ es, motive e.1 ∧ motive e.2)
    (fun e => motive e.1 ∧ motive e.2) scalar sequence mapping reference
    (by simp) (fun _ _ ht hts => List.forall_mem_cons.mpr ⟨ht, hts⟩)
    (by simp) (fun _ _ he hes => List.forall_mem_cons.mpr ⟨he, hes⟩)
    (fun _ _ hk hv => ⟨hk, hv⟩) t

theorem mem_nodesItems_iff {ts : List Tree} {u : Tree} :
    u ∈ nodesItems ts ↔ ∃ t ∈ ts, u ∈ t.nodes := by
  induction ts with
  | nil => exact iff_of_false List.not_mem_nil (by simp)
  | cons t ts ih =>
    change u ∈ t.nodes ++ nodesItems ts ↔ _
    rw [List.mem_append, ih]
    simp

theorem mem_nodesEntries_iff {es : List (Tree × Tree)} {u : Tree} :
    u ∈ nodesEntries es ↔ ∃ e ∈ es, u ∈ e.1.nodes ∨ u ∈ e.2.nodes := by
  induction es with
  | nil => exact iff_of_false List.not_mem_nil (by simp)
  | cons e es ih =>
    change u ∈ e.1.nodes ++ e.2.nodes ++ nodesEntries es ↔ _
    rw [List.mem_append, List.mem_append, ih]
    simp

/-- The nodes of a node of a tree are nodes of the tree. -/
theorem mem_nodes_trans {t u w : Tree} (ht : t ∈ u.nodes) (hw : w ∈ t.nodes) : w ∈ u.nodes := by
  induction u using inductionOnParts with
  | scalar i tag m text =>
    cases List.mem_singleton.mp ht
    exact hw
  | sequence i tag m ts ih =>
    rcases List.mem_cons.mp ht with rfl | ht
    · exact hw
    · obtain ⟨x, hx, ht⟩ := mem_nodesItems_iff.mp ht
      exact List.mem_cons_of_mem _ (mem_nodesItems_iff.mpr ⟨x, hx, ih x hx ht⟩)
  | mapping i tag m es ih =>
    rcases List.mem_cons.mp ht with rfl | ht
    · exact hw
    · obtain ⟨e, he, ht⟩ := mem_nodesEntries_iff.mp ht
      refine List.mem_cons_of_mem _ (mem_nodesEntries_iff.mpr ⟨e, he, ?_⟩)
      exact ht.imp (ih e he).1 (ih e he).2
  | reference i => cases ht

theorem size_le_sizeItems {ts : List Tree} {t : Tree} (h : t ∈ ts) : t.size ≤ sizeItems ts := by
  induction ts with
  | nil => cases h
  | cons u ts ih =>
    rcases List.mem_cons.mp h with rfl | h
    · exact Nat.le_add_right _ _
    · exact Nat.le_add_left_of_le (ih h)

theorem size_le_sizeEntries {es : List (Tree × Tree)} {e : Tree × Tree} (h : e ∈ es) :
    e.1.size + e.2.size ≤ sizeEntries es := by
  induction es with
  | nil => cases h
  | cons f es ih =>
    rcases List.mem_cons.mp h with rfl | h
    · exact Nat.le_add_right _ _
    · exact Nat.le_add_left_of_le (ih h)

theorem size_le_of_mem_nodes {t u : Tree} (h : t ∈ u.nodes) : t.size ≤ u.size := by
  induction u using inductionOnParts with
  | scalar i tag m text =>
    cases List.mem_singleton.mp h
    exact Nat.le_refl _
  | sequence i tag m ts ih =>
    rcases List.mem_cons.mp h with rfl | h
    · exact Nat.le_refl _
    · obtain ⟨x, hx, h⟩ := mem_nodesItems_iff.mp h
      exact Nat.le_succ_of_le (Nat.le_trans (ih x hx h) (size_le_sizeItems hx))
  | mapping i tag m es ih =>
    rcases List.mem_cons.mp h with rfl | h
    · exact Nat.le_refl _
    · obtain ⟨e, he, h⟩ := mem_nodesEntries_iff.mp h
      have part : t.size ≤ e.1.size ∨ t.size ≤ e.2.size := h.imp (ih e he).1 (ih e he).2
      have both : t.size ≤ e.1.size + e.2.size := by omega
      exact Nat.le_succ_of_le (Nat.le_trans both (size_le_sizeEntries he))
  | reference i => cases h

/-! ### Plainness -/

mutual

/-- Whether the collections in a tree have the usual tags, no key is a merge key and no node is an
alias. -/
def isPlain : Tree → Bool
  | scalar .. => true
  | sequence _ tag _ ts => tag == Meaning.seq.tag && arePlain ts
  | mapping _ tag _ es => tag == Meaning.map.tag && arePlainEntries es
  | reference _ => false

/-- `isPlain` for each item. -/
def arePlain : List Tree → Bool
  | [] => true
  | t :: ts => t.isPlain && arePlain ts

/-- `isPlain` for each key and value; no key has the merge tag. -/
def arePlainEntries : List (Tree × Tree) → Bool
  | [] => true
  | (k, v) :: es => k.tag != Meaning.merge.tag && k.isPlain && v.isPlain && arePlainEntries es

end

theorem arePlain_iff {ts : List Tree} : arePlain ts = true ↔ ∀ t ∈ ts, t.isPlain = true := by
  induction ts with
  | nil => exact iff_of_true rfl (by simp)
  | cons t ts ih =>
    rw [List.forall_mem_cons, ← ih]
    exact Bool.and_eq_true_iff

theorem arePlainEntries_iff {es : List (Tree × Tree)} : arePlainEntries es = true ↔
    ∀ e ∈ es, e.1.tag ≠ Meaning.merge.tag ∧ e.1.isPlain = true ∧ e.2.isPlain = true := by
  induction es with
  | nil => exact iff_of_true rfl (by simp)
  | cons e es ih =>
    change (e.1.tag != Meaning.merge.tag && e.1.isPlain && e.2.isPlain && arePlainEntries es) = true ↔ _
    rw [List.forall_mem_cons, ← ih]
    simp only [Bool.and_eq_true, bne_iff_ne, and_assoc]

@[simp] theorem isPlain_sequence_iff {i : Nat} {tag : String} {m : Mark} {ts : List Tree} :
    (sequence i tag m ts).isPlain = true ↔
      tag = Meaning.seq.tag ∧ ∀ t ∈ ts, t.isPlain = true := by
  change (tag == Meaning.seq.tag && arePlain ts) = true ↔ _
  rw [Bool.and_eq_true, beq_iff_eq, arePlain_iff]

@[simp] theorem isPlain_mapping_iff {i : Nat} {tag : String} {m : Mark}
    {es : List (Tree × Tree)} : (mapping i tag m es).isPlain = true ↔ tag = Meaning.map.tag ∧
      ∀ e ∈ es, e.1.tag ≠ Meaning.merge.tag ∧ e.1.isPlain = true ∧ e.2.isPlain = true := by
  change (tag == Meaning.map.tag && arePlainEntries es) = true ↔ _
  rw [Bool.and_eq_true, beq_iff_eq, arePlainEntries_iff]

theorem resolve_of_isPlain {t : Tree} (h : t.isPlain = true) (d : Tree) : d.resolve t = t := by
  cases t with
  | reference i => cases h
  | _ => rfl

theorem mem_nodes_self {t : Tree} (h : t.isPlain = true) : t ∈ t.nodes := by
  cases t with
  | reference i => cases h
  | _ => exact List.mem_cons_self

theorem isPlain_of_mem_nodes {t u : Tree} (h : u.isPlain = true) (ht : t ∈ u.nodes) :
    t.isPlain = true := by
  induction u using inductionOnParts with
  | scalar i tag m text =>
    cases List.mem_singleton.mp ht
    exact h
  | sequence i tag m ts ih =>
    rcases List.mem_cons.mp ht with rfl | ht
    · exact h
    · obtain ⟨x, hx, ht⟩ := mem_nodesItems_iff.mp ht
      exact ih x hx ((isPlain_sequence_iff.mp h).2 x hx) ht
  | mapping i tag m es ih =>
    rcases List.mem_cons.mp ht with rfl | ht
    · exact h
    · obtain ⟨e, he, ht⟩ := mem_nodesEntries_iff.mp ht
      obtain ⟨-, hk, hv⟩ := (isPlain_mapping_iff.mp h).2 e he
      rcases ht with ht | ht
      · exact (ih e he).1 hk ht
      · exact (ih e he).2 hv ht
  | reference i => cases ht

/-- A plain document whose nodes are told apart by their numbers. -/
structure Plain (d : Tree) : Prop where
  isPlain : d.isPlain = true
  nodup : d.ids.Nodup

namespace Plain

variable {d t u : Tree}

theorem eq_of_id_eq (hd : d.Plain) (ht : t ∈ d.nodes) (hu : u ∈ d.nodes) (h : t.id = u.id) :
    t = u :=
  List.inj_on_of_nodup_map hd.nodup ht hu h

theorem isPlain_of_mem (hd : d.Plain) (ht : t ∈ d.nodes) : t.isPlain = true :=
  isPlain_of_mem_nodes hd.isPlain ht

theorem item (hd : d.Plain) {i : Nat} {tag : String} {m : Mark} {ts : List Tree}
    (h : sequence i tag m ts ∈ d.nodes) (ht : t ∈ ts) : t ∈ d.nodes := by
  have plain := (isPlain_sequence_iff.mp (hd.isPlain_of_mem h)).2 t ht
  exact mem_nodes_trans h
    (List.mem_cons_of_mem _ (mem_nodesItems_iff.mpr ⟨t, ht, mem_nodes_self plain⟩))

theorem key (hd : d.Plain) {i : Nat} {tag : String} {m : Mark} {es : List (Tree × Tree)}
    (h : mapping i tag m es ∈ d.nodes) {e : Tree × Tree} (he : e ∈ es) : e.1 ∈ d.nodes := by
  have plain := ((isPlain_mapping_iff.mp (hd.isPlain_of_mem h)).2 e he).2.1
  exact mem_nodes_trans h
    (List.mem_cons_of_mem _ (mem_nodesEntries_iff.mpr ⟨e, he, Or.inl (mem_nodes_self plain)⟩))

theorem value (hd : d.Plain) {i : Nat} {tag : String} {m : Mark} {es : List (Tree × Tree)}
    (h : mapping i tag m es ∈ d.nodes) {e : Tree × Tree} (he : e ∈ es) : e.2 ∈ d.nodes := by
  have plain := ((isPlain_mapping_iff.mp (hd.isPlain_of_mem h)).2 e he).2.2
  exact mem_nodes_trans h
    (List.mem_cons_of_mem _ (mem_nodesEntries_iff.mpr ⟨e, he, Or.inr (mem_nodes_self plain)⟩))

theorem resolve (hd : d.Plain) (ht : t ∈ d.nodes) : d.resolve t = t :=
  resolve_of_isPlain (hd.isPlain_of_mem ht) d

/-- The number of a node is not one of its parts. -/
theorem id_not_mem_ids (hd : d.Plain) (ht : t ∈ d.nodes) (hu : u ∈ d.nodes)
    (smaller : u.size < t.size) : t.id ∉ u.ids := by
  intro h
  obtain ⟨w, hw, hid⟩ := List.mem_map.mp h
  -- The part with this number would be the node itself, which is larger.
  cases hd.eq_of_id_eq (mem_nodes_trans hu hw) ht hid
  have := size_le_of_mem_nodes hw
  omega

end Plain

/-! ### Values -/

/-- The value of a scalar by itself; one with the tag of a default value is a text. -/
def scalar? (t : Tree) : Option Value :=
  match t with
  | scalar _ tag _ text =>
    if tag = Meaning.value.tag then some (.str text)
    else (Yaml.meaning? tag).bind fun m => (scalarValue t m text.toList).toOption
  | _ => none

mutual

/-- The value of a plain tree, as it is read off from the leaves upwards. -/
def plainValue? : Tree → Option Value
  | scalar i tag m text => (scalar i tag m text).scalar?
  | sequence _ _ _ ts => (plainValues? ts).map .list
  | mapping _ _ _ es => (plainPairs? es).map Value.mapOf
  | reference _ => none

/-- `plainValue?` for each item. -/
def plainValues? : List Tree → Option (List Value)
  | [] => some []
  | t :: ts => do return (← t.plainValue?) :: (← plainValues? ts)

/-- `plainValue?` for each key and value; keys are scalars. -/
def plainPairs? : List (Tree × Tree) → Option (List (Value × Value))
  | [] => some []
  | (k, v) :: es => do return (← k.scalar?, ← v.plainValue?) :: (← plainPairs? es)

end

theorem plainValues?_eq_some_iff {ts : List Tree} {xs : List Value} :
    plainValues? ts = some xs ↔ List.Forall₂ (fun t x => t.plainValue? = some x) ts xs := by
  induction ts generalizing xs with
  | nil => cases xs <;> simp [plainValues?]
  | cons t ts ih =>
    simp only [plainValues?, Option.bind_eq_bind, Option.bind_eq_some_iff, Option.pure_def,
      Option.some.injEq, List.forall₂_cons_left_iff, ih]
    constructor
    · rintro ⟨x, hx, xs', hxs, rfl⟩
      exact ⟨x, xs', hx, hxs, rfl⟩
    · rintro ⟨x, xs', hx, hxs, rfl⟩
      exact ⟨x, hx, xs', hxs, rfl⟩

theorem plainPairs?_eq_some_iff {es : List (Tree × Tree)} {ps : List (Value × Value)} :
    plainPairs? es = some ps ↔ List.Forall₂
      (fun e p => e.1.scalar? = some p.1 ∧ e.2.plainValue? = some p.2) es ps := by
  induction es generalizing ps with
  | nil => cases ps <;> simp [plainPairs?]
  | cons e es ih =>
    obtain ⟨k, v⟩ := e
    simp only [plainPairs?, Option.bind_eq_bind, Option.bind_eq_some_iff, Option.pure_def,
      Option.some.injEq, List.forall₂_cons_left_iff, ih]
    constructor
    · rintro ⟨j, hj, x, hx, ps', hps, rfl⟩
      exact ⟨(j, x), ps', ⟨hj, hx⟩, hps, rfl⟩
    · rintro ⟨⟨j, x⟩, ps', ⟨hj, hx⟩, hps, rfl⟩
      exact ⟨j, hj, x, hx, ps', hps, rfl⟩

theorem exists_of_scalar? {t : Tree} {v : Value} (h : t.scalar? = some v) :
    ∃ i tag m text, t = scalar i tag m text := by
  cases t with
  | scalar i tag m text => exact ⟨i, tag, m, text, rfl⟩
  | _ => cases h

/-- The value of a part can be read off if that of the whole can. -/
theorem exists_plainValue?_of_mem {t u : Tree} {v : Value} (hv : u.plainValue? = some v)
    (ht : t ∈ u.nodes) : ∃ w, t.plainValue? = some w := by
  induction u using inductionOnParts generalizing v with
  | scalar i tag m text =>
    obtain rfl := List.mem_singleton.mp ht
    exact ⟨v, hv⟩
  | sequence i tag m ts ih =>
    rcases List.mem_cons.mp ht with rfl | ht
    · exact ⟨v, hv⟩
    · obtain ⟨xs, hxs, -⟩ := Option.map_eq_some_iff.mp hv
      obtain ⟨x, hx, ht⟩ := mem_nodesItems_iff.mp ht
      obtain ⟨w, -, hw⟩ := exists_of_forall₂ (plainValues?_eq_some_iff.mp hxs) hx
      exact ih x hx hw ht
  | mapping i tag m es ih =>
    rcases List.mem_cons.mp ht with rfl | ht
    · exact ⟨v, hv⟩
    · obtain ⟨ps, hps, -⟩ := Option.map_eq_some_iff.mp hv
      obtain ⟨e, he, ht⟩ := mem_nodesEntries_iff.mp ht
      obtain ⟨p, -, hkey, hvalue⟩ := exists_of_forall₂ (plainPairs?_eq_some_iff.mp hps) he
      rcases ht with ht | ht
      · -- A key is a scalar, whose value is what it is by itself.
        obtain ⟨j, tag', m', text, hk⟩ := exists_of_scalar? hkey
        rw [hk] at ht hkey
        obtain rfl := List.mem_singleton.mp ht
        exact ⟨p.1, hkey⟩
      · exact (ih e he).2 hvalue ht
  | reference i => cases hv

end Tree

end Conform.Yaml
