import Conform.Proofs.Source.Positions
import Mathlib.Data.List.Lex
/-!
# Tours of a document

A place in a document is a list of numbers, which say at each node along which link to go on; the order
of these lists is the document order.  A tour comes to places in this order: to the root, and from the
first place of each node to all of its parts.  Which place is the first one can be said without the
tour.  It is the first of all to which a way leads on which no node comes twice (`isFirstOf_iff`); for
where the tour does not follow such a way down, it has been to the node on the left of it
(`first_or_left`).
-/
namespace Conform

/-! ### Places -/

/-- Whether a place is before another one and not around it. -/
def IsLeftOf (p q : List Nat) : Prop := p < q ∧ ¬p <+: q

/-- All below a place is left of all below a place on its right. -/
theorem IsLeftOf.append {p q : List Nat} (h : IsLeftOf p q) (xs ys : List Nat) :
    IsLeftOf (p ++ xs) (q ++ ys) := by
  obtain ⟨lt, apart⟩ := h
  induction p generalizing q with
  | nil => exact absurd List.nil_prefix apart
  | cons i p ih =>
    cases q with
    | nil => exact absurd lt (List.not_lt_nil _)
    | cons j q =>
      rw [List.cons_prefix_cons, not_and] at apart
      rw [List.cons_append, List.cons_append, IsLeftOf, List.cons_lt_cons_iff,
        List.cons_prefix_cons]
      rcases List.cons_lt_cons_iff.mp lt with first | ⟨rfl, rest⟩
      · exact ⟨Or.inl first, fun h => first.ne h.1⟩
      · obtain ⟨rest, apart⟩ := ih rest (apart rfl)
        exact ⟨Or.inr ⟨rfl, rest⟩, fun h => apart h.2⟩

theorem isLeftOf_concat {i j : Nat} (h : i < j) (p : List Nat) : IsLeftOf (p ++ [i]) (p ++ [j]) := by
  induction p with
  | nil => exact ⟨List.cons_lt_cons_iff.mpr (Or.inl h), by simpa using h.ne⟩
  | cons k p ih => exact ⟨List.cons_lt_cons_iff.mpr (Or.inr ⟨rfl, ih.1⟩), by simpa using ih.2⟩

theorem le_of_isPrefix {p q : List Nat} (h : p <+: q) : p ≤ q := not_lt.mp (List.IsPrefix.le h)

theorem IsLeftOf.lt_of_isPrefix {p q r : List Nat} (h : IsLeftOf p q) (below : q <+: r) : p < r :=
  lt_of_lt_of_le h.1 (le_of_isPrefix below)

namespace Yaml.Tree

variable {d : Tree}

/-! ### Stops -/

/-- A step of a walk with its place. -/
structure Stop extends Step where
  place : List Nat

namespace Stop

/-- The stop at the root. -/
def start (d : Tree) : Stop := { labels := [], node := d, place := [] }

/-- The stops below a stop, along the links of its node. -/
def parts (d : Tree) (s : Stop) : List Stop :=
  (d.links s.node).mapIdx fun i p =>
    { labels := s.labels ++ [p.1], node := p.2, place := s.place ++ [i] }

variable {r s t : Stop}

theorem mem_parts_iff : t ∈ s.parts d ↔ ∃ (i : Nat) (l : String) (u : Tree),
    (d.links s.node)[i]? = some (l, u) ∧
      t = { labels := s.labels ++ [l], node := u, place := s.place ++ [i] } := by
  rw [parts, List.mem_mapIdx]
  constructor
  · rintro ⟨i, hi, rfl⟩
    exact ⟨i, _, _, List.getElem?_eq_getElem hi, rfl⟩
  · rintro ⟨i, l, u, h, rfl⟩
    obtain ⟨hi, h⟩ := List.getElem?_eq_some_iff.mp h
    exact ⟨i, hi, by rw [h]⟩

theorem place_lt (h : t ∈ s.parts d) : s.place < t.place := by
  obtain ⟨i, l, u, -, rfl⟩ := mem_parts_iff.mp h
  exact lt_of_le_of_ne (le_of_isPrefix (List.prefix_append ..)) (by simp)

theorem length_parts : (s.parts d).length = (d.links s.node).length := List.length_mapIdx

/-- Stops at the same node have the same links below them. -/
theorem exists_mem_parts (same : r.node = s.node) (ht : t ∈ s.parts d) : ∃ t' ∈ r.parts d,
    t'.node = t.node ∧ ∃ i, t.place = s.place ++ [i] ∧ t'.place = r.place ++ [i] := by
  obtain ⟨i, l, u, h, rfl⟩ := mem_parts_iff.mp ht
  exact ⟨_, mem_parts_iff.mpr ⟨i, l, u, same ▸ h, rfl⟩, rfl, i, rfl, rfl⟩

/-- The stops below a stop, seen by their paths. -/
theorem parts_visit (s : Stop) : Visit.parts d s.visit = (s.parts d).map fun t => t.visit := by
  refine List.ext_getElem (by simp [Visit.parts, parts, Step.visit]) fun i _ _ => ?_
  simp [Visit.parts, parts, Step.visit, spelled_concat]

end Stop

/-! ### Ways -/

/-- The ways through a document from its root, with the nodes on the way to a stop. -/
inductive Way (d : Tree) : List Tree → Stop → Prop where
  | root : Way d [] (.start d)
  | part {around : List Tree} {s t : Stop} (way : Way d around s) (next : t ∈ s.parts d) :
      Way d (s.node :: around) t

/-- Places are where ways lead to. -/
theorem Way.eq_of_place_eq {around around' : List Tree} {s t : Stop} (hs : Way d around s)
    (ht : Way d around' t) (same : s.place = t.place) : s = t := by
  -- The last numbers of the places agree, and so do the places above.
  induction hs generalizing around' t with
  | root =>
    cases ht with
    | root => rfl
    | part way next =>
      obtain ⟨i, l, u, -, rfl⟩ := Stop.mem_parts_iff.mp next
      simp [Stop.start] at same
  | part way next ih =>
    obtain ⟨i, l, u, h, rfl⟩ := Stop.mem_parts_iff.mp next
    cases ht with
    | root => simp [Stop.start] at same
    | part way' next' =>
      obtain ⟨j, k, v, h', rfl⟩ := Stop.mem_parts_iff.mp next'
      obtain ⟨above, last⟩ := List.append_inj' same rfl
      cases last
      obtain rfl := ih way' above
      cases h.symm.trans h'
      rfl

/-- Whether a way leads to a stop on which no node comes twice. -/
def Stop.IsDirect (d : Tree) (s : Stop) : Prop :=
  ∃ around, Way d around s ∧ (s.node :: around).Nodup

/-- Whether a stop is the first one at its node in document order, of those to which a way leads
without repetition. -/
def Stop.IsFirst (d : Tree) (s : Stop) : Prop :=
  s.IsDirect d ∧ ∀ t : Stop, t.IsDirect d → t.node = s.node → s.place ≤ t.place

/-- The labels of a way lead to where it ends. -/
theorem Way.reaches {around : List Tree} {s : Stop} (way : Way d around s) :
    Path.Reaches d.links d s.labels s.node := by
  induction way with
  | root => exact .here d
  | part way next ih =>
    obtain ⟨i, l, u, h, rfl⟩ := Stop.mem_parts_iff.mp next
    exact ih.concat (List.mem_of_getElem? h)

/-! ### Tours -/

/-- Whether a stop is the first one of some stops at its node. -/
def IsFirstOf (stops : List Stop) (s : Stop) : Prop :=
  s ∈ stops ∧ ∀ t ∈ stops, t.node = s.node → s.place ≤ t.place

/-- Whether the first stop at a node is earlier than another stop. -/
def IsEarlier (stops : List Stop) (s : Stop) (u : Tree) : Prop :=
  ∃ f, IsFirstOf stops f ∧ f.node = u ∧ f.place < s.place

theorem IsFirstOf.not_isEarlier {stops : List Stop} {s : Stop} (h : IsFirstOf stops s) :
    ¬IsEarlier stops s s.node := by
  rintro ⟨f, hf, same, lt⟩
  exact (h.2 f hf.1 same).not_gt lt

/-- Whether stops are in document order, and come to the root and from the first stop at each node to
all of its parts. -/
structure IsTour (d : Tree) (stops : List Stop) : Prop where
  ordered : stops.Pairwise fun s t => s.place < t.place
  mem_iff : ∀ s, s ∈ stops ↔ s = .start d ∨ ∃ r, IsFirstOf stops r ∧ s ∈ r.parts d

/-- In order, some stop is the first one at each node. -/
theorem exists_isFirstOf {stops : List Stop} (ordered : stops.Pairwise fun s t => s.place < t.place)
    {s : Stop} (hs : s ∈ stops) : ∃ f, IsFirstOf stops f ∧ f.node = s.node := by
  induction stops with
  | nil => cases hs
  | cons r stops ih =>
    obtain ⟨first, ordered⟩ := List.pairwise_cons.mp ordered
    by_cases same : r.node = s.node
    -- The stop in front is before all others, whatever their nodes are.
    · refine ⟨r, ⟨List.mem_cons_self .., fun t ht _ => ?_⟩, same⟩
      rcases List.mem_cons.mp ht with rfl | ht
      · exact le_refl _
      · exact (first t ht).le
    · have hs : s ∈ stops := (List.mem_cons.mp hs).resolve_left fun h => same (h ▸ rfl)
      obtain ⟨f, hf, hnode⟩ := ih ordered hs
      refine ⟨f, ⟨List.mem_cons_of_mem _ hf.1, fun t ht hsame => ?_⟩, hnode⟩
      rcases List.mem_cons.mp ht with rfl | ht
      · exact absurd (hsame.trans hnode) same
      · exact hf.2 t ht hsame

namespace IsTour

variable {stops : List Stop} {r s t : Stop} {around : List Tree}

theorem start_mem (tour : IsTour d stops) : .start d ∈ stops := (tour.mem_iff _).mpr (Or.inl rfl)

theorem part_mem (tour : IsTour d stops) (hr : IsFirstOf stops r) (hs : s ∈ r.parts d) :
    s ∈ stops :=
  (tour.mem_iff s).mpr (Or.inr ⟨r, hr, hs⟩)

/-- What is inherited from the first stop at a node to its parts holds of all stops. -/
@[elab_as_elim]
theorem induction (tour : IsTour d stops) {motive : ∀ s, s ∈ stops → Prop}
    (start : motive (.start d) tour.start_mem)
    (part : ∀ r (hr : IsFirstOf stops r), motive r hr.1 → ∀ s (hs : s ∈ r.parts d),
      motive s (tour.part_mem hr hs)) (s : Stop) (hs : s ∈ stops) : motive s hs := by
  -- Parts have longer places than the stop that they are below.
  induction hn : s.place.length using Nat.strong_induction_on generalizing s with
  | h n ih =>
    rcases (tour.mem_iff s).mp hs with rfl | ⟨r, hr, hs⟩
    · exact start
    · refine part r hr (ih r.place.length ?_ r hr.1 rfl) s hs
      obtain ⟨i, l, u, -, rfl⟩ := Stop.mem_parts_iff.mp hs
      simp [← hn]

/-- A stop is where a way through first stops leads, so that no node comes twice on it. -/
theorem exists_way (tour : IsTour d stops) (hs : s ∈ stops) : ∃ around, Way d around s ∧
    around.Nodup ∧ ∀ u ∈ around, IsEarlier stops s u := by
  induction s, hs using tour.induction with
  | start => exact ⟨[], .root, List.nodup_nil, by simp⟩
  | part r hr ih s hs =>
    obtain ⟨around, way, nodup, earlier⟩ := ih
    refine ⟨r.node :: around, .part way hs, ?_, List.forall_mem_cons.mpr ⟨?_, fun u hu => ?_⟩⟩
    -- A first stop is not at a node that has been found before.
    · exact List.nodup_cons.mpr ⟨fun h => hr.not_isEarlier (earlier _ h), nodup⟩
    · exact ⟨r, hr, rfl, Stop.place_lt hs⟩
    · obtain ⟨f, hf, hnode, before⟩ := earlier u hu
      exact ⟨f, hf, hnode, before.trans (Stop.place_lt hs)⟩

theorem isDirect (tour : IsTour d stops) (hs : IsFirstOf stops s) : s.IsDirect d := by
  obtain ⟨around, way, nodup, earlier⟩ := tour.exists_way hs.1
  exact ⟨around, way, List.nodup_cons.mpr ⟨fun h => hs.not_isEarlier (earlier _ h), nodup⟩⟩

theorem eq_of_place_eq (tour : IsTour d stops) (hs : s ∈ stops) (way : Way d around t)
    (same : s.place = t.place) : s = t := by
  obtain ⟨_, way', -⟩ := tour.exists_way hs
  exact way'.eq_of_place_eq way same

/-- A stop around another place is on each way there. -/
theorem node_mem_around (tour : IsTour d stops) (hs : s ∈ stops) (way : Way d around t)
    (above : s.place <+: t.place) (other : s.place ≠ t.place) : s.node ∈ around := by
  induction way with
  | root => exact absurd (List.prefix_nil.mp above) other
  | @part around r t way next ih =>
    obtain ⟨i, l, u, -, rfl⟩ := Stop.mem_parts_iff.mp next
    have above : s.place <+: r.place := (List.prefix_concat_iff.mp above).resolve_left other
    by_cases same : s.place = r.place
    · obtain rfl := tour.eq_of_place_eq hs way same
      exact List.mem_cons_self ..
    · exact List.mem_cons_of_mem _ (ih above same)

/-- **There is nothing below a stop that is not the first one** at its node. -/
theorem isFirstOf_of_isPrefix (tour : IsTour d stops) (hs : s ∈ stops) (ht : t ∈ stops)
    (above : s.place <+: t.place) (other : s ≠ t) : IsFirstOf stops s := by
  induction t, ht using tour.induction with
  | start => exact absurd (tour.eq_of_place_eq hs .root (List.prefix_nil.mp above)) other
  | part r hr ih t ht =>
    obtain ⟨around, way, -⟩ := tour.exists_way hr.1
    have apart : s.place ≠ t.place := fun h => other (tour.eq_of_place_eq hs (.part way ht) h)
    obtain ⟨i, l, u, -, rfl⟩ := Stop.mem_parts_iff.mp ht
    have above : s.place <+: r.place := (List.prefix_concat_iff.mp above).resolve_left apart
    by_cases same : s = r
    · exact same ▸ hr
    · exact ih above same

/-- **A way without repetition leads to a first stop, or such a stop is on its left.** -/
theorem first_or_left (tour : IsTour d stops) (way : Way d around t)
    (nodup : (t.node :: around).Nodup) : IsFirstOf stops t ∨
      ∃ f, IsFirstOf stops f ∧ f.node = t.node ∧ IsLeftOf f.place t.place := by
  induction way with
  | root => exact Or.inl ⟨tour.start_mem, fun _ _ _ => not_lt.mp (List.not_lt_nil _)⟩
  | @part around s t way next ih =>
    have hway := Way.part way next
    obtain ⟨new, nodup⟩ := List.nodup_cons.mp nodup
    -- From the first stop at the node above there is a link to the node, too.
    obtain ⟨t', ht', hnode, le⟩ : ∃ t' ∈ stops, t'.node = t.node ∧ t'.place ≤ t.place := by
      rcases ih nodup with hs | ⟨f, hf, same, left⟩
      · exact ⟨t, tour.part_mem hs next, rfl, le_refl _⟩
      · obtain ⟨t', ht', hnode, i, here, there⟩ := Stop.exists_mem_parts same next
        refine ⟨t', tour.part_mem hf ht', hnode, ?_⟩
        rw [here, there]
        exact (left.append [i] [i]).1.le
    obtain ⟨f, hf, same⟩ := exists_isFirstOf tour.ordered ht'
    have hf' : f.node = t.node := same.trans hnode
    -- The first stop at the node is not above, since the way does not come to the node before.
    by_cases place : f.place = t.place
    · obtain rfl := tour.eq_of_place_eq hf.1 hway place
      exact Or.inl hf
    · refine Or.inr ⟨f, hf, hf', ?_, fun above => new ?_⟩
      · exact lt_of_le_of_ne ((hf.2 t' ht' same.symm).trans le) place
      · exact hf' ▸ tour.node_mem_around hf.1 hway above place

/-- **The first stops of a tour are first among all ways without repetition.** -/
theorem isFirstOf_iff (tour : IsTour d stops) : IsFirstOf stops s ↔ s.IsFirst d := by
  constructor
  · intro hs
    refine ⟨tour.isDirect hs, fun t ⟨around, way, nodup⟩ same => ?_⟩
    rcases tour.first_or_left way nodup with ht | ⟨f, hf, hnode, left⟩
    · exact hs.2 t ht.1 same
    · exact (hs.2 f hf.1 (hnode.trans same)).trans left.1.le
  · rintro ⟨⟨around, way, nodup⟩, least⟩
    rcases tour.first_or_left way nodup with hs | ⟨f, hf, hnode, left⟩
    · exact hs
    · exact absurd left.1 (least f (tour.isDirect hf) hnode).not_gt

/-- A tour comes to each node that is reached. -/
theorem exists_isFirstOf_of_reaches (tour : IsTour d stops) {u v : Tree} {ls : List String}
    (h : Path.Reaches d.links u ls v) (hr : IsFirstOf stops r) (hu : r.node = u) :
    ∃ f, IsFirstOf stops f ∧ f.node = v := by
  induction h generalizing r with
  | here => exact ⟨r, hr, hu⟩
  | step link _ ih =>
    obtain ⟨i, h⟩ := List.getElem?_of_mem link
    have part := Stop.mem_parts_iff.mpr ⟨i, _, _, hu ▸ h, rfl⟩
    obtain ⟨f, hf, same⟩ := exists_isFirstOf tour.ordered (tour.part_mem hr part)
    exact ih hf same

theorem reaches_iff (tour : IsTour d stops) {u : Tree} :
    (∃ ls, Path.Reaches d.links d ls u) ↔ ∃ f, IsFirstOf stops f ∧ f.node = u := by
  constructor
  · rintro ⟨ls, h⟩
    obtain ⟨f, hf, same⟩ := exists_isFirstOf tour.ordered tour.start_mem
    exact tour.exists_isFirstOf_of_reaches h hf same
  · rintro ⟨f, hf, rfl⟩
    obtain ⟨around, way, -⟩ := tour.exists_way hf.1
    exact ⟨_, way.reaches⟩

/-- There is one first stop at each node that is reached. -/
theorem existsUnique_isFirst (tour : IsTour d stops) {u : Tree}
    (h : ∃ ls, Path.Reaches d.links d ls u) : ∃! r : Stop, r.IsFirst d ∧ r.node = u := by
  obtain ⟨r, hr, rfl⟩ := tour.reaches_iff.mp h
  refine ⟨r, ⟨tour.isFirstOf_iff.mp hr, rfl⟩, fun s ⟨hs, same⟩ => ?_⟩
  have hs := tour.isFirstOf_iff.mpr hs
  have place : s.place = r.place := le_antisymm (hs.2 r hr.1 same.symm) (hr.2 s hs.1 same)
  obtain ⟨_, way, -⟩ := tour.exists_way hr.1
  exact tour.eq_of_place_eq hs.1 way place

end IsTour

end Yaml.Tree

end Conform
