import Conform.Proofs.Node
import Conform.Proofs.Source.Lookup
import Mathlib.Data.List.Find
/-!
# Positions of a document

The walk that a source map is drawn from goes down along labels, and its paths are those of the nodes
with the same labels (`goesAlong_visits`).  So an entry of the map takes the place of another one of a
different position only through a label that is not a segment by itself: where every label is one, the
map has at each path the last step along just the labels that the path is made of
(`paths_identify_positions`).
-/
namespace Conform

/-- The path of the node that labels lead to from the root. -/
def spelled (ls : List String) : List Char := (ls.foldl Node.child .root).pathText.toList

theorem spelled_concat (ls : List String) (l : String) :
    spelled (ls ++ [l]) = Path.child (spelled ls) l.toList := by
  rw [spelled, List.foldl_append]
  exact Node.pathText_child ..

theorem spelled_inj {ls ks : List String} (hl : Node.root.Admits ls) (hk : Node.root.Admits ks) :
    spelled ls = spelled ks ↔ ls = ks := by
  rw [spelled, spelled, String.toList_inj, Node.path_foldl_child_inj hl hk]

namespace Yaml.Tree

variable {d : Tree}

/-- Where labels lead to in a document, by the parts of its collections and through aliases, when
some of the nodes have been made.  A part has the name that a walk gives it at that moment, and a
mapping the entries that it has then. -/
inductive LeadsTo (d : Tree) : Making → List String → Tree → Prop where
  | root : LeadsTo d {} [] d
  | part {m m' : Making} {ls : List String} {p : Pending} {label : Label} {part : Tree}
      {name : List Char} (around : LeadsTo d m ls p.node)
      (next : p.part? m.edits = some (label, part)) (naming : label.name d m = .ok (name, m')) :
      LeadsTo d m' (ls ++ [String.ofList name]) (d.resolve part)
  | later {m m' : Making} {ls ks : List String} {t u : Tree} (before : LeadsTo d m ls t)
      (now : LeadsTo d m' ks u) : LeadsTo d m' ls t

/-- A step of the walk with the labels along which it goes down. -/
structure Step where
  labels : List String
  node : Tree

/-- The step, seen by its path. -/
def Step.visit (s : Step) : Visit := ⟨spelled s.labels, s.node⟩

/-- Whether labels lead to a node at some moment of a walk. -/
def Step.IsMade (d : Tree) (s : Step) : Prop := ∃ m, LeadsTo d m s.labels s.node

/-- Whether all that a walk comes to, if it ends well, is where labels lead to. -/
def GoesAlong (d : Tree) (walked : Except Fault (List Visit)) : Prop :=
  ∀ vs, walked = .ok vs → ∃ steps : List Step, (∀ s ∈ steps, s.IsMade d) ∧ vs = steps.map Step.visit

theorem GoesAlong.step {walked : Except Fault (List Visit)} {s : Step} (h : GoesAlong d walked)
    (here : s.IsMade d) : GoesAlong d (walked.map (s.visit :: ·)) := by
  intro vs hvs
  obtain ⟨vs, hwalked, rfl⟩ := of_map_eq_ok hvs
  obtain ⟨steps, hsteps, rfl⟩ := h vs hwalked
  exact ⟨s :: steps, List.forall_mem_cons.mpr ⟨here, hsteps⟩, rfl⟩

/-- Whether a collection that is being walked into is where labels lead to. -/
def Pending.IsAlong (d : Tree) (m : Making) (p : Pending) : Prop :=
  ∃ ls, LeadsTo d m ls p.node ∧ p.path = spelled ls

/-- The part where the walk goes on in a collection is one label below it, and what the labels of
other collections lead to stays so. -/
theorem Pending.IsAlong.part {p : Pending} {rest : List Pending} {m m' : Making} {label : Label}
    {part : Tree} {name : List Char} (along : ∀ q ∈ p :: rest, q.IsAlong d m)
    (next : p.part? m.edits = some (label, part)) (naming : label.name d m = .ok (name, m')) :
    (∃ ls, LeadsTo d m' ls (d.resolve part) ∧ Path.child p.path name = spelled ls) ∧
      ∀ q ∈ p :: rest, q.IsAlong d m' := by
  obtain ⟨ls, hls, hpath⟩ := along p (List.mem_cons_self ..)
  have here := LeadsTo.part hls next naming
  constructor
  · refine ⟨_, here, ?_⟩
    rw [spelled_concat, String.toList_ofList, hpath]
  · intro q hq
    obtain ⟨ks, hks, hq⟩ := along q hq
    exact ⟨ks, .later hks here, hq⟩

/-- **The walk goes down along labels**, whatever is made of the nodes on the way. -/
theorem goesAlong_walk {remaining : List Nat} {m : Making} {pending : List Pending}
    (along : ∀ p ∈ pending, p.IsAlong d m) : GoesAlong d (walk d remaining m pending) := by
  fun_induction walk d remaining m pending with
  | case1 =>
    intro vs hvs
    cases hvs
    exact ⟨[], by simp, rfl⟩
  -- Nothing is left of the collection on top.
  | case2 remaining m p rest hleft ih => exact ih (List.forall_mem_cons.mp along).2
  | case3 remaining m p rest left hleft hpart ih => exact ih (List.forall_mem_cons.mp along).2
  | case4 =>
    intro vs hvs
    cases hvs
  -- The part is one label below the collection, whether the walk enters it or not.
  | case5 remaining m p rest left hleft label part hpart name m' hname path t after hmem ih =>
    obtain ⟨⟨ls, here, hpath⟩, others⟩ := Pending.IsAlong.part along hpart hname
    have beside : ∀ q ∈ after, q.IsAlong d m' := by
      obtain ⟨hp, hrest⟩ := List.forall_mem_cons.mp others
      exact List.forall_mem_cons.mpr ⟨hp, hrest⟩
    have below := ih (List.forall_mem_cons.mpr ⟨⟨ls, here, hpath⟩, beside⟩)
    have := below.step (s := ⟨ls, t⟩) ⟨m', here⟩
    rwa [Step.visit, ← hpath] at this
  | case6 remaining m p rest left hleft label part hpart name m' hname path t after hmem ih =>
    obtain ⟨⟨ls, here, hpath⟩, others⟩ := Pending.IsAlong.part along hpart hname
    have beside : ∀ q ∈ after, q.IsAlong d m' := by
      obtain ⟨hp, hrest⟩ := List.forall_mem_cons.mp others
      exact List.forall_mem_cons.mpr ⟨hp, hrest⟩
    have := (ih beside).step (s := ⟨ls, t⟩) ⟨m', here⟩
    rwa [Step.visit, ← hpath] at this

/-- All visits of a document are where labels lead to. -/
theorem goesAlong_visits (d : Tree) : GoesAlong d d.visits := by
  have root : ∀ p ∈ [Pending.enter [] {} d], p.IsAlong d {} :=
    List.forall_mem_singleton.mpr ⟨[], .root, rfl⟩
  exact (goesAlong_walk root).step (s := ⟨[], d⟩) ⟨{}, .root⟩

/-- **What the source map has at the path of labels** is the place of the last step along them, if the
labels of all steps can be told from their paths. -/
theorem get?_sourceMap_spelled {steps : List Step} {m : SourceMap}
    (visits : d.visits = .ok (steps.map Step.visit)) (hm : d.sourceMap = .ok m)
    (admitted : ∀ s ∈ steps, Node.root.Admits s.labels) {ls : List String}
    (hls : Node.root.Admits ls) : m.get? (spelled ls) =
      (steps.reverse.find? (·.labels == ls)).map fun s => .ofMark s.node.mark := by
  have same : ∀ s ∈ steps.reverse, (spelled s.labels == spelled ls) = (s.labels == ls) := by
    intro s hs
    have := spelled_inj (admitted s (List.mem_reverse.mp hs)) hls
    rw [Bool.eq_iff_iff, beq_iff_eq, beq_iff_eq, this]
  rw [sourceMap, visits] at hm
  cases hm
  rw [SourceMap.get?_ofList_eq, ← List.map_reverse, ← List.map_reverse, List.find?_map,
    List.find?_map, Option.map_map, Option.map_map]
  congr 1
  exact List.find?_congr same

end Yaml.Tree

open Yaml.Tree in
/-- **Paths identify positions up to separators and an empty first label.**  A label is one more
segment if and only if it holds no separator and is not the empty text below the root.  Labels that
are segments lead to different paths if they differ, and where the walk through a document goes down
along such labels only, no position takes the place of another one in the source map. -/
theorem paths_identify_positions :
    (∀ (n : Node) (s : String), (n.child s).segments = n.segments ++ [s] ↔
      Path.separator ∉ s.toList ∧ (n.isRoot = true → s ≠ "")) ∧
    (∀ (n : Node) (ls ks : List String), n.Admits ls → n.Admits ks →
      ((ls.foldl Node.child n).pathText = (ks.foldl Node.child n).pathText ↔ ls = ks)) ∧
    ∀ (d : Yaml.Tree) (m : SourceMap), d.sourceMap = .ok m → ∃ steps : List Step,
      (∀ s ∈ steps, s.IsMade d) ∧ d.visits = .ok (steps.map Step.visit) ∧
        ((∀ s ∈ steps, Node.root.Admits s.labels) → ∀ ls, Node.root.Admits ls →
          m.get? (spelled ls) =
            (steps.reverse.find? (·.labels == ls)).map fun s => .ofMark s.node.mark) := by
  refine ⟨fun n s => Node.segments_child_iff, fun n ls ks hl hk => Node.path_foldl_child_inj hl hk,
    fun d m hm => ?_⟩
  obtain ⟨vs, visits, -⟩ := of_bind_eq_ok hm
  obtain ⟨steps, leads, rfl⟩ := goesAlong_visits d vs visits
  exact ⟨steps, leads, visits, fun admitted ls hls => get?_sourceMap_spelled visits hm admitted hls⟩

section Sample

open Yaml Yaml.Tree

/-- A sequence of two texts, the second one on the second line. -/
def twoTexts : Yaml.Tree :=
  sequence 0 Meaning.seq.tag {} [scalar 1 Meaning.str.tag ⟨2, 0, 2⟩ "a",
    scalar 2 Meaning.str.tag ⟨6, 1, 2⟩ "b"]

/-- A text has no parts. -/
theorem part?_scalar (path : List Char) (i : Nat) (tag : String) (mark : Mark) (text : String)
    (age index left : Nat) : Pending.part? ⟨path, scalar i tag mark text, age, index, left⟩ {} = none := by
  have none : Edits.entriesAt {} (scalar i tag mark text) age = [] := by
    rw [Edits.entriesAt, show Edits.listsOf {} (scalar i tag mark text) = [[]] from rfl]
    cases Edits.age {} (scalar i tag mark text) - age <;> rfl
  simp only [Pending.part?, none, List.getElem?_nil, Option.map_none]

/-- In the sequence nothing is made, and the labels are the places of the items. -/
theorem labels_twoTexts {m : Making} {ls : List String} {t : Yaml.Tree}
    (h : LeadsTo twoTexts m ls t) : m = {} ∧ (ls = [] ∧ t = twoTexts ∨
      (ls = ["0"] ∨ ls = ["1"]) ∧ ∃ i tag mark text, t = scalar i tag mark text) := by
  have first : [] ++ [String.ofList (toString 0).toList] = ["0"] := by decide
  have second : [] ++ [String.ofList (toString 1).toList] = ["1"] := by decide
  induction h with
  | root => exact ⟨rfl, Or.inl ⟨rfl, rfl⟩⟩
  | later _ _ before now => exact ⟨now.1, before.2⟩
  | @part m m' ls p label part name _ next naming ih =>
    obtain ⟨path, node, age, index, left⟩ := p
    obtain ⟨rfl, ⟨rfl, rfl⟩ | ⟨-, i, tag, mark, text, rfl⟩⟩ := ih
    · obtain _ | _ | index := index
      · cases next
        cases naming
        exact ⟨rfl, Or.inr ⟨Or.inl first, _, _, _, _, rfl⟩⟩
      · cases next
        cases naming
        exact ⟨rfl, Or.inr ⟨Or.inr second, _, _, _, _, rfl⟩⟩
      · cases next
    · rw [part?_scalar] at next
      cases next

/-- The path of the second item leads to the last step along its label. -/
theorem paths_identify_positions_items : ∃ (m : SourceMap) (steps : List Step),
    twoTexts.sourceMap = .ok m ∧
    twoTexts.visits = .ok (steps.map Step.visit) ∧ (∀ s ∈ steps, Node.root.Admits s.labels) ∧
    (m.get? (spelled ["1"]) =
      (steps.reverse.find? (·.labels == ["1"])).map fun s => .ofMark s.node.mark) ∧
    ((["a", ""].foldl Node.child .root).pathText = (["a"].foldl Node.child .root).pathText ↔
      ["a", ""] = ["a"]) := by
  obtain ⟨-, paths, positions⟩ := paths_identify_positions
  have plain : twoTexts.Plain := ⟨by decide, by decide⟩
  have keys : twoTexts.HasKeys := by
    intro t ht e he
    have : t.entries = [] := by
      rcases List.mem_cons.mp ht with rfl | ht
      · rfl
      · rcases List.mem_cons.mp ht with rfl | ht
        · rfl
        · cases List.mem_singleton.mp ht
          rfl
    rw [this] at he
    cases he
  obtain ⟨m, hm⟩ : ∃ m, twoTexts.sourceMap = .ok m :=
    ⟨_, by rw [sourceMap, visits_eq plain keys]; rfl⟩
  obtain ⟨steps, made, visits, found⟩ := positions _ m hm
  have admitted : ∀ s ∈ steps, Node.root.Admits s.labels := by
    intro s hs
    obtain ⟨m', hmade⟩ := made s hs
    rcases (labels_twoTexts hmade).2 with ⟨h, -⟩ | ⟨h | h, -⟩
    all_goals
      rw [h]
      decide
  exact ⟨m, steps, hm, visits, admitted, found admitted ["1"] (by decide),
    paths .root _ _ (by decide) (by decide)⟩

end Sample

/-- A dot in a label makes two segments of it, and the empty label adds none to the root. -/
theorem segments_child_dotted :
    (Node.root.child "a.b").segments = ["a", "b"] ∧
      (Node.root.child "a.b").path = ((Node.root.child "a").child "b").path ∧
      (Node.root.child "").segments = [] ∧
      ¬∀ (n : Node) (s : String), (n.child s).segments = n.segments ++ [s] := by
  refine ⟨by decide, by decide, by decide, fun h => ?_⟩
  have := h .root "a.b"
  revert this
  decide

end Conform
