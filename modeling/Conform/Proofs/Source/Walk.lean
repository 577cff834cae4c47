import Conform.Proofs.Path
import Conform.Proofs.Value.Writing
import Conform.Proofs.Walks
import Conform.Proofs.Yaml.Graph
import Conform.Proofs.Yaml.Reading
import Conform.Source.Map
/-!
# The walk through a document

The walk that a source map is drawn from goes through the graph of a document along its links, in
reading order, and goes into each node once (`visits_eq_follow`).  Its keys are made on the way.  They
stand for scalars, whose making changes nothing in the document; a key with the tag of a default value
is named by its content, which is the text that it becomes in the instance.
-/
namespace Conform.Yaml

/-! ### Steps of making -/

namespace Making

theorem run_bind {α β : Type} (x : Maker α) (f : α → Maker β) (m : Making) :
    (x >>= f).run m = match x.run m with
      | (.ok a, m) => (f a).run m
      | (.error e, m) => (.error e, m) := by
  change (match x.run m with | (r, m) => ExceptT.bindCont f r m) = _
  cases x.run m with
  | mk r m => cases r <;> rfl

theorem run_get (m : Making) : (get : Maker Making).run m = (.ok m, m) := rfl

theorem run_modify (f : Making → Making) (m : Making) :
    (modify f : Maker Unit).run m = (.ok (), f m) := rfl

/-- Whether what has been made of the nodes of a document are keys with their values; no key stays
unfinished but those with the tag of a default value. -/
structure IsFaithful (m : Making) (d : Tree) : Prop where
  edits : m.edits = {}
  made : ∀ t ∈ d.nodes, ∀ v, m.value? t = some v → t.scalar? = some v
  unfinished : ∀ t ∈ d.nodes, t.id ∈ m.unfinished → t.tag = Meaning.value.tag

theorem isFaithful_empty (d : Tree) : IsFaithful {} d := ⟨rfl, by simp [value?], by simp⟩

namespace IsFaithful

variable {d k : Tree} {m : Making}

theorem start (hd : d.IsGraph) (hm : m.IsFaithful d) (hk : k ∈ d.nodes)
    (default : k.tag = Meaning.value.tag) : (m.start k).IsFaithful d := by
  refine ⟨hm.edits, hm.made, fun t ht hmem => ?_⟩
  rcases List.mem_cons.mp hmem with hid | hmem
  · rw [hd.eq_of_id_eq ht hk hid, default]
  · exact hm.unfinished t ht hmem

theorem finish (hd : d.IsGraph) (hm : m.IsFaithful d) (hk : k ∈ d.nodes) {v : Value}
    (hv : k.scalar? = some v) : ((m.start k).finish k v).IsFaithful d := by
  refine ⟨hm.edits, fun t ht w hw => ?_, fun t ht hmem => ?_⟩
  · by_cases hid : k.id = t.id
    -- The key itself has the value that is noted first; for the others nothing is new.
    · obtain rfl := hd.eq_of_id_eq hk ht hid
      simp only [Making.value?, Making.finish, List.find?_cons_of_pos, beq_self_eq_true,
        Option.map_some, Option.some.injEq] at hw
      exact hw ▸ hv
    · refine hm.made t ht w ?_
      simpa [Making.value?, Making.finish, Making.start, hid] using hw
  · refine hm.unfinished t ht ?_
    simpa [Making.finish, Making.start] using hmem

end IsFaithful

end Making

namespace Tree

open Making

variable {d : Tree}

/-! ### Names of keys -/

/-- The outcome of a scalar that is begun, as the value of a node that has none yet. -/
theorem run_make_scalar {fuel : Nat} {m : Making} {k : Tree} {i : Nat} {tag : String} {mark : Mark}
    {text : String} {r : Except Failure Value} (hk : d.resolve k = scalar i tag mark text)
    (begun : Tree.begin d m.edits (scalar i tag mark text) = r.map .value) :
    (d.make (fuel + 1) k).run m =
      match m.value? (scalar i tag mark text) with
      | some v => (.ok v, m)
      | none =>
        if i ∈ m.unfinished then (.error .malformed, m)
        else
          match r with
          | .ok v => (.ok v, (m.start (scalar i tag mark text)).finish (scalar i tag mark text) v)
          | .error f => (.error f, m.start (scalar i tag mark text)) := by
  rw [make]
  simp only [run_bind, run_get, hk]
  cases m.value? (scalar i tag mark text) with
  | some v => rfl
  | none =>
    simp only [run_bind, run_get, List.contains_eq_mem, decide_eq_true_eq, id]
    split
    · rfl
    · have same : (m.start (scalar i tag mark text)).edits = m.edits := rfl
      -- To start a node does not change the edits that it is begun with.
      simp only [run_bind, run_modify, Making.begin, run_get, same, begun]
      cases r <;> rfl

/-- A key with the tag of a default value stands for nothing by itself. -/
theorem begin_default (i : Nat) (mark : Mark) (text : String) :
    Tree.begin d {} (scalar i Meaning.value.tag mark text) = .error .malformed := by
  have tagOf : Edits.tagOf {} (scalar i Meaning.value.tag mark text) = Meaning.value.tag := rfl
  rw [Tree.begin, Tree.meaning?, tagOf, meaning?_tag]
  rfl

/-- Another key begins with its value. -/
theorem begin_key {i : Nat} {tag : String} {mark : Mark} {text : String} {v : Value}
    (hv : (scalar i tag mark text).scalar? = some v) (other : tag ≠ Meaning.value.tag) :
    Tree.begin d {} (scalar i tag mark text) = .ok (.value v) := by
  have tagOf : Edits.tagOf {} (scalar i tag mark text) = tag := rfl
  have htext : scalarText? d {} (d.size + 1) (scalar i tag mark text) = some text := rfl
  rw [scalar?, if_neg other] at hv
  obtain ⟨mean, hmean, hv⟩ := Option.bind_eq_some_iff.mp hv
  cases hs : scalarValue (scalar i tag mark text) mean text.toList with
  | error f =>
    rw [hs] at hv
    cases hv
  | ok w =>
    rw [hs] at hv
    cases hv
    have none : container? mean = none := by
      cases mean <;> first | rfl | cases hs
    rw [Tree.begin, Tree.meaning?, tagOf, hmean]
    simp only [none, htext, hs]
    rfl

/-- **A key is named by its value**, if that can be written, and looking at it leaves the document as it
is. -/
theorem keyText_spec (hd : d.IsGraph) {m : Making} (hm : m.IsFaithful d) {k : Tree}
    (hk : d.resolve k ∈ d.nodes) {v : Value} (hv : (d.resolve k).scalar? = some v) :
    ∃ m', d.keyText m k = v.writeText.map (fun text => (text.toList, m')) ∧ m'.IsFaithful d := by
  obtain ⟨i, tag, mark, text, same⟩ := exists_of_scalar? hv
  rw [same] at hk hv
  unfold keyText
  by_cases hvalue : tag = Meaning.value.tag
  · -- The name is the content, whether the key is known or cannot be made.
    subst hvalue
    obtain rfl : Value.str text = v := by
      rwa [scalar?, if_pos rfl, Option.some.injEq] at hv
    have content (e : Edits) : d.contentText e k = text := by
      rw [contentText, same, contentIn]
    have begun : Tree.begin d m.edits (scalar i Meaning.value.tag mark text) =
        (Except.error .malformed : Except Failure Value).map .value := by
      rw [hm.edits, begin_default]
      rfl
    rw [run_make_scalar same begun]
    cases hmade : m.value? (scalar i Meaning.value.tag mark text) with
    | some w =>
      have := hm.made _ hk w hmade
      rw [hv, Option.some.injEq] at this
      subst this
      exact ⟨m, rfl, hm⟩
    | none =>
      by_cases hu : i ∈ m.unfinished
      · simp only [if_pos hu, content]
        exact ⟨m, rfl, hm⟩
      · simp only [if_neg hu, content]
        exact ⟨_, rfl, hm.start hd hk rfl⟩
  · have begun : Tree.begin d m.edits (scalar i tag mark text) =
        (Except.ok v : Except Failure Value).map .value := by
      rw [hm.edits, begin_key hv hvalue]
      rfl
    have free : i ∉ m.unfinished := fun hmem => hvalue (hm.unfinished _ hk hmem)
    rw [run_make_scalar same begun]
    cases hmade : m.value? (scalar i tag mark text) with
    | some w =>
      have := hm.made _ hk w hmade
      rw [hv, Option.some.injEq] at this
      subst this
      exact ⟨m, rfl, hm⟩
    | none =>
      simp only [if_neg free]
      exact ⟨_, rfl, hm.finish hd hk hv⟩

/-! ### The walk -/

/-- The value by which an entry is named. -/
def nameValue (d : Tree) (e : Tree × Tree) : Value := (d.resolve e.1).scalar?.getD .null

/-- Whether the key of the entry at a place of a node can be written, if there is one. -/
def CanNameAt (d t : Tree) (i : Nat) : Prop :=
  ∀ e, t.entries[i]? = some e → (d.nameValue e).isWritable = true

/-- Whether all keys of the nodes that links lead to can be written. -/
def WritesKeys (d : Tree) : Prop :=
  ∀ ls t, Path.Reaches d.links d ls t → ∀ e ∈ t.entries, (d.nameValue e).isWritable = true

theorem canNameAt_of_le {t : Tree} {i : Nat} (h : (d.links t).length ≤ i) : d.CanNameAt t i := by
  intro e he
  cases t with
  | mapping j tag m es =>
    rw [links, List.length_map] at h
    rw [entries, List.getElem?_eq_none h] at he
    cases he
  | _ => cases he

theorem not_writesKeys {ls : List String} {t : Tree} {i : Nat} (h : Path.Reaches d.links d ls t)
    (unnamed : ¬d.CanNameAt t i) : ¬d.WritesKeys :=
  fun writes => unnamed fun e he => writes ls t h e (List.mem_of_getElem? he)

theorem IsGraph.mem_of_reaches (hd : d.IsGraph) {t u : Tree} {ls : List String}
    (h : Path.Reaches d.links t ls u) (ht : t ∈ d.nodes) : u ∈ d.nodes := by
  induction h with
  | here => exact ht
  | step link _ ih => exact ih (hd.mem_of_links ht link)

/-- The stops below a stop, along the links of its node. -/
def Visit.parts (d : Tree) (v : Visit) : List Visit :=
  (d.links v.node).map fun p => ⟨Path.child v.path p.1.toList, p.2⟩

namespace Pending

/-- Whether a collection is walked into with nothing changed in the document. -/
structure Ready (d : Tree) (p : Pending) : Prop where
  reached : ∃ ls, Path.Reaches d.links d ls p.node
  age : p.age = 1
  left : p.left = (d.links p.node).length - p.index

/-- The stops in the rest of a collection. -/
def rest (d : Tree) (p : Pending) : List Visit := (Visit.parts d ⟨p.path, p.node⟩).drop p.index

theorem ready_enter (path : List Char) {t : Tree} (ht : ∃ ls, Path.Reaches d.links d ls t) :
    (enter path {} t).Ready d := by
  refine ⟨ht, rfl, ?_⟩
  cases t with
  | sequence i tag m ts => simp [enter, links]
  | mapping i tag m es => simp [enter, links, Edits.entries, Edits.listsOf, written, entries]
  | _ => rfl

/-- Where the walk goes on in a collection: the part is named as its link is labelled, if its key can be
written. -/
theorem Ready.part (hd : d.IsGraph) (keys : d.HasScalarKeys) {p : Pending} (hp : p.Ready d)
    {name : String} {t : Tree} (h : (d.links p.node)[p.index]? = some (name, t)) :
    ∃ label part, p.part? {} = some (label, part) ∧ d.resolve part = t ∧
      ∀ m : Making, m.IsFaithful d → ∃ m', m'.IsFaithful d ∧
        (label.name d m = .ok (name.toList, m') ∧ d.CanNameAt p.node p.index ∨
          label.name d m = .error .integerUnwritable ∧ ¬d.CanNameAt p.node p.index) := by
  obtain ⟨path, node, age, index, left⟩ := p
  obtain ⟨⟨ls, reached⟩, hage, -⟩ := hp
  dsimp only at reached hage h
  subst hage
  have hnode := hd.mem_of_reaches reached hd.root_mem
  cases node with
  | sequence i tag m ts =>
    rw [links, List.getElem?_mapIdx] at h
    obtain ⟨u, hu, heq⟩ := Option.map_eq_some_iff.mp h
    cases heq
    -- An index has a text always.
    refine ⟨.index index, u, ?_, rfl, fun m hm => ⟨m, hm, .inl ⟨rfl, fun e he => nomatch he⟩⟩⟩
    simp [part?, hu]
  | mapping i tag m es =>
    rw [links, List.getElem?_map] at h
    obtain ⟨e, he, heq⟩ := Option.map_eq_some_iff.mp h
    cases heq
    have hmem := List.mem_of_getElem? he
    obtain ⟨v, hv⟩ := keys _ hnode e hmem
    -- A key has one unless its value is a number of too many digits.
    have here : d.CanNameAt (mapping i tag m es) index ↔ v.isWritable = true := by
      rw [CanNameAt, entries, he]
      simp [nameValue, hv]
    refine ⟨.key e.1, e.2, ?_, rfl, fun m hm => ?_⟩
    · simp [part?, Edits.entriesAt, Edits.age, Edits.listsOf, written, entries, he]
    · obtain ⟨m', named, hm'⟩ := keyText_spec hd hm (hd.key hnode hmem) hv
      refine ⟨m', hm', ?_⟩
      rw [Label.name, named, hv, here]
      cases written : v.isWritable with
      | true => exact .inl ⟨by rw [Value.writeText_of_isWritable written]; rfl, rfl⟩
      | false => exact .inr ⟨by rw [Value.writeText_eq_error_iff.mpr ⟨rfl, written⟩]; rfl, by simp⟩
  | _ => cases h

/-- A step of the walk into a collection with parts left. -/
theorem Ready.next (hd : d.IsGraph) (keys : d.HasScalarKeys) {p : Pending} (hp : p.Ready d)
    {m : Making} (hm : m.IsFaithful d) {left : Nat} (hleft : p.left = left + 1) :
    ∃ label part name m', p.part? m.edits = some (label, part) ∧ m'.IsFaithful d ∧
      (label.name d m = .ok (name, m') ∧ d.CanNameAt p.node p.index ∨
        label.name d m = .error .integerUnwritable ∧ ¬d.CanNameAt p.node p.index) ∧
      (∃ ls, Path.Reaches d.links d ls (d.resolve part)) ∧
      { p with index := p.index + 1, left }.Ready d ∧ p.rest d =
        ⟨Path.child p.path name, d.resolve part⟩ ::
          { p with index := p.index + 1, left }.rest d := by
  have total := hp.left
  have hlt : p.index < (d.links p.node).length := by omega
  obtain ⟨label, part, hpart, same, hname⟩ := hp.part hd keys (List.getElem?_eq_getElem hlt)
  obtain ⟨m', hm', hname⟩ := hname m hm
  refine ⟨label, part, _, m', by rw [hm.edits, hpart], hm', hname, ?_, ⟨hp.reached, hp.age, ?_⟩, ?_⟩
  · obtain ⟨ls, reached⟩ := hp.reached
    rw [same]
    exact ⟨_, reached.concat (List.getElem_mem hlt)⟩
  · dsimp only
    omega
  · rw [rest, List.drop_eq_getElem_cons (by rwa [Visit.parts, List.length_map]), same]
    simp only [Visit.parts, List.getElem_map, List.get_eq_getElem, rest]

end Pending

/-- What a walk through collections comes to: if it ends well, it has followed the links, and all keys that it
has come to can be written; else there is a key that cannot. -/
structure Walked (d : Tree) (remaining : List Nat) (pending : List Pending)
    (outcome : Except Fault (List Visit)) : Prop where
  follows : ∀ vs, outcome = .ok vs → vs = Walks.follow (·.node.id) (Visit.parts d) remaining
    (pending.flatMap (Pending.rest d))
  here : ∀ vs, outcome = .ok vs → ∀ p ∈ pending, ∀ i, p.index ≤ i → d.CanNameAt p.node i
  below : ∀ vs, outcome = .ok vs → ∀ v ∈ Walks.entered (·.node.id) remaining vs, ∀ i,
    d.CanNameAt v.node i
  fault : ∀ f, outcome = .error f → f = .integerUnwritable ∧ ¬d.WritesKeys

/-- **The walk follows the links** in what is left of the collections that it is in. -/
theorem walked (hd : d.IsGraph) (keys : d.HasScalarKeys) (remaining : List Nat) {m : Making}
    {pending : List Pending} (hm : m.IsFaithful d) (ready : ∀ p ∈ pending, p.Ready d) :
    Walked d remaining pending (walk d remaining m pending) := by
  fun_induction walk d remaining m pending with
  | case1 =>
    refine ⟨fun vs h => ?_, fun vs h => by simp, fun vs h => ?_, fun f h => nomatch h⟩
    · cases h
      rw [List.flatMap_nil, Walks.follow]
    · cases h
      simp [Walks.entered]
  -- Nothing is left of the collection on top.
  | case2 remaining m p rest hleft ih =>
    obtain ⟨hp, hrest⟩ := List.forall_mem_cons.mp ready
    obtain ⟨follows, here, below, fault⟩ := ih hm hrest
    have none : (d.links p.node).length ≤ p.index := by
      have := hp.left
      omega
    have done : p.rest d = [] := by
      rwa [Pending.rest, List.drop_eq_nil_iff, Visit.parts, List.length_map]
    refine ⟨fun vs h => ?_, fun vs h => ?_, below, fault⟩
    · rw [List.flatMap_cons, done, List.nil_append]
      exact follows vs h
    · exact List.forall_mem_cons.mpr
        ⟨fun i hi => canNameAt_of_le (none.trans hi), here vs h⟩
  -- A collection with parts left has a next part.
  | case3 remaining m p rest left hleft hpart ih =>
    obtain ⟨label, part, name, m', hpart', -⟩ :=
      (ready p (List.mem_cons_self ..)).next hd keys hm hleft
    rw [hpart'] at hpart
    cases hpart
  | case4 remaining m p rest left hleft label part hpart f hname =>
    have hp := ready p (List.mem_cons_self ..)
    obtain ⟨label', part', name, m', hpart', -, hname' | hname', -⟩ := hp.next hd keys hm hleft
    · cases hpart'.symm.trans hpart
      cases hname'.1.symm.trans hname
    · cases hpart'.symm.trans hpart
      cases hname'.1.symm.trans hname
      obtain ⟨ls, reached⟩ := hp.reached
      refine ⟨fun vs h => ?_, fun vs h => ?_, fun vs h => ?_, fun f h => ?_⟩ <;> cases h
      exact ⟨rfl, not_writesKeys reached hname'.2⟩
  -- The next part has not been walked into: the walk enters it before it goes on beside it.
  | case5 remaining m p rest left hleft label part hpart name m' hname path t after hmem ih =>
    obtain ⟨hp, hrest⟩ := List.forall_mem_cons.mp ready
    obtain ⟨label', part', name', m'', hpart', hm', hname' | hname', ht, next, stops⟩ :=
      hp.next hd keys hm hleft
    · cases hpart'.symm.trans hpart
      cases hname'.1.symm.trans hname
      have todo : (p :: rest).flatMap (Pending.rest d) =
          ⟨path, t⟩ :: after.flatMap (Pending.rest d) := by
        rw [List.flatMap_cons, stops]
        rfl
      rw [hm'.edits] at ih ⊢
      obtain ⟨follows, here, below, fault⟩ := ih hm' (List.forall_mem_cons.mpr
        ⟨Pending.ready_enter path ht, List.forall_mem_cons.mpr ⟨next, hrest⟩⟩)
      refine ⟨fun vs h => ?_, fun vs h => ?_, fun vs h => ?_, fun f h => fault f (of_map_eq_error h)⟩
      all_goals obtain ⟨vs, hvs, rfl⟩ := of_map_eq_ok h
      · rw [todo, Walks.follow, if_pos hmem, follows vs hvs]
        rfl
      · obtain ⟨-, beside⟩ := List.forall_mem_cons.mp (here vs hvs)
        obtain ⟨later, others⟩ := List.forall_mem_cons.mp beside
        refine List.forall_mem_cons.mpr ⟨fun i hi => ?_, others⟩
        rcases Nat.lt_or_eq_of_le hi with hi | rfl
        · exact later i hi
        · exact hname'.2
      · rw [Walks.entered, if_pos hmem]
        exact List.forall_mem_cons.mpr
          ⟨fun i => here vs hvs _ (List.mem_cons_self ..) i (Nat.zero_le i), below vs hvs⟩
    · cases hpart'.symm.trans hpart
      cases hname'.1.symm.trans hname
  | case6 remaining m p rest left hleft label part hpart name m' hname path t after hmem ih =>
    obtain ⟨hp, hrest⟩ := List.forall_mem_cons.mp ready
    obtain ⟨label', part', name', m'', hpart', hm', hname' | hname', ht, next, stops⟩ :=
      hp.next hd keys hm hleft
    · cases hpart'.symm.trans hpart
      cases hname'.1.symm.trans hname
      have todo : (p :: rest).flatMap (Pending.rest d) =
          ⟨path, t⟩ :: after.flatMap (Pending.rest d) := by
        rw [List.flatMap_cons, stops]
        rfl
      obtain ⟨follows, here, below, fault⟩ := ih hm' (List.forall_mem_cons.mpr ⟨next, hrest⟩)
      refine ⟨fun vs h => ?_, fun vs h => ?_, fun vs h => ?_, fun f h => fault f (of_map_eq_error h)⟩
      all_goals obtain ⟨vs, hvs, rfl⟩ := of_map_eq_ok h
      · rw [todo, Walks.follow, if_neg hmem, follows vs hvs]
      · obtain ⟨later, others⟩ := List.forall_mem_cons.mp (here vs hvs)
        refine List.forall_mem_cons.mpr ⟨fun i hi => ?_, others⟩
        rcases Nat.lt_or_eq_of_le hi with hi | rfl
        · exact later i hi
        · exact hname'.2
      · rw [Walks.entered, if_neg hmem]
        exact below vs hvs
    · cases hpart'.symm.trans hpart
      cases hname'.1.symm.trans hname

/-- **The walk of a document follows its links from the root**, and ends well only if all keys of the nodes
that it goes into can be written. -/
theorem visits_spec (hd : d.IsGraph) (keys : d.HasScalarKeys) :
    (∀ vs, d.visits = .ok vs →
      vs = Walks.follow (·.node.id) (Visit.parts d) d.ids [⟨[], d⟩] ∧
        ∀ v ∈ Walks.entered (·.node.id) d.ids vs, ∀ i, d.CanNameAt v.node i) ∧
    ∀ f, d.visits = .error f → f = .integerUnwritable ∧ ¬d.WritesKeys := by
  have root : d.id ∈ d.ids := List.mem_map_of_mem hd.root_mem
  have ready := List.forall_mem_singleton.mpr (Pending.ready_enter (d := d) [] ⟨[], .here d⟩)
  obtain ⟨follows, here, below, fault⟩ :=
    walked hd keys (d.ids.erase d.id) (isFaithful_empty d) ready
  refine ⟨fun vs h => ?_, fun f h => fault f (of_map_eq_error h)⟩
  obtain ⟨vs, hvs, rfl⟩ := of_map_eq_ok h
  constructor
  · rw [Walks.follow, if_pos root, follows vs hvs, List.flatMap_singleton, List.append_nil]
    rfl
  · rw [Walks.entered, if_pos root]
    exact List.forall_mem_cons.mpr
      ⟨fun i => here vs hvs _ (List.mem_singleton_self _) i (Nat.zero_le i), below vs hvs⟩

theorem visits_eq_follow (hd : d.IsGraph) (keys : d.HasScalarKeys) (writes : d.WritesKeys) :
    d.visits = .ok (Walks.follow (·.node.id) (Visit.parts d) d.ids [⟨[], d⟩]) := by
  obtain ⟨ends, fails⟩ := visits_spec hd keys
  cases h : d.visits with
  | ok vs => rw [(ends vs h).1]
  | error f => exact absurd writes (fails f h).2

end Tree

end Conform.Yaml
