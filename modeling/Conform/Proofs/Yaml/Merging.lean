import Conform.Proofs.Yaml.Filling
import Conform.Proofs.Yaml.Graph
/-!
# Merge keys

Resolving the merge keys of a mapping edits the document, also in other mappings, and over and
again where mappings merge one another in a circle.  Whatever is done, a mapping has no entries but
those that it offers: those that it is written with, and those that its merge keys stand for
(`Edits.IsTame`).  When the merge keys of a mapping have been resolved, it has no merge key, and
what was offered before is offered still or is among its entries (`mergeAll_resolves`).  Where
mappings merge one another, the second half is needed: one of them may be resolved while another one
still lacks what it offers.
-/
namespace Conform.Yaml

open Conform.Yaml.Tree

/-! ### Mappings behind merge keys -/

namespace Tree

variable {d t u v : Tree} {x : Entry} {ms : List Tree}

/-- The mappings that the value of a merge key may be: one, or those of a sequence. -/
def mappings? (d v : Tree) : Option (List Tree) :=
  match v with
  | sequence _ _ _ ts =>
    if ts.all fun t => (d.resolve t).isMapping then some (ts.map d.resolve) else none
  | v => if v.isMapping then some [v] else none

theorem mappings?_sequence {i : Nat} {tag : String} {m : Mark} {ts : List Tree}
    (h : d.mappings? (sequence i tag m ts) = some ms) :
    (∀ s ∈ ts, (d.resolve s).isMapping = true) ∧ ms = ts.map d.resolve := by
  rw [mappings?] at h
  split at h
  · rename_i all
    exact ⟨by simpa using all, (Option.some.inj h).symm⟩
  · cases h

/-- The mappings that a node of the document stands for are nodes of it. -/
theorem mem_nodes_of_mappings? (hd : d.IsGraph) (hv : v ∈ d.nodes)
    (h : d.mappings? v = some ms) (hu : u ∈ ms) : u ∈ d.nodes := by
  cases v with
  | sequence i tag m ts =>
    obtain ⟨-, rfl⟩ := mappings?_sequence h
    obtain ⟨s, hs, rfl⟩ := List.mem_map.mp hu
    exact hd.item hv hs
  | mapping i tag m es =>
    cases h
    cases List.mem_singleton.mp hu
    exact hv
  | scalar i tag m text => cases h
  | reference i => cases h

/-- The key and the value of an entry that a node is written with are nodes. -/
theorem part_mem_of_written (hd : d.IsGraph) (ht : t ∈ d.nodes) (h : x ∈ t.written) :
    d.resolve x.key ∈ d.nodes ∧ d.resolve x.value ∈ d.nodes := by
  have hmem := mem_entries_of_mem_written h
  cases t with
  | mapping i tag m es => exact ⟨hd.key ht hmem, hd.value ht hmem⟩
  | _ => cases hmem

end Tree

namespace Entry

/-- Whether the key of an entry has the merge tag. -/
def isMerge (d : Tree) (x : Entry) : Bool := (d.resolve x.key).tag == Meaning.merge.tag

/-- The mappings whose entries an entry stands for, if its key has the merge tag. -/
def named? (d : Tree) (x : Entry) : Option (List Tree) :=
  if x.isMerge d then d.mappings? (d.resolve x.value) else none

theorem named?_eq_some_iff {d : Tree} {x : Entry} {ms : List Tree} : x.named? d = some ms ↔
    x.isMerge d = true ∧ d.mappings? (d.resolve x.value) = some ms := by
  unfold named?
  cases x.isMerge d <;> simp

end Entry

namespace Edits

variable {d t u v w : Tree} {e e' : Edits} {x y : Entry} {ms : List Tree} {es : Entries}

/-! ### What mappings offer -/

/-- Whether an entry is one of a mapping or one that its merge keys stand for. -/
inductive Offers (d : Tree) (e : Edits) : Tree → Entry → Prop
  | own {t : Tree} {x : Entry} (h : x ∈ e.entries t) : Offers d e t x
  | merged {t u : Tree} {x y : Entry} {ms : List Tree} (h : x ∈ e.entries t)
    (names : x.named? d = some ms) (hu : u ∈ ms) (offer : Offers d e u y) : Offers d e t y

/-- What the mappings behind a merge key offer is offered with it. -/
theorem Offers.trans (h : Offers d e t x) (names : x.named? d = some ms) (hu : u ∈ ms)
    (offer : Offers d e u y) : Offers d e t y := by
  induction h with
  | own h => exact .merged h names hu offer
  | merged h names' hu' _ ih => exact .merged h names' hu' (ih names)

/-- The key and the value of an entry that is offered are nodes. -/
theorem Offers.part_mem (hd : d.IsGraph) (ht : t ∈ d.nodes) (h : Offers d {} t x) :
    d.resolve x.key ∈ d.nodes ∧ d.resolve x.value ∈ d.nodes := by
  induction h with
  | own h => exact part_mem_of_written hd ht h
  | merged h names hu _ ih =>
    obtain ⟨-, hvalue⟩ := part_mem_of_written hd ht h
    obtain ⟨-, hms⟩ := Entry.named?_eq_some_iff.mp names
    exact ih (mem_nodes_of_mappings? hd hvalue hms hu)

/-- What is no mapping offers nothing. -/
theorem Offers.isMapping (h : Offers d {} t x) : t.isMapping = true := by
  obtain ⟨y, hy⟩ : ∃ y, y ∈ t.written := by
    cases h with
    | own h => exact ⟨_, h⟩
    | merged h _ _ _ => exact ⟨_, h⟩
  cases t with
  | mapping i tag m es => rfl
  | _ => cases hy

/-! ### Lists of entries -/

@[simp] theorem listsOf_setLists_self (e : Edits) (t : Tree) (ls : List Entries) :
    (e.setLists t ls).listsOf t = ls := by
  simp [listsOf, setLists]

theorem listsOf_setLists_of_ne (e : Edits) (ls : List Entries) (h : u.id ≠ t.id) :
    (e.setLists t ls).listsOf u = e.listsOf u := by
  have same : (fun p : Nat × List Entries => p.1 != t.id && p.1 == u.id) = (·.1 == u.id) := by
    funext p
    by_cases hp : p.1 = u.id <;> simp [hp, h]
  rw [listsOf, setLists, List.find?_cons_of_neg (by simpa using h.symm), List.find?_filter]
  simp only [Bool.decide_and, Bool.decide_eq_true, same, listsOf]

@[simp] theorem entries_eraseEntry_self (e : Edits) (t : Tree) (i : Nat) :
    (e.eraseEntry t i).entries t = (e.entries t).eraseIdx i := by
  simp [eraseEntry, entries]

theorem entries_eraseEntry_of_ne (e : Edits) (i : Nat) (h : u.id ≠ t.id) :
    (e.eraseEntry t i).entries u = e.entries u := by
  rw [entries, eraseEntry, listsOf_setLists_of_ne _ _ h, ← entries]

@[simp] theorem entries_prepend_self (e : Edits) (t : Tree) (es : Entries) :
    (e.prepend t es).entries t = es ++ e.entries t := by
  cases es with
  | nil => rfl
  | cons x es => simp [prepend, entries]

theorem entries_prepend_of_ne (e : Edits) (es : Entries) (h : u.id ≠ t.id) :
    (e.prepend t es).entries u = e.entries u := by
  cases es with
  | nil => rfl
  | cons x es =>
    rw [prepend, if_neg (by simp), entries, listsOf_setLists_of_ne _ _ h, ← entries]

@[simp] theorem entries_readAsText (e : Edits) (k t : Tree) :
    (e.readAsText k).entries t = e.entries t := rfl

/-! ### Edits that keep to what is offered -/

/-- Whether the lists that mappings have had hold nothing but what the mappings offer, and no keys but
default ones have become texts. -/
structure IsTame (d : Tree) (e : Edits) : Prop where
  texts : ∀ i ∈ e.texts, ∃ k ∈ d.nodes, k.id = i ∧ k.tag = Meaning.value.tag
  lists : ∀ t ∈ d.nodes, ∀ es ∈ e.listsOf t, ∀ x ∈ es, Offers d {} t x

theorem isTame_empty (d : Tree) : IsTame d {} := by
  refine ⟨by simp, fun t _ es hes x hx => ?_⟩
  cases List.mem_singleton.mp hes
  exact .own hx

namespace IsTame

theorem offers (he : e.IsTame d) (ht : t ∈ d.nodes) (hx : x ∈ e.entries t) : Offers d {} t x := by
  rw [entries] at hx
  cases hlists : e.listsOf t with
  | nil =>
    rw [hlists] at hx
    cases hx
  | cons es ls =>
    rw [hlists] at hx
    exact he.lists t ht es (hlists ▸ List.mem_cons_self ..) x hx

/-- The list that a mapping had at an age holds nothing else either. -/
theorem offers_of_entriesAt (he : e.IsTame d) (ht : t ∈ d.nodes) {age : Nat}
    (hx : x ∈ e.entriesAt t age) : Offers d {} t x := by
  rw [entriesAt] at hx
  cases hes : (e.listsOf t)[e.age t - age]? with
  | none => simp [hes] at hx
  | some es =>
    rw [hes] at hx
    exact he.lists t ht es (List.mem_of_getElem? hes) x hx

/-- The mappings behind a merge key are nodes of the document. -/
theorem mem_of_named? (hd : d.IsGraph) (he : e.IsTame d) (ht : t ∈ d.nodes) (hx : x ∈ e.entries t)
    (names : x.named? d = some ms) (hu : u ∈ ms) : u ∈ d.nodes := by
  obtain ⟨-, hvalue⟩ := (he.offers ht hx).part_mem hd ht
  obtain ⟨-, hms⟩ := Entry.named?_eq_some_iff.mp names
  exact mem_nodes_of_mappings? hd hvalue hms hu

theorem setLists (hd : d.IsGraph) (he : e.IsTame d) (ht : t ∈ d.nodes) {ls : List Entries}
    (hls : ∀ es ∈ ls, ∀ x ∈ es, Offers d {} t x) : (e.setLists t ls).IsTame d := by
  refine ⟨he.texts, fun u hu => ?_⟩
  by_cases hid : u.id = t.id
  · rw [hd.eq_of_id_eq hu ht hid, listsOf_setLists_self]
    exact hls
  · rw [listsOf_setLists_of_ne _ _ hid]
    exact he.lists u hu

theorem eraseEntry (hd : d.IsGraph) (he : e.IsTame d) (ht : t ∈ d.nodes) (i : Nat) :
    (e.eraseEntry t i).IsTame d := by
  refine he.setLists hd ht (List.forall_mem_cons.mpr ⟨fun x hx => ?_, fun es hes => ?_⟩)
  · exact he.offers ht (List.mem_of_mem_eraseIdx hx)
  · exact he.lists t ht es (List.mem_of_mem_tail hes)

theorem prepend (hd : d.IsGraph) (he : e.IsTame d) (ht : t ∈ d.nodes)
    (hes : ∀ x ∈ es, Offers d {} t x) : (e.prepend t es).IsTame d := by
  rw [Edits.prepend]
  split
  · exact he
  · refine he.setLists hd ht (List.forall_mem_cons.mpr ⟨fun x hx => ?_, he.lists t ht⟩)
    exact (List.mem_append.mp hx).elim (hes x) (he.offers ht)

theorem readsDefaults (he : e.IsTame d) : e.ReadsDefaults d := he.texts

theorem readAsText (he : e.IsTame d) (ht : t ∈ d.nodes) (htag : t.tag = Meaning.value.tag) :
    (e.readAsText t).IsTame d :=
  ⟨he.readsDefaults.readAsText ht htag, he.lists⟩

theorem tagOf_cases (hd : d.IsGraph) (he : e.IsTame d) (ht : t ∈ d.nodes) :
    e.tagOf t = t.tag ∨ t.tag = Meaning.value.tag ∧ e.tagOf t = Meaning.str.tag :=
  he.readsDefaults.tagOf_cases hd.nodup ht

/-- A key has the merge tag from the start or never. -/
theorem means_merge (hd : d.IsGraph) (he : e.IsTame d) (hkey : d.resolve x.key ∈ d.nodes) :
    e.means .merge (d.resolve x.key) = x.isMerge d := by
  unfold means Entry.isMerge
  rcases he.tagOf_cases hd hkey with htag | ⟨hvalue, htag⟩
  · rw [htag]
  -- Neither the tag of a default value nor that of the text that it becomes is the merge tag.
  · rw [htag, hvalue]
    decide

theorem tag_of_means_value (hd : d.IsGraph) (he : e.IsTame d) (ht : t ∈ d.nodes)
    (h : e.means .value t = true) : t.tag = Meaning.value.tag :=
  he.readsDefaults.tag_of_means_value hd.nodup ht h

/-- A node becomes a container by its tag or not at all. -/
theorem container_eq (hd : d.IsGraph) (he : e.IsTame d) (ht : t ∈ d.nodes) :
    (t.meaning? e).bind container? = t.tagContainer? :=
  he.readsDefaults.container_eq hd.nodup ht

end IsTame

-- The functions that resolve call one another, so that there is one statement for each of them, by
-- induction on the fuel.

mutual

/-- Resolving leaves the edits tame, whether it succeeds or not. -/
theorem mergeAll_isTame (hd : d.IsGraph) : ∀ (fuel : Nat) {e : Edits} {t : Tree},
    t ∈ d.nodes → e.IsTame d → (mergeAll d fuel e t).1.IsTame d
  | 0, _, _, _, he => he
  | fuel + 1, e, t, ht, he => by
    rw [mergeAll]
    split
    · exact he
    · exact mergeFrom_isTame hd fuel ht he (by simp) 0

/-- Going through the entries of a mapping puts nothing in front but what the mapping offers. -/
theorem mergeFrom_isTame (hd : d.IsGraph) : ∀ (fuel : Nat) {e : Edits} {t : Tree}
    {merged : Entries}, t ∈ d.nodes → e.IsTame d → (∀ x ∈ merged, Offers d {} t x) →
    ∀ i, (mergeFrom d fuel e t merged i).1.IsTame d
  | 0, _, _, _, _, he, _, _ => he
  | fuel + 1, e, t, merged, ht, he, hmerged, i => by
    rw [mergeFrom]
    cases hx : (e.entries t)[i]? with
    -- All entries have been gone through, and those that have been taken are put in front.
    | none => exact he.prepend hd ht hmerged
    | some x =>
      have offered := he.offers ht (List.mem_of_getElem? hx)
      obtain ⟨hkey, hvalue⟩ := offered.part_mem hd ht
      dsimp only
      split
      -- What the value of a merge key comes to is offered by the mapping, too.
      · rename_i merge
        have taken := mergeValue_isTame hd fuel hvalue (he.eraseEntry hd ht i)
        generalize mergeValue d fuel (e.eraseEntry t i) (d.resolve x.value) = r at taken
        obtain ⟨e₁, more⟩ := r
        cases more with
        | none => exact taken.1
        | some more =>
          obtain ⟨ms, hms, hmore⟩ := taken.2 more rfl
          have names : x.named? d = some ms :=
            Entry.named?_eq_some_iff.mpr ⟨he.means_merge hd hkey ▸ merge, hms⟩
          refine mergeFrom_isTame hd fuel ht taken.1 (fun y hy => ?_) i
          rcases List.mem_append.mp hy with hy | hy
          · exact hmerged y hy
          · obtain ⟨u, hu, offer⟩ := hmore y hy
            exact offered.trans names hu offer
      · split
        -- A default key becomes a text; another one is left alone.
        · rename_i default
          have htag := he.tag_of_means_value hd hkey default
          exact mergeFrom_isTame hd fuel ht (he.readAsText hkey htag) hmerged (i + 1)
        · exact mergeFrom_isTame hd fuel ht he hmerged (i + 1)

/-- What is taken for the value of a merge key is offered by the mappings that it stands for. -/
theorem mergeValue_isTame (hd : d.IsGraph) : ∀ (fuel : Nat) {e : Edits} {v : Tree},
    v ∈ d.nodes → e.IsTame d → (mergeValue d fuel e v).1.IsTame d ∧
      ∀ more, (mergeValue d fuel e v).2 = some more →
        ∃ ms, d.mappings? v = some ms ∧ ∀ y ∈ more, ∃ u ∈ ms, Offers d {} u y
  | 0, _, _, _, he => ⟨he, fun _ h => nomatch h⟩
  | fuel + 1, e, .sequence i tag m ts, hv, he => by
    obtain ⟨tame, taken⟩ := mergeItems_isTame hd fuel (fun t ht => hd.item hv ht) he []
    refine ⟨tame, fun more hmore => ?_⟩
    obtain ⟨all, offers⟩ := taken more hmore
    refine ⟨ts.map d.resolve, if_pos (by simpa using all), fun y hy => ?_⟩
    obtain ⟨t, ht, offer⟩ := (offers y hy).resolve_left (List.not_mem_nil)
    exact ⟨_, List.mem_map_of_mem ht, offer⟩
  | fuel + 1, e, .mapping i tag m es, hv, he => by
    have tame := mergeAll_isTame hd fuel hv he
    simp only [mergeValue, isMapping, if_true]
    generalize mergeAll d fuel e (mapping i tag m es) = r at tame
    obtain ⟨e₁, ok⟩ := r
    cases ok with
    | false => exact ⟨tame, fun _ h => nomatch h⟩
    | true =>
      refine ⟨tame, fun more hmore => ⟨_, rfl, fun y hy => ⟨_, List.mem_singleton_self _, ?_⟩⟩⟩
      cases hmore
      exact tame.offers hv hy
  | fuel + 1, e, .scalar i tag m text, hv, he => ⟨he, fun _ h => nomatch h⟩
  | fuel + 1, e, .reference i, hv, he => ⟨he, fun _ h => nomatch h⟩

/-- What is taken for the items of a sequence is offered by them. -/
theorem mergeItems_isTame (hd : d.IsGraph) : ∀ (fuel : Nat) {e : Edits} {ts : List Tree},
    (∀ t ∈ ts, d.resolve t ∈ d.nodes) → e.IsTame d →
    ∀ merged, (mergeItems d fuel e merged ts).1.IsTame d ∧
      ∀ more, (mergeItems d fuel e merged ts).2 = some more →
        (∀ t ∈ ts, (d.resolve t).isMapping = true) ∧
          ∀ y ∈ more, y ∈ merged ∨ ∃ t ∈ ts, Offers d {} (d.resolve t) y
  | 0, _, _, _, he, _ => ⟨he, fun _ h => nomatch h⟩
  | fuel + 1, e, [], _, he, merged =>
    ⟨he, fun more h => ⟨by simp, fun y hy => Or.inl (Option.some.inj h ▸ hy)⟩⟩
  | fuel + 1, e, t :: ts, hts, he, merged => by
    obtain ⟨ht, hts⟩ := List.forall_mem_cons.mp hts
    rw [mergeItems]
    split
    · rename_i mapping
      have tame := mergeAll_isTame hd fuel ht he
      generalize mergeAll d fuel e (d.resolve t) = r at tame
      obtain ⟨e₁, ok⟩ := r
      cases ok with
      | false => exact ⟨tame, fun _ h => nomatch h⟩
      | true =>
        obtain ⟨tame', taken⟩ :=
          mergeItems_isTame hd fuel hts tame (e₁.entries (d.resolve t) ++ merged)
        refine ⟨tame', fun more hmore => ?_⟩
        obtain ⟨all, offers⟩ := taken more hmore
        refine ⟨List.forall_mem_cons.mpr ⟨mapping, all⟩, fun y hy => ?_⟩
        rcases offers y hy with hy | ⟨s, hs, offer⟩
        · rcases List.mem_append.mp hy with hy | hy
          · exact Or.inr ⟨t, List.mem_cons_self .., tame.offers ht hy⟩
          · exact Or.inl hy
        · exact Or.inr ⟨s, List.mem_cons_of_mem _ hs, offer⟩
    · exact ⟨he, fun _ h => nomatch h⟩

end

/-- Resolving the merge keys of a node leaves the edits tame, whether it succeeds or not. -/
theorem flatten_isTame (hd : d.IsGraph) (ht : t ∈ d.nodes) (he : e.IsTame d) :
    (e.flatten d t).1.IsTame d := by
  rw [flatten]
  split
  · exact mergeAll_isTame hd _ ht he
  · exact he

/-! ### What resolving comes to -/

/-- Whether none of some entries has a merge key. -/
def AreResolved (d : Tree) (es : Entries) : Prop := ∀ x ∈ es, x.isMerge d = false

/-- What happens to a document while the merge keys of a mapping are resolved, which comes to some
entries.  Other mappings are resolved with it or left alone; what they offered they still offer, or it
is among the entries. -/
structure Resolves (d : Tree) (e e' : Edits) (es : Entries) : Prop where
  resolved : AreResolved d es
  entries : ∀ w ∈ d.nodes, e'.entries w = e.entries w ∨ AreResolved d (e'.entries w)
  offers : ∀ w ∈ d.nodes, ∀ y, y.named? d = none → Offers d e w y → Offers d e' w y ∨ y ∈ es

theorem Resolves.trans {e₁ : Edits} {es' : Entries} (h : Resolves d e e₁ es)
    (h' : Resolves d e₁ e' es') (sub : es ⊆ es') : Resolves d e e' es' := by
  refine ⟨h'.resolved, fun w hw => ?_, fun w hw y kept offer => ?_⟩
  · rcases h'.entries w hw with same | resolved
    · rw [same]
      exact h.entries w hw
    · exact Or.inr resolved
  · rcases h.offers w hw y kept offer with offer | hy
    · exact h'.offers w hw y kept offer
    · exact Or.inr (sub hy)

/-- A mapping without merge keys offers what it has. -/
theorem Offers.mem_of_areResolved (h : Offers d e t y) (resolved : AreResolved d (e.entries t)) :
    y ∈ e.entries t := by
  cases h with
  | own h => exact h
  | merged h names _ _ =>
    obtain ⟨merge, -⟩ := Entry.named?_eq_some_iff.mp names
    cases merge.symm.trans (resolved _ h)

/-- More entries offer more. -/
theorem Offers.mono (hd : d.IsGraph) (he : e.IsTame d)
    (sub : ∀ w ∈ d.nodes, e.entries w ⊆ e'.entries w) (h : Offers d e t y) (ht : t ∈ d.nodes) :
    Offers d e' t y := by
  induction h with
  | own h => exact .own (sub _ ht h)
  | merged h names hu _ ih =>
    exact .merged (sub _ ht h) names hu (ih (he.mem_of_named? hd ht h names hu))

/-- When a merge key is removed, what it stood for is lost to the mapping. -/
theorem Offers.eraseEntry (hd : d.IsGraph) (he : e.IsTame d) (ht : t ∈ d.nodes) {i : Nat}
    (hx : (e.entries t)[i]? = some x) (names : x.named? d = some ms) (kept : y.named? d = none)
    (h : Offers d e w y) (hw : w ∈ d.nodes) :
    Offers d (e.eraseEntry t i) w y ∨ ∃ u ∈ ms, Offers d (e.eraseEntry t i) u y := by
  -- Another entry stays where it was.
  have stays : ∀ {w z}, w ∈ d.nodes → z ∈ e.entries w →
      z ∈ (e.eraseEntry t i).entries w ∨ z = x := by
    intro w z hw hz
    by_cases hid : w.id = t.id
    · obtain rfl := hd.eq_of_id_eq hw ht hid
      obtain ⟨j, hj⟩ := List.getElem?_of_mem hz
      rw [entries_eraseEntry_self, List.mem_eraseIdx_iff_getElem?]
      by_cases hij : j = i
      · rw [hij, hx] at hj
        exact Or.inr (Option.some.inj hj).symm
      · exact Or.inl ⟨j, hij, hj⟩
    · exact Or.inl ((entries_eraseEntry_of_ne e i hid).symm ▸ hz)
  induction h with
  | own h =>
    refine (stays hw h).imp .own fun same => ?_
    rw [same, names] at kept
    cases kept
  | merged h names' hu _ ih =>
    rcases ih kept (he.mem_of_named? hd hw h names' hu) with offer | lost
    · rcases stays hw h with h | rfl
      · exact Or.inl (.merged h names' hu offer)
      · cases names'.symm.trans names
        exact Or.inr ⟨_, hu, offer⟩
    · exact Or.inr lost

/-- At the end of its entries a mapping gets those that have been taken on the way. -/
theorem resolves_prepend (hd : d.IsGraph) (he : e.IsTame d) (ht : t ∈ d.nodes)
    (resolved : AreResolved d ((e.prepend t es).entries t)) :
    Resolves d e (e.prepend t es) ((e.prepend t es).entries t) := by
  constructor
  case resolved => exact resolved
  case entries =>
    intro w hw
    by_cases hid : w.id = t.id
    · exact Or.inr (hd.eq_of_id_eq hw ht hid ▸ resolved)
    · exact Or.inl (entries_prepend_of_ne e es hid)
  -- No mapping has fewer entries than before.
  case offers =>
    intro w hw y _ offer
    refine Or.inl (offer.mono hd he (fun w hw => ?_) hw)
    by_cases hid : w.id = t.id
    · rw [hd.eq_of_id_eq hw ht hid, entries_prepend_self]
      exact List.subset_append_right ..
    · rw [entries_prepend_of_ne e es hid]
      exact fun _ hy => hy

/-- When a merge key has been removed, it is enough that all that it stood for is taken. -/
theorem Resolves.of_eraseEntry (hd : d.IsGraph) (he : e.IsTame d) (ht : t ∈ d.nodes) {i : Nat}
    (hx : (e.entries t)[i]? = some x) (names : x.named? d = some ms)
    (h : Resolves d (e.eraseEntry t i) e' es) (resolved : AreResolved d (e'.entries t))
    (offers : ∀ u ∈ ms, ∀ y, y.named? d = none → Offers d (e.eraseEntry t i) u y → y ∈ es) :
    Resolves d e e' es := by
  constructor
  case resolved => exact h.resolved
  case entries =>
    intro w hw
    by_cases hid : w.id = t.id
    · exact Or.inr (hd.eq_of_id_eq hw ht hid ▸ resolved)
    · rw [← entries_eraseEntry_of_ne e i hid]
      exact h.entries w hw
  case offers =>
    intro w hw y kept offer
    rcases offer.eraseEntry hd he ht hx names kept hw with offer | ⟨u, hu, offer⟩
    · exact h.offers w hw y kept offer
    · exact Or.inr (offers u hu y kept offer)

mutual

/-- **Resolving the merge keys of a mapping**, where it succeeds, comes to the entries that the mapping
has then. -/
theorem mergeAll_resolves (hd : d.IsGraph) : ∀ (fuel : Nat) {e e' : Edits} {t : Tree},
    t ∈ d.nodes → e.IsTame d → mergeAll d fuel e t = (e', true) → Resolves d e e' (e'.entries t)
  | 0, _, _, _, _, _, h => nomatch h
  | fuel + 1, e, e', t, ht, he, h => by
    rw [mergeAll] at h
    split at h
    · rename_i plain
      cases h
      refine ⟨fun x hx => ?_, fun _ _ => Or.inl rfl, fun _ _ _ _ => Or.inl⟩
      obtain ⟨hkey, -⟩ := (he.offers ht hx).part_mem hd ht
      have := List.all_eq_true.mp plain x hx
      simp_all [isPlainKey, he.means_merge hd hkey]
    · exact (mergeFrom_resolves hd fuel ht he (by simp [AreResolved]) (by simp [AreResolved]) h).1

/-- So does going through the entries of a mapping, which has all entries in the end that have been
taken on the way. -/
theorem mergeFrom_resolves (hd : d.IsGraph) : ∀ (fuel : Nat) {e e' : Edits} {t : Tree}
    {merged : Entries} {i : Nat}, t ∈ d.nodes → e.IsTame d → AreResolved d merged →
    AreResolved d ((e.entries t).take i) → mergeFrom d fuel e t merged i = (e', true) →
    Resolves d e e' (e'.entries t) ∧ merged ⊆ e'.entries t
  | 0, _, _, _, _, _, _, _, _, _, h => nomatch h
  | fuel + 1, e, e', t, merged, i, ht, he, hmerged, before, h => by
    rw [mergeFrom] at h
    cases hx : (e.entries t)[i]? with
    -- All entries have been gone through.
    | none =>
      rw [hx] at h
      cases h
      rw [List.take_of_length_le (List.getElem?_eq_none_iff.mp hx)] at before
      have resolved : AreResolved d ((e.prepend t merged).entries t) := by
        rw [entries_prepend_self]
        exact List.forall_mem_append.mpr ⟨hmerged, before⟩
      refine ⟨resolves_prepend hd he ht resolved, ?_⟩
      rw [entries_prepend_self]
      exact List.subset_append_left ..
    | some x =>
      obtain ⟨hkey, hvalue⟩ := (he.offers ht (List.mem_of_getElem? hx)).part_mem hd ht
      have means := he.means_merge hd hkey
      rw [hx] at h
      dsimp only at h
      split at h
      -- The merge key is removed, and its value is resolved before the walk through the entries goes
      -- on where the key has been.
      · rename_i merge
        have tame := mergeValue_isTame hd fuel hvalue (he.eraseEntry hd ht i)
        cases taken : mergeValue d fuel (e.eraseEntry t i) (d.resolve x.value) with
        | mk e₁ more =>
          rw [taken] at h tame
          cases more with
          | none => cases h
          | some more =>
            obtain ⟨value, ms, hms, offers⟩ :=
              mergeValue_resolves hd fuel hvalue (he.eraseEntry hd ht i) taken
            have names : x.named? d = some ms :=
              Entry.named?_eq_some_iff.mpr ⟨means ▸ merge, hms⟩
            -- The entries in front are the same, or all of them have been resolved meanwhile.
            have before' : AreResolved d ((e₁.entries t).take i) := by
              rcases value.entries t ht with same | resolved
              · rwa [same, entries_eraseEntry_self,
                  List.take_eraseIdx_eq_take_of_le _ _ _ (Nat.le_refl i)]
              · exact fun x hx => resolved x (List.mem_of_mem_take hx)
            have hmore : AreResolved d (merged ++ more) :=
              List.forall_mem_append.mpr ⟨hmerged, value.resolved⟩
            obtain ⟨rest, sub⟩ := mergeFrom_resolves hd fuel ht tame.1 hmore before' h
            have sub' : more ⊆ e'.entries t := fun y hy => sub (List.mem_append_right _ hy)
            refine ⟨(value.trans rest sub').of_eraseEntry hd he ht hx names rest.resolved ?_, ?_⟩
            · exact fun u hu y kept offer => sub' (offers u hu y kept offer)
            · exact fun y hy => sub (List.mem_append_left _ hy)
      · rename_i other
        have next : AreResolved d ((e.entries t).take (i + 1)) := by
          rw [List.take_add_one, hx]
          exact List.forall_mem_append.mpr ⟨before, by simpa [means] using other⟩
        split at h
        -- A default key becomes a text, which changes no entries.
        · rename_i default
          have htag := he.tag_of_means_value hd hkey default
          obtain ⟨rest, sub⟩ :=
            mergeFrom_resolves hd fuel ht (he.readAsText hkey htag) hmerged next h
          refine ⟨⟨rest.resolved, rest.entries, fun w hw y kept offer => ?_⟩, sub⟩
          exact rest.offers w hw y kept (offer.mono hd he (fun _ _ _ hy => hy) hw)
        · exact mergeFrom_resolves hd fuel ht he hmerged next h

/-- Resolving for the value of a merge key comes to all that is offered by the mappings that it stands
for. -/
theorem mergeValue_resolves (hd : d.IsGraph) : ∀ (fuel : Nat) {e e' : Edits} {v : Tree}
    {more : Entries}, v ∈ d.nodes → e.IsTame d → mergeValue d fuel e v = (e', some more) →
    Resolves d e e' more ∧ ∃ ms, d.mappings? v = some ms ∧
      ∀ u ∈ ms, ∀ y, y.named? d = none → Offers d e u y → y ∈ more
  | 0, _, _, _, _, _, _, h => nomatch h
  | fuel + 1, e, e', .sequence i tag m ts, more, hv, he, h => by
    obtain ⟨items, -, offers⟩ :=
      mergeItems_resolves hd fuel (fun t ht => hd.item hv ht) he (by simp [AreResolved]) h
    refine ⟨items, _, if_pos (by simpa using fun t ht => (offers t ht).1), ?_⟩
    exact List.forall_mem_map.mpr fun t ht => (offers t ht).2
  | fuel + 1, e, e', .mapping i tag m es, more, hv, he, h => by
    simp only [mergeValue, isMapping, if_true] at h
    cases taken : mergeAll d fuel e (mapping i tag m es) with
    | mk e₁ ok =>
      rw [taken] at h
      cases ok with
      | false => cases h
      | true =>
        cases h
        have all := mergeAll_resolves hd fuel hv he taken
        refine ⟨all, _, rfl, List.forall_mem_singleton.mpr fun y kept offer => ?_⟩
        exact (all.offers _ hv y kept offer).elim (·.mem_of_areResolved all.resolved) id
  | fuel + 1, e, _, .scalar i tag m text, _, hv, he, h => nomatch h
  | fuel + 1, e, _, .reference i, _, hv, he, h => nomatch h

/-- So does going through the items of a sequence. -/
theorem mergeItems_resolves (hd : d.IsGraph) : ∀ (fuel : Nat) {e e' : Edits} {ts : List Tree}
    {merged more : Entries}, (∀ t ∈ ts, d.resolve t ∈ d.nodes) → e.IsTame d →
    AreResolved d merged → mergeItems d fuel e merged ts = (e', some more) →
    Resolves d e e' more ∧ merged ⊆ more ∧ ∀ t ∈ ts, (d.resolve t).isMapping = true ∧
      ∀ y, y.named? d = none → Offers d e (d.resolve t) y → y ∈ more
  | 0, _, _, _, _, _, _, _, _, h => nomatch h
  | fuel + 1, e, e', [], merged, more, _, he, hmerged, h => by
    cases h
    exact ⟨⟨hmerged, fun _ _ => Or.inl rfl, fun _ _ _ _ => Or.inl⟩, fun _ hy => hy, by simp⟩
  | fuel + 1, e, e', t :: ts, merged, more, hts, he, hmerged, h => by
    obtain ⟨ht, hts⟩ := List.forall_mem_cons.mp hts
    rw [mergeItems] at h
    split at h
    · rename_i mapping
      -- The first mapping's entries go before those merged so far.  What it offers after the rest has
      -- been merged is in the list already, or was offered when its own turn came.
      have tame := mergeAll_isTame hd fuel ht he
      cases taken : mergeAll d fuel e (d.resolve t) with
      | mk e₁ ok =>
        rw [taken] at h tame
        cases ok with
        | false => cases h
        | true =>
          have first := mergeAll_resolves hd fuel ht he taken
          have front : AreResolved d (e₁.entries (d.resolve t) ++ merged) :=
            List.forall_mem_append.mpr ⟨first.resolved, hmerged⟩
          obtain ⟨rest, sub, offers⟩ := mergeItems_resolves hd fuel hts tame front h
          have sub' : e₁.entries (d.resolve t) ⊆ more := fun y hy => sub (List.mem_append_left _ hy)
          refine ⟨first.trans rest sub', fun y hy => sub (List.mem_append_right _ hy), ?_⟩
          refine List.forall_mem_cons.mpr ⟨⟨mapping, fun y kept offer => ?_⟩, fun s hs => ?_⟩
          · rcases first.offers _ ht y kept offer with offer | hy
            · exact sub' (offer.mem_of_areResolved first.resolved)
            · exact sub' hy
          · refine ⟨(offers s hs).1, fun y kept offer => ?_⟩
            rcases first.offers _ (hts s hs) y kept offer with offer | hy
            · exact (offers s hs).2 y kept offer
            · exact sub' hy
    · cases h

end

end Edits

end Conform.Yaml
