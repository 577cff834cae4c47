import Conform.Proofs.Yaml.Plain
import Mathlib.Data.List.Perm.Subperm
/-!
# Filling in a plain document

Filling in goes through a queue of containers.  At its end every node of a plain document has been
begun, so that each scalar is one and each key is a scalar (`fillIn_regular`); and all that has been
changed on the way is that default keys became texts (`Edits.IsMild`).
-/
namespace Conform.Yaml

open Conform.Yaml.Tree

theorem meaning?_tag (m : Meaning) : Yaml.meaning? m.tag = some m := by
  cases m <;> decide

/-- Whether no list of entries has been changed, and only default keys have become texts. -/
structure Edits.IsMild (d : Tree) (e : Edits) : Prop where
  lists : e.lists = []
  texts : ∀ i ∈ e.texts, ∃ k ∈ d.nodes, k.id = i ∧ k.tag = Meaning.value.tag

/-- The container that the tag of a node asks for. -/
def Tree.tagContainer? (t : Tree) : Option Container := (Yaml.meaning? t.tag).bind container?

namespace Edits

variable {d t : Tree} {e : Edits}

theorem isMild_empty (d : Tree) : IsMild d {} := ⟨rfl, by simp⟩

theorem IsMild.entries_eq (h : e.IsMild d) (t : Tree) : e.entries t = t.written := by
  simp [entries, listsOf, h.lists]

/-- Whether only default keys of a document have become texts. -/
def ReadsDefaults (d : Tree) (e : Edits) : Prop :=
  ∀ i ∈ e.texts, ∃ k ∈ d.nodes, k.id = i ∧ k.tag = Meaning.value.tag

namespace ReadsDefaults

theorem tagOf_cases (h : e.ReadsDefaults d) (nodup : d.ids.Nodup) (ht : t ∈ d.nodes) :
    e.tagOf t = t.tag ∨ t.tag = Meaning.value.tag ∧ e.tagOf t = Meaning.str.tag := by
  unfold tagOf
  cases htexts : e.texts.contains t.id with
  | false => exact Or.inl rfl
  | true =>
    obtain ⟨k, hk, hid, htag⟩ := h t.id (List.contains_iff_mem.mp htexts)
    exact Or.inr ⟨List.inj_on_of_nodup_map nodup hk ht hid ▸ htag, rfl⟩

/-- A node becomes a container by its tag or not at all. -/
theorem container_eq (h : e.ReadsDefaults d) (nodup : d.ids.Nodup) (ht : t ∈ d.nodes) :
    (t.meaning? e).bind container? = t.tagContainer? := by
  unfold Tree.meaning? tagContainer?
  rcases h.tagOf_cases nodup ht with htag | ⟨hvalue, htag⟩
  · rw [htag]
  · rw [htag, hvalue, meaning?_tag, meaning?_tag]
    rfl

theorem tag_of_means_value (h : e.ReadsDefaults d) (nodup : d.ids.Nodup) (ht : t ∈ d.nodes)
    (means : e.means .value t = true) : t.tag = Meaning.value.tag := by
  rcases h.tagOf_cases nodup ht with htag | ⟨htag, -⟩
  · rw [← htag]
    simpa [Edits.means] using means
  · exact htag

theorem readAsText (h : e.ReadsDefaults d) (ht : t ∈ d.nodes) (htag : t.tag = Meaning.value.tag) :
    (e.readAsText t).ReadsDefaults d := by
  intro i hi
  rcases List.mem_cons.mp hi with rfl | hi
  · exact ⟨t, ht, rfl, htag⟩
  · exact h i hi

end ReadsDefaults

namespace IsMild

theorem readsDefaults (h : e.IsMild d) : e.ReadsDefaults d := h.texts

theorem tagOf_cases (h : e.IsMild d) (hd : d.Plain) (ht : t ∈ d.nodes) :
    e.tagOf t = t.tag ∨ t.tag = Meaning.value.tag ∧ e.tagOf t = Meaning.str.tag :=
  h.readsDefaults.tagOf_cases hd.nodup ht

/-- What has been changed in a plain document does not make a container of anything. -/
theorem container_eq (h : e.IsMild d) (hd : d.Plain) (ht : t ∈ d.nodes) :
    (t.meaning? e).bind container? = t.tagContainer? :=
  h.readsDefaults.container_eq hd.nodup ht

theorem readAsText (h : e.IsMild d) (ht : t ∈ d.nodes) (htag : t.tag = Meaning.value.tag) :
    (e.readAsText t).IsMild d :=
  ⟨h.lists, h.readsDefaults.readAsText ht htag⟩

end IsMild

end Edits

theorem Tree.mem_entries_of_mem_written {t : Tree} {x : Entry} (h : x ∈ t.written) :
    (x.key, x.value) ∈ t.entries := by
  obtain ⟨i, hi, rfl⟩ := List.mem_mapIdx.mp h
  exact List.getElem_mem hi

theorem Tree.exists_mem_written {t : Tree} {p : Tree × Tree} (h : p ∈ t.entries) :
    ∃ x ∈ t.written, x.key = p.1 ∧ x.value = p.2 := by
  obtain ⟨i, hi, rfl⟩ := List.getElem_of_mem h
  exact ⟨_, List.mem_mapIdx.mpr ⟨i, hi, rfl⟩, rfl, rfl⟩

namespace Edits

variable {d : Tree}

/-- Going through the entries of a plain mapping makes texts of its default keys. -/
theorem mergeFrom_isMild (hd : d.Plain) {i : Nat} {tag : String} {m : Mark}
    {es : List (Tree × Tree)} (ht : mapping i tag m es ∈ d.nodes) (fuel : Nat) (e : Edits)
    (he : e.IsMild d) (n : Nat) :
    (mergeFrom d fuel e (mapping i tag m es) [] n).1.IsMild d := by
  induction fuel generalizing e n with
  | zero => exact he
  | succ fuel ih =>
    rw [mergeFrom, he.entries_eq]
    cases hx : (mapping i tag m es).written[n]? with
    | none => simpa [prepend] using he
    | some x =>
      have hmem : (x.key, x.value) ∈ es := mem_entries_of_mem_written (List.mem_of_getElem? hx)
      have hkey : x.key ∈ d.nodes := hd.key ht hmem
      have noMerge := ((isPlain_mapping_iff.mp (hd.isPlain_of_mem ht)).2 _ hmem).1
      dsimp only
      rw [hd.resolve hkey]
      -- A key that became a text on the way is no merge key either.
      have hmerge : e.means .merge x.key = false := by
        unfold means
        rcases he.tagOf_cases hd hkey with htag | ⟨-, htag⟩
        · rw [htag]
          simpa using noMerge
        · rw [htag]
          decide
      rw [hmerge]
      cases hvalue : e.means .value x.key with
      | false => exact ih e he (n + 1)
      | true =>
        have htag := he.readsDefaults.tag_of_means_value hd.nodup hkey hvalue
        exact ih _ (he.readAsText hkey htag) (n + 1)

theorem flatten_isMild (hd : d.Plain) {t : Tree} (ht : t ∈ d.nodes) {e : Edits}
    (he : e.IsMild d) : (e.flatten d t).1.IsMild d := by
  unfold flatten
  cases t with
  | mapping i tag m es =>
    simp only [isMapping, if_true]
    generalize fuelFor d = fuel
    cases fuel with
    | zero => exact he
    | succ fuel =>
      rw [mergeAll]
      split
      · exact he
      · exact mergeFrom_isMild hd ht fuel e he 0
  | _ => exact he

end Edits

/-! ### Beginning nodes -/

namespace Tree

theorem container_of_begin {d t : Tree} {e : Edits} {c : Container}
    (h : Tree.begin d e t = .ok (.container c)) : (t.meaning? e).bind container? = some c := by
  unfold Tree.begin at h
  cases hm : t.meaning? e with
  | none => simp [hm] at h
  | some m =>
    cases hc : container? m with
    | some c' => simpa [hm, hc] using h
    | none =>
      cases hs : scalarText? d e (d.size + 1) t with
      | none => simp [hm, hc, hs] at h
      | some s =>
        simp only [hm, hc, hs] at h
        cases hv : scalarValue t m s.toList <;> simp [hv] at h

theorem value_of_begin {d t : Tree} {e : Edits} {v : Value}
    (h : Tree.begin d e t = .ok (.value v)) : ∃ m s, t.meaning? e = some m ∧ container? m = none ∧
      scalarText? d e (d.size + 1) t = some s ∧ scalarValue t m s.toList = .ok v := by
  unfold Tree.begin at h
  cases hm : t.meaning? e with
  | none => simp [hm] at h
  | some m =>
    cases hc : container? m with
    | some c' => simp [hm, hc] at h
    | none =>
      cases hs : scalarText? d e (d.size + 1) t with
      | none => simp [hm, hc, hs] at h
      | some s =>
        simp only [hm, hc, hs] at h
        cases hv : scalarValue t m s.toList with
        | error f => simp [hv] at h
        | ok w =>
          simp only [hv, Functor.map, Except.map, Except.ok.injEq, Begun.value.injEq] at h
          exact ⟨m, s, rfl, hc, rfl, h ▸ hv⟩

/-- What the numbers of begun nodes say about a part of a container. -/
def Part.IsBegun (begun : List Nat) : Part → Prop
  | .key t => t.id ∈ begun ∧ t.tagContainer? = none
  | .item t => t.id ∈ begun
  | .refused => False

/-- Whether the parts of a collection have been begun, and no key is a container. -/
def PartsBegun (begun : List Nat) : Tree → Prop
  | sequence _ _ _ ts => ∀ t ∈ ts, t.id ∈ begun
  | mapping _ _ _ es => ∀ e ∈ es, (e.1.id ∈ begun ∧ e.1.tagContainer? = none) ∧ e.2.id ∈ begun
  | _ => False

/-- Whether a part is a node of the document. -/
def Part.IsIn (d : Tree) : Part → Prop
  | .key t => t ∈ d.nodes
  | .item t => t ∈ d.nodes
  | .refused => True

theorem PartsBegun.mono {begun begun' : List Nat} (sub : begun ⊆ begun') {t : Tree}
    (h : t.PartsBegun begun) : t.PartsBegun begun' := by
  cases t with
  | scalar i tag m text => exact h
  | sequence i tag m ts => exact fun t ht => sub (h t ht)
  | mapping i tag m es => exact fun e he => ⟨⟨sub (h e he).1.1, (h e he).1.2⟩, sub (h e he).2⟩
  | reference i => exact h

theorem Part.IsBegun.mono {begun begun' : List Nat} (sub : begun ⊆ begun') {p : Part}
    (h : p.IsBegun begun) : p.IsBegun begun' := by
  cases p with
  | key t => exact ⟨sub h.1, h.2⟩
  | item t => exact sub h
  | refused => exact h

namespace Filling

/-- What holds while a plain document is filled in; `taken` are the containers that have been taken
from the queue.  Every container that has been begun is among them or in the queue. -/
structure Sound (d : Tree) (taken : List Tree) (f : Filling) : Prop where
  edits : f.edits.IsMild d
  begunWith : ∀ p ∈ f.history.begun, p.2.IsMild d
  filledWith : ∀ p ∈ f.history.filled, p.2.IsMild d
  begun : ∀ t ∈ d.nodes, t.id ∈ f.begun → t.tagContainer? = none ∨ t ∈ taken ∨
    t ∈ f.queue.map (·.2)
  containers : ∀ t ∈ taken ++ f.queue.map (·.2), t ∈ d.nodes ∧ t.id ∈ f.begun
  queue : ∀ q ∈ f.queue, q.2.tagContainer? = some q.1
  nodup : (taken ++ f.queue.map (·.2)).Nodup

variable {d : Tree} {taken : List Tree} {f f' : Filling}

/-- What is queued next joins the containers behind the others. -/
theorem mem_queued_concat {queue : List (Container × Tree)} {q : Container × Tree} {t : Tree} :
    t ∈ taken ++ (queue ++ [q]).map (·.2) ↔ t ∈ taken ++ queue.map (·.2) ∨ t = q.2 := by
  simp [or_assoc]

theorem nodup_queued_concat {queue : List (Container × Tree)} {q : Container × Tree}
    (h : (taken ++ queue.map (·.2)).Nodup) (new : q.2 ∉ taken ++ queue.map (·.2)) :
    (taken ++ (queue ++ [q]).map (·.2)).Nodup := by
  rw [List.map_append, List.map_cons, List.map_nil, ← List.append_assoc]
  refine List.nodup_append.mpr ⟨h, by simp, fun u hu w hw => ?_⟩
  cases List.mem_singleton.mp hw
  rintro rfl
  exact new hu

/-- A node that is begun has been begun before, or has a value, or is queued as a container. -/
theorem begin_cases {t : Tree} (h : f.begin d t = .ok f') :
    t.id ∈ f.begun ∧ f' = f ∨ t.id ∉ f.begun ∧
      ∃ known, known = { f with
          begun := t.id :: f.begun, history := f.history.recordBegun t f.edits } ∧
        ((∃ v, Tree.begin d f.edits t = .ok (.value v) ∧ f' = known) ∨
          ∃ c, Tree.begin d f.edits t = .ok (.container c) ∧
            f' = { known with queue := known.queue ++ [(c, t)] }) := by
  unfold Filling.begin at h
  cases hbegun : f.begun.contains t.id with
  | true =>
    rw [hbegun] at h
    cases h
    exact Or.inl ⟨List.contains_iff_mem.mp hbegun, rfl⟩
  | false =>
    simp only [hbegun, Bool.false_eq_true, if_false] at h
    obtain ⟨b, hb, h⟩ := of_bind_eq_ok h
    refine Or.inr ⟨by simpa using hbegun, _, rfl, ?_⟩
    cases b with
    | value v =>
      cases h
      exact Or.inl ⟨v, hb, rfl⟩
    | container c =>
      cases h
      exact Or.inr ⟨c, hb, rfl⟩

theorem begin_sound (hd : d.Plain) (hf : f.Sound d taken) {t : Tree} (ht : t ∈ d.nodes)
    (h : f.begin d t = .ok f') :
    f'.Sound d taken ∧ f.begun ⊆ f'.begun ∧ t.id ∈ f'.begun ∧ f'.edits = f.edits := by
  have mild : ∀ p ∈ (f.history.recordBegun t f.edits).begun, p.2.IsMild d := by
    unfold History.recordBegun
    split
    · exact hf.begunWith
    · exact List.forall_mem_cons.mpr ⟨hf.edits, hf.begunWith⟩
  have filled : (f.history.recordBegun t f.edits).filled = f.history.filled := by
    unfold History.recordBegun
    split <;> rfl
  rcases begin_cases h with ⟨old, rfl⟩ | ⟨new, _, rfl, ⟨v, hb, rfl⟩ | ⟨c, hb, rfl⟩⟩
  · exact ⟨hf, fun _ h => h, old, rfl⟩
  · obtain ⟨m, -, hm, hc, -⟩ := value_of_begin hb
    have leaf : t.tagContainer? = none := by
      rw [← hf.edits.container_eq hd ht, hm]
      exact hc
    refine ⟨⟨hf.edits, mild, filled ▸ hf.filledWith, ?_, ?_, hf.queue, hf.nodup⟩,
      List.subset_cons_self .., List.mem_cons_self .., rfl⟩
    · intro u hu hmem
      rcases List.mem_cons.mp hmem with hid | hmem
      · exact Or.inl (hd.eq_of_id_eq hu ht hid ▸ leaf)
      · exact hf.begun u hu hmem
    · exact fun u hu => (hf.containers u hu).imp_right (List.mem_cons_of_mem _)
  · have htag : t.tagContainer? = some c :=
      (hf.edits.container_eq hd ht).symm.trans (container_of_begin hb)
    refine ⟨⟨hf.edits, mild, filled ▸ hf.filledWith, ?_, ?_, ?_, ?_⟩,
      List.subset_cons_self .., List.mem_cons_self .., rfl⟩
    · intro u hu hmem
      rcases List.mem_cons.mp hmem with hid | hmem
      · rw [hd.eq_of_id_eq hu ht hid]
        simp
      · rcases hf.begun u hu hmem with h | h | h
        · exact Or.inl h
        · exact Or.inr (Or.inl h)
        · exact Or.inr (Or.inr (by simp_all))
    · intro u hu
      rcases mem_queued_concat.mp hu with hu | rfl
      · exact (hf.containers u hu).imp_right (List.mem_cons_of_mem _)
      · exact ⟨ht, List.mem_cons_self ..⟩
    · intro q hq
      rcases List.mem_append.mp hq with hq | hq
      · exact hf.queue q hq
      · cases List.mem_singleton.mp hq
        exact htag
    -- A container that was queued before would have been begun.
    · exact nodup_queued_concat hf.nodup fun h => new (hf.containers t h).2

theorem addPart_sound (hd : d.Plain) (hf : f.Sound d taken) {p : Part} (hp : p.IsIn d)
    (h : f.addPart d p = .ok f') :
    f'.Sound d taken ∧ f.begun ⊆ f'.begun ∧ p.IsBegun f'.begun := by
  cases p with
  | refused => cases h
  | item t =>
    simp only [addPart, hd.resolve hp] at h
    obtain ⟨sound, sub, begun, -⟩ := begin_sound hd hf hp h
    exact ⟨sound, sub, begun⟩
  | key t =>
    simp only [addPart, hd.resolve hp] at h
    obtain ⟨f₁, h₁, h⟩ := of_bind_eq_ok h
    obtain ⟨sound, sub, begun, -⟩ := begin_sound hd hf hp h₁
    cases hc : t.isContainer f₁.edits with
    | true =>
      rw [hc] at h
      cases h
    | false =>
      rw [hc] at h
      cases h
      refine ⟨sound, sub, begun, ?_⟩
      rw [← sound.edits.container_eq hd hp]
      simpa [isContainer] using hc

theorem foldlM_addPart_sound (hd : d.Plain) {ps : List Part} (hps : ∀ p ∈ ps, p.IsIn d)
    (hf : f.Sound d taken) (h : ps.foldlM (addPart d) f = .ok f') :
    f'.Sound d taken ∧ f.begun ⊆ f'.begun ∧ ∀ p ∈ ps, p.IsBegun f'.begun := by
  induction ps generalizing f with
  | nil =>
    cases h
    exact ⟨hf, fun _ h => h, by simp⟩
  | cons p ps ih =>
    rw [List.foldlM_cons] at h
    obtain ⟨f₁, h₁, h⟩ := of_bind_eq_ok h
    obtain ⟨hp, hps⟩ := List.forall_mem_cons.mp hps
    obtain ⟨sound, sub, begun⟩ := addPart_sound hd hf hp h₁
    obtain ⟨sound', sub', begun'⟩ := ih hps sound h
    exact ⟨sound', fun i hi => sub' (sub hi),
      List.forall_mem_cons.mpr ⟨begun.mono sub', begun'⟩⟩

theorem resolveKeys_sound (hd : d.Plain) (hf : f.Sound d taken) {c : Container} {t : Tree}
    (ht : t ∈ d.nodes) (h : f.resolveKeys d c t = .ok f') :
    f'.Sound d taken ∧ f'.begun = f.begun := by
  have mild := Edits.flatten_isMild hd ht hf.edits
  unfold resolveKeys at h
  split at h
  · cases h
    exact ⟨hf, rfl⟩
  · cases h
    exact ⟨hf, rfl⟩
  · split at h
    · rename_i e hflat
      cases h
      rw [hflat] at mild
      exact ⟨{ hf with edits := mild }, rfl⟩
    · cases h

theorem recordFilled_sound (hf : f.Sound d taken) (t : Tree) :
    ({ f with history := f.history.recordFilled t f.edits } : Filling).Sound d taken := by
  have begun : (f.history.recordFilled t f.edits).begun = f.history.begun := by
    unfold History.recordFilled
    split <;> rfl
  have filled : ∀ p ∈ (f.history.recordFilled t f.edits).filled, p.2.IsMild d := by
    unfold History.recordFilled
    split
    · exact hf.filledWith
    · exact List.forall_mem_cons.mpr ⟨hf.edits, hf.filledWith⟩
  exact { hf with begunWith := begun ▸ hf.begunWith, filledWith := filled }

/-- The parts of a collection that is filled: nothing but a collection can be. -/
theorem parts_spec (hd : d.Plain) {e : Edits} (he : e.IsMild d) {c : Container} {t : Tree}
    (ht : t ∈ d.nodes) (hc : t.tagContainer? = some c) (hmap : c = .list ∨ t.isMapping = true) :
    (∀ p ∈ d.parts e c t, p.IsIn d) ∧
      ∀ begun, (∀ p ∈ d.parts e c t, p.IsBegun begun) → t.PartsBegun begun := by
  have plain := hd.isPlain_of_mem ht
  cases t with
  | scalar i tag m text =>
    -- A scalar tagged as a list is refused when it is filled, which begins nothing.
    rcases hmap with rfl | hmap
    · exact ⟨by simp [parts, Part.IsIn], fun begun h => h .refused (by simp [parts])⟩
    · cases hmap
  | sequence i tag m ts =>
    obtain ⟨rfl, -⟩ := isPlain_sequence_iff.mp plain
    rw [tagContainer?, tag, meaning?_tag] at hc
    cases hc
    constructor
    · intro p hp
      obtain ⟨u, hu, rfl⟩ := List.mem_map.mp hp
      exact hd.item ht hu
    · exact fun begun h u hu => h (.item u) (List.mem_map_of_mem hu)
  | mapping i tag m es =>
    obtain ⟨rfl, -⟩ := isPlain_mapping_iff.mp plain
    rw [tagContainer?, tag, meaning?_tag] at hc
    cases hc
    simp only [parts, he.entries_eq, List.mem_flatMap]
    constructor
    · rintro p ⟨x, hx, hp⟩
      have hmem : (x.key, x.value) ∈ es := mem_entries_of_mem_written hx
      simp only [List.mem_cons, List.not_mem_nil, or_false] at hp
      rcases hp with rfl | rfl
      · exact hd.key ht hmem
      · exact hd.value ht hmem
    · intro begun h y hy
      obtain ⟨x, hx, hkey, hvalue⟩ := exists_mem_written (t := mapping i _ m es) hy
      have key := h (.key x.key) ⟨x, hx, by simp⟩
      have value := h (.item x.value) ⟨x, hx, by simp⟩
      exact ⟨hkey ▸ key, hvalue ▸ value⟩
  | reference i => simp [isPlain] at plain

/-- Filling a container begins its parts. -/
theorem fill_sound (hd : d.Plain) {t : Tree} {c : Container} (hf : f.Sound d taken)
    (ht : t ∈ d.nodes) (hc : t.tagContainer? = some c) (h : f.fill d c t = .ok f') :
    f'.Sound d taken ∧ f.begun ⊆ f'.begun ∧ t.PartsBegun f'.begun := by
  obtain ⟨f₁, h₁, h⟩ := of_bind_eq_ok h
  obtain ⟨sound₁, begun₁⟩ := resolveKeys_sound hd hf ht h₁
  have sound₂ := recordFilled_sound sound₁ t
  have hparts : (d.parts f₁.edits c t).foldlM (addPart d)
      { f₁ with history := f₁.history.recordFilled t f₁.edits } = .ok f' := h
  by_cases hmap : c = .list ∨ t.isMapping = true
  · obtain ⟨isIn, done⟩ := parts_spec hd sound₁.edits ht hc hmap
    obtain ⟨sound, sub, begun⟩ := foldlM_addPart_sound hd isIn sound₂ hparts
    exact ⟨sound, fun i hi => sub (begun₁ ▸ hi), done _ begun⟩
  · -- Neither pairs nor the keys of a scalar or a sequence can be gone through.
    obtain ⟨hlist, hmapping⟩ := not_or.mp hmap
    have flat : f.edits.flatten d t = (f.edits, false) := by simp [Edits.flatten, hmapping]
    have plain := hd.isPlain_of_mem ht
    cases t with
    | scalar i tag m text =>
      cases c with
      | list => exact absurd rfl hlist
      | pairs => cases hparts
      | map => simp [resolveKeys, flat] at h₁
      | set => simp [resolveKeys, flat] at h₁
    | sequence i tag m ts =>
      obtain ⟨rfl, -⟩ := isPlain_sequence_iff.mp plain
      rw [tagContainer?, tag, meaning?_tag] at hc
      exact absurd (Option.some.inj hc).symm hlist
    | mapping i tag m es => exact absurd rfl hmapping
    | reference i => simp [isPlain] at plain

/-- Taking a container from the queue. -/
theorem Sound.take {q : Container × Tree} {rest : List (Container × Tree)} (hf : f.Sound d taken)
    (hq : f.queue = q :: rest) : ({ f with queue := rest } : Filling).Sound d (q.2 :: taken) := by
  have perm : (taken ++ f.queue.map (·.2)).Perm (q.2 :: taken ++ rest.map (·.2)) := by
    rw [hq]
    exact List.perm_middle
  refine ⟨hf.edits, hf.begunWith, hf.filledWith, ?_, ?_, ?_, perm.nodup hf.nodup⟩
  · intro t ht hbegun
    rcases hf.begun t ht hbegun with h | h | h
    · exact Or.inl h
    · exact Or.inr (Or.inl (List.mem_cons_of_mem _ h))
    · rw [hq, List.map_cons, List.mem_cons] at h
      rcases h with rfl | h
      · exact Or.inr (Or.inl (List.mem_cons_self ..))
      · exact Or.inr (Or.inr h)
  · exact fun t ht => hf.containers t (perm.mem_iff.mpr ht)
  · exact fun p hp => hf.queue p (hq ▸ List.mem_cons_of_mem _ hp)

end Filling

theorem length_nodes_le_size (t : Tree) : t.nodes.length ≤ t.size := by
  induction t using inductionOnParts with
  | scalar i tag m text => exact Nat.le_refl 1
  | sequence i tag m ts ih =>
    have items : (nodesItems ts).length ≤ sizeItems ts := by
      induction ts with
      | nil => exact Nat.le_refl 0
      | cons t ts ihs =>
        have := ih t (List.mem_cons_self ..)
        have := ihs fun u hu => ih u (List.mem_cons_of_mem _ hu)
        rw [nodesItems, sizeItems, List.length_append]
        omega
    exact Nat.succ_le_succ items
  | mapping i tag m es ih =>
    have entries : (nodesEntries es).length ≤ sizeEntries es := by
      induction es with
      | nil => exact Nat.le_refl 0
      | cons e es ihs =>
        have := ih e (List.mem_cons_self ..)
        have := ihs fun u hu => ih u (List.mem_cons_of_mem _ hu)
        rw [nodesEntries, sizeEntries, List.length_append, List.length_append]
        omega
    exact Nat.succ_le_succ entries
  | reference i => exact Nat.zero_le 1

/-- Whether all edits that were noted are mild. -/
structure History.IsMild (d : Tree) (h : History) : Prop where
  begun : ∀ p ∈ h.begun, p.2.IsMild d
  filled : ∀ p ∈ h.filled, p.2.IsMild d

namespace Filling

variable {d : Tree}

/-- When the queue is empty, every container that has been begun has been filled.  There is fuel for
it: the containers that are taken are different nodes of the document. -/
theorem run_sound (hd : d.Plain) {fuel : Nat} {f : Filling} {taken : List Tree}
    (hf : f.Sound d taken) (filled : ∀ t ∈ taken, t.PartsBegun f.begun)
    (enough : d.nodes.length < fuel + taken.length) {h : History} (hrun : f.run d fuel = .ok h) :
    h.IsMild d ∧ ∃ begun, f.begun ⊆ begun ∧ ∀ t ∈ d.nodes, t.id ∈ begun →
      t.tagContainer? = none ∨ t.PartsBegun begun := by
  induction fuel generalizing f taken with
  -- Without fuel, more containers would have been taken than there are nodes.
  | zero =>
    have distinct : taken.Nodup := (List.nodup_append.mp hf.nodup).1
    have sub : taken ⊆ d.nodes :=
      fun t ht => (hf.containers t (List.mem_append_left _ ht)).1
    have := (List.subperm_of_subset distinct sub).length_le
    omega
  | succ fuel ih =>
    rw [run] at hrun
    cases hq : f.queue with
    | nil =>
      rw [hq] at hrun
      cases hrun
      -- Nothing is queued, so that what has been begun has been taken.
      refine ⟨⟨hf.begunWith, hf.filledWith⟩, f.begun, fun _ hi => hi, fun t ht hbegun => ?_⟩
      rcases hf.begun t ht hbegun with h | h | h
      · exact Or.inl h
      · exact Or.inr (filled t h)
      · simp [hq] at h
    | cons q rest =>
      rw [hq] at hrun
      obtain ⟨f', hfill, hrun⟩ := of_bind_eq_ok hrun
      have sound := hf.take hq
      obtain ⟨ht, -⟩ := hf.containers q.2 (by simp [hq])
      have htag : q.2.tagContainer? = some q.1 := hf.queue q (by simp [hq])
      obtain ⟨sound', sub, parts⟩ := fill_sound hd sound ht htag hfill
      have filled' : ∀ t ∈ q.2 :: taken, t.PartsBegun f'.begun :=
        List.forall_mem_cons.mpr ⟨parts, fun t ht => (filled t ht).mono sub⟩
      obtain ⟨mild, begun, sub', regular⟩ :=
        ih sound' filled' (by rw [List.length_cons]; omega) hrun
      exact ⟨mild, begun, fun i hi => sub' (sub hi), regular⟩

end Filling

/-- Whether a scalar is no container, and the keys of a mapping are scalars. -/
def IsRegular : Tree → Prop
  | scalar i tag m text => (scalar i tag m text).tagContainer? = none
  | mapping _ _ _ es => ∀ e ∈ es, ∃ i tag m text, e.1 = scalar i tag m text
  | _ => True

theorem tagContainer?_sequence {i : Nat} {tag : String} {m : Mark} {ts : List Tree}
    (h : (sequence i tag m ts).isPlain = true) :
    (sequence i tag m ts).tagContainer? = some .list := by
  obtain ⟨rfl, -⟩ := isPlain_sequence_iff.mp h
  rw [tagContainer?, Tree.tag, meaning?_tag]
  rfl

theorem tagContainer?_mapping {i : Nat} {tag : String} {m : Mark} {es : List (Tree × Tree)}
    (h : (mapping i tag m es).isPlain = true) :
    (mapping i tag m es).tagContainer? = some .map := by
  obtain ⟨rfl, -⟩ := isPlain_mapping_iff.mp h
  rw [tagContainer?, Tree.tag, meaning?_tag]
  rfl

/-- **A plain document that can be filled in is regular**, and mildly edited on the way. -/
theorem fillIn_regular {d : Tree} (hd : d.Plain) {h : History} (hfill : d.fillIn = .ok h) :
    h.IsMild d ∧ ∀ t ∈ d.nodes, t.IsRegular := by
  obtain ⟨f, hbegin, hrun⟩ := of_bind_eq_ok hfill
  have root := mem_nodes_self hd.isPlain
  have start : Filling.Sound d [] {} :=
    ⟨Edits.isMild_empty d, by simp, by simp, by simp, by simp, by simp, by simp⟩
  obtain ⟨sound, -, hroot, -⟩ := Filling.begin_sound hd start root hbegin
  have enough : d.nodes.length < d.size + 1 + ([] : List Tree).length :=
    Nat.lt_succ_of_le (length_nodes_le_size d)
  obtain ⟨mild, begun, sub, filled⟩ := Filling.run_sound hd sound (by simp) enough hrun
  have parts : ∀ t ∈ d.nodes, t.id ∈ begun → t.tagContainer? ≠ none → t.PartsBegun begun :=
    fun t ht hbegun hne => (filled t ht hbegun).resolve_left hne
  -- From the root on, the parts of what has been begun have been begun.
  have all : ∀ t ∈ d.nodes, t.id ∈ begun → ∀ u ∈ t.nodes, u.id ∈ begun ∧ u.IsRegular := by
    intro t
    induction t using inductionOnParts with
    | scalar i tag m text =>
      intro ht hbegun u hu
      cases List.mem_singleton.mp hu
      exact ⟨hbegun, (filled _ ht hbegun).resolve_right fun h => h⟩
    | sequence i tag m ts ih =>
      intro ht hbegun u hu
      have items := parts _ ht hbegun (by simp [tagContainer?_sequence (hd.isPlain_of_mem ht)])
      rcases List.mem_cons.mp hu with rfl | hu
      · exact ⟨hbegun, trivial⟩
      · obtain ⟨x, hx, hu⟩ := mem_nodesItems_iff.mp hu
        exact ih x hx (hd.item ht hx) (items x hx) u hu
    | mapping i tag m es ih =>
      intro ht hbegun u hu
      have entries := parts _ ht hbegun (by simp [tagContainer?_mapping (hd.isPlain_of_mem ht)])
      rcases List.mem_cons.mp hu with rfl | hu
      · refine ⟨hbegun, fun e he => ?_⟩
        -- A collection as a key would have been refused.
        have leaf := (entries e he).1.2
        have plain := hd.isPlain_of_mem (hd.key ht he)
        cases hk : e.1 with
        | scalar i tag m text => exact ⟨i, tag, m, text, rfl⟩
        | sequence i tag m ts =>
          rw [hk] at leaf plain
          rw [tagContainer?_sequence plain] at leaf
          cases leaf
        | mapping i tag m ts =>
          rw [hk] at leaf plain
          rw [tagContainer?_mapping plain] at leaf
          cases leaf
        | reference i => simp [hk, isPlain] at plain
      · obtain ⟨e, he, hu⟩ := mem_nodesEntries_iff.mp hu
        rcases hu with hu | hu
        · exact (ih e he).1 (hd.key ht he) (entries e he).1.1 u hu
        · exact (ih e he).2 (hd.value ht he) (entries e he).2 u hu
    | reference i =>
      intro ht hbegun u hu
      cases hu
  exact ⟨mild, fun t ht => (all d root (sub hroot) t ht).2⟩

end Tree

end Conform.Yaml
