import Conform.Proofs.Source.Kept
import Conform.Proofs.Yaml.Coverage
/-!
# Drawing a source map where loading succeeds

The walk that a source map is drawn from makes the keys that it comes to, each with all of its parts,
and resolves merge keys on the way.  In a document that has been loaded it comes to nothing but what
has been begun for the instance, so that there is a source map unless a key cannot be written
(`exists_document_of_loaded`).  Only a mapping with the tag of a scalar may have keys that loading does
not look at.
-/
namespace Conform

namespace Yaml

open Conform.Yaml.Tree

namespace Tree

/-- Whether an integer of a document cannot be written. -/
def HasLongScalar (d : Tree) : Prop :=
  ∃ t ∈ d.nodes, ∃ v, t.scalar? = some v ∧ v.isWritable = false

/-- Whether a value can be written, if all integers of a document can. -/
def Shows (d : Tree) (v : Value) : Prop := ¬d.HasLongScalar → v.isWritable = true

variable {d t : Tree} {v : Value}

theorem shows_of_scalar? (ht : t ∈ d.nodes) (hv : t.scalar? = some v) : d.Shows v := by
  intro short
  cases written : v.isWritable with
  | true => rfl
  | false => exact absurd ⟨t, ht, v, hv, written⟩ short

theorem shows_str (s : String) : d.Shows (.str s) := fun _ => rfl

theorem shows_list {xs : List Value} (h : ∀ x ∈ xs, d.Shows x) : d.Shows (.list xs) :=
  fun short => Value.areWritable_iff.mpr fun x hx => h x hx short

theorem shows_pair {v w : Value} (hv : d.Shows v) (hw : d.Shows w) : d.Shows (.tuple [v, w]) :=
  fun short => Value.areWritable_iff.mpr (by simp [hv short, hw short])

theorem shows_mapOf {ps : List (Value × Value)} (h : ∀ p ∈ ps, d.Shows p.1 ∧ d.Shows p.2) :
    d.Shows (Value.mapOf ps) :=
  fun short => Value.isWritable_mapOf fun p hp => ⟨(h p hp).1 short, (h p hp).2 short⟩

theorem shows_setOf {ps : List (Value × Value)} (h : ∀ p ∈ ps, d.Shows p.1 ∧ d.Shows p.2) :
    d.Shows (Value.setOf (ps.map (·.1))) :=
  fun short => Value.isWritable_setOf (List.forall_mem_map.mpr fun p hp => (h p hp).1 short)

/-- What is begun with a value has one that is shown. -/
theorem shows_of_begin (hd : d.IsGraph) (tags : d.HasProperMappings) (ht : t ∈ d.nodes) {e : Edits}
    (he : e.IsTame d) (h : Tree.begin d e t = .ok (.value v)) : d.Shows v := by
  obtain ⟨i, tag, m, text, rfl, -⟩ := Begins.scalar hd tags ht ⟨e, v, he, h⟩
  obtain ⟨mean, s, hmean, none, hs, hv⟩ := value_of_begin h
  cases hs
  rcases he.tagOf_cases hd ht with same | ⟨-, str⟩
  · rw [Tree.meaning?, same] at hmean
    refine shows_of_scalar? ht ?_
    have other : tag ≠ Meaning.value.tag := by
      rintro rfl
      cases (meaning?_tag _).symm.trans hmean
      cases hv
    rw [scalar?, if_neg other, show Yaml.meaning? tag = some mean from hmean, Option.bind_some, hv]
    rfl
  · rw [Tree.meaning?, str, meaning?_tag] at hmean
    cases hmean
    cases hv
    exact shows_str _

end Tree

namespace Making

variable {d t : Tree} {α β : Type} {P : α → Prop} {Q : β → Prop}

/-! ### Making without a fault -/

/-- Whether the edits of a document are tame and what has been made of its nodes is shown. -/
structure IsTame (m : Making) (d : Tree) : Prop where
  edits : m.edits.IsTame d
  made : ∀ e ∈ m.made, d.Shows e.2

theorem isTame_empty (d : Tree) : IsTame {} d := ⟨Edits.isTame_empty d, by simp⟩

/-- Whether a step of making never ends in a fault, leaves what has been made tame, and makes only what has a
property. -/
def IsSafe (d : Tree) (P : α → Prop) (x : Maker α) : Prop := ∀ m, m.IsTame d →
  (∀ a, (x.run m).1 = .ok a → P a) ∧ (∀ f, (x.run m).1 ≠ .error (.fault f)) ∧
    (x.run m).2.IsTame d

theorem isSafe_pure {a : α} (h : P a) : IsSafe d P (pure a) :=
  fun _ hm => ⟨fun _ ha => Except.ok.inj ha ▸ h, fun _ hf => (nomatch hf), hm⟩

theorem isSafe_malformed : IsSafe d P (throw .malformed) :=
  fun _ hm => ⟨fun _ ha => (nomatch ha), fun _ hf => (nomatch hf), hm⟩

/-- What comes after a failure is not made. -/
theorem isSafe_malformed_bind (f : α → Maker β) : IsSafe d Q (throw .malformed >>= f) :=
  fun _ hm => ⟨fun _ ha => (nomatch ha), fun _ hf => (nomatch hf), hm⟩

theorem isSafe_modify_bind {f : Making → Making} {x : Unit → Maker β}
    (hf : ∀ m, m.IsTame d → (f m).IsTame d) (hx : IsSafe d Q (x ())) :
    IsSafe d Q (modify f >>= x) := by
  intro m hm
  rw [run_bind, run_modify]
  exact hx (f m) (hf m hm)

theorem IsSafe.bind {x : Maker α} {f : α → Maker β} (hx : IsSafe d P x)
    (hf : ∀ a, P a → IsSafe d Q (f a)) : IsSafe d Q (x >>= f) := by
  intro m hm
  obtain ⟨made, noFault, tame⟩ := hx m hm
  rw [run_bind]
  generalize x.run m = r at made noFault tame
  obtain ⟨r, m'⟩ := r
  cases r with
  | ok a => exact hf a (made a rfl) m' tame
  | error g =>
    exact ⟨fun _ ha => (nomatch ha), fun f h => noFault f (by rw [Except.error.inj h]), tame⟩

/-- What is looked up is known to be tame. -/
theorem isSafe_get_bind {f : Making → Maker β} (hf : ∀ m, m.IsTame d → IsSafe d Q (f m)) :
    IsSafe d Q (get >>= f) := by
  intro m hm
  rw [run_bind, run_get]
  exact hf m hm m hm

theorem IsSafe.map {x : Maker α} {f : α → β} (hx : IsSafe d P x) (hf : ∀ a, P a → Q (f a)) :
    IsSafe d Q (f <$> x) := by
  rw [map_eq_pure_bind]
  exact hx.bind fun a ha => isSafe_pure (hf a ha)

theorem isSafe_mapM {f : α → Maker β} {as : List α} (h : ∀ a ∈ as, IsSafe d Q (f a)) :
    IsSafe d (∀ b ∈ ·, Q b) (as.mapM f) := by
  induction as with
  | nil =>
    rw [List.mapM_nil]
    exact isSafe_pure (by simp)
  | cons a as ih =>
    obtain ⟨ha, has⟩ := List.forall_mem_cons.mp h
    rw [List.mapM_cons]
    exact ha.bind fun b hb => (ih has).bind fun bs hbs =>
      isSafe_pure (List.forall_mem_cons.mpr ⟨hb, hbs⟩)

theorem isSafe_resolveKeys_bind (hd : d.IsGraph) (ht : t ∈ d.nodes) {f : Unit → Maker β}
    (hf : IsSafe d Q (f ())) : IsSafe d Q (resolveKeys d t >>= f) := by
  intro m hm
  have tame := Edits.flatten_isTame hd ht hm.edits
  simp only [resolveKeys, run_bind, run_get]
  generalize m.edits.flatten d t = r at tame
  obtain ⟨e, ok⟩ := r
  have hm' : Making.IsTame { m with edits := e } d := ⟨tame, hm.made⟩
  simp only [run_modify]
  cases ok with
  | false => exact ⟨fun _ ha => (nomatch ha), fun _ hf => (nomatch hf), hm'⟩
  | true => exact hf _ hm'

theorem isSafe_finish (t : Tree) {v : Value} (hv : d.Shows v) :
    IsSafe d d.Shows (do modify (·.finish t v); pure v) := by
  refine isSafe_modify_bind (f := (·.finish t v)) (fun m hm => ?_) (isSafe_pure hv)
  exact ⟨hm.edits, List.forall_mem_cons.mpr ⟨hv, hm.made⟩⟩

/-- Key and value of an entry are made one after the other, if the key can be one. -/
theorem IsSafe.entry {key value : Maker Value} (hkey : IsSafe d d.Shows key)
    (hvalue : IsSafe d d.Shows value) : IsSafe d (fun p => d.Shows p.1 ∧ d.Shows p.2) (do
      let k ← key
      if !canBeKey k then throw .malformed
      return (k, ← value)) := by
  refine hkey.bind fun k hk => ?_
  split
  · exact isSafe_malformed_bind _
  · exact hvalue.bind fun v hv => isSafe_pure ⟨hk, hv⟩

/-- A node is begun without a fault; where it becomes a container, its tag asks for one. -/
theorem isSafe_begin_bind (hd : d.IsGraph) (ht : t ∈ d.nodes)
    (noFault : ∀ e : Edits, e.IsTame d → ∀ f, Tree.begin d e t ≠ .error (.fault f))
    (shows : ∀ e : Edits, e.IsTame d → ∀ v, Tree.begin d e t = .ok (.value v) → d.Shows v)
    {f : Begun → Maker β} (value : ∀ v, d.Shows v → IsSafe d Q (f (.value v)))
    (container : ∀ c, t.tagContainer? = some c → IsSafe d Q (f (.container c))) :
    IsSafe d Q (Making.begin d t >>= f) := by
  intro m hm
  have noFault := noFault m.edits hm.edits
  simp only [run_bind, Making.begin, run_get]
  cases hb : Tree.begin d m.edits t with
  | error g =>
    refine ⟨fun a ha => ?_, fun f h => noFault f ?_, hm⟩
    · cases ha
    · rw [hb, Except.error.inj h]
  | ok b =>
    cases b with
    | value v => exact value v (shows m.edits hm.edits v hb) m hm
    | container c =>
      exact container c ((hm.edits.container_eq hd ht).symm.trans (container_of_begin hb)) m hm

end Making

namespace Tree

open Making

variable {d t : Tree} {begun : List Nat}

section

variable (hd : d.IsGraph) (tags : d.HasProperMappings) (covered : d.IsCovered begun)
include hd tags covered

/-- **What is open is made without a fault**, with all of its parts; so is what has the merge tag, as
it cannot be begun. -/
theorem isSafe_make (fuel : Nat) (ht : d.resolve t ∈ d.nodes)
    (h : d.IsOpen begun (d.resolve t) ∨ (d.resolve t).tag = Meaning.merge.tag) :
    IsSafe d d.Shows (d.make fuel t) := by
  induction fuel generalizing t with
  | zero =>
    rw [make]
    exact isSafe_malformed
  | succ fuel ih =>
    rw [make]
    generalize d.resolve t = u at ht h
    -- A key is open or has the merge tag, and a value is open.
    have parts {w : Tree} (hw : w ∈ d.nodes) (opened : d.IsOpen begun w) {e : Edits}
        (he : e.IsTame d) {x : Entry} (hx : x ∈ e.entries w) :
        IsSafe d d.Shows (d.make fuel x.key) ∧ IsSafe d d.Shows (d.make fuel x.value) := by
      have offer := he.offers hw hx
      obtain ⟨hkey, hvalue⟩ := offer.part_mem hd hw
      obtain ⟨key, value⟩ := opened.entry hd tags covered hw offer
      exact ⟨ih hkey key, ih hvalue (Or.inl value)⟩
    refine isSafe_get_bind fun m hm => ?_
    cases known : m.value? u with
    | some v =>
      obtain ⟨e, hfind, rfl⟩ := Option.map_eq_some_iff.mp known
      exact isSafe_pure (hm.made e (List.mem_of_find?_eq_some hfind))
    | none =>
      dsimp only
      refine isSafe_get_bind fun m hm => ?_
      split
      · exact isSafe_malformed_bind _
      · refine isSafe_modify_bind (f := (·.start u)) (fun m hm => ⟨hm.edits, hm.made⟩) ?_
        have noFault (e : Edits) (he : e.IsTame d) (f : Fault) :
            Tree.begin d e u ≠ .error (.fault f) := by
          rcases h with opened | htag
          · exact opened.begin_ne_fault hd tags covered ht he f
          · rw [begin_merge hd he ht htag]
            simp
        refine isSafe_begin_bind hd ht noFault (fun e he v => shows_of_begin hd tags ht he)
          (fun v hv => (isSafe_pure hv).bind fun v hv => isSafe_finish u hv) fun c hc => ?_
        -- What becomes a container has not the merge tag.
        have opened : d.IsOpen begun u := h.resolve_right fun htag => by
          rw [tagContainer?, htag, meaning?_tag] at hc
          cases hc
        cases c with
        | list =>
          cases u with
          | sequence i tag mark ts =>
            refine .bind (.map (isSafe_mapM fun t hmem => ?_) fun _ => shows_list)
              fun v hv => isSafe_finish _ hv
            exact ih (hd.item ht hmem) (Or.inl (opened.item hd tags covered ht hmem))
          | _ => exact isSafe_malformed_bind _
        | map =>
          refine isSafe_resolveKeys_bind hd ht (isSafe_get_bind fun m hm => ?_)
          refine .bind (.map (isSafe_mapM fun x hx => ?_) fun _ => shows_mapOf)
            fun v hv => isSafe_finish u hv
          exact .entry (parts ht opened hm.edits hx).1 (parts ht opened hm.edits hx).2
        | set =>
          refine isSafe_resolveKeys_bind hd ht (isSafe_get_bind fun m hm => ?_)
          refine .bind (.map (isSafe_mapM fun x hx => ?_) fun _ => shows_setOf)
            fun v hv => isSafe_finish u hv
          exact .entry (parts ht opened hm.edits hx).1 (parts ht opened hm.edits hx).2
        | pairs =>
          cases u with
          | sequence i tag mark ts =>
            refine .bind (.map (isSafe_mapM fun t hmem => isSafe_get_bind fun m hm => ?_)
              fun _ => shows_list) fun v hv => isSafe_finish _ hv
            cases hx : (d.resolve t).single? m.edits with
            | none => exact isSafe_malformed
            | some x =>
              have hx' := (Filling.of_single? hx).2 ▸ List.mem_singleton_self x
              obtain ⟨key, value⟩ :=
                parts (hd.item ht hmem) (opened.item hd tags covered ht hmem) hm.edits hx'
              refine .map (P := fun p => d.Shows p.1 ∧ d.Shows p.2)
                (key.bind fun k hk => value.bind fun v hv => isSafe_pure ⟨hk, hv⟩) ?_
              exact fun p hp => shows_pair hp.1 hp.2
          | _ => exact isSafe_malformed_bind _

/-! ### The walk -/

/-- What is open has a name as a key, if its value can be written. -/
theorem keyText_cases {m : Making} (hm : m.IsTame d) (ht : d.resolve t ∈ d.nodes)
    (h : d.IsOpen begun (d.resolve t) ∨ (d.resolve t).tag = Meaning.merge.tag) :
    (∃ name m', d.keyText m t = .ok (name, m') ∧ m'.IsTame d) ∨
      d.keyText m t = .error .integerUnwritable ∧ d.HasLongScalar := by
  -- The key was constructed once already: making it again gives no fault, and what is left is its text.
  obtain ⟨shows, noFault, tame⟩ := isSafe_make hd tags covered (d.size + 1) ht h m hm
  rw [keyText]
  generalize (d.make (d.size + 1) t).run m = r at shows noFault tame
  obtain ⟨r, m'⟩ := r
  cases r with
  | ok v =>
    dsimp only
    cases written : v.isWritable with
    | true =>
      rw [Value.writeText_of_isWritable written]
      exact .inl ⟨_, m', rfl, tame⟩
    | false =>
      rw [Value.writeText_eq_error_iff.mpr ⟨rfl, written⟩]
      refine .inr ⟨rfl, by_contra fun short => ?_⟩
      rw [shows v rfl short] at written
      cases written
  | error f =>
    cases f with
    | malformed => exact .inl ⟨_, _, rfl, tame⟩
    | fault f => exact absurd rfl (noFault f)

/-- The part where a walk goes on is open if the collection is, and it has a name unless its key cannot be
written. -/
theorem Pending.name_cases {p : Pending} {m : Making} {label : Label} {part : Tree}
    (hnode : p.node ∈ d.nodes) (opened : d.IsOpen begun p.node) (hm : m.IsTame d)
    (hpart : p.part? m.edits = some (label, part)) :
    ((∃ name m', label.name d m = .ok (name, m') ∧ m'.IsTame d) ∨
      label.name d m = .error .integerUnwritable ∧ d.HasLongScalar) ∧
      d.resolve part ∈ d.nodes ∧ d.IsOpen begun (d.resolve part) := by
  obtain ⟨path, node, age, index, left⟩ := p
  dsimp only at hnode opened
  -- Whatever is no sequence is walked by its entries.
  have entry (h : ((m.edits.entriesAt node age)[index]?.map fun x =>
      (Label.key x.key, x.value)) = some (label, part)) :
      ((∃ name m', label.name d m = .ok (name, m') ∧ m'.IsTame d) ∨
        label.name d m = .error .integerUnwritable ∧ d.HasLongScalar) ∧
        d.resolve part ∈ d.nodes ∧ d.IsOpen begun (d.resolve part) := by
    obtain ⟨x, hx, same⟩ := Option.map_eq_some_iff.mp h
    cases same
    have offer := hm.edits.offers_of_entriesAt hnode (List.mem_of_getElem? hx)
    obtain ⟨hkey, hvalue⟩ := offer.part_mem hd hnode
    obtain ⟨key, value⟩ := opened.entry hd tags covered hnode offer
    exact ⟨keyText_cases hd tags covered hm hkey key, hvalue, value⟩
  cases node with
  | sequence i tag mark ts =>
    obtain ⟨t, ht, same⟩ := Option.map_eq_some_iff.mp hpart
    cases same
    have ht := List.mem_of_getElem? ht
    exact ⟨.inl ⟨_, m, rfl, hm⟩, hd.item hnode ht, opened.item hd tags covered hnode ht⟩
  | mapping i tag mark es => exact entry hpart
  | scalar i tag mark text => exact entry hpart
  | reference i => exact entry hpart

/-- **A walk through what is open comes to its end**, or to a key that cannot be written. -/
theorem walk_cases (remaining : List Nat) {m : Making} {pending : List Pending} (hm : m.IsTame d)
    (opened : ∀ p ∈ pending, p.node ∈ d.nodes ∧ d.IsOpen begun p.node) :
    (∃ vs, walk d remaining m pending = .ok vs) ∨
      walk d remaining m pending = .error .integerUnwritable ∧ d.HasLongScalar := by
  fun_induction walk d remaining m pending with
  | case1 => exact .inl ⟨[], rfl⟩
  | case2 remaining m p rest hleft ih => exact ih hm (List.forall_mem_cons.mp opened).2
  | case3 remaining m p rest left hleft hpart ih => exact ih hm (List.forall_mem_cons.mp opened).2
  -- A name that cannot be made ends the walk; else the walk goes on behind the part, or in it first.
  | case4 remaining m p rest left hleft label part hpart f hname =>
    obtain ⟨⟨hnode, hopen⟩, -⟩ := List.forall_mem_cons.mp opened
    obtain ⟨⟨name, m', named, -⟩ | ⟨fails, long⟩, -⟩ :=
      Pending.name_cases hd tags covered hnode hopen hm hpart
    · cases hname.symm.trans named
    · cases hname.symm.trans fails
      exact .inr ⟨rfl, long⟩
  | case5 remaining m p rest left hleft label part hpart name m' hname path t after hmem ih =>
    obtain ⟨⟨hnode, hopen⟩, hrest⟩ := List.forall_mem_cons.mp opened
    obtain ⟨⟨_, _, named, tame⟩ | ⟨fails, -⟩, ht, hopen'⟩ :=
      Pending.name_cases hd tags covered hnode hopen hm hpart
    · cases hname.symm.trans named
      rcases ih tame (List.forall_mem_cons.mpr
        ⟨⟨ht, hopen'⟩, List.forall_mem_cons.mpr ⟨⟨hnode, hopen⟩, hrest⟩⟩) with ⟨vs, hvs⟩ | ⟨fails, long⟩
      · exact .inl ⟨_, by rw [hvs]; rfl⟩
      · exact .inr ⟨by rw [fails]; rfl, long⟩
    · cases hname.symm.trans fails
  | case6 remaining m p rest left hleft label part hpart name m' hname path t after hmem ih =>
    obtain ⟨⟨hnode, hopen⟩, hrest⟩ := List.forall_mem_cons.mp opened
    obtain ⟨⟨_, _, named, tame⟩ | ⟨fails, -⟩, ht, hopen'⟩ :=
      Pending.name_cases hd tags covered hnode hopen hm hpart
    · cases hname.symm.trans named
      rcases ih tame (List.forall_mem_cons.mpr ⟨⟨hnode, hopen⟩, hrest⟩) with ⟨vs, hvs⟩ | ⟨fails, long⟩
      · exact .inl ⟨_, by rw [hvs]; rfl⟩
      · exact .inr ⟨by rw [fails]; rfl, long⟩
    · cases hname.symm.trans fails

/-- A document that is covered has a source map, unless a key cannot be written. -/
theorem sourceMap_cases : (∃ m, d.sourceMap = .ok m) ∨
    d.sourceMap = .error .integerUnwritable ∧ d.HasLongScalar := by
  have opened : ∀ p ∈ [Pending.enter [] {} d], p.node ∈ d.nodes ∧ d.IsOpen begun p.node :=
    List.forall_mem_singleton.mpr ⟨hd.root_mem, .begun covered.root⟩
  rcases walk_cases hd tags covered ((d.nodes.map id).erase d.id)
    (Making.isTame_empty d) opened with ⟨vs, hvs⟩ | ⟨fails, long⟩
  · exact .inl ⟨_, by rw [sourceMap, visits, hvs]; rfl⟩
  · exact .inr ⟨by rw [sourceMap, visits, fails]; rfl, long⟩

end

/-- The walk begins with the first key of the root. -/
theorem sourceMap_eq_error {k v : Tree} {es : List (Tree × Tree)} {f : Fault}
    (mapping : d.isMapping = true) (first : d.entries = (k, v) :: es)
    (fault : d.keyText {} k = .error f) : d.sourceMap = .error f := by
  cases d with
  | mapping i tag mark es' =>
    obtain rfl : es' = (k, v) :: es := first
    have part : (Pending.enter [] {} (.mapping i tag mark ((k, v) :: es))).part? {} =
        some (.key k, v) := by
      simp [Pending.enter, Pending.part?, Edits.entriesAt, Edits.age, Edits.listsOf, written, entries]
    have left : (Pending.enter [] {} (.mapping i tag mark ((k, v) :: es))).left =
        es.length + 1 := by
      simp [Pending.enter, Edits.entries, Edits.listsOf, written, entries]
    rw [sourceMap, visits, walk]
    split
    · simp_all
    · simp [part, Label.name, fault]
      rfl
  | _ => cases mapping

end Tree

/-- **Where a document is loaded, its source map is drawn.**  If no mapping of a document has the tag
of a scalar, then whatever tags, merge keys, default keys, aliases and cycles there are, loading the
text together with its source map gives the instance that loading it gives.  It fails in one way only:
a key cannot be written, as there is an integer in the document that has too many digits. -/
theorem exists_document_of_loaded {text : List Char} {v : Value} (loaded : load text = .ok v)
    (tags : ∀ d, Tree.ofText text = .ok (some d) → d.HasProperMappings) :
    (∃ m, SourceMap.ofText text = .ok m ∧
      ∀ syntaxError origin, Document.ofText syntaxError origin text = .ok ⟨v, m⟩) ∨
    (∃ d, Tree.ofText text = .ok (some d) ∧ d.HasLongScalar) ∧
      SourceMap.ofText text = .error .integerUnwritable ∧
      ∀ syntaxError origin,
        Document.ofText syntaxError origin text = .error .integerUnwritable := by
  -- Loading the text has begun every node the walk goes to, so the walk meets no tag it cannot read.
  have drawn : (∃ m, SourceMap.ofText text = .ok m) ∨
      SourceMap.ofText text = .error .integerUnwritable ∧
        ∃ d, Tree.ofText text = .ok (some d) ∧ d.HasLongScalar := by
    rw [SourceMap.ofText]
    obtain ⟨t, composed, made⟩ := of_bind_eq_ok loaded
    rw [composed]
    cases t with
    | none => exact .inl ⟨{}, rfl⟩
    | some d =>
      obtain ⟨h, filled, -⟩ := of_bind_eq_ok made
      have hd := isGraph_of_ofText composed
      obtain ⟨begun, covered⟩ := exists_isCovered hd filled
      exact (sourceMap_cases hd (tags d composed) covered).imp_right fun h => ⟨h.1, d, rfl, h.2⟩
  rcases drawn with ⟨m, hm⟩ | ⟨fails, meets⟩
  · refine .inl ⟨m, hm, fun syntaxError origin => ?_⟩
    simp only [Document.ofText, loaded, hm]
    rfl
  · refine .inr ⟨meets, fails, fun syntaxError origin => ?_⟩
    simp only [Document.ofText, loaded, fails]
    rfl

/-- A mapping that merges a sequence of mappings, one of them with a tag of its own, then another
mapping and at last itself. -/
def mergingText : List Char :=
  "&a \x7b<<: [\x7b1: x\x7d, !other \x7b=: y\x7d], <<: \x7bb: z\x7d, <<: *a, c: *a\x7d".toList

theorem exists_document_of_loaded_merging :
    ∃ v m, load mergingText = .ok v ∧
      ∀ syntaxError origin, Document.ofText syntaxError origin mergingText = .ok ⟨v, m⟩ := by
  have loaded : ∃ v, load mergingText = .ok v := by
    have checked : (load mergingText).toOption.isSome = true := by decide +kernel
    generalize load _ = r at checked ⊢
    cases r with
    | error f => cases checked
    | ok v => exact ⟨v, rfl⟩
  have composed : ∃ d, Tree.ofText mergingText = .ok (some d) ∧ d.HasProperMappings ∧
      ∀ t ∈ d.nodes, t.scalar?.all (·.isWritable) = true := by
    apply Tree.exists_of_any
    decide +kernel
  obtain ⟨v, loaded⟩ := loaded
  obtain ⟨d, composed, tags, short⟩ := composed
  have outcome := exists_document_of_loaded loaded fun d' composed' => by
    cases composed'.symm.trans composed
    exact tags
  rcases outcome with ⟨m, -, document⟩ | ⟨⟨d', composed', t, ht, n, hn, long⟩, -⟩
  · exact ⟨v, m, loaded, document⟩
  · cases composed'.symm.trans composed
    have := short t ht
    rw [hn, Option.all_some, long] at this
    cases this

/-- A mapping with the tag of a text, whose value stands under its default key. -/
def taggedText : List Char := "!!str \x7b2020-13-45: y, =: x\x7d".toList

/-- Loading does not look at the other key, which is no date; the walk makes it. -/
theorem unread_key_breaks_sourceMap :
    (load taggedText = .ok (.str "x") ∧
      ∀ syntaxError origin,
        Document.ofText syntaxError origin taggedText = .error (.calendar .month)) ∧
    ¬∀ text v, load text = .ok v →
      ∃ m, ∀ syntaxError origin, Document.ofText syntaxError origin text = .ok ⟨v, m⟩ := by
  have loaded : load taggedText = .ok (.str "x") := Value.eq_ok_of_builtLike (by decide +kernel)
  have composed : ∃ d, Tree.ofText taggedText = .ok (some d) ∧ d.isMapping = true ∧
      (d.entries.head?.map fun x => (d.keyText {} x.1).map fun _ => ()) =
        some (.error (.calendar .month)) := by
    apply Tree.exists_of_any
    decide +kernel
  obtain ⟨d, composed, mapping, fault⟩ := composed
  have broken : d.sourceMap = .error (.calendar .month) := by
    cases first : d.entries with
    | nil => simp [first] at fault
    | cons x es =>
      obtain ⟨k, v⟩ := x
      refine sourceMap_eq_error mapping first ?_
      rw [first] at fault
      cases hk : d.keyText {} k <;> simp_all [Except.map]
  have document (syntaxError : List Char → String) (origin : String) :
      Document.ofText syntaxError origin taggedText = .error (.calendar .month) := by
    simp only [Document.ofText, loaded, SourceMap.ofText, composed, broken]
    rfl
  refine ⟨⟨loaded, document⟩, fun all => ?_⟩
  obtain ⟨m, h⟩ := all _ _ loaded
  cases (document (fun _ => "") "").symm.trans (h (fun _ => "") "")

end Yaml

end Conform
