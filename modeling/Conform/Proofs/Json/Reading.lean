import Conform.Proofs.Json.Lexing
import Conform.Proofs.Source.Visits
import Conform.Proofs.Yaml.Loading
/-!
# Trees of JSON texts

The tokens of a JSON text are read as a plain tree off which the value of the text can be read.  Only
the kinds of the tokens count; where they start goes into the tree.
-/
namespace Conform.Yaml

/-- The kinds of the tokens that are left. -/
def Reader.kinds (s : Reader) : List TokenKind := s.tokens.map (·.kind)

namespace Read

open Conform.JsonText

variable {s : Reader} {more : List TokenKind}

theorem run_bind {α β : Type} (x : Read α) (f : α → Read β) (s : Reader) :
    (x >>= f).run s = (x.run s).bind fun p => (f p.1).run p.2 := rfl

theorem run_bind_of_run {α β : Type} {x : Read α} {f : α → Read β} {t : Reader} {a : α}
    (h : x.run s = .ok (a, t)) : (x >>= f).run s = (f a).run t := by
  rw [run_bind, h]
  rfl

theorem exists_cons {k : TokenKind} {ts : List Token} (h : ts.map (·.kind) = k :: more) :
    ∃ start stop others, ts = ⟨k, start, stop⟩ :: others ∧ others.map (·.kind) = more := by
  obtain ⟨⟨kind, start, stop⟩, others, rfl, rfl, hothers⟩ := List.map_eq_cons_iff.mp h
  exact ⟨start, stop, others, rfl, hothers⟩

theorem run_node_scalar (allowed : Allowed) (fuel : Nat) {text : String} {plain : Bool}
    (h : s.kinds = .scalar text plain :: more) : ∃ i m u,
      (node allowed (fuel + 1)).run s =
        .ok (.scalar i (if plain then plainTag text.toList else Meaning.str.tag) m text, u) ∧
      u.kinds = more := by
  obtain ⟨tokens, failure, anchors, handles, nextId⟩ := s
  obtain ⟨start, stop, ts, rfl, hts⟩ := exists_cons h
  rw [node]
  cases plain
  · exact ⟨nextId, start, ⟨ts, failure, anchors, handles, nextId + 1⟩, rfl, hts⟩
  · exact ⟨nextId, start, ⟨ts, failure, anchors, handles, nextId + 1⟩, rfl, hts⟩

theorem run_node_sequence (allowed : Allowed) (fuel : Nat)
    (h : s.kinds = .flowSequenceStart :: more) : ∃ i m u, u.kinds = more ∧
      (node allowed (fuel + 1)).run s =
        (do return Tree.sequence i Meaning.seq.tag m (← flowItems true fuel)).run u := by
  obtain ⟨tokens, failure, anchors, handles, nextId⟩ := s
  obtain ⟨start, stop, ts, rfl, hts⟩ := exists_cons h
  rw [node]
  exact ⟨nextId, start, ⟨ts, failure, anchors, handles, nextId + 1⟩, hts, rfl⟩

theorem run_node_mapping (allowed : Allowed) (fuel : Nat)
    (h : s.kinds = .flowMappingStart :: more) : ∃ i m u, u.kinds = more ∧
      (node allowed (fuel + 1)).run s =
        (do return Tree.mapping i Meaning.map.tag m (← flowEntries true fuel)).run u := by
  obtain ⟨tokens, failure, anchors, handles, nextId⟩ := s
  obtain ⟨start, stop, ts, rfl, hts⟩ := exists_cons h
  rw [node]
  exact ⟨nextId, start, ⟨ts, failure, anchors, handles, nextId + 1⟩, hts, rfl⟩

/-- Tokens that start with a node of a flow collection. -/
inductive StartsNode : List TokenKind → Prop
  | scalar (text : String) (plain : Bool) (more : List TokenKind) :
    StartsNode (.scalar text plain :: more)
  | sequence (more : List TokenKind) : StartsNode (.flowSequenceStart :: more)
  | mapping (more : List TokenKind) : StartsNode (.flowMappingStart :: more)


/-- What stands in front of a part of a flow collection. -/
def lead (first : Bool) : List TokenKind := if first then [] else [.flowEntry]

theorem run_flowItems_end (first : Bool) (fuel : Nat) (h : s.kinds = .flowSequenceEnd :: more) :
    ∃ u, u.kinds = more ∧ (flowItems first (fuel + 1)).run s = .ok ([], u) := by
  obtain ⟨tokens, failure, anchors, handles, nextId⟩ := s
  obtain ⟨start, stop, ts, rfl, hts⟩ := exists_cons h
  rw [flowItems]
  exact ⟨⟨ts, failure, anchors, handles, nextId⟩, hts, rfl⟩

/-- The tokens behind what stands in front of a part. -/
theorem exists_lead {first : Bool} {ts : List Token} (h : ts.map (·.kind) = lead first ++ more) :
    ∃ others, others.map (·.kind) = more ∧ (first = true ∧ ts = others ∨
      first = false ∧ ∃ start stop, ts = ⟨.flowEntry, start, stop⟩ :: others) := by
  cases first with
  | true => exact ⟨ts, h, .inl ⟨rfl, rfl⟩⟩
  | false =>
    obtain ⟨start, stop, others, rfl, hothers⟩ := exists_cons h
    exact ⟨others, hothers, .inr ⟨rfl, start, stop, rfl⟩⟩

theorem run_flowItems {first : Bool} (fuel : Nat) (starts : StartsNode more)
    (h : s.kinds = lead first ++ more) : ∃ u, u.kinds = more ∧
      (flowItems first (fuel + 1)).run s = (do
        let item ← node { block := false } fuel
        return item :: (← flowItems false fuel)).run u := by
  obtain ⟨tokens, failure, anchors, handles, nextId⟩ := s
  obtain ⟨others, hothers, inFront⟩ := exists_lead h
  refine ⟨⟨others, failure, anchors, handles, nextId⟩, hothers, ?_⟩
  rw [flowItems]
  rcases inFront with ⟨rfl, rfl⟩ | ⟨rfl, _, _, rfl⟩
  · cases starts <;> obtain ⟨_, _, ts, rfl, -⟩ := exists_cons hothers <;> rfl
  · cases starts <;> obtain ⟨_, _, ts, rfl, -⟩ := exists_cons hothers <;> rfl

theorem run_flowEntries_end (first : Bool) (fuel : Nat) (h : s.kinds = .flowMappingEnd :: more) :
    ∃ u, u.kinds = more ∧ (flowEntries first (fuel + 1)).run s = .ok ([], u) := by
  obtain ⟨tokens, failure, anchors, handles, nextId⟩ := s
  obtain ⟨start, stop, ts, rfl, hts⟩ := exists_cons h
  rw [flowEntries]
  exact ⟨⟨ts, failure, anchors, handles, nextId⟩, hts, rfl⟩

theorem run_flowEntries {name : String} {first : Bool} (fuel : Nat) (starts : StartsNode more)
    (h : s.kinds = lead first ++ .key :: .scalar name false :: .value :: more) :
    ∃ i m u, u.kinds = more ∧ (flowEntries first (fuel + 3)).run s = (do
        let value ← node { block := false } fuel
        return (Tree.scalar i Meaning.str.tag m name, value) :: (← flowEntries false (fuel + 2))).run u := by
  obtain ⟨tokens, failure, anchors, handles, nextId⟩ := s
  obtain ⟨others, hothers, inFront⟩ := exists_lead h
  obtain ⟨_, _, fromName, rfl, hname⟩ := exists_cons hothers
  obtain ⟨start, _, fromColon, rfl, hcolon⟩ := exists_cons hname
  obtain ⟨_, _, fromValue, rfl, hvalue⟩ := exists_cons hcolon
  refine ⟨nextId, start, ⟨fromValue, failure, anchors, handles, nextId + 1⟩, hvalue, ?_⟩
  rw [flowEntries]
  rcases inFront with ⟨rfl, rfl⟩ | ⟨rfl, _, _, rfl⟩
  · cases starts <;> obtain ⟨_, _, behind, rfl, -⟩ := exists_cons hvalue <;> rfl
  · cases starts <;> obtain ⟨_, _, behind, rfl, -⟩ := exists_cons hvalue <;> rfl

theorem run_announced_end {fuel : Nat} (h : s.kinds = [.textEnd]) :
    (announced (fuel + 1)).run s = .ok (false, s) := by
  obtain ⟨tokens, failure, anchors, handles, nextId⟩ := s
  obtain ⟨start, stop, ts, rfl, -⟩ := exists_cons h
  rfl

/-- A text that is one node is the document of this node. -/
theorem run_document (fuel : Nat) {P : Tree → Prop} (starts : StartsNode s.kinds)
    (read : ∀ r : Reader, r.kinds = s.kinds → ∃ t u,
      (node {} (fuel + 1)).run r = .ok (t, u) ∧ u.kinds = [.textEnd] ∧ P t) :
    ∃ t u, (document (fuel + 1)).run s = .ok (some t, u) ∧ P t := by
  obtain ⟨t, u, node, rest, ht⟩ := read { s with handles := usualHandles } rfl
  refine ⟨t, u, ?_, ht⟩
  have root : (some <$> Read.node {} (fuel + 1)).run { s with handles := usualHandles } =
      .ok (some t, u) := by
    rw [map_eq_pure_bind, run_bind_of_run node]
    rfl
  -- No node starts with a directive, a mark of a document or the end of the text.
  have chosen : (document (fuel + 1)).run s = (do
      modify fun s => { s with handles := usualHandles }
      let root? ← some <$> Read.node {} (fuel + 1)
      if root?.isSome then
        if ← announced (fuel + 1) then fail
      return root? : Read (Option Tree)).run s := by
    obtain ⟨tokens, failure, anchors, handles, nextId⟩ := s
    generalize hkinds : Reader.kinds ⟨tokens, failure, anchors, handles, nextId⟩ = kinds at starts
    cases starts <;> obtain ⟨_, _, ts, rfl, -⟩ := exists_cons hkinds <;> rfl
  rw [chosen, run_bind_of_run (t := { s with handles := usualHandles }) (a := PUnit.unit) rfl,
    run_bind_of_run root, Option.isSome_some, if_pos rfl, run_bind_of_run (run_announced_end rest)]
  rfl

end Read

/-! ### Trees with a value -/

namespace Tree

/-- A tree is one that is read for a value. -/
structure StandsFor (t : Tree) (v : Value) : Prop where
  isPlain : t.isPlain = true
  noDefaults : t.HasNoDefaults
  written : ∀ u ∈ t.nodes, ∀ k ∈ u.keyValues, k.isWritable = true
  value : t.plainValue? = some v

/-- The key and the value of a tree are those that are read for a name and a value. -/
structure EntryStandsFor (e : Tree × Tree) (p : Value × Value) : Prop where
  name : ∃ i m text, e.1 = scalar i Meaning.str.tag m text ∧ p.1 = .str text
  value : e.2.StandsFor p.2

variable {i : Nat} {mark : Mark}

/-- A scalar stands for what its text means under its tag. -/
theorem standsFor_scalar {m : Meaning} {text : String} {v : Value} (hm : m ≠ .value)
    (h : ∀ t, scalarValue t m text.toList = .ok v) : (scalar i m.tag mark text).StandsFor v := by
  have tag : m.tag ≠ Meaning.value.tag := by
    intro heq
    have meanings := congrArg Yaml.meaning? heq
    rw [meaning?_tag, meaning?_tag] at meanings
    exact hm (Option.some.inj meanings)
  refine ⟨rfl, fun t ht => ?_, fun t ht k hk => ?_, ?_⟩
  · obtain rfl := List.mem_singleton.mp ht
    exact tag
  · obtain rfl := List.mem_singleton.mp ht
    cases hk
  · rw [plainValue?, scalar?, if_neg tag, meaning?_tag, Option.bind_some, h]
    rfl

theorem standsFor_str {text : String} : (scalar i Meaning.str.tag mark text).StandsFor (.str text) := by
  refine standsFor_scalar (by decide) fun t => ?_
  rw [scalarValue, String.ofList_toList]

/-- A sequence stands for the list of what its items stand for. -/
theorem standsFor_sequence {ts : List Tree} {xs : List Value} (h : List.Forall₂ StandsFor ts xs) :
    (sequence i Meaning.seq.tag mark ts).StandsFor (.list xs) := by
  have item : ∀ t ∈ ts, ∃ x, t.StandsFor x := by
    intro t ht
    obtain ⟨x, -, hx⟩ := exists_of_forall₂ h ht
    exact ⟨x, hx⟩
  refine ⟨isPlain_sequence_iff.mpr ⟨rfl, fun t ht => (item t ht).elim fun x hx => hx.isPlain⟩,
    fun u hu => ?_, fun u hu k hk => ?_, ?_⟩
  · rcases List.mem_cons.mp hu with rfl | hu
    · change Meaning.seq.tag ≠ Meaning.value.tag
      decide
    · obtain ⟨t, ht, hu⟩ := mem_nodesItems_iff.mp hu
      obtain ⟨x, hx⟩ := item t ht
      exact hx.noDefaults u hu
  · rcases List.mem_cons.mp hu with rfl | hu
    · cases hk
    · obtain ⟨t, ht, hu⟩ := mem_nodesItems_iff.mp hu
      obtain ⟨x, hx⟩ := item t ht
      exact hx.written u hu k hk
  · rw [plainValue?, plainValues?_eq_some_iff.mpr (h.imp fun _ _ hx => hx.value), Option.map_some]

/-- A mapping stands for the mapping that its entries build. -/
theorem standsFor_mapping {es : List (Tree × Tree)} {ps : List (Value × Value)}
    (h : List.Forall₂ EntryStandsFor es ps) :
    (mapping i Meaning.map.tag mark es).StandsFor (Value.mapOf ps) := by
  -- The key of an entry is a text, so it is neither a merge nor a default.
  have key {e : Tree × Tree} {p : Value × Value} (h : EntryStandsFor e p) :
      e.1.StandsFor p.1 ∧ e.1.tag = Meaning.str.tag ∧ e.1.scalar? = some p.1 := by
    obtain ⟨j, m, text, hkey, hp⟩ := h.name
    have stands : e.1.StandsFor p.1 := by
      rw [hkey, hp]
      exact standsFor_str
    refine ⟨stands, by rw [hkey]; rfl, ?_⟩
    have value := stands.value
    rw [hkey] at value ⊢
    exact value
  have entry : ∀ e ∈ es, ∃ p, EntryStandsFor e p := fun e he =>
    let ⟨p, _, hp⟩ := exists_of_forall₂ h he
    ⟨p, hp⟩
  refine ⟨isPlain_mapping_iff.mpr ⟨rfl, fun e he => ?_⟩, fun u hu => ?_, fun u hu k hk => ?_, ?_⟩
  · obtain ⟨p, hp⟩ := entry e he
    obtain ⟨stands, tag, -⟩ := key hp
    exact ⟨by rw [tag]; decide, stands.isPlain, hp.value.isPlain⟩
  · rcases List.mem_cons.mp hu with rfl | hu
    · change Meaning.map.tag ≠ Meaning.value.tag
      decide
    · obtain ⟨e, he, hu⟩ := mem_nodesEntries_iff.mp hu
      obtain ⟨p, hp⟩ := entry e he
      rcases hu with hu | hu
      · exact (key hp).1.noDefaults u hu
      · exact hp.value.noDefaults u hu
  · rcases List.mem_cons.mp hu with rfl | hu
    · -- The keys are names.
      obtain ⟨e, he, hk⟩ := List.mem_filterMap.mp hk
      obtain ⟨p, hp⟩ := entry e he
      obtain ⟨-, -, text, -, name⟩ := hp.name
      obtain rfl : p.1 = k := Option.some.inj ((key hp).2.2.symm.trans hk)
      rw [name]
      rfl
    · obtain ⟨e, he, hu⟩ := mem_nodesEntries_iff.mp hu
      obtain ⟨p, hp⟩ := entry e he
      rcases hu with hu | hu
      · exact (key hp).1.written u hu k hk
      · exact hp.value.written u hu k hk
  · have pairs : plainPairs? es = some ps :=
      plainPairs?_eq_some_iff.mpr (h.imp fun _ _ hp => ⟨(key hp).2.2, hp.value.value⟩)
    rw [plainValue?, pairs, Option.map_some]

end Tree

/-! ### Reading -/

namespace Read

open Conform.JsonText Conform.Yaml.Tree

variable {s : Reader} {behind more : List TokenKind} {allowed : Allowed} {fuel : Nat}

theorem startsNode (e : Element) : StartsNode (e.kinds ++ more) := by
  cases e with
  | word w => exact .scalar ..
  | number n => exact .scalar ..
  | string ps => exact .scalar ..
  | emptyArray inside => exact .sequence _
  | array items => exact .sequence _
  | emptyObject inside => exact .mapping _
  | object members => exact .mapping _

theorem length_kinds_pos (e : Element) : 0 < e.kinds.length := by
  cases e <;> simp [Element.kinds]

/-- A word or a number is read as a scalar that stands for its value. -/
theorem read_plain {cs : List Char} {m : Meaning} {v : Value} (hm : m ≠ .value)
    (tag : plainTag cs = m.tag) (value : ∀ t, scalarValue t m cs = .ok v)
    (h : s.kinds = .scalar (String.ofList cs) true :: more) : ∃ t u,
      (node allowed (fuel + 1)).run s = .ok (t, u) ∧ u.kinds = more ∧ t.StandsFor v := by
  obtain ⟨i, mark, u, run, hu⟩ := run_node_scalar allowed fuel h
  refine ⟨_, u, run, hu, ?_⟩
  rw [if_pos rfl, String.toList_ofList, tag]
  exact standsFor_scalar hm fun t => by rw [String.toList_ofList, value]

/-- A text in quotes is read as a scalar that stands for it. -/
theorem read_quoted {text : String} (h : s.kinds = .scalar text false :: more) : ∃ t u,
    (node allowed (fuel + 1)).run s = .ok (t, u) ∧ u.kinds = more ∧ t.StandsFor (.str text) := by
  obtain ⟨i, mark, u, run, hu⟩ := run_node_scalar allowed fuel h
  refine ⟨_, u, run, hu, ?_⟩
  rw [if_neg Bool.false_ne_true]
  exact standsFor_str

/-- A sequence stands for the list of what its items are read for. -/
theorem read_sequence {xs : List Value} (h : s.kinds = .flowSequenceStart :: behind)
    (items : ∀ r : Reader, r.kinds = behind → ∃ ts u,
      (flowItems true fuel).run r = .ok (ts, u) ∧ u.kinds = more ∧ List.Forall₂ StandsFor ts xs) :
    ∃ t u, (node allowed (fuel + 1)).run s = .ok (t, u) ∧ u.kinds = more ∧ t.StandsFor (.list xs) := by
  obtain ⟨i, mark, r, hr, run⟩ := run_node_sequence allowed fuel h
  obtain ⟨ts, u, read, hu, stand⟩ := items r hr
  refine ⟨.sequence i Meaning.seq.tag mark ts, u, ?_, hu, standsFor_sequence stand⟩
  rw [run, run_bind_of_run read]
  rfl

/-- A mapping stands for the mapping that its entries are read for. -/
theorem read_mapping {ps : List (Value × Value)} (h : s.kinds = .flowMappingStart :: behind)
    (entries : ∀ r : Reader, r.kinds = behind → ∃ es u,
      (flowEntries true fuel).run r = .ok (es, u) ∧ u.kinds = more ∧
        List.Forall₂ EntryStandsFor es ps) :
    ∃ t u, (node allowed (fuel + 1)).run s = .ok (t, u) ∧ u.kinds = more ∧
      t.StandsFor (Value.mapOf ps) := by
  obtain ⟨i, mark, r, hr, run⟩ := run_node_mapping allowed fuel h
  obtain ⟨es, u, read, hu, stand⟩ := entries r hr
  refine ⟨.mapping i Meaning.map.tag mark es, u, ?_, hu, standsFor_mapping stand⟩
  rw [run, run_bind_of_run read]
  rfl

/-- The items of a sequence are read one by one. -/
theorem read_item {e : Element} {first : Bool} {xs : List Value}
    (h : s.kinds = lead first ++ (e.kinds ++ behind))
    (item : ∀ r : Reader, r.kinds = e.kinds ++ behind → ∃ t u,
      (node { block := false } fuel).run r = .ok (t, u) ∧ u.kinds = behind ∧ t.StandsFor e.value)
    (rest : ∀ r : Reader, r.kinds = behind → ∃ ts u,
      (flowItems false fuel).run r = .ok (ts, u) ∧ u.kinds = more ∧ List.Forall₂ StandsFor ts xs) :
    ∃ ts u, (flowItems first (fuel + 1)).run s = .ok (ts, u) ∧ u.kinds = more ∧
      List.Forall₂ StandsFor ts (e.value :: xs) := by
  obtain ⟨r, hr, run⟩ := run_flowItems fuel (startsNode e) h
  obtain ⟨t, u, read, hu, stands⟩ := item r hr
  obtain ⟨ts, w, readRest, hw, stand⟩ := rest u hu
  refine ⟨t :: ts, w, ?_, hw, .cons stands stand⟩
  rw [run, run_bind_of_run read, run_bind_of_run readRest]
  rfl

/-- The entries of a mapping are read one by one. -/
theorem read_member {name : String} {e : Element} {first : Bool} {ps : List (Value × Value)}
    (h : s.kinds = lead first ++ .key :: .scalar name false :: .value :: (e.kinds ++ behind))
    (item : ∀ r : Reader, r.kinds = e.kinds ++ behind → ∃ t u,
      (node { block := false } fuel).run r = .ok (t, u) ∧ u.kinds = behind ∧ t.StandsFor e.value)
    (rest : ∀ r : Reader, r.kinds = behind → ∃ es u,
      (flowEntries false (fuel + 2)).run r = .ok (es, u) ∧ u.kinds = more ∧
        List.Forall₂ EntryStandsFor es ps) :
    ∃ es u, (flowEntries first (fuel + 3)).run s = .ok (es, u) ∧ u.kinds = more ∧
      List.Forall₂ EntryStandsFor es ((.str name, e.value) :: ps) := by
  obtain ⟨i, mark, r, hr, run⟩ := run_flowEntries fuel (startsNode e) h
  obtain ⟨t, u, read, hu, stands⟩ := item r hr
  obtain ⟨es, w, readRest, hw, stand⟩ := rest u hu
  refine ⟨(.scalar i Meaning.str.tag mark name, t) :: es, w, ?_, hw, .cons ⟨?_, stands⟩ stand⟩
  · rw [run, run_bind_of_run read, run_bind_of_run readRest]
    rfl
  · exact ⟨i, mark, name, rfl, rfl⟩

/-- The end of a sequence is read as no items. -/
theorem read_items_end {first : Bool} (positive : 0 < fuel) (h : s.kinds = .flowSequenceEnd :: more) :
    ∃ ts u, (flowItems first fuel).run s = .ok (ts, u) ∧ u.kinds = more ∧
      List.Forall₂ StandsFor ts [] := by
  obtain ⟨fuel, rfl⟩ := Nat.exists_eq_add_one.mpr positive
  obtain ⟨u, hu, run⟩ := run_flowItems_end first fuel h
  exact ⟨[], u, run, hu, .nil⟩

/-- The end of a mapping is read as no entries. -/
theorem read_members_end {first : Bool} (positive : 0 < fuel) (h : s.kinds = .flowMappingEnd :: more) :
    ∃ es u, (flowEntries first fuel).run s = .ok (es, u) ∧ u.kinds = more ∧
      List.Forall₂ EntryStandsFor es [] := by
  obtain ⟨fuel, rfl⟩ := Nat.exists_eq_add_one.mpr positive
  obtain ⟨u, hu, run⟩ := run_flowEntries_end first fuel h
  exact ⟨[], u, run, hu, .nil⟩

mutual

/-- A portable value is read as a tree that stands for it. -/
theorem read_element (e : Element) (portable : e.isPortable = true) {allowed : Allowed} {s : Reader}
    {more : List TokenKind} {fuel : Nat} (enough : 4 * e.kinds.length ≤ fuel)
    (h : s.kinds = e.kinds ++ more) : ∃ t u,
      (node allowed fuel).run s = .ok (t, u) ∧ u.kinds = more ∧ t.StandsFor e.value := by
  obtain ⟨fuel, rfl⟩ : ∃ n, fuel = n + 1 :=
    Nat.exists_eq_add_one.mpr (by have := length_kinds_pos e; omega)
  cases e with
  | word w => exact read_plain (by cases w <;> decide) w.plainTag_chars w.scalarValue_chars h
  | number n =>
    have meaning : n.meaning ≠ .value := by
      rw [Number.meaning]
      split <;> decide
    exact read_plain meaning (n.plainTag_chars portable) (n.scalarValue_chars portable) h
  | string ps => exact read_quoted h
  | emptyArray inside =>
    simp only [Element.kinds, List.length_cons] at enough
    exact read_sequence h fun r hr => read_items_end (by omega) hr
  | array items =>
    simp only [Element.kinds, List.length_append, List.length_cons] at enough
    simp only [Element.kinds, List.cons_append, List.append_assoc] at h
    exact read_sequence h fun r hr => read_items items portable (by omega) hr
  | emptyObject inside =>
    simp only [Element.kinds, List.length_cons] at enough
    exact read_mapping h fun r hr => read_members_end (by omega) hr
  | object members =>
    simp only [Element.kinds, List.length_append, List.length_cons] at enough
    simp only [Element.kinds, List.cons_append, List.append_assoc] at h
    exact read_mapping h fun r hr => read_members members portable (by omega) hr

/-- `read_element` for items. -/
theorem read_items (is : Items) (portable : is.isPortable = true) {first : Bool} {s : Reader}
    {more : List TokenKind} {fuel : Nat} (enough : 4 * is.kinds.length + 2 ≤ fuel)
    (h : s.kinds = lead first ++ (is.kinds ++ .flowSequenceEnd :: more)) : ∃ ts u,
      (flowItems first fuel).run s = .ok (ts, u) ∧ u.kinds = more ∧
        List.Forall₂ StandsFor ts is.values := by
  obtain ⟨fuel, rfl⟩ : ∃ n, fuel = n + 1 := Nat.exists_eq_add_one.mpr (by omega)
  cases is with
  | last before item after =>
    simp only [Items.isPortable, Bool.and_eq_true] at portable
    rw [Items.kinds] at h enough
    exact read_item h (fun r hr => read_element item portable.1.2 (by omega) hr)
      fun r hr => read_items_end (by omega) hr
  | cons before item after rest =>
    simp only [Items.isPortable, Bool.and_eq_true] at portable
    obtain ⟨⟨⟨-, hitem⟩, -⟩, hrest⟩ := portable
    simp only [Items.kinds, List.length_append, List.length_cons] at enough
    simp only [Items.kinds, List.append_assoc, List.cons_append] at h
    exact read_item h (fun r hr => read_element item hitem (by omega) hr)
      fun r hr => read_items rest hrest (by omega) hr

/-- `read_element` for members. -/
theorem read_members (ms : Members) (portable : ms.isPortable = true) {first : Bool} {s : Reader}
    {more : List TokenKind} {fuel : Nat} (enough : 4 * ms.kinds.length + 2 ≤ fuel)
    (h : s.kinds = lead first ++ (ms.kinds ++ .flowMappingEnd :: more)) : ∃ es u,
      (flowEntries first fuel).run s = .ok (es, u) ∧ u.kinds = more ∧
        List.Forall₂ EntryStandsFor es ms.pairs := by
  cases ms with
  | last before name behindName behindColon item after =>
    simp only [Members.isPortable, Bool.and_eq_true] at portable
    simp only [Members.kinds, List.length_append, List.length_cons] at enough
    simp only [Members.kinds, List.cons_append, List.nil_append] at h
    obtain ⟨fuel, rfl⟩ : ∃ n, fuel = n + 3 := ⟨fuel - 3, by omega⟩
    exact read_member h (fun r hr => read_element item portable.1.2 (by omega) hr)
      fun r hr => read_members_end (by omega) hr
  | cons before name behindName behindColon item after rest =>
    simp only [Members.isPortable, Bool.and_eq_true] at portable
    obtain ⟨⟨⟨-, hitem⟩, -⟩, hrest⟩ := portable
    simp only [Members.kinds, List.length_append, List.length_cons] at enough
    simp only [Members.kinds, List.append_assoc, List.cons_append, List.nil_append] at h
    obtain ⟨fuel, rfl⟩ : ∃ n, fuel = n + 3 := ⟨fuel - 3, by omega⟩
    exact read_member h (fun r hr => read_element item hitem (by omega) hr)
      fun r hr => read_members rest hrest (by omega) hr

end

end Read

/-- **A portable text** is composed to a document that stands for its value. -/
theorem Tree.exists_ofText {t : JsonText} (portable : t.isPortable = true) :
    ∃ d, Tree.ofText t.chars = .ok (some d) ∧ d.StandsFor t.value := by
  have root : t.root.isPortable = true := by
    simp only [JsonText.isPortable, Bool.and_eq_true] at portable
    exact portable.1.2
  obtain ⟨tokens, lexed, kinds⟩ := Lex.lex_eq portable
  let s : Reader := { tokens := tokens, failure := .malformed }
  have hs : s.kinds = t.root.kinds ++ [.textEnd] := kinds
  have enough : 4 * t.root.kinds.length ≤ 4 * tokens.length := by
    have := congrArg List.length kinds
    simp only [List.length_map, List.length_append] at this
    omega
  have starts : Read.StartsNode s.kinds := by
    rw [hs]
    exact Read.startsNode t.root
  obtain ⟨d, u, run, stands⟩ := Read.run_document (4 * tokens.length + 15) starts
    fun r hr => Read.read_element t.root root (by omega) (hr.trans hs)
  refine ⟨d, ?_, stands⟩
  rw [Tree.ofText, lexed]
  change (Read.document (4 * tokens.length + 16)).run' s = _
  exact congrArg (Except.map Prod.fst) run

end Conform.Yaml
