import Conform.Proofs.CheckFile
import Conform.Proofs.Schema.Labels
import Conform.Proofs.Source.Lookup
import Conform.Proofs.Value.Built
/-!
# The locations of rejections

The labels that a check descends, the keys that the source map is drawn from and the segments that a
lookup climbs are texts made in three places.  For a plain document with distinct keys they agree: a
file that is rejected is reported at the node of the rejected value or, where a field is missing, at
the closest node around it (`rejection_located`).
-/
namespace Conform

open Conform.Path Conform.Yaml.Tree

/-! ### The same parts in the instance -/

namespace Yaml.Tree

variable {d : Tree}

theorem labelled?_of_keyClass? {v : Value} (h : v.keyClass?.isSome = true) :
    v.labelled? = none := by
  cases v <;> first | rfl | cases h

theorem keyValues_eq_map_fst {i : Nat} {tag : String} {m : Mark} {es : List (Tree × Tree)}
    {ps : List (Value × Value)} (h : plainPairs? es = some ps) :
    (mapping i tag m es).keyValues = ps.map (·.1) := by
  have pairs := plainPairs?_eq_some_iff.mp h
  clear h
  rw [keyValues, entries]
  induction pairs with
  | nil => rfl
  | cons hp _ ih => simp [hp.1, ih]

/-- The parts of a node are those of its value, under the same labels. -/
theorem forall₂_labelled (hd : d.Labelled) {t : Tree} (ht : t ∈ d.nodes) {v : Value}
    (hv : t.plainValue? = some v) :
    List.Forall₂ (fun p q => p.1 = q.1 ∧ p.2 ∈ d.nodes ∧ p.2.plainValue? = some q.2) t.labelled
      (v.labelled?.getD []) := by
  cases t with
  | scalar i tag m text =>
    rw [plainValue?] at hv
    rw [labelled?_of_keyClass? (keyClass?_of_scalar? hv)]
    exact .nil
  | sequence i tag m ts =>
    obtain ⟨xs, hxs, rfl⟩ := Option.map_eq_some_iff.mp hv
    refine forall₂_mapIdx (R := fun t x => t ∈ d.nodes ∧ t.plainValue? = some x)
      (forall₂_imp_of_mem (plainValues?_eq_some_iff.mp hxs) ?_) fun j t x h => ⟨rfl, h⟩
    exact fun t hmem x hx => ⟨hd.plain.item ht hmem, hx⟩
  | mapping i tag m es =>
    obtain ⟨ps, hps, rfl⟩ := Option.map_eq_some_iff.mp hv
    have pairs := plainPairs?_eq_some_iff.mp hps
    -- No key is repeated, so that the map has the pairs as they are written.
    have values := (hd.distinct _ ht).values
    rw [keyValues_eq_map_fst hps] at values
    rw [Value.mapOf_of_pairwise values]
    change List.Forall₂ _ (es.map _) (ps.map _)
    rw [List.forall₂_map_left_iff, List.forall₂_map_right_iff]
    refine forall₂_imp_of_mem pairs fun e he p hp => ⟨?_, hd.plain.value ht he, hp.2⟩
    rw [hp.1, Option.getD_some]
  | reference i => cases hv

/-- The part of a node that has a label stands for the part of its value. -/
theorem part?_related (hd : d.Labelled) (t : Tree) (v : Value) (l : String)
    (h : t ∈ d.nodes ∧ t.plainValue? = some v) :
    Option.Rel (fun t v => t ∈ d.nodes ∧ t.plainValue? = some v) (t.part? l) (v.part? l) :=
  find?_key_related (forall₂_labelled hd h.1 h.2) l

end Yaml.Tree

/-- A value that a node of a document stands for, or one that is missing. -/
def Stands (d : Yaml.Tree) (v : Value) : Prop :=
  v = .null ∨ ∃ t ∈ d.nodes, t.plainValue? = some v

theorem Stands.labelled {d : Yaml.Tree} (hd : d.Labelled) {v : Value} (hv : Stands d v)
    {entries : List (String × Value)} (h : v.labelled? = some entries) :
    (entries.map (·.1)).Nodup ∧ ∀ e ∈ entries, IsLabel e.1.toList ∧ Stands d e.2 := by
  rcases hv with rfl | ⟨t, ht, hv⟩
  · cases h
  · have parts := forall₂_labelled hd ht hv
    rw [h, Option.getD_some] at parts
    obtain ⟨nodup, labels⟩ := hd.labelled ht
    constructor
    · have same : t.labelled.map (·.1) = entries.map (·.1) := by
        rw [← List.forall₂_eq_eq_eq, List.forall₂_map_left_iff, List.forall₂_map_right_iff]
        exact parts.imp fun p e h => h.1
      exact same ▸ nodup
    · intro e he
      obtain ⟨p, hp, hlabel, hmem, hvalue⟩ := exists_of_forall₂ parts.flip he
      exact ⟨hlabel ▸ (labels p hp).1, Or.inr ⟨p.2, hmem, hvalue⟩⟩

/-- Where the value that labels lead to in an instance is in its document: at the node that they lead
to there or, if the last label names a part that is missing, at the node around it. -/
inductive LocatedAt (d : Yaml.Tree) (v : Value) : List String → Value → Yaml.Tree → Prop where
  | present {ls : List String} {w : Value} {t : Yaml.Tree} (value : at? Value.part? v ls = some w)
      (node : at? Yaml.Tree.part? d ls = some t) (same : t.plainValue? = some w) :
      LocatedAt d v ls w t
  | missing {ls : List String} {l : String} {u : Value} {t : Yaml.Tree}
      (around : at? Value.part? v ls = some u) (absent : u.part? l = none)
      (node : at? Yaml.Tree.part? d ls = some t) (same : t.plainValue? = some u) :
      LocatedAt d v (ls ++ [l]) .null t

namespace LocatedAt

variable {d t : Yaml.Tree} {v w : Value} {ls : List String}

/-- The node is the deepest one on the way. -/
theorem deepest_eq (hd : d.Labelled) (hv : d.plainValue? = some v) (h : LocatedAt d v ls w t) :
    deepest Yaml.Tree.part? d ls = t := by
  cases h with
  | present value node same => exact deepest_of_at? node
  | @missing ls l u t around absent node same =>
    have root := mem_nodes_self hd.plain.isPlain
    -- What the value does not have, the node does not have either.
    have none : at? Yaml.Tree.part? d (ls ++ [l]) = none := by
      have := at?_related (part?_related hd) ⟨root, hv⟩ (ls ++ [l])
      rw [at?_concat around, absent] at this
      generalize at? Yaml.Tree.part? d (ls ++ [l]) = x at this ⊢
      cases this
      rfl
    rw [deepest_concat none, deepest_of_at? node]

end LocatedAt

/-- Labels that lead to a rejected value lead to a node. -/
theorem exists_locatedAt {d : Yaml.Tree} {v w : Value} {ls : List String} (hd : d.Labelled)
    (hv : d.plainValue? = some v) (h : at? Value.part? v ls = some w ∨
      w = .null ∧ ∃ ks l u, ls = ks ++ [l] ∧ at? Value.part? v ks = some u ∧ u.part? l = none) :
    ∃ t, LocatedAt d v ls w t := by
  have node : ∀ {ks : List String} {u : Value}, at? Value.part? v ks = some u →
      ∃ t, at? Yaml.Tree.part? d ks = some t ∧ t.plainValue? = some u := by
    intro ks u hat
    have := at?_related (part?_related hd) ⟨mem_nodes_self hd.plain.isPlain, hv⟩ ks
    rw [hat] at this
    generalize at? Yaml.Tree.part? d ks = x at this ⊢
    cases this with
    | some h => exact ⟨_, rfl, h.2⟩
  rcases h with hat | ⟨rfl, ks, l, u, rfl, hat, absent⟩
  · obtain ⟨t, hnode, same⟩ := node hat
    exact ⟨t, .present hat hnode same⟩
  · obtain ⟨t, hnode, same⟩ := node hat
    exact ⟨t, .missing hat absent hnode same⟩

/-! ### The reported location -/

namespace Schema

/-- **A reported location is the location of the rejected value.**  The file holds a plain document
whose mappings have distinct keys, and its instance is rejected.  There is one way down to the part
that is rejected, which the path of the rejection spells, and the one error of the file is at the
start of the node of this part or, where a field is missing, of the node that lacks it. -/
theorem rejection_located {fs : Files} {s : Schema} {p : FilePath} {l : Loader}
    {bytes : List UInt8} {text : List Char} {d : Yaml.Tree} {v : Value} {n : Node}
    (unknown : l.kept? p = none) (file : fs.find? p = some (.file bytes))
    (decoded : Text.decodeUtf8 bytes = .ok text)
    (composed : Yaml.Tree.ofText (Text.normaliseBreaks text) = .ok (some d))
    (plain : d.isPlain = true) (distinct : ∀ t ∈ d.nodes, t.HasDistinctKeys)
    (fields : s.HasPlainFields) (loaded : Yaml.load (Text.normaliseBreaks text) = .ok v)
    (traced : (s.trace v .root).result = .ok n) (rejected : n.isValid = false) :
    ∃ steps w t c, s.RejectsAlong v steps w ∧
      (∀ steps' w', s.RejectsAlong v steps' w' → steps' = steps ∧ w' = w) ∧
      n.path = (steps.foldl Step.descend .root).path ∧
      LocatedAt d v (labels steps) w t ∧ (s.checkFile fs p l).outcome.2 = .ok c ∧
      c.report.errors = [{ message := n.reason.getD "None", position := .ofMark t.mark,
                           path := n.path }] := by
  have hd : d.Plain := ⟨plain, Yaml.Tree.nodup_ids_of_ofText composed⟩
  -- The instance can be read off the tree, and the source map is drawn from it.
  have hload : Yaml.load (Text.normaliseBreaks text) = d.instance? := by
    rw [Yaml.load, composed]
    rfl
  obtain ⟨value, -⟩ := plainValue?_of_instance? hd (hload.symm.trans loaded)
  have labelled : d.Labelled := ⟨hd, hasKeys_of_plainValue? value fun t ht => (distinct t ht).written, distinct⟩
  obtain ⟨m, hm, -⟩ := labelled.get?_sourceMap
  have proper := isProper_of_plainValue? value
  have closed : ∀ v, Stands d v → ∀ entries, v.labelled? = some entries →
      (entries.map (·.1)).Nodup ∧ ∀ e ∈ entries, IsLabel e.1.toList ∧ Stands d e.2 :=
    fun v hv entries h => hv.labelled labelled h
  have root : Stands d v := Or.inr ⟨d, mem_nodes_self plain, value⟩
  -- The check descends along labels, of which the path of the rejection is made.
  obtain ⟨steps, w, along, path⟩ := trace_rejectsAlong s proper traced rejected
  have isLabel := along.isLabel (Or.inl rfl) closed fields root
  obtain ⟨t, located⟩ := exists_locatedAt labelled value
    (along.at?_labels (Or.inl rfl) closed fields root)
  have position : (Location.find m n.path (some p)).position = .ofMark t.mark := by
    have document : toDocument (n.path.getD "").toList = ofLabels (labels steps) := by
      rw [path]
      exact toDocument_descend isLabel
    rw [Location.find, SourceMap.locate, document, labelled.closest?_sourceMap hm isLabel,
      located.deepest_eq labelled value]
    rfl
  have load : (l.load fs p).outcome.2 = .ok ⟨v, m⟩ := by
    have source : SourceMap.ofText (Text.normaliseBreaks text) = .ok m := by
      rw [SourceMap.ofText, composed]
      exact hm
    have document : Document.ofBytes l.syntaxError p bytes = .ok ⟨v, m⟩ := by
      rw [Document.ofBytes, decoded]
      simp only [Document.ofText, loaded, source]
      rfl
    rw [Loader.load_eq, Files.bytesAt_eq_ok_iff.mpr file, unknown]
    exact document
  refine ⟨steps, w, t, (s.checkDocument p ⟨v, m⟩).outcome, along, ?_, path, located, ?_, ?_⟩
  · exact fun steps' w' h => h.unique proper along
  · rw [checkFile_outcome, load]
  · rw [checkDocument_errors, traced]
    simp only [rejected, Bool.false_eq_true, if_false, position]

/-- A file with a mapping under the key `a` that has no key `c`. -/
def nestedFiles : Files where
  here := .directory [("a.yaml", .file [97, 58, 10, 32, 32, 98, 58, 32, 49, 10])]

/-- The value in the file for given keys and a number. -/
def nestedValue (a b : String) (n : Int) : Value := .map [(.str a, .map [(.str b, .int n)])]

/-- An optional object under the key `a` with a text under the key `c`. -/
def nestedSchema : Schema :=
  object [("a", optional (some (object [("c", type (.kind .str))] false)))] false

theorem nestedSchema_rejectsAlong (n : Int) : nestedSchema.RejectsAlong (nestedValue "a" "b" n)
    [.part "a", .optional, .part "c"] .null := by
  refine @RejectsAlong.part _ _ _ [] ⟨[.part "a"], _, _⟩ _ _ rfl (by simp) ?_
  refine @RejectsAlong.part _ _ _ [] ⟨[.optional], _, _⟩ _ _ rfl (by simp) ?_
  refine @RejectsAlong.part _ _ _ [] ⟨[.part "c"], _, _⟩ _ _ rfl (by simp) ?_
  refine .whole rfl fun h => ?_
  cases h with
  | type same => cases same

/-- The missing text is reported at the inner mapping, which starts in the second line. -/
theorem rejection_located_nested : ∃ c,
    (nestedSchema.checkFile nestedFiles { names := ["a.yaml"] } .plain).outcome.2 = .ok c ∧
      c.report.errors.map (·.position) = [⟨some 2, some 3⟩] := by
  have composed : ∃ d, Yaml.Tree.ofText (Text.normaliseBreaks "a:\n  b: 1\n".toList) =
      .ok (some d) ∧ d.isPlain = true ∧ (∀ t ∈ d.nodes, t.HasDistinctKeys) ∧
      (at? Yaml.Tree.part? d ["a"]).map (·.mark) = some ⟨5, 1, 2⟩ := by
    apply Yaml.Tree.exists_of_any
    decide +kernel
  have loaded : Yaml.load (Text.normaliseBreaks "a:\n  b: 1\n".toList) =
      .ok (nestedValue "a" "b" 1) :=
    Value.eq_ok_of_builtLike (by decide +kernel)
  have traced : ∃ n, (nestedSchema.trace (nestedValue "a" "b" 1) .root).result = .ok n ∧
      n.isValid = false := ⟨_, rfl, rfl⟩
  have file : nestedFiles.find? { names := ["a.yaml"] } =
      some (.file [97, 58, 10, 32, 32, 98, 58, 32, 49, 10]) := rfl
  obtain ⟨d, composed, plain, distinct, mark⟩ := composed
  obtain ⟨n, traced, rejected⟩ := traced
  obtain ⟨steps, w, t, c, -, unique, -, located, outcome, errors⟩ :=
    rejection_located (l := .plain) rfl file (by decide +kernel) composed plain distinct
      (by decide +kernel) loaded traced rejected
  refine ⟨c, outcome, ?_⟩
  obtain ⟨rfl, rfl⟩ := unique _ _ (nestedSchema_rejectsAlong 1)
  have start : t.mark = ⟨5, 1, 2⟩ := by
    generalize hlabels : labels [.part "a", .optional, .part "c"] = ls at located
    cases located with
    | present value =>
      subst hlabels
      cases value
    | @missing ls l u t around absent node same =>
      obtain ⟨rfl, -⟩ := List.append_inj' (show ["a"] ++ ["c"] = ls ++ [l] from hlabels) rfl
      rw [node] at mark
      exact Option.some.inj mark
  rw [errors, List.map_singleton, start]
  rfl

end Schema

end Conform
