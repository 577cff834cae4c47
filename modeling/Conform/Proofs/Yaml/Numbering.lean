import Conform.Yaml.Document
/-!
# The numbers of nodes

Every node that is read gets a number of its own, so that the nodes of a document are told apart by
their numbers (`nodup_ids_of_ofText`), and an alias holds the number of a node that has been started
(`mem_ids_of_held`).  The reader counts upwards, and a step of it is described by what has been done
with numbers before it and after it (`Numbers`).
-/
namespace Conform.Yaml

namespace Tree

/-- The numbers of the nodes of a tree. -/
def ids (t : Tree) : List Nat := t.nodes.map id

/-- The numbers of the nodes of all items. -/
def idsItems (ts : List Tree) : List Nat := (nodesItems ts).map id

/-- The numbers of the nodes of all keys and values. -/
def idsEntries (es : List (Tree × Tree)) : List Nat := (nodesEntries es).map id

theorem ids_sequence (i : Nat) (tag : String) (m : Mark) (ts : List Tree) :
    (sequence i tag m ts).ids = i :: idsItems ts := rfl

theorem ids_mapping (i : Nat) (tag : String) (m : Mark) (es : List (Tree × Tree)) :
    (mapping i tag m es).ids = i :: idsEntries es := rfl

theorem idsItems_cons (t : Tree) (ts : List Tree) :
    idsItems (t :: ts) = t.ids ++ idsItems ts := by
  simp [idsItems, ids, nodesItems]

theorem idsEntries_cons (k v : Tree) (es : List (Tree × Tree)) :
    idsEntries ((k, v) :: es) = k.ids ++ v.ids ++ idsEntries es := by
  simp [idsEntries, ids, nodesEntries]

/-- What is done with a number: a node gets it, or an alias holds it. -/
inductive Use where
  | given (i : Nat)
  | held (i : Nat)

/-- The number, if a node gets it. -/
def Use.given? : Use → Option Nat
  | given i => some i
  | held _ => none

mutual

/-- What is done with numbers in a tree. -/
def uses : Tree → List Use
  | scalar i .. => [.given i]
  | sequence i _ _ ts => .given i :: usesItems ts
  | mapping i _ _ es => .given i :: usesEntries es
  | reference i => [.held i]

/-- What is done with numbers in all items. -/
def usesItems : List Tree → List Use
  | [] => []
  | t :: ts => t.uses ++ usesItems ts

/-- What is done with numbers in all keys and values. -/
def usesEntries : List (Tree × Tree) → List Use
  | [] => []
  | (k, v) :: es => k.uses ++ v.uses ++ usesEntries es

end

mutual

/-- The numbers that are given in a tree are those of its nodes. -/
theorem filterMap_given?_uses : ∀ t : Tree, t.uses.filterMap Use.given? = t.ids
  | scalar .. => rfl
  | sequence i _ _ ts => congrArg (i :: ·) (filterMap_given?_usesItems ts)
  | mapping i _ _ es => congrArg (i :: ·) (filterMap_given?_usesEntries es)
  | reference _ => rfl

theorem filterMap_given?_usesItems : ∀ ts : List Tree,
    (usesItems ts).filterMap Use.given? = idsItems ts
  | [] => rfl
  | t :: ts => by
    rw [usesItems, List.filterMap_append, filterMap_given?_uses, filterMap_given?_usesItems,
      idsItems_cons]

theorem filterMap_given?_usesEntries : ∀ es : List (Tree × Tree),
    (usesEntries es).filterMap Use.given? = idsEntries es
  | [] => rfl
  | (k, v) :: es => by
    rw [usesEntries, List.filterMap_append, List.filterMap_append, filterMap_given?_uses,
      filterMap_given?_uses, filterMap_given?_usesEntries, idsEntries_cons]

end

end Tree

namespace Read

open Conform.Yaml.Tree (Use)

/-- Whether the numbers from one bound up to another are given in order, and those that are held lie
below. -/
def Fresh (lo hi : Nat) (us : List Use) : Prop :=
  us.filterMap Use.given? = List.range' lo (hi - lo) ∧ ∀ i, Use.held i ∈ us → i < hi

theorem fresh_nil (lo : Nat) : Fresh lo lo [] := by simp [Fresh]

theorem Fresh.append {lo mid hi : Nat} {us vs : List Use} (hlo : lo ≤ mid) (hhi : mid ≤ hi)
    (h : Fresh lo mid us) (h' : Fresh mid hi vs) : Fresh lo hi (us ++ vs) := by
  refine ⟨?_, fun i hi => ?_⟩
  -- The numbers given later start where the earlier ones end.
  · have whole : hi - lo = mid - lo + (hi - mid) := by omega
    have start : mid = lo + (mid - lo) := by omega
    rw [List.filterMap_append, h.1, h'.1, whole, ← List.range'_append_1, ← start]
  · rcases List.mem_append.mp hi with hi | hi
    · exact Nat.lt_of_lt_of_le (h.2 i hi) hhi
    · exact h'.2 i hi

/-- Whether anchors stand for numbers that have been given. -/
def IsKnown (s : Reader) : Prop := ∀ a ∈ s.anchors, a.2 < s.nextId

/-- Whether a step that comes after some uses of numbers leaves those of its result, with the new
ones, in order. -/
def Numbers {α : Type} (before : List Use) (uses : α → List Use) (x : Read α) : Prop :=
  ∀ s a s' lo, x s = .ok (a, s') → IsKnown s → lo ≤ s.nextId → Fresh lo s.nextId before →
    IsKnown s' ∧ s.nextId ≤ s'.nextId ∧ Fresh lo s'.nextId (uses a)

/-- Whether a step gives no number. -/
def Keeps {α : Type} (x : Read α) : Prop :=
  ∀ s a s', x s = .ok (a, s') → s'.nextId = s.nextId ∧ s'.anchors = s.anchors

section Rules

variable {α β : Type} {x : Read α} {f : α → Read β}

theorem bind_inv {s s'' : Reader} {b : β} (h : (x >>= f) s = .ok (b, s'')) :
    ∃ a s', x s = .ok (a, s') ∧ f a s' = .ok (b, s'') := by
  change (x s >>= fun p => f p.1 p.2) = _ at h
  cases hx : x s with
  | error e =>
    rw [hx] at h
    cases h
  | ok p =>
    rw [hx] at h
    exact ⟨p.1, p.2, rfl, h⟩

theorem keeps_pure (a : α) : Keeps (pure a : Read α) := by
  intro s b s' h
  cases h
  exact ⟨rfl, rfl⟩

theorem keeps_fail : Keeps (fail : Read α) := by
  intro s b s' h
  cases h

theorem Keeps.bind (hx : Keeps x) (hf : ∀ a, Keeps (f a)) : Keeps (x >>= f) := by
  intro s b s'' h
  obtain ⟨a, s', h₁, h₂⟩ := bind_inv h
  obtain ⟨number, anchors⟩ := hf a s' b s'' h₂
  obtain ⟨number', anchors'⟩ := hx s a s' h₁
  exact ⟨number.trans number', anchors.trans anchors'⟩

theorem Keeps.isKnown {s s' : Reader} {a : α} (h : Keeps x) (hx : x s = .ok (a, s'))
    (known : IsKnown s) : IsKnown s' := by
  obtain ⟨number, anchors⟩ := h s a s' hx
  rw [IsKnown, anchors, number]
  exact known

theorem Keeps.numbers (h : Keeps x) (before : List Use) : Numbers before (fun _ => before) x := by
  intro s a s' lo hx known _ fresh
  refine ⟨h.isKnown hx known, ?_⟩
  rw [(h s a s' hx).1]
  exact ⟨Nat.le_refl _, fresh⟩

theorem numbers_pure {before : List Use} {uses : α → List Use} {a : α} (h : uses a = before) :
    Numbers before uses (pure a : Read α) := by
  intro s b s' lo hb known _ fresh
  cases hb
  exact ⟨known, Nat.le_refl _, h ▸ fresh⟩

theorem numbers_fail {before : List Use} {uses : α → List Use} :
    Numbers before uses (fail : Read α) := by
  intro s a s' lo h
  cases h

theorem Numbers.bind {before : List Use} {mid : α → List Use} {uses : β → List Use}
    (hx : Numbers before mid x) (hf : ∀ a, Numbers (mid a) uses (f a)) :
    Numbers before uses (x >>= f) := by
  intro s b s'' lo h known hlo fresh
  obtain ⟨a, s', h₁, h₂⟩ := bind_inv h
  obtain ⟨known', hle, fresh'⟩ := hx s a s' lo h₁ known hlo fresh
  obtain ⟨known'', hle', fresh''⟩ := hf a s' b s'' lo h₂ known' (Nat.le_trans hlo hle) fresh'
  exact ⟨known'', Nat.le_trans hle hle', fresh''⟩

/-- A step that gives no number comes before one that does. -/
theorem Keeps.bind_numbers {before : List Use} {uses : β → List Use} (hx : Keeps x)
    (hf : ∀ a, Numbers before uses (f a)) : Numbers before uses (x >>= f) :=
  (hx.numbers before).bind hf

/-- What a step does comes after what has been done before. -/
theorem Numbers.frame {uses : α → List Use} (h : Numbers [] uses x) (before : List Use) :
    Numbers before (fun a => before ++ uses a) x := by
  intro s a s' lo hx known hlo fresh
  -- The step is looked at on its own: all that it gives is counted from the next number on.
  obtain ⟨known', hle, fresh'⟩ := h s a s' s.nextId hx known (Nat.le_refl _) (fresh_nil _)
  exact ⟨known', hle, fresh.append hlo hle fresh'⟩

end Rules

/-! ### Steps that give no number -/

theorem keeps_peek : Keeps peek := by
  intro s t s' h
  unfold peek at h
  obtain ⟨a, s₁, h₁, h₂⟩ := bind_inv h
  cases h₁
  cases ht : s.tokens with
  | nil =>
    rw [ht] at h₂
    cases h₂
  | cons t ts =>
    rw [ht] at h₂
    cases h₂
    exact ⟨rfl, rfl⟩

theorem keeps_take : Keeps take := by
  refine keeps_peek.bind fun t => ?_
  refine Keeps.bind (fun s a s' h => ?_) fun _ => keeps_pure t
  cases h
  exact ⟨rfl, rfl⟩

theorem keeps_ahead (kinds : List TokenKind) : Keeps (ahead kinds) :=
  keeps_peek.bind fun _ => keeps_pure _

theorem keeps_expect (kind : TokenKind) : Keeps (expect kind) := by
  refine keeps_take.bind fun t => ?_
  split
  · exact keeps_fail
  · exact keeps_pure _

theorem keeps_get : Keeps (get : Read Reader) := by
  intro s a s' h
  cases h
  exact ⟨rfl, rfl⟩

theorem keeps_expanded (handle : Option String) (suffix : String) :
    Keeps (expanded handle suffix) := by
  unfold expanded
  cases handle with
  | none => exact keeps_pure _
  | some h =>
    refine keeps_get.bind fun s => ?_
    split
    · exact keeps_pure _
    · exact keeps_fail

theorem keeps_properties : Keeps properties := by
  refine keeps_peek.bind fun t => ?_
  split
  · refine keeps_take.bind fun _ => keeps_peek.bind fun t => ?_
    split
    · exact keeps_take.bind fun _ => (keeps_expanded _ _).bind fun _ => keeps_pure _
    · exact keeps_pure _
  · refine keeps_take.bind fun _ => keeps_peek.bind fun t => ?_
    split
    · exact keeps_take.bind fun _ => (keeps_expanded _ _).bind fun _ => keeps_pure _
    · exact (keeps_expanded _ _).bind fun _ => keeps_pure _
  · exact keeps_pure _

/-! ### Steps that give numbers -/

/-- The next number is given, and at most one more anchor stands for it. -/
theorem number_inv {anchor : Option String} {s s' : Reader} {i : Nat}
    (h : number anchor s = .ok (i, s')) : i = s.nextId ∧ s'.nextId = s.nextId + 1 ∧
      ∀ a ∈ s'.anchors, a.2 = s.nextId ∨ a ∈ s.anchors := by
  unfold number at h
  obtain ⟨s₁, s₂, h₁, h₂⟩ := bind_inv h
  cases h₁
  cases anchor with
  | none =>
    cases h₂
    exact ⟨rfl, rfl, fun a ha => Or.inr ha⟩
  | some name =>
    dsimp only at h₂
    split at h₂
    · cases h₂
    · cases h₂
      refine ⟨rfl, rfl, fun a ha => ?_⟩
      rcases List.mem_cons.mp ha with rfl | ha
      · exact Or.inl rfl
      · exact Or.inr ha

theorem numbers_number (anchor : Option String) (before : List Use) :
    Numbers before (fun i => before ++ [Use.given i]) (number anchor) := by
  intro s i s' lo h known hlo fresh
  obtain ⟨rfl, hnext, anchors⟩ := number_inv h
  rw [hnext]
  refine ⟨fun a ha => ?_, Nat.le_succ _, fresh.append hlo (Nat.le_succ _) ?_⟩
  · rw [hnext]
    rcases anchors a ha with ha | ha
    · exact ha ▸ Nat.lt_succ_self _
    · exact Nat.lt_succ_of_lt (known a ha)
  · simp [Fresh, Use.given?]

theorem numbers_missing (m : Mark) : Numbers [] Tree.uses (missing m) :=
  (numbers_number none []).bind fun _ => numbers_pure rfl

/-- An alias holds a number that an anchor stands for. -/
theorem numbers_reference (name : String) : Numbers [] Tree.uses (reference name) := by
  intro s t s' lo h known hlo fresh
  unfold reference at h
  obtain ⟨s₁, s₂, h₁, h₂⟩ := bind_inv h
  cases h₁
  cases found : s.anchors.find? (·.1 == name) with
  | none =>
    rw [found] at h₂
    cases h₂
  | some a =>
    rw [found] at h₂
    cases h₂
    have given : a.2 < s.nextId := known a (List.mem_of_find?_eq_some found)
    refine ⟨known, Nat.le_refl _, fresh.append hlo (Nat.le_refl _) ⟨?_, ?_⟩⟩
    · simp [Use.given?]
    · simpa [Tree.uses] using given

theorem numbers_empty (p : Properties) : Numbers [] Tree.uses (node.empty p) := by
  unfold node.empty
  cases p.start with
  | none => exact numbers_fail
  | some m => exact (numbers_number _ []).bind fun _ => numbers_pure rfl

/-- The steps of the descent with some fuel. -/
structure Descent (fuel : Nat) : Prop where
  node : ∀ allowed, Numbers [] Tree.uses (Read.node allowed fuel)
  blockItems : Numbers [] Tree.usesItems (Read.blockItems fuel)
  indentlessItems : Numbers [] Tree.usesItems (Read.indentlessItems fuel)
  blockEntries : Numbers [] Tree.usesEntries (Read.blockEntries fuel)
  blockPart : ∀ t, Numbers [] Tree.uses (Read.blockPart t fuel)
  flowItems : ∀ first, Numbers [] Tree.usesItems (Read.flowItems first fuel)
  flowEntries : ∀ first, Numbers [] Tree.usesEntries (Read.flowEntries first fuel)
  flowValue : ∀ closing, Numbers [] Tree.uses (Read.flowValue closing fuel)
  flowPart : ∀ t ends, Numbers [] Tree.uses (Read.flowPart t ends fuel)

theorem descent_zero : Descent 0 := by
  constructor <;> intros <;> exact numbers_fail

/-- The parts of a collection get their numbers after the collection. -/
theorem numbers_parts {α : Type} {x : Read α} {uses : α → List Use} {make : α → Tree} {i : Nat}
    (hx : Numbers [] uses x) (hmake : ∀ a, (make a).uses = Use.given i :: uses a) :
    Numbers [Use.given i] Tree.uses (x >>= fun a => pure (make a)) :=
  (hx.frame [Use.given i]).bind fun a => numbers_pure (hmake a)

theorem numbers_moreItems {x : Read (List Tree)} (hx : Numbers [] Tree.usesItems x) (t : Tree) :
    Numbers t.uses Tree.usesItems (x >>= fun ts => pure (t :: ts)) :=
  (hx.frame t.uses).bind fun _ => numbers_pure rfl

theorem numbers_moreEntries {x : Read (List (Tree × Tree))} (hx : Numbers [] Tree.usesEntries x)
    (k v : Tree) :
    Numbers (k.uses ++ v.uses) Tree.usesEntries (x >>= fun es => pure ((k, v) :: es)) :=
  (hx.frame _).bind fun _ => numbers_pure rfl

theorem numbers_node {fuel : Nat} (ih : Descent fuel) (allowed : Allowed) :
    Numbers [] Tree.uses (node allowed (fuel + 1)) := by
  unfold node
  refine keeps_peek.bind_numbers fun t => ?_
  split
  -- An alias has no number; any other node gets its own before its parts are read.
  · exact keeps_take.bind_numbers fun _ => numbers_reference _
  · refine keeps_properties.bind_numbers fun p => keeps_peek.bind_numbers fun t => ?_
    have number := numbers_number p.anchor []
    dsimp only
    split
    · split
      · exact number.bind fun _ => numbers_parts ih.indentlessItems fun _ => rfl
      · exact numbers_empty p
    · exact keeps_take.bind_numbers fun _ => number.bind fun _ => numbers_pure rfl
    · exact number.bind fun _ => keeps_take.bind_numbers fun _ =>
        numbers_parts (ih.flowItems true) fun _ => rfl
    · exact number.bind fun _ => keeps_take.bind_numbers fun _ =>
        numbers_parts (ih.flowEntries true) fun _ => rfl
    · split
      · exact number.bind fun _ => keeps_take.bind_numbers fun _ =>
          numbers_parts ih.blockItems fun _ => rfl
      · exact numbers_empty p
    · split
      · exact number.bind fun _ => keeps_take.bind_numbers fun _ =>
          numbers_parts ih.blockEntries fun _ => rfl
      · exact numbers_empty p
    · exact numbers_empty p

theorem numbers_blockItems {fuel : Nat} (ih : Descent fuel) :
    Numbers [] Tree.usesItems (blockItems (fuel + 1)) := by
  unfold blockItems
  refine keeps_take.bind_numbers fun t => ?_
  split
  · refine (keeps_ahead _).bind_numbers fun _ => ?_
    dsimp only
    split
    · exact (numbers_missing _).bind (numbers_moreItems ih.blockItems)
    · exact (ih.node _).bind (numbers_moreItems ih.blockItems)
  · exact numbers_pure rfl
  · exact numbers_fail

theorem numbers_indentlessItems {fuel : Nat} (ih : Descent fuel) :
    Numbers [] Tree.usesItems (indentlessItems (fuel + 1)) := by
  unfold indentlessItems
  refine (keeps_ahead _).bind_numbers fun _ => ?_
  split
  · refine keeps_take.bind_numbers fun t => (keeps_ahead _).bind_numbers fun _ => ?_
    dsimp only
    split
    · exact (numbers_missing _).bind (numbers_moreItems ih.indentlessItems)
    · exact (ih.node _).bind (numbers_moreItems ih.indentlessItems)
  · exact numbers_pure rfl

theorem numbers_blockEntries {fuel : Nat} (ih : Descent fuel) :
    Numbers [] Tree.usesEntries (blockEntries (fuel + 1)) := by
  unfold blockEntries
  refine keeps_take.bind_numbers fun t => ?_
  split
  · refine (ih.blockPart t).bind fun k => (keeps_ahead _).bind_numbers fun _ => ?_
    dsimp only
    split
    · refine keeps_take.bind_numbers fun t => ?_
      exact ((ih.blockPart t).frame _).bind (numbers_moreEntries ih.blockEntries k)
    · refine keeps_peek.bind_numbers fun t => ?_
      exact ((numbers_missing _).frame _).bind (numbers_moreEntries ih.blockEntries k)
  · exact numbers_pure rfl
  · exact numbers_fail

theorem numbers_blockPart {fuel : Nat} (ih : Descent fuel) (t : Token) :
    Numbers [] Tree.uses (blockPart t (fuel + 1)) := by
  unfold blockPart
  refine (keeps_ahead _).bind_numbers fun _ => ?_
  split
  · exact numbers_missing _
  · exact ih.node _

/-- A step that gives no number may be left out. -/
theorem numbers_unless {α : Type} {c : Prop} [Decidable c] {x : Read Unit} {body : Unit → Read α}
    {uses : α → List Use} (hx : Keeps x) (h : Numbers [] uses (body ())) :
    Numbers [] uses (if c then x >>= body else body ()) := by
  split
  · exact hx.bind_numbers fun _ => h
  · exact h

theorem numbers_flowItems {fuel : Nat} (ih : Descent fuel) (first : Bool) :
    Numbers [] Tree.usesItems (flowItems first (fuel + 1)) := by
  unfold flowItems
  refine (keeps_ahead _).bind_numbers fun _ => ?_
  split
  · exact keeps_take.bind_numbers fun _ => numbers_pure rfl
  · refine numbers_unless (keeps_expect _) (keeps_peek.bind_numbers fun t => ?_)
    split
    · exact keeps_take.bind_numbers fun _ => numbers_pure rfl
    · -- A mapping with a single entry: its number, the key, the value, then the other items.
      refine (numbers_number none []).bind fun i => keeps_take.bind_numbers fun _ => ?_
      refine ((ih.flowPart t _).frame _).bind fun k => ?_
      refine ((ih.flowValue _).frame _).bind fun v => ?_
      exact ((ih.flowItems false).frame _).bind fun ts => numbers_pure (by
        simp [Tree.uses, Tree.usesItems, Tree.usesEntries])
    · exact (ih.node _).bind (numbers_moreItems (ih.flowItems false))

theorem numbers_flowEntries {fuel : Nat} (ih : Descent fuel) (first : Bool) :
    Numbers [] Tree.usesEntries (flowEntries first (fuel + 1)) := by
  unfold flowEntries
  refine (keeps_ahead _).bind_numbers fun _ => ?_
  split
  · exact keeps_take.bind_numbers fun _ => numbers_pure rfl
  · refine numbers_unless (keeps_expect _) (keeps_peek.bind_numbers fun t => ?_)
    split
    · exact keeps_take.bind_numbers fun _ => numbers_pure rfl
    · refine keeps_take.bind_numbers fun _ => (ih.flowPart t _).bind fun k => ?_
      exact ((ih.flowValue _).frame _).bind (numbers_moreEntries (ih.flowEntries false) k)
    · refine (ih.node _).bind fun k => keeps_peek.bind_numbers fun t => ?_
      exact ((numbers_missing _).frame _).bind (numbers_moreEntries (ih.flowEntries false) k)

theorem numbers_flowValue {fuel : Nat} (ih : Descent fuel) (closing : TokenKind) :
    Numbers [] Tree.uses (flowValue closing (fuel + 1)) := by
  unfold flowValue
  refine (keeps_ahead _).bind_numbers fun _ => ?_
  split
  · exact keeps_take.bind_numbers fun t => ih.flowPart t _
  · exact keeps_peek.bind_numbers fun t => numbers_missing _

theorem numbers_flowPart {fuel : Nat} (ih : Descent fuel) (t : Token) (ends : List TokenKind) :
    Numbers [] Tree.uses (flowPart t ends (fuel + 1)) := by
  unfold flowPart
  refine (keeps_ahead _).bind_numbers fun _ => ?_
  split
  · exact numbers_missing _
  · exact ih.node _

theorem descent (fuel : Nat) : Descent fuel := by
  induction fuel with
  | zero => exact descent_zero
  | succ fuel ih =>
    exact
      { node := numbers_node ih
        blockItems := numbers_blockItems ih
        indentlessItems := numbers_indentlessItems ih
        blockEntries := numbers_blockEntries ih
        blockPart := numbers_blockPart ih
        flowItems := numbers_flowItems ih
        flowEntries := numbers_flowEntries ih
        flowValue := numbers_flowValue ih
        flowPart := numbers_flowPart ih }

/-! ### Documents -/

theorem keeps_skipEnds (fuel : Nat) : Keeps (skipEnds fuel) := by
  induction fuel with
  | zero => exact keeps_fail
  | succ fuel ih =>
    unfold skipEnds
    refine (keeps_ahead _).bind fun _ => ?_
    split
    · exact keeps_take.bind fun _ => ih
    · exact keeps_pure _

theorem keeps_directives (fuel : Nat) (versioned : Bool) (handles : List (String × String)) :
    Keeps (directives fuel versioned handles) := by
  induction fuel generalizing versioned handles with
  | zero => exact keeps_fail
  | succ fuel ih =>
    unfold directives
    refine keeps_peek.bind fun t => ?_
    split
    · refine keeps_take.bind fun _ => ?_
      split
      · exact keeps_fail.bind fun _ => ih _ _
      · exact ih _ _
    · refine keeps_take.bind fun _ => ?_
      split
      · exact keeps_fail.bind fun _ => ih _ _
      · exact ih _ _
    · exact keeps_take.bind fun _ => ih _ _
    · intro s a s' h
      cases h
      exact ⟨rfl, rfl⟩

theorem keeps_announced (fuel : Nat) : Keeps (announced fuel) := by
  refine (keeps_skipEnds fuel).bind fun _ => (keeps_ahead _).bind fun _ => ?_
  split
  · exact keeps_pure _
  · refine (keeps_directives fuel false []).bind fun _ => ?_
    exact (keeps_expect _).bind fun _ => keeps_pure _

/-- What is done with numbers in a document, if there is one. -/
def usesOfRoot (root? : Option Tree) : List Use := (root?.map Tree.uses).getD []

theorem numbers_root {x : Read Tree} (hx : Numbers [] Tree.uses x) :
    Numbers [] usesOfRoot (some <$> x) := by
  change Numbers [] usesOfRoot (x >>= fun t => pure (some t))
  exact hx.bind fun t => numbers_pure rfl

/-- What follows a document gives no number. -/
theorem numbers_end (fuel : Nat) (root? : Option Tree) :
    Numbers (usesOfRoot root?) usesOfRoot (do
      if root?.isSome then
        if ← announced fuel then fail
      return root?) := by
  dsimp only
  split
  · refine (keeps_announced fuel).bind_numbers fun _ => ?_
    split
    · exact keeps_fail.bind_numbers fun _ => numbers_pure rfl
    · exact numbers_pure rfl
  · exact numbers_pure rfl

theorem numbers_document (fuel : Nat) : Numbers [] usesOfRoot (document fuel) := by
  unfold document
  refine keeps_peek.bind_numbers fun t => ?_
  have root := numbers_root ((descent fuel).node {})
  dsimp only
  split
  · refine (keeps_announced fuel).bind_numbers fun _ => ?_
    split
    · refine keeps_peek.bind_numbers fun t => ?_
      split
      · exact (numbers_root (numbers_missing _)).bind (numbers_end fuel)
      · exact root.bind (numbers_end fuel)
    · exact (numbers_pure rfl).bind (numbers_end fuel)
  · refine Keeps.bind_numbers (fun s a s' h => ?_) fun _ => root.bind (numbers_end fuel)
    cases h
    exact ⟨rfl, rfl⟩

end Read

/-- The numbers of a document are given in order from zero on, and no other ones are held. -/
theorem Tree.fresh_uses_of_ofText {text : List Char} {d : Tree} (h : ofText text = .ok (some d)) :
    ∃ n, Read.Fresh 0 n d.uses := by
  unfold ofText at h
  dsimp only at h
  -- The amount of fuel plays no part, and is not to be computed.
  generalize 4 * (lex text).tokens.length + 16 = fuel at h
  have success : ∀ s : Reader, (Read.document fuel).run' s = .ok (some d) →
      ∃ p, Read.document fuel s = .ok p ∧ p.1 = some d := by
    intro s h
    change (Read.document fuel s).map Prod.fst = _ at h
    cases hp : Read.document fuel s with
    | error e =>
      rw [hp] at h
      cases h
    | ok p =>
      rw [hp] at h
      exact ⟨p, rfl, Except.ok.inj h⟩
  obtain ⟨p, hp, hd⟩ := success _ h
  -- Before the document no number is in use.
  have fresh := (Read.numbers_document fuel _ p.1 p.2 0 hp (by simp [Read.IsKnown]) (Nat.le_refl _)
    (Read.fresh_nil 0)).2.2
  rw [hd] at fresh
  exact ⟨_, fresh⟩

/-- **Every node has a number of its own.** -/
theorem Tree.nodup_ids_of_ofText {text : List Char} {d : Tree} (h : ofText text = .ok (some d)) :
    d.ids.Nodup := by
  obtain ⟨n, given, -⟩ := fresh_uses_of_ofText h
  rw [← filterMap_given?_uses, given]
  exact List.nodup_range'

/-- **An alias stands for a node of the document.** -/
theorem Tree.mem_ids_of_held {text : List Char} {d : Tree}
    (h : ofText text = .ok (some d)) {i : Nat} (hi : Use.held i ∈ d.uses) : i ∈ d.ids := by
  obtain ⟨n, given, held⟩ := fresh_uses_of_ofText h
  rw [← filterMap_given?_uses, given, List.mem_range'_1]
  have := held i hi
  omega

end Conform.Yaml
