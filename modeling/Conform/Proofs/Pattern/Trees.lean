import Conform.Pattern.Reader
import Conform.Proofs.Pattern.Layout
/-!
# Pieces that have been read

Pieces are put together so that their groups stay in order: parentheses that only group are left out,
and what all alternatives begin with comes before them, which never is a group.
-/
namespace Conform.Pattern

variable {f : Features} {low mid high : Nat}

/-! ### Parentheses that only group -/

theorem AllLie.ungroup {ps : List Piece} (h : AllLie f ps low high) :
    AllLie f (ungroup ps) low high := by
  induction ps generalizing low with
  | nil => exact h
  | cons p ps ih =>
    obtain ⟨mid, first, rest⟩ := h
    rw [Pattern.ungroup, List.flatMap_cons]
    refine allLie_append.mpr ⟨mid, ?_, ih rest⟩
    split
    · split
      · exact first
      · exact allLie_singleton.mpr first
    · exact allLie_singleton.mpr first

/-! ### Alternatives -/

theorem Piece.isPlain_of_isSame {p q : Piece} (h : p.isSame q = true) : p.IsPlain := by
  unfold isSame at h
  split at h <;> trivial

theorem AllLie.tail {ps : List Piece} (h : AllLie f ps low high) : AllLie f ps.tail low high := by
  cases ps with
  | nil => exact h
  | cons p ps =>
    obtain ⟨mid, first, rest⟩ := h
    exact rest.mono first.le le_rfl

theorem AnyLie.tails {alternatives : List (List Piece)} (h : AnyLie f alternatives low high) :
    AnyLie f (alternatives.map List.tail) low high := by
  induction alternatives generalizing low with
  | nil => exact h
  | cons ps rest ih =>
    obtain ⟨mid, first, others⟩ := h
    exact ⟨mid, first.tail, ih others⟩

/-- What all alternatives begin with holds no groups. -/
theorem splitCommon_lies {ps : List Piece} {others : List (List Piece)} (some : others ≠ [])
    (h : AnyLie f (ps :: others) low high) :
    AllLie f (splitCommon ps others).1 low low ∧ AnyLie f (splitCommon ps others).2 low high := by
  induction ps generalizing others with
  | nil => exact ⟨le_rfl, h⟩
  | cons p ps ih =>
    rw [splitCommon]
    split
    · rename_i same
      obtain ⟨mid, first, rest⟩ := h
      -- The first piece of all of them is the same, so it is none that holds groups.
      have shorter : AnyLie f (ps :: others.map List.tail) low high := ⟨mid, first.tail, rest.tails⟩
      obtain ⟨hcommon, hleft⟩ := ih (by simpa using some) shorter
      obtain ⟨qs, others, rfl⟩ := List.exists_cons_of_ne_nil some
      obtain ⟨q, -, same⟩ := (Option.any_eq_true ..).mp (List.all_eq_true.mp same qs List.mem_cons_self)
      exact ⟨⟨low, (Piece.isPlain_of_isSame same).lies le_rfl, hcommon⟩, hleft⟩
    · exact ⟨le_rfl, h⟩

theorem AnyLie.joinAlternatives {alternatives : List (List Piece)}
    (h : AnyLie f alternatives low high) : AllLie f (joinAlternatives alternatives) low high := by
  unfold Pattern.joinAlternatives
  split
  · exact h
  · obtain ⟨mid, one, le⟩ := h
    exact one.mono le_rfl le
  · rename_i first others several
    have some : others ≠ [] := fun none => several (by rw [none])
    obtain ⟨hcommon, hleft⟩ := splitCommon_lies some h
    dsimp only
    split
    · exact allLie_append.mpr ⟨low, hcommon, allLie_singleton.mpr hleft.le⟩
    · exact allLie_append.mpr ⟨low, hcommon, allLie_singleton.mpr hleft⟩

theorem anyLie_append_singleton {alternatives : List (List Piece)} {ps : List Piece}
    (h : AnyLie f alternatives low mid) (g : AllLie f ps mid high) :
    AnyLie f (alternatives ++ [ps]) low high := by
  induction alternatives generalizing low with
  | nil => exact ⟨high, g.mono h le_rfl, le_rfl⟩
  | cons qs rest ih =>
    obtain ⟨mid', first, others⟩ := h
    exact ⟨mid', first, ih others⟩

/-! ### Look-behinds -/

mutual

/-- A piece with a wide look-behind has a look-behind. -/
theorem Piece.Lies.lookbehind {ws : Widths} {limit : Nat} : {p : Piece} → {low high : Nat} →
    p.Lies f low high → p.looksBeyond ws limit = true → f.lookbehind
  | .group (some _) _ _ _, _, _, h, wide => h.2.lookbehind wide
  | .group none _ _ _, _, _, h, wide => AllLie.lookbehind h wide
  | .atomic _, _, _, h, wide => AllLie.lookbehind h wide
  | .look _ _ _, _, _, h, wide => by
    rw [Piece.looksBeyond, Bool.or_eq_true, Bool.and_eq_true] at wide
    exact wide.elim (fun wide => h.1 wide.1) h.2.lookbehind
  | .branch _, _, _, h, wide => AnyLie.lookbehind h wide
  | .conditional _ _ _, _, _, ⟨_, yes, no⟩, wide =>
    (Bool.or_eq_true_iff.mp wide).elim yes.lookbehind no.lookbehind
  | .repeated _ _ _ _, _, _, h, wide => h.2.lookbehind wide

theorem AllLie.lookbehind {ws : Widths} {limit : Nat} : {ps : List Piece} →
    {low high : Nat} → AllLie f ps low high → looksBeyondIn ws limit ps = true → f.lookbehind
  | _ :: _, _, _, ⟨_, first, rest⟩, wide =>
    (Bool.or_eq_true_iff.mp wide).elim first.lookbehind rest.lookbehind

theorem AnyLie.lookbehind {ws : Widths} {limit : Nat} :
    {alternatives : List (List Piece)} → {low high : Nat} → AnyLie f alternatives low high →
      looksBeyondInAny ws limit alternatives = true → f.lookbehind
  | _ :: _, _, _, ⟨_, first, rest⟩, wide =>
    (Bool.or_eq_true_iff.mp wide).elim first.lookbehind rest.lookbehind

end

/-! ### Problems that show late -/

theorem or_ne_some {α : Type} {a b : Option α} {x : α} (ha : a ≠ some x) (hb : b ≠ some x) :
    a.or b ≠ some x := by
  cases a with
  | none => exact hb
  | some _ => exact ha

mutual

/-- Reading to the end finds no lack of depth. -/
theorem Piece.problem?_ne_tooDeep {ws : Widths} {template : Bool} : (p : Piece) →
    p.problem? ws template ≠ some .tooDeep
  | .group _ _ _ body => problemIn?_ne_tooDeep body
  | .atomic body => problemIn?_ne_tooDeep body
  | .look behind negated body => by
    unfold Piece.problem?
    dsimp only
    split
    · nofun
    split
    · nofun
    · exact problemIn?_ne_tooDeep body
  | .branch alternatives => problemInAny?_ne_tooDeep alternatives
  | .conditional _ yes no => or_ne_some (problemIn?_ne_tooDeep yes) (problemIn?_ne_tooDeep no)
  | .repeated mode least most body => by
    unfold Piece.problem?
    split
    · nofun
    · exact problemIn?_ne_tooDeep body
  | .char _ => nofun
  | .notChar _ => nofun
  | .any => nofun
  | .charSet _ _ => nofun
  | .anchor _ => nofun
  | .backref _ => nofun

theorem problemIn?_ne_tooDeep {ws : Widths} {template : Bool} : (ps : List Piece) →
    problemIn? ws template ps ≠ some .tooDeep
  | [] => nofun
  | p :: ps => or_ne_some p.problem?_ne_tooDeep (problemIn?_ne_tooDeep ps)

theorem problemInAny?_ne_tooDeep {ws : Widths} {template : Bool} :
    (alternatives : List (List Piece)) →
      problemInAny? ws template alternatives ≠ some .tooDeep
  | [] => nofun
  | ps :: rest => or_ne_some (problemIn?_ne_tooDeep ps) (problemInAny?_ne_tooDeep rest)

end

end Conform.Pattern
