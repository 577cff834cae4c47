import Conform.Pattern.Syntax
import Mathlib.Order.Nat
/-!
# How the groups of a pattern lie

The groups of a pattern are numbered in the order in which they open.  So the numbers of the groups in
a part of it lie between two bounds, parts that follow one another have bounds that follow one another,
and what is inside a group has greater numbers than the group itself.  `Lies` says so of a piece, and
besides which features the piece and what it holds may have.
-/
namespace Conform.Pattern

/-- The features that a pattern may have. -/
structure Features where
  lookbehind : Prop
  possessive : Prop

mutual

/-- Whether the groups of a piece are numbered in order from a number on and below another, and the
piece has no other features than those. -/
def Piece.Lies (f : Features) : Piece → Nat → Nat → Prop
  | .group (some g) _ _ body, low, high => low ≤ g ∧ AllLie f body (g + 1) high
  | .group none _ _ body, low, high => AllLie f body low high
  | .atomic body, low, high => AllLie f body low high
  | .look behind _ body, low, high => (behind = true → f.lookbehind) ∧ AllLie f body low high
  | .branch alternatives, low, high => AnyLie f alternatives low high
  | .conditional _ yes no, low, high => ∃ mid, AllLie f yes low mid ∧ AllLie f no mid high
  | .repeated mode _ _ body, low, high =>
    (mode = .possessive → f.possessive) ∧ AllLie f body low high
  | _, low, high => low ≤ high

/-- Whether the pieces of a sequence lie one after the other. -/
def AllLie (f : Features) : List Piece → Nat → Nat → Prop
  | [], low, high => low ≤ high
  | p :: ps, low, high => ∃ mid, p.Lies f low mid ∧ AllLie f ps mid high

/-- Whether alternatives lie one after the other. -/
def AnyLie (f : Features) : List (List Piece) → Nat → Nat → Prop
  | [], low, high => low ≤ high
  | ps :: rest, low, high => ∃ mid, AllLie f ps low mid ∧ AnyLie f rest mid high

end

variable {f : Features} {low mid high low' high' : Nat}

/-! ### Bounds -/

mutual

theorem Piece.Lies.le : {p : Piece} → {low high : Nat} → p.Lies f low high → low ≤ high
  | .group (some _) _ _ _, _, _, h => (Nat.le_succ_of_le h.1).trans h.2.le
  | .group none _ _ _, _, _, h => AllLie.le h
  | .atomic _, _, _, h => AllLie.le h
  | .look _ _ _, _, _, h => h.2.le
  | .branch _, _, _, h => AnyLie.le h
  | .conditional _ _ _, _, _, ⟨_, yes, no⟩ => yes.le.trans no.le
  | .repeated _ _ _ _, _, _, h => h.2.le
  | .char _, _, _, h => h
  | .notChar _, _, _, h => h
  | .any, _, _, h => h
  | .charSet _ _, _, _, h => h
  | .anchor _, _, _, h => h
  | .backref _, _, _, h => h

theorem AllLie.le : {ps : List Piece} → {low high : Nat} → AllLie f ps low high → low ≤ high
  | [], _, _, h => h
  | _ :: _, _, _, ⟨_, first, rest⟩ => first.le.trans rest.le

theorem AnyLie.le : {alternatives : List (List Piece)} → {low high : Nat} →
    AnyLie f alternatives low high → low ≤ high
  | [], _, _, h => h
  | _ :: _, _, _, ⟨_, first, rest⟩ => first.le.trans rest.le

end

mutual

/-- Wider bounds are bounds. -/
theorem Piece.Lies.mono : {p : Piece} → {low high low' high' : Nat} → p.Lies f low high →
    low' ≤ low → high ≤ high' → p.Lies f low' high'
  | .group (some _) _ _ _, _, _, _, _, h, hl, hh => ⟨hl.trans h.1, h.2.mono le_rfl hh⟩
  | .group none _ _ _, _, _, _, _, h, hl, hh => AllLie.mono h hl hh
  | .atomic _, _, _, _, _, h, hl, hh => AllLie.mono h hl hh
  | .look _ _ _, _, _, _, _, h, hl, hh => ⟨h.1, h.2.mono hl hh⟩
  | .branch _, _, _, _, _, h, hl, hh => AnyLie.mono h hl hh
  | .conditional _ _ _, _, _, _, _, ⟨_, yes, no⟩, hl, hh =>
    ⟨_, yes.mono hl le_rfl, no.mono le_rfl hh⟩
  | .repeated _ _ _ _, _, _, _, _, h, hl, hh => ⟨h.1, h.2.mono hl hh⟩
  | .char _, _, _, _, _, h, hl, hh => (hl.trans h).trans hh
  | .notChar _, _, _, _, _, h, hl, hh => (hl.trans h).trans hh
  | .any, _, _, _, _, h, hl, hh => (hl.trans h).trans hh
  | .charSet _ _, _, _, _, _, h, hl, hh => (hl.trans h).trans hh
  | .anchor _, _, _, _, _, h, hl, hh => (hl.trans h).trans hh
  | .backref _, _, _, _, _, h, hl, hh => (hl.trans h).trans hh

theorem AllLie.mono : {ps : List Piece} → {low high low' high' : Nat} → AllLie f ps low high →
    low' ≤ low → high ≤ high' → AllLie f ps low' high'
  | [], _, _, _, _, h, hl, hh => (hl.trans h).trans hh
  | _ :: _, _, _, _, _, ⟨_, first, rest⟩, hl, hh => ⟨_, first.mono hl le_rfl, rest.mono le_rfl hh⟩

theorem AnyLie.mono : {alternatives : List (List Piece)} → {low high low' high' : Nat} →
    AnyLie f alternatives low high → low' ≤ low → high ≤ high' → AnyLie f alternatives low' high'
  | [], _, _, _, _, h, hl, hh => (hl.trans h).trans hh
  | _ :: _, _, _, _, _, ⟨_, first, rest⟩, hl, hh => ⟨_, first.mono hl le_rfl, rest.mono le_rfl hh⟩

end

/-! ### Sequences -/

theorem allLie_append {ps qs : List Piece} :
    AllLie f (ps ++ qs) low high ↔ ∃ mid, AllLie f ps low mid ∧ AllLie f qs mid high := by
  induction ps generalizing low with
  | nil => exact ⟨fun h => ⟨low, le_rfl, h⟩, fun ⟨mid, le, h⟩ => h.mono le le_rfl⟩
  | cons p ps ih =>
    constructor
    · rintro ⟨mid, first, rest⟩
      obtain ⟨mid', hps, hqs⟩ := ih.mp rest
      exact ⟨mid', ⟨mid, first, hps⟩, hqs⟩
    · rintro ⟨mid', ⟨mid, first, hps⟩, hqs⟩
      exact ⟨mid, first, ih.mpr ⟨mid', hps, hqs⟩⟩

theorem allLie_singleton {p : Piece} :
    AllLie f [p] low high ↔ p.Lies f low high :=
  ⟨fun ⟨_, first, le⟩ => first.mono le_rfl le, fun h => ⟨high, h, le_rfl⟩⟩

/-! ### Pieces that hold no others -/

/-- Whether a piece holds no others. -/
def Piece.IsPlain : Piece → Prop
  | .group .. => False
  | .atomic _ => False
  | .look .. => False
  | .branch _ => False
  | .conditional .. => False
  | .repeated .. => False
  | _ => True

theorem Piece.IsPlain.lies {p : Piece} (h : p.IsPlain) (le : low ≤ high) : p.Lies f low high := by
  cases p <;> first | exact le | exact h.elim

end Conform.Pattern
