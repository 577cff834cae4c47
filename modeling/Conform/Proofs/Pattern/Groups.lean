import Conform.Proofs.Pattern.Quantifiers
/-!
# Reading what a parenthesis encloses

The groups that a construct opens are numbered from the number of those that are known.  What is
enclosed may be read in any way that keeps to this (`ReadsFrom`).
-/
namespace Conform.Pattern

open Reader

variable {release : Release} {source : List Char} {c d e : Cursor} {low : Nat} {ps : List Piece} {p : Piece}

namespace Cursor

/-- Only the flags and the number of groups matter for going on. -/
theorem advances_scope {s : Scope} (flags : s.flags = c.scope.flags)
    (groups : c.scope.widths.length ≤ s.widths.length) : c.Advances source { c with scope := s } :=
  ⟨List.suffix_refl _, id, fun shown => flags ▸ shown, groups⟩

/-- Whether the pieces that are read from a cursor on lie behind a number. -/
structure LeadsTo (source : List Char) (low : Nat) (c : Cursor) (ps : List Piece) (d : Cursor) :
    Prop where
  advances : c.Advances source d
  lie : AllLie (shownFeatures source) ps low d.scope.widths.length

theorem Advances.leadsTo (h : c.Advances source d) (g : d.LeadsTo source low ps e) :
    c.LeadsTo source low ps e := ⟨h.trans g.advances, g.lie⟩

theorem LeadsTo.scope {s : Scope} (h : c.LeadsTo source low ps d)
    (flags : s.flags = d.scope.flags) (groups : s.widths.length = d.scope.widths.length) :
    c.LeadsTo source low ps { d with scope := s } :=
  ⟨h.advances.trans (advances_scope flags groups.ge), by
    dsimp only
    rw [groups]
    exact h.lie⟩

/-- A piece that is made of what has been read, up to a cursor that is only further on. -/
theorem LeadsTo.closed {before : Nat} {z y : Cursor} (h : e.LeadsTo source before ps z)
    (advances : c.Advances source e) (moves : z.Moves y)
    (lies : AllLie (shownFeatures source) ps before z.scope.widths.length →
      p.Lies (shownFeatures source) low z.scope.widths.length) :
    c.LeadsTo source low [p] y :=
  ⟨(advances.trans h.advances).trans moves.advances, by
    rw [moves.scope]
    exact allLie_singleton.mpr (lies h.lie)⟩

end Cursor

/-- Whether pieces are read from any cursor on that is further on than a given one. -/
def ReadsFrom (release : Release) (source : List Char) (c : Cursor) (x : Reader (List Piece)) : Prop :=
  ∀ d, c.Advances source d → Runs release source x d (d.LeadsTo source d.scope.widths.length)

theorem runs_closing (start : Nat) : Runs release source (closing start) c fun _ d => c.Moves d := by
  unfold closing
  refine runs_accept_bind (fun d _ moves => runs_pure moves) ?_
  exact runs_fail_from nofun

/-! ### Openings -/

theorem runs_parenthesisOpening (start : Nat) (early : Bool) (follows : c.Follows source ['(']) :
    Runs release source (parenthesisOpening start early) c fun kind d =>
      kind.IsShown source ∧ c.Keeps source d := by
  unfold parenthesisOpening
  refine runs_scope_bind <| runs_accept_bind (fun d eq moves => ?_)
    (runs_pure ⟨trivial, .refl .., rfl⟩)
  refine runs_peek_bind <| (runs_opening start (follows.takeOne eq)).bind
    fun kind e ⟨shown, keeps⟩ => ?_
  have opened : kind.IsShown source ∧ c.Keeps source e := ⟨shown, moves.keeps.trans keeps⟩
  split
  · exact .ite (fun _ => runs_modifyScope_bind <| runs_position_bind <| runs_fail_bind nofun)
      fun _ => runs_pure opened
  · exact runs_pure opened

/-- A group that is opened gets the next number. -/
theorem runs_openGroup (name : Option String) : Runs release source (openGroup name) c fun g d =>
    g = c.scope.widths.length ∧ d.scope.widths.length = c.scope.widths.length + 1 ∧
      c.Advances source d := by
  have opened : (c.scope.widths ++ [none]).length = c.scope.widths.length + 1 :=
    List.length_append
  unfold openGroup
  refine runs_scope_bind <| runs_modifyScope_bind ?_
  split
  · exact runs_pure ⟨rfl, opened, Cursor.advances_scope rfl (by rw [opened]; omega)⟩
  · split
    · exact runs_fail nofun
    · exact runs_modifyScope_bind <| runs_pure
        ⟨rfl, opened, Cursor.advances_scope rfl (by dsimp only; rw [opened]; omega)⟩

/-! ### What is enclosed -/

variable {inside : Reader (List Piece)} {start : Nat}

theorem runs_lookaround {behind negated : Bool} (reads : ReadsFrom release source c inside)
    (shown : behind = true → HasLookbehind source) :
    Runs release source (lookaround start behind negated inside) c fun p d =>
      c.LeadsTo source c.scope.widths.length [p] d := by
  unfold lookaround
  refine runs_scope_bind ?_
  extract_lets outer read
  have readsBody : ∀ d, c.Advances source d → d.scope.widths = c.scope.widths →
      Runs release source (read ()) d fun p e => c.LeadsTo source c.scope.widths.length [p] e := by
    intro d advances same
    refine (reads d advances).bind fun ps e lead => ?_
    refine .ite (fun _ => runs_modifyScope_bind <| (runs_closing start).bind fun _ z moves =>
      runs_pure ?_) fun _ => (runs_closing start).bind fun _ z moves => runs_pure ?_
    · have lead := lead.scope (s := { e.scope with lookbehind := none }) rfl rfl
      exact lead.closed advances moves fun lie => ⟨shown, same ▸ lie⟩
    · exact lead.closed advances moves fun lie => ⟨shown, same ▸ lie⟩
  refine .ite (fun _ => runs_modifyScope_bind <| readsBody _ ?_ rfl) fun _ =>
    readsBody c (.refl ..) rfl
  exact Cursor.advances_scope rfl le_rfl

theorem runs_conditional (group : Nat) (reads : ReadsFrom release source c inside) :
    Runs release source (conditional start group inside) c fun p d =>
      c.LeadsTo source c.scope.widths.length [p] d := by
  unfold conditional
  refine (reads c (.refl ..)).bind fun yes d ⟨advances, hyes⟩ => ?_
  refine runs_accept_bind (fun e _ moves => ?_) ?_
  · have advances := advances.trans moves.advances
    refine (reads e advances).bind fun no z lead => runs_peek_bind <| runs_guard nofun fun _ =>
      (runs_closing start).bind fun _ y moves' => runs_pure ?_
    exact lead.closed advances moves' fun lie => ⟨_, hyes, moves.scope ▸ lie⟩
  · refine (runs_closing start).bind fun _ z moves => runs_pure ⟨advances.trans moves.advances, ?_⟩
    rw [moves.scope]
    exact allLie_singleton.mpr ⟨_, hyes, le_rfl⟩

theorem runs_grouped (capture : Bool) (name : Option String) (set clear : Flags)
    (reads : ReadsFrom release source c inside) :
    Runs release source (grouped start capture name set clear inside) c fun p d =>
      c.LeadsTo source c.scope.widths.length [p] d := by
  unfold grouped
  extract_lets read
  -- Whatever the number of the group, it lies before the groups inside.
  have readsGroup : ∀ (number : Option Nat) (d : Cursor), c.Advances source d →
      (∀ ps high, AllLie (shownFeatures source) ps d.scope.widths.length high →
        (Piece.group number set clear ps).Lies (shownFeatures source) c.scope.widths.length high) →
      Runs release source (read number) d fun p e => c.LeadsTo source c.scope.widths.length [p] e := by
    intro number d advances lies
    refine (reads d advances).bind fun ps e lead => (runs_closing start).bind fun _ z moves => ?_
    have lead := lead.closed advances moves (lies ps _)
    cases number with
    | none => exact runs_pure lead
    | some g => exact runs_modifyScope_bind <| runs_pure <| lead.scope rfl List.length_set
  refine .ite (fun _ => ?_) fun _ => readsGroup none c (.refl ..) fun ps high lie => lie
  rw [bind_map_left]
  refine (runs_openGroup name).bind fun g d ⟨number, opened, advances⟩ => ?_
  refine readsGroup (some g) d advances fun ps high lie => ⟨number.ge, ?_⟩
  rwa [number, ← opened]

end Conform.Pattern
