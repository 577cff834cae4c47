import Conform.Proofs.Pattern.Openings
import Mathlib.Data.List.Basic
/-!
# Reading quantifiers

A quantifier in braces is read only if it is complete, so its counts stand in the pattern with both
braces.
-/
namespace Conform.Pattern

open Reader

variable {release : Release} {source before : List Char} {c d : Cursor} {α : Type}

/-- Whether the cursor is right behind the end of a quantifier. -/
def Cursor.IsBehindQuantifier (source : List Char) (c : Cursor) : Prop :=
  ∃ q ∈ ['?', '*', '+', '}'], c.Follows source [q]

/-- A count is refused only if it is too long to be read, or too large. -/
theorem runs_count {digits : List Char} (shown : HasCount source digits) :
    Runs release source (count digits) c fun _ d => d = c := by
  unfold count
  refine .ite (fun long => runs_throw_bind ⟨digits, shown, rfl, long⟩) fun short => ?_
  exact .ite (fun large => runs_throw_bind ⟨digits, shown, Nat.le_of_not_lt short, large⟩) fun _ =>
    runs_pure rfl

theorem runs_counts {token : List Char}
    (first : token = ['?'] ∨ token = ['*'] ∨ token = ['+'] ∨ token = ['{'])
    (follows : c.Follows source token) :
    Runs release source (counts token) c fun found d =>
      c.Moves d ∧ (found.isSome = true → d.IsBehindQuantifier source) := by
  unfold counts
  split
  · exact runs_pure ⟨.refl c, fun _ => ⟨'?', by simp, follows⟩⟩
  · exact runs_pure ⟨.refl c, fun _ => ⟨'*', by simp, follows⟩⟩
  · exact runs_pure ⟨.refl c, fun _ => ⟨'+', by simp, follows⟩⟩
  · obtain rfl : token = ['{'] := by simp_all
    refine runs_position_bind <| runs_get_bind ?_
    refine .ite (fun _ => runs_pure ⟨.refl c, nofun⟩) fun _ => runs_bound_bind fun n _ => ?_
    refine (runs_takeWhile _ n).bind fun low d ⟨eq, moves, digits⟩ => ?_
    have follows := follows.take eq
    extract_lets finish
    -- What is done with two counts, when only the closing brace may be missing.
    have finishes : ∀ (high before : List Char) (e : Cursor), c.Moves e → e.Follows source before →
        (before ++ ['}'] <:+: source → HasCount source low ∧ HasCount source high) →
        Runs release source (finish high) e fun found d =>
          c.Moves d ∧ (found.isSome = true → d.IsBehindQuantifier source) := by
      intro high before e moves follows shown
      refine runs_accept_bind (fun z closed moves' => ?_) ?_
      · have follows := follows.takeOne closed
        obtain ⟨hlow, hhigh⟩ := shown follows.part
        refine (runs_count hlow).bind fun least _ same => (runs_count hhigh).bind fun most _ same' => ?_
        rw [same', same]
        exact .ite (fun _ => runs_position_bind (runs_fail_bind nofun)) fun _ =>
          runs_pure ⟨moves.trans moves', fun _ => ⟨'}', by simp, follows.drop⟩⟩
      · refine (runs_reset _ _).bind fun _ z ⟨eq, known, token⟩ => runs_pure ⟨?_, nofun⟩
        exact ⟨eq ▸ List.suffix_refl _, known.trans moves.scope, fun _ => token⟩
    refine runs_accept_bind (fun e comma moves' => ?_) ?_
    · refine runs_bound_bind fun n _ => (runs_takeWhile _ n).bind
        fun high z ⟨eq, moves'', digits'⟩ => ?_
      refine finishes high _ z ((moves.trans moves').trans moves'') ((follows.takeOne comma).take eq)
        fun part => ⟨⟨digits, high, digits', .inr (.inl ?_)⟩, ⟨digits', low, digits, .inr (.inr ?_)⟩⟩
      · simpa using part
      · simpa using part
    · exact finishes low _ d moves follows fun part =>
        ⟨⟨digits, [], List.forall_mem_nil _, .inl part⟩, ⟨digits, [], List.forall_mem_nil _, .inl part⟩⟩

/-- A quantifier is possessive only if the pattern shows it. -/
theorem runs_mode (behind : c.IsBehindQuantifier source) :
    Runs release source mode c fun mode d =>
      c.Moves d ∧ (mode = .possessive → HasPossessive source) := by
  unfold mode
  obtain ⟨q, hq, follows⟩ := behind
  refine runs_accept_bind (fun d _ moves => runs_pure ⟨moves, nofun⟩) <|
    runs_accept_bind (fun d eq moves => runs_pure ⟨moves, fun _ => ⟨q, hq, ?_⟩⟩)
      (runs_pure ⟨.refl c, nofun⟩)
  exact (follows.takeOne eq).part

/-! ### Repetitions -/

/-- The features that a pattern shows. -/
def shownFeatures (source : List Char) : Features := ⟨HasLookbehind source, HasPossessive source⟩

theorem runs_repeatLast (start least : Nat) (most : Option Nat) {pieces : List Piece} {low : Nat}
    (behind : c.IsBehindQuantifier source)
    (lie : AllLie (shownFeatures source) pieces low c.scope.widths.length) :
    Runs release source (repeatLast start least most pieces) c fun ps d =>
      c.Moves d ∧ AllLie (shownFeatures source) ps low c.scope.widths.length := by
  unfold repeatLast
  extract_lets fails finish
  -- Whatever piece is repeated, it lies behind those before it.
  have finishes : ∀ {body : List Piece} {mid : Nat},
      AllLie (shownFeatures source) pieces.dropLast low mid →
      AllLie (shownFeatures source) body mid c.scope.widths.length →
      Runs release source (finish body) c fun ps d =>
        c.Moves d ∧ AllLie (shownFeatures source) ps low c.scope.widths.length :=
    fun hbefore hbody => (runs_mode behind).bind fun mode d ⟨moves, shown⟩ => runs_pure
      ⟨moves, allLie_append.mpr ⟨_, hbefore, allLie_singleton.mpr ⟨shown, hbody⟩⟩⟩
  have last : ∀ p, pieces.getLast? = some p → ∃ mid,
      AllLie (shownFeatures source) pieces.dropLast low mid ∧
        AllLie (shownFeatures source) [p] mid c.scope.widths.length := fun p same =>
    allLie_append.mp ((List.dropLast_append_getLast? p same).symm ▸ lie)
  split
  · exact runs_fail_from_bind nofun
  · exact runs_fail_from_bind nofun
  · exact runs_fail_from_bind nofun
  · rename_i set clear body same
    obtain ⟨mid, hbefore, hlast⟩ := last _ same
    split
    · exact finishes hbefore (allLie_singleton.mp hlast)
    · exact finishes hbefore hlast
  · rename_i p _ _ _ same
    obtain ⟨mid, hbefore, hlast⟩ := last p same
    exact finishes hbefore hlast

theorem runs_lineComment (n : Nat) : Runs release source (lineComment n) c fun _ d => c.Moves d := by
  induction n generalizing c with
  | zero => exact runs_pure (.refl c)
  | succ n ih =>
    unfold lineComment
    refine runs_take_bind fun d _ moves => ?_
    split
    · exact runs_pure moves
    · exact ih.mono fun _ _ => moves.trans

end Conform.Pattern
