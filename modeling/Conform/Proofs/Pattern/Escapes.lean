import Conform.Proofs.Pattern.Layout
import Conform.Proofs.Pattern.Steps
import Mathlib.Algebra.Group.Nat.Defs
import Mathlib.Data.List.Induction
/-!
# Reading escapes and sets

Escapes and sets leave what is known of groups and flags as it is.  The only refusal without a place
among them is that of a character by a number of eight digits.
-/
namespace Conform.Pattern

open Reader

variable {release : Release} {source before : List Char} {c : Cursor} {α : Type}

/-! ### Numbers -/

theorem valueOf_append_singleton (base : Nat) (ds : List Char) (d : Char) :
    valueOf base (ds ++ [d]) = valueOf base ds * base + (Text.baseValue? d).getD 0 := by
  simp [valueOf, NumberText.digitsValue]

/-- The value of digits is bounded by their number. -/
theorem valueOf_lt {base : Nat} (ds : List Char)
    (h : ∀ d ∈ ds, NumberText.isDigitOf base d = true) : valueOf base ds < base ^ ds.length := by
  induction ds using List.reverseRecOn with
  | nil => exact Nat.zero_lt_one
  | append_singleton ds d ih =>
    have digit := h d (by simp)
    have rest := ih fun x hx => h x (List.mem_append_left _ hx)
    obtain ⟨value, same, small⟩ := (Option.any_eq_true ..).mp digit
    have small : value < base := by simpa using small
    rw [valueOf_append_singleton, same, Option.getD_some, List.length_append, List.length_singleton,
      Nat.pow_succ]
    calc valueOf base ds * base + value < valueOf base ds * base + base := by omega
      _ = (valueOf base ds + 1) * base := by rw [Nat.succ_mul]
      _ ≤ base ^ ds.length * base := Nat.mul_le_mul_right base rest

/-! ### References -/

theorem runs_checkGroupName_bind {name : String} {f : Unit → Reader α}
    {after : α → Cursor → Prop} (h : Runs release source (f ()) c after) :
    Runs release source (checkGroupName name >>= f) c after := by
  unfold checkGroupName
  split
  · exact runs_fail_bind nofun
  · exact h

theorem runs_checkLookbehind_bind {group : Nat} {f : Unit → Reader α}
    {after : α → Cursor → Prop} (h : Runs release source (f ()) c after) :
    Runs release source (checkLookbehind group >>= f) c after := by
  unfold checkLookbehind
  rw [bind_assoc]
  refine runs_scope_bind ?_
  split
  · exact h
  · dsimp only
    split
    · rw [bind_assoc]
      exact runs_fail_bind nofun
    · split
      · exact runs_fail_bind nofun
      · exact h

/-! ### Escapes -/

theorem runs_hexEscape (letter : Char) {n : Nat}
    (few : n ≤ 4 ∨ n = 8 ∧ c.Follows source ['\\', 'U']) :
    Runs release source (hexEscape letter n) c fun _ d => c.Moves d := by
  unfold hexEscape
  refine (runs_takeWhile _ n).bind fun ds d ⟨eq, moves, digits⟩ => ?_
  refine runs_guard nofun fun long => ?_
  have long : ds.length = n := not_not.mp long
  refine .ite (fun big => runs_throw_bind ?_) fun _ => runs_guard nofun fun _ => runs_pure moves
  obtain few | ⟨eight, follows⟩ := few
  · have := valueOf_lt ds digits
    have := Nat.pow_le_pow_right (n := 16) (by decide) (long.trans_le few)
    omega
  · exact ⟨ds, ⟨long.trans eight, digits, (follows.take eq).part⟩, big⟩

theorem runs_namedEscape : Runs release source namedEscape c fun _ d => c.Moves d := by
  unfold namedEscape
  refine runs_accept_bind (fun d _ moves => runs_guard nofun fun _ => ?_)
    (runs_guard nofun fun opened => absurd rfl opened)
  refine runs_bound_bind fun n enough => (runs_takeUntil _ _ n [] enough).bind fun name e moves' => ?_
  split
  · exact runs_pure (moves.trans moves')
  · exact runs_fail nofun

theorem runs_octalEscape (ds : List Char) : Runs release source (octalEscape ds) c fun _ d => d = c := by
  unfold octalEscape
  exact runs_guard nofun fun _ => runs_pure rfl

theorem runs_commonEscape {ch : Char} (follows : c.Follows source ['\\', ch]) :
    Runs release source (commonEscape ch) c fun _ d => c.Moves d := by
  unfold commonEscape
  split
  · exact (runs_hexEscape 'x' (.inl (by decide))).bind fun _ _ moves => runs_pure moves
  · exact (runs_hexEscape 'u' (.inl (by decide))).bind fun _ _ moves => runs_pure moves
  · exact (runs_hexEscape 'U' (.inr ⟨rfl, follows⟩)).bind fun _ _ moves => runs_pure moves
  · exact runs_namedEscape.bind fun _ _ moves => runs_pure moves
  · exact runs_guard nofun fun _ => runs_pure (.refl c)

theorem runs_setEscape {ch : Char} (follows : c.Follows source ['\\', ch]) :
    Runs release source (setEscape ch) c fun _ d => c.Moves d := by
  unfold setEscape
  split
  · exact runs_pure (.refl c)
  · split
    · exact runs_pure (.refl c)
    · split
      · refine (runs_takeWhile _ 2).bind fun ds d ⟨_, moves, _⟩ => ?_
        refine (runs_octalEscape _).bind fun _ e same => runs_pure ?_
        rwa [same]
      · exact runs_commonEscape follows

theorem runs_numberEscape (ch : Char) :
    Runs release source (numberEscape ch) c fun p d => p.IsPlain ∧ c.Moves d := by
  unfold numberEscape
  refine runs_peek_bind ?_
  extract_lets refer
  -- However many digits there are, they refer to a group.
  have refers : ∀ (ds : List Char) (d : Cursor), c.Moves d →
      Runs release source (refer () ds) d fun p e => p.IsPlain ∧ c.Moves e :=
    fun ds d moves => runs_scope_bind <| runs_guard nofun fun _ => runs_guard nofun fun _ =>
      runs_checkLookbehind_bind <| runs_pure ⟨trivial, moves⟩
  split
  · split
    · refine runs_take_bind fun d _ moves => runs_peek_bind ?_
      split
      · split
        · refine runs_take_bind fun e _ moves' => (runs_octalEscape _).bind fun _ _ same => ?_
          exact runs_pure ⟨trivial, same ▸ moves.trans moves'⟩
        · exact refers _ d moves
      · exact refers _ d moves
    · exact refers _ c (.refl c)
  · exact refers _ c (.refl c)

theorem runs_pieceEscape {ch : Char} (follows : c.Follows source ['\\', ch]) :
    Runs release source (pieceEscape ch) c fun p d => p.IsPlain ∧ c.Moves d := by
  unfold pieceEscape
  split
  · exact runs_pure ⟨trivial, .refl c⟩
  · exact runs_pure ⟨trivial, .refl c⟩
  · exact runs_pure ⟨trivial, .refl c⟩
  · exact runs_pure ⟨trivial, .refl c⟩
  · split
    · exact runs_pure ⟨trivial, .refl c⟩
    · split
      · exact runs_pure ⟨trivial, .refl c⟩
      · split
        · exact (runs_takeWhile _ 2).bind fun _ _ ⟨_, moves, _⟩ => runs_pure ⟨trivial, moves⟩
        · split
          · exact runs_numberEscape _
          · refine (runs_commonEscape follows).bind fun e d moves => ?_
            split <;> exact runs_pure ⟨trivial, moves⟩

/-! ### Sets -/

theorem runs_setToken {token : List Char} (follows : c.Follows source token) :
    Runs release source (setToken token) c fun _ d => c.Moves d := by
  unfold setToken
  split
  · exact runs_setEscape follows
  · exact runs_pure (.refl c)
  · exact runs_pure (.refl c)

theorem runs_setItems (start n : Nat) (items : List SetItem) (enough : c.text.length < n)
    (inside : c.Follows source []) : Runs release source (setItems start n items) c fun _ d => c.Moves d := by
  induction n generalizing c items with
  | zero => omega
  | succ n ih =>
    unfold setItems
    refine runs_take_bind fun d eq moves => .ite (fun _ => runs_fail_from_bind nofun) fun more => ?_
    have := Cursor.length_lt_of_take eq (mt List.isEmpty_iff.mpr more)
    split
    · exact runs_pure moves
    · refine (runs_setToken (inside.take eq)).bind fun first e moves' => ?_
      have moves := moves.trans moves'
      -- Going on behind a member that ends at a cursor.
      have onward : ∀ (items : List SetItem) (e' : Cursor), e.Moves e' →
          Runs release source (setItems start n items) e' fun _ d => c.Moves d := by
        intro items e' moves''
        have := (moves'.trans moves'').length_le
        exact (ih items (by omega) (inside.move (moves.trans moves''))).mono fun _ _ =>
          (moves.trans moves'').trans
      refine runs_accept_bind (fun e' eq' dash => runs_take_bind fun g eq'' moves'' => ?_)
        (onward _ e (.refl e))
      refine .ite (fun _ => runs_fail_from_bind nofun) fun _ => ?_
      have moves' := dash.trans moves''
      split
      · exact runs_pure (moves.trans moves')
      · have follows := ((inside.move (moves.trans dash)).take eq'')
        refine (runs_setToken follows).bind fun last z moves'' => ?_
        split
        · exact runs_guard nofun fun _ => onward _ z (moves'.trans moves'')
        · exact runs_fail nofun

theorem runs_charSet (inside : c.Follows source []) :
    Runs release source charSet c fun p d => p.IsPlain ∧ c.Moves d := by
  unfold charSet
  refine runs_position_bind <| (runs_accept '^').bind fun negated d ⟨moves, _⟩ => ?_
  refine runs_bound_bind fun n enough => (runs_setItems _ n [] enough (inside.move moves)).bind
    fun items e moves' => ?_
  have moves := moves.trans moves'
  dsimp only
  split
  · exact runs_pure ⟨by split <;> trivial, moves⟩
  · exact runs_pure ⟨trivial, moves⟩

end Conform.Pattern
