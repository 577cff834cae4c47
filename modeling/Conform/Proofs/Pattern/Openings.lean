import Conform.Proofs.Pattern.Escapes
/-!
# Reading flags and openings

The flags for the whole pattern are set by groups that stand in it.  An opening may change which flags
are set and which groups are mentioned, but opens no group.
-/
namespace Conform.Pattern

open Reader

variable {release : Release} {source before : List Char} {c d : Cursor} {α : Type}

/-! ### Flags that are shown -/

/-- Whether the flags that choose an alphabet are set in the pattern. -/
structure FlagsShown (source : List Char) (f : Flags) : Prop where
  ascii : f.ascii = true → SetsFlag source 'a'
  unicode : f.unicode = true → SetsFlag source 'u'

/-- Whether the flags that choose an alphabet are among letters. -/
structure Spells (letters : List Char) (f : Flags) : Prop where
  ascii : f.ascii = true → 'a' ∈ letters
  unicode : f.unicode = true → 'u' ∈ letters

theorem spells_flag? (l : Char) : Spells [l] ((flag? l).getD {}) := by
  unfold flag?
  split <;> exact ⟨by simp, by simp⟩

theorem Spells.union {letters others : List Char} {f g : Flags} (h : Spells letters f)
    (k : Spells others g) : Spells (letters ++ others) (f.union g) where
  ascii set := by
    rcases Bool.or_eq_true_iff.mp set with set | set
    · exact List.mem_append_left _ (h.ascii set)
    · exact List.mem_append_right _ (k.ascii set)
  unicode set := by
    rcases Bool.or_eq_true_iff.mp set with set | set
    · exact List.mem_append_left _ (h.unicode set)
    · exact List.mem_append_right _ (k.unicode set)

theorem FlagsShown.union {f g : Flags} (h : FlagsShown source f) (k : FlagsShown source g) :
    FlagsShown source (f.union g) where
  ascii set := (Bool.or_eq_true_iff.mp set).elim h.ascii k.ascii
  unicode set := (Bool.or_eq_true_iff.mp set).elim h.unicode k.unicode

/-- The letters of a group show the flags that they set. -/
theorem Spells.shown {letters : List Char} {f : Flags} (h : Spells letters f)
    (all : ∀ l ∈ letters, isFlagToken [l] = true)
    (part : '(' :: '?' :: letters ++ [')'] <:+: source) : FlagsShown source f :=
  ⟨fun set => ⟨letters, h.ascii set, all, part⟩, fun set => ⟨letters, h.unicode set, all, part⟩⟩

theorem exists_of_isFlagToken {token : List Char} (h : isFlagToken token = true) :
    ∃ l, token = [l] := by
  unfold isFlagToken at h
  split at h
  · exact ⟨_, rfl⟩
  · cases h

/-! ### Cursors that go on -/

namespace Cursor

/-- Whether a cursor is further on in the text, and no groups are forgotten on the way. -/
structure Advances (source : List Char) (c d : Cursor) : Prop where
  text : d.text <:+ c.text
  token : c.IsAtToken → d.IsAtToken
  flags : FlagsShown source c.scope.flags → FlagsShown source d.scope.flags
  groups : c.scope.widths.length ≤ d.scope.widths.length

variable {e : Cursor}

theorem Advances.refl (source : List Char) (c : Cursor) : Advances source c c :=
  ⟨List.suffix_refl _, id, id, le_rfl⟩

theorem Advances.trans (h : Advances source c d) (g : Advances source d e) :
    Advances source c e :=
  ⟨g.text.trans h.text, g.token ∘ h.token, g.flags ∘ h.flags, h.groups.trans g.groups⟩

theorem Moves.advances (h : Moves c d) : Advances source c d :=
  ⟨h.text, h.token, h.scope ▸ id, h.scope ▸ le_rfl⟩

/-- Whether a cursor goes on with the same known of groups. -/
structure Keeps (source : List Char) (c d : Cursor) : Prop where
  advances : Advances source c d
  widths : d.scope.widths = c.scope.widths

theorem Moves.keeps (h : Moves c d) : Keeps source c d := ⟨h.advances, by rw [h.scope]⟩

theorem Keeps.trans (h : Keeps source c d) (g : Keeps source d e) : Keeps source c e :=
  ⟨h.advances.trans g.advances, g.widths.trans h.widths⟩

theorem Advances.length_le (h : Advances source c d) : d.text.length ≤ c.text.length :=
  h.text.length_le

theorem Follows.advance (h : c.Follows source before) (a : Advances source c d) :
    d.Follows source [] := h.later a.text

end Cursor

/-! ### Flags -/

theorem runs_setFlags (n : Nat) (letters : List Char) (l : Char) (got : Flags)
    (enough : c.text.length < n) (known : Spells letters got)
    (all : ∀ x ∈ letters ++ [l], isFlagToken [x] = true)
    (follows : c.Follows source ('(' :: '?' :: (letters ++ [l]))) :
    Runs release source (setFlags n [l] got) c fun r d => c.Moves d ∧ ∃ letters,
      Spells letters r.1 ∧ (∀ x ∈ letters, isFlagToken [x] = true) ∧
        d.Follows source ('(' :: '?' :: letters ++ r.2) := by
  induction n generalizing c letters l got with
  | zero => omega
  | succ n ih =>
    unfold setFlags
    refine runs_guard nofun fun _ => runs_guard nofun fun _ => ?_
    have known := known.union (spells_flag? l)
    refine runs_take_bind fun d eq moves => runs_guard nofun fun more => ?_
    have := Cursor.length_lt_of_take eq (mt List.isEmpty_iff.mpr more)
    split
    · exact runs_pure ⟨moves, _, known, all, follows.take eq⟩
    · refine runs_guard (by split <;> nofun) fun letter => ?_
      obtain ⟨l', next⟩ := exists_of_isFlagToken (by simpa using letter)
      rw [next] at eq letter ⊢
      refine (ih (letters ++ [l]) l' _ (by omega) known ?_ (by simpa using follows.take eq)).mono
        fun _ _ h => ⟨moves.trans h.1, h.2⟩
      intro x hx
      rcases List.mem_append.mp hx with hx | hx
      · exact all x hx
      · rw [List.mem_singleton.mp hx]
        simpa using letter

theorem runs_clearFlags (n : Nat) (token : List Char) (got : Flags) (enough : c.text.length < n) :
    Runs release source (clearFlags n token got) c fun _ d => c.Moves d := by
  induction n generalizing c token got with
  | zero => omega
  | succ n ih =>
    unfold clearFlags
    refine runs_guard nofun fun _ => ?_
    refine runs_take_bind fun d eq moves => runs_guard nofun fun more => ?_
    have := Cursor.length_lt_of_take eq (mt List.isEmpty_iff.mpr more)
    split
    · exact runs_pure moves
    · refine runs_guard (by split <;> nofun) fun _ => ?_
      exact (ih _ _ (by omega)).mono fun _ _ => moves.trans

/-- What a group of flags sets for the whole pattern is shown by its letters. -/
theorem runs_flags {token : List Char} (letter : token = ['-'] ∨ isFlagToken token = true)
    (follows : c.Follows source ('(' :: '?' :: token)) :
    Runs release source (flags token) c fun _ d => c.Keeps source d := by
  unfold flags
  extract_lets clear go
  -- What is done with flags that are set, and the token that ends them.
  have goes : ∀ (set : Flags) (close : List Char) (d : Cursor), c.Moves d →
      (close = [')'] → FlagsShown source set) →
      Runs release source (go (set, close)) d fun _ e => c.Keeps source e := by
    intro set close d moves shown
    by_cases last : close = [')']
    · simp only [go, if_pos last]
      refine runs_modifyScope_bind <| runs_pure ⟨?_, by rw [moves.scope]⟩
      exact ⟨moves.text, moves.token, fun known => (moves.scope ▸ known).union (shown last),
        moves.scope ▸ le_rfl⟩
    · simp only [go, if_neg last]
      refine runs_guard nofun fun _ => ?_
      split
      · refine runs_take_bind fun e eq moves' => runs_guard nofun fun _ =>
          runs_guard (by split <;> nofun) fun _ => runs_bound_bind fun n enough => ?_
        refine (runs_clearFlags n _ _ enough).bind fun clear z moves'' => ?_
        exact runs_guard nofun fun _ => runs_guard nofun fun _ =>
          runs_pure ((moves.trans moves').trans moves'').keeps
      · exact runs_guard nofun fun _ => runs_guard nofun fun _ => runs_pure moves.keeps
  split
  · rename_i same
    exact goes _ _ c (.refl c) fun close => by rw [same] at close; cases close
  · obtain ⟨l, rfl⟩ := exists_of_isFlagToken (letter.resolve_left ‹_›)
    refine runs_bound_bind fun n enough => (runs_setFlags n [] l {} enough ⟨nofun, nofun⟩
      (List.forall_mem_singleton.mpr (letter.resolve_left ‹_›)) follows).bind
      fun r d ⟨moves, letters, spells, all, after⟩ => ?_
    exact goes r.1 r.2 d moves fun close => spells.shown all (by rw [← close]; exact after.part)

/-! ### Openings -/

theorem runs_conditionalGroup : Runs release source conditionalGroup c fun _ d => c.Keeps source d := by
  unfold conditionalGroup
  refine runs_bound_bind fun n enough => (runs_takeUntil _ _ n [] enough).bind fun name d moves => ?_
  have keeps : c.Keeps source d := moves.keeps
  dsimp only
  split
  · refine runs_scope_bind ?_
    split
    · exact runs_pure_bind <| runs_checkLookbehind_bind <| runs_pure keeps
    · exact runs_fail_bind nofun
  · split
    · exact runs_fail_bind nofun
    · refine runs_guard nofun fun _ => runs_guard nofun fun _ => runs_guard nofun fun _ => ?_
      refine runs_position_bind <| runs_modifyScope_bind <| runs_pure_bind <|
        runs_checkLookbehind_bind <| runs_pure ?_
      split
      · exact keeps
      · exact ⟨⟨moves.text, moves.token, keeps.advances.flags, keeps.advances.groups⟩, keeps.widths⟩

theorem runs_comment (start n : Nat) (enough : c.text.length < n) :
    Runs release source (comment start n) c fun _ d => c.Moves d := by
  induction n generalizing c with
  | zero => omega
  | succ n ih =>
    unfold comment
    refine runs_peek_bind <| .ite (fun _ => runs_position_bind <| runs_fail_bind nofun) fun more => ?_
    refine runs_take_bind fun d eq moves => ?_
    have := Cursor.length_lt_of_take eq (mt List.isEmpty_iff.mpr more)
    split
    · exact runs_pure moves
    · exact (ih (by omega)).mono fun _ _ => moves.trans

/-- What an opening tells of the pattern. -/
def Opening.IsShown (source : List Char) : Opening → Prop
  | .look true _ => HasLookbehind source
  | .piece p => p.IsPlain
  | _ => True

theorem runs_opening (start : Nat) (follows : c.Follows source ['(', '?']) :
    Runs release source (opening start) c fun kind d =>
      kind.IsShown source ∧ c.Keeps source d := by
  unfold opening
  refine runs_take_bind fun d eq moves => ?_
  split
  · exact runs_fail nofun
  · refine runs_accept_bind (fun e _ moves' => ?_) ((runs_accept '=').bind fun _ e ⟨moves', _⟩ => ?_)
    · refine runs_bound_bind fun n enough => (runs_takeUntil _ _ n [] enough).bind fun _ z moves'' => ?_
      exact runs_checkGroupName_bind <| runs_pure ⟨trivial, ((moves.trans moves').trans moves'').keeps⟩
    · have moves := moves.trans moves'
      extract_lets unknown
      refine .ite (fun _ => ?_) fun _ => ?_
      · refine runs_bound_bind fun n enough => (runs_takeUntil _ _ n [] enough).bind
          fun _ z moves'' => runs_checkGroupName_bind <| runs_scope_bind ?_
        split
        · exact runs_fail_bind nofun
        · exact runs_scope_bind <| runs_guard nofun fun _ => runs_checkLookbehind_bind <|
            runs_pure ⟨trivial, (moves.trans moves'').keeps⟩
      · exact runs_take_bind fun _ _ _ => runs_guard nofun fun _ => runs_fail nofun
  · exact runs_pure ⟨trivial, moves.keeps⟩
  · refine runs_bound_bind fun n enough => (runs_comment start n enough).bind fun _ e moves' => ?_
    exact runs_pure ⟨trivial, (moves.trans moves').keeps⟩
  · exact runs_pure ⟨trivial, moves.keeps⟩
  · exact runs_pure ⟨trivial, moves.keeps⟩
  · rename_i behind
    rw [behind] at eq
    refine runs_take_bind fun e eq' moves' => runs_guard nofun fun _ => ?_
    -- Only here a look-behind is opened, and both its tokens have just been taken.
    have keeps : c.Keeps source e := (moves.trans moves').keeps
    have follows := (follows.take eq).take eq'
    refine .ite (fun same => runs_pure ⟨.inl ?_, keeps⟩) fun _ =>
      .ite (fun same => runs_pure ⟨.inr ?_, keeps⟩) fun _ => runs_fail nofun
    · rw [same] at follows
      exact follows.part
    · rw [same] at follows
      exact follows.part
  · exact runs_conditionalGroup.bind fun _ e keeps => runs_pure ⟨trivial, moves.keeps.trans keeps⟩
  · exact runs_pure ⟨trivial, moves.keeps⟩
  · refine .ite (fun letter => ?_) fun _ => runs_fail nofun
    refine (runs_flags letter (follows.take eq)).bind fun set e keeps => ?_
    split <;> exact runs_pure ⟨trivial, moves.keeps.trans keeps⟩

end Conform.Pattern
