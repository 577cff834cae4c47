import Conform.Proofs.Pattern.Groups
import Conform.Proofs.Pattern.Trees
/-!
# Reading a whole pattern

Each construct takes at least one token, so three units of depth for each character that is left are
enough.  So a pattern is only refused for a reason that it shows, and otherwise its groups are in order
(`read_outcome`).
-/
namespace Conform.Pattern

open Reader

variable {release : Release} {source : List Char} {c d : Cursor} {low depth : Nat}

/-- Whether a cursor is in the pattern, at a token. -/
structure Cursor.Reads (source : List Char) (c : Cursor) : Prop where
  inside : c.Follows source []
  token : c.IsAtToken

theorem Cursor.Reads.advance (h : c.Reads source) (a : c.Advances source d) : d.Reads source :=
  ⟨h.inside.advance a, a.token h.token⟩

/-- Whether some depth is enough to read alternatives. -/
def ReadsAlternatives (release : Release) (source : List Char) (depth : Nat) : Prop :=
  ∀ (verbose nested : Bool) (got : List (List Piece)) (low : Nat) (c : Cursor), c.Reads source →
    3 * c.text.length + 2 ≤ depth → AnyLie (shownFeatures source) got low c.scope.widths.length →
    Runs release source (alternatives depth verbose nested got) c (c.LeadsTo source low)

/-- Whether some depth is enough to read pieces. -/
def ReadsPieces (release : Release) (source : List Char) (depth : Nat) : Prop :=
  ∀ (verbose first : Bool) (got : List Piece) (low : Nat) (c : Cursor), c.Reads source →
    3 * c.text.length + 1 ≤ depth → AllLie (shownFeatures source) got low c.scope.widths.length →
    Runs release source (pieces depth verbose first got) c (c.LeadsTo source low)

/-- Whether some depth is enough to read what a parenthesis opens. -/
def ReadsParenthesis (release : Release) (source : List Char) (depth : Nat) : Prop :=
  ∀ (verbose first : Bool) (start : Nat) (leading : Bool) (c : Cursor), c.Reads source →
    c.Follows source ['('] → 3 * c.text.length + 3 ≤ depth →
    Runs release source (parenthesis depth verbose first start leading) c fun p d =>
      c.LeadsTo source c.scope.widths.length p.toList d

/-! ### One unit of depth -/

theorem readsAlternatives_succ (alternatives : ReadsAlternatives release source depth)
    (pieces : ReadsPieces release source depth) : ReadsAlternatives release source (depth + 1) := by
  intro verbose nested got low c reads enough lie
  unfold Pattern.alternatives
  refine (pieces _ _ [] _ c reads (by omega) le_rfl).bind fun ps d ⟨advances, hps⟩ => ?_
  have lie := anyLie_append_singleton lie hps
  have := advances.length_le
  refine runs_accept_bind (fun e bar moves => runs_scope_bind ?_)
    (runs_pure ⟨advances, lie.joinAlternatives⟩)
  have advances := advances.trans moves.advances
  have : e.text.length < d.text.length := by rw [bar]; exact Nat.lt_succ_self _
  exact (alternatives _ _ _ low e (reads.advance advances) (by omega) (moves.scope ▸ lie)).mono
    fun _ _ => advances.leadsTo

theorem readsPieces_succ (pieces : ReadsPieces release source depth)
    (parenthesis : ReadsParenthesis release source depth) : ReadsPieces release source (depth + 1) := by
  intro verbose first got low c reads enough lie
  unfold Pattern.pieces
  refine runs_peek_bind ?_
  dsimp only
  split
  · exact runs_pure ⟨.refl source c, lie.ungroup⟩
  · rename_i more
    refine runs_position_bind <| runs_take_bind fun d eq moves => ?_
    have := Cursor.length_lt_of_take eq fun none => more (.inl (by rw [none]; rfl))
    -- From any cursor behind the token there is depth enough to go on.
    have onward : ∀ {verbose : Bool} {got : List Piece} {e : Cursor}, c.Advances source e →
        e.text.length ≤ d.text.length →
        AllLie (shownFeatures source) got low e.scope.widths.length →
        Runs release source (Pattern.pieces depth verbose first got) e (c.LeadsTo source low) :=
      fun advances le lie => (pieces _ _ _ _ _ (reads.advance advances) (by omega) lie).mono
        fun _ _ => advances.leadsTo
    have plain : ∀ {p : Piece} {e : Cursor}, p.IsPlain → d.Moves e →
        Runs release source (Pattern.pieces depth verbose first (got ++ [p])) e (c.LeadsTo source low) := by
      intro p e holds moves'
      refine onward (moves.trans moves').advances moves'.length_le ?_
      exact allLie_append.mpr ⟨_, lie, allLie_singleton.mpr
        (holds.lies (by rw [(moves.trans moves').scope]))⟩
    have follows : d.Follows source c.next := reads.inside.take eq
    split
    · exact onward moves.advances le_rfl (moves.scope ▸ lie)
    · split
      · refine runs_bound_bind fun n _ => (runs_lineComment n).bind fun _ e moves' => ?_
        have moves := moves.trans moves'
        exact onward moves.advances moves'.length_le (moves.scope ▸ lie)
      · split
        · rename_i same
          rw [same] at follows
          obtain rfl := reads.token.eq_backslash same
          exact (runs_pieceEscape follows).bind fun p e ⟨holds, moves'⟩ => plain holds moves'
        · exact (runs_charSet (reads.inside.move moves)).bind fun p e ⟨holds, moves'⟩ =>
            plain holds moves'
        · exact plain trivial (.refl d)
        · exact plain trivial (.refl d)
        · exact plain trivial (.refl d)
        · rename_i same
          rw [same] at follows
          refine (parenthesis _ _ _ _ d (reads.advance moves.advances) follows (by omega)).bind
            fun p e ⟨advances, lies⟩ => ?_
          rw [moves.scope] at lies
          have := advances.length_le
          have advances := moves.advances.trans advances
          cases p with
          | some p => exact onward advances this (allLie_append.mpr ⟨_, lie, lies⟩)
          | none => exact runs_scope_bind (onward advances this (lie.mono le_rfl lies))
        · rename_i ch _ _ _ _ _ same
          split
          · rename_i quantifier
            have quantifier : c.next = ['?'] ∨ c.next = ['*'] ∨ c.next = ['+'] ∨ c.next = ['{'] := by
              simpa [same] using quantifier
            refine (runs_counts quantifier follows).bind fun found e ⟨moves', behind⟩ => ?_
            cases found with
            | none => exact plain trivial moves'
            | some range =>
              have moves := moves.trans moves'
              refine (runs_repeatLast _ _ _ (behind rfl) (moves.scope ▸ lie)).bind
                fun ps z ⟨moves'', lie⟩ => ?_
              have moves := moves.trans moves''
              exact onward moves.advances (moves'.trans moves'').length_le (moves''.scope ▸ lie)
          · exact plain trivial (.refl d)
        · -- There are no other tokens.
          rename_i escape _ _ _ _ _ char
          rcases reads.token with none | ⟨x, same⟩ | ⟨x, same⟩
          · exact absurd (.inl (by rw [none]; rfl)) more
          · exact (char x same).elim
          · exact (escape _ x same).elim

theorem readsParenthesis_succ (alternatives : ReadsAlternatives release source depth)
    (pieces : ReadsPieces release source depth) : ReadsParenthesis release source (depth + 1) := by
  intro verbose first start leading c reads follows enough
  unfold Pattern.parenthesis
  refine (runs_parenthesisOpening start _ follows).bind fun kind d ⟨shown, advances, same⟩ => ?_
  -- Whatever has been read of the opening, there is depth enough for what it encloses.
  have whole : ∀ verbose, ReadsFrom release source d (Pattern.alternatives depth verbose true []) := by
    intro verbose e further
    have advances := advances.trans further
    have := advances.length_le
    exact alternatives _ _ [] _ e (reads.advance advances) (by omega) le_rfl
  have part : ReadsFrom release source d (Pattern.pieces depth verbose false []) := by
    intro e further
    have advances := advances.trans further
    have := advances.length_le
    exact pieces _ _ [] _ e (reads.advance advances) (by omega) le_rfl
  have enclosed : ∀ p e, d.LeadsTo source d.scope.widths.length [p] e →
      c.LeadsTo source c.scope.widths.length [p] e := fun p e lead =>
    same ▸ advances.leadsTo lead
  cases kind with
  | nothing => exact runs_pure ⟨advances, advances.groups⟩
  | piece p =>
    exact runs_pure ⟨advances, allLie_singleton.mpr (Piece.IsPlain.lies shown advances.groups)⟩
  | look behind negated =>
    have shown : behind = true → HasLookbehind source := fun h => by rw [h] at shown; exact shown
    exact (runs_lookaround (whole _) shown).bind fun p e lead => runs_pure (enclosed p e lead)
  | conditional group =>
    exact (runs_conditional group part).bind fun p e lead => runs_pure (enclosed p e lead)
  | atomic =>
    refine (whole _ d (.refl ..)).bind fun ps e lead => (runs_closing start).bind fun _ z moves =>
      runs_pure (enclosed _ z ?_)
    exact lead.closed (.refl ..) moves fun lie => lie
  | group capture name set clear =>
    exact (runs_grouped capture name set clear (whole _)).bind fun p e lead =>
      runs_pure (enclosed p e lead)

/-! ### Whole patterns -/

theorem reads_all (release : Release) (source : List Char) (depth : Nat) :
    ReadsAlternatives release source depth ∧ ReadsPieces release source depth ∧ ReadsParenthesis release source depth := by
  induction depth with
  | zero => exact ⟨fun _ _ _ _ _ _ enough => by omega, fun _ _ _ _ _ _ enough => by omega,
      fun _ _ _ _ _ _ _ enough => by omega⟩
  | succ depth ih =>
    obtain ⟨alternatives, pieces, parenthesis⟩ := ih
    exact ⟨readsAlternatives_succ alternatives pieces, readsPieces_succ pieces parenthesis,
      readsParenthesis_succ alternatives pieces⟩

/-- Whether a program has its groups in order and no features but those that the pattern shows. -/
def Program.IsShown (source : List Char) (p : Program) : Prop :=
  ∃ high, AllLie (shownFeatures source) p.body 1 high

theorem runs_readAll {start : Cursor} (loaded : load { release } 0 source = .ok start)
    (text : start.text = source) (known : start.scope = { release }) (token : start.IsAtToken) :
    Runs release source (readAll (4 * source.length + 8)) start fun program _ => program.IsShown source := by
  have reads : start.Reads source := ⟨by rw [Cursor.Follows, text]; exact List.suffix_refl _, token⟩
  have body := (reads_all release source (4 * source.length + 8)).1 false false [] 1 start reads
    (by rw [text]; omega) (by rw [known]; exact le_rfl)
  unfold readAll
  refine body.run_eq.bind fun ps last ⟨⟨advances, lie⟩, run⟩ => runs_scope_bind ?_
  have shown : FlagsShown source last.scope.flags :=
    advances.flags (by rw [known]; exact ⟨nofun, nofun⟩)
  -- The refusals that are left are those that show only when all has been read.
  refine .ite (fun both => runs_throw_bind ?_) fun _ => runs_peek_bind <| runs_guard nofun fun _ => ?_
  · obtain ⟨ascii, unicode⟩ := Bool.and_eq_true_iff.mp both
    exact ⟨shown.ascii ascii, shown.unicode unicode⟩
  · split
    · exact runs_throw fun deep => by cases deep
    · split
      · rename_i problem same
        exact runs_throw fun deep => problemIn?_ne_tooDeep ps (deep ▸ same)
      · refine .ite (fun wide => runs_throw_bind ⟨lie.lookbehind wide, ?_⟩) fun _ => runs_pure ⟨_, lie⟩
        exact ⟨start, ps, last, loaded, run, wide⟩

/-- A pattern is read, or refused for a reason that it shows. -/
theorem read_outcome (release : Release) (source : List Char) :
    match read release source with
    | .ok program => program.IsShown source
    | .error e => e.IsDue source release := by
  obtain ⟨problem, position, eq, reported⟩ | ⟨start, eq, text, known, token⟩ := load_cases { release } 0 source
  · simp only [read, eq]
    exact reported
  · have outcome := runs_readAll eq text known token
    have same : read release source = ((readAll (4 * source.length + 8)).run start).map Prod.fst := by
      rw [read, eq]
      rfl
    unfold Runs at outcome
    rw [same]
    cases run : (readAll (4 * source.length + 8)).run start with
    | error e => rwa [run] at outcome
    | ok r => rwa [run] at outcome

end Conform.Pattern
