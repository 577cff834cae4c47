import Conform.Pattern.Reader
/-!
# Steps of reading

A step of reading takes tokens from the front of the text that is left, so what is left is always an end
of the pattern.  If the step is refused, then for a reason that the pattern shows: most are found at a
place, and for each other one there is a part of the pattern that gives it (`IsDue`).
-/
namespace Conform.Pattern

open Reader

/-! ### What a pattern shows -/

section

variable (source : List Char)

/-- Whether the pattern has a group that sets a flag for the whole pattern. -/
def SetsFlag (letter : Char) : Prop :=
  ∃ letters, letter ∈ letters ∧ (∀ l ∈ letters, isFlagToken [l] = true) ∧
    '(' :: '?' :: letters ++ [')'] <:+: source

/-- Whether the pattern has the opening of a look-behind. -/
def HasLookbehind : Prop := ['(', '?', '<', '='] <:+: source ∨ ['(', '?', '<', '!'] <:+: source

/-- Whether the pattern has the end of a possessive repetition. -/
def HasPossessive : Prop := ∃ q ∈ ['?', '*', '+', '}'], [q, '+'] <:+: source

/-- Whether the pattern has a count in braces, alone or as one of two. -/
def HasCount (digits : List Char) : Prop :=
  (∀ d ∈ digits, d.isDigit = true) ∧ ∃ other : List Char, (∀ d ∈ other, d.isDigit = true) ∧
    ('{' :: digits ++ ['}'] <:+: source ∨ '{' :: digits ++ ',' :: other ++ ['}'] <:+: source ∨
      '{' :: other ++ ',' :: digits ++ ['}'] <:+: source)

/-- Whether the pattern has a character by an eight-digit number. -/
def HasCharacter (digits : List Char) : Prop :=
  digits.length = 8 ∧ (∀ d ∈ digits, NumberText.isDigitOf 16 d = true) ∧
    '\\' :: 'U' :: digits <:+: source

/-- Whether a look-behind of the pattern, as it is read, is too wide. -/
def LooksTooFar (release : Release) : Prop :=
  ∃ start body last, load { release } 0 source = .ok start ∧
    (alternatives (4 * source.length + 8) false false []).run start = .ok (body, last) ∧
    looksBeyondIn last.scope.known last.scope.release.lookbehind body = true

/-- Whether the pattern shows a reason to refuse it. -/
def Refusal.IsDue (release : Release) : Refusal → Prop
  | .malformed problem _ => problem ≠ .tooDeep
  | .repetitionTooLong n =>
    ∃ digits, HasCount source digits ∧ digits.length = n ∧ NumberText.digitLimit < n
  | .repetitionTooLarge => ∃ digits, HasCount source digits ∧
    digits.length ≤ NumberText.digitLimit ∧ countLimit ≤ valueOf 10 digits
  | .characterTooLarge => ∃ digits, HasCharacter source digits ∧ 0x7FFFFFFF < valueOf 16 digits
  | .twoAlphabets => SetsFlag source 'a' ∧ SetsFlag source 'u'
  | .lookbehindTooWide => HasLookbehind source ∧ LooksTooFar source release

end

/-! ### Cursors -/

namespace Cursor

/-- The text that is left, the next token included. -/
def text (c : Cursor) : List Char := c.next ++ c.rest

/-- Whether the next token is one: a character, or a backslash with a character; or the end. -/
def IsAtToken (c : Cursor) : Prop :=
  c.next = [] ∨ (∃ x, c.next = [x]) ∨ ∃ x, c.next = ['\\', x]

theorem IsAtToken.eq_backslash {c : Cursor} {x y : Char} (h : c.IsAtToken) (two : c.next = [x, y]) :
    x = '\\' := by
  rcases h with none | ⟨_, one⟩ | ⟨_, same⟩
  · cases none.symm.trans two
  · cases one.symm.trans two
  · cases same.symm.trans two
    rfl

/-- Whether a text stands in the pattern right before the cursor. -/
def Follows (source before : List Char) (c : Cursor) : Prop := before ++ c.text <:+ source

/-- Whether a cursor is further on in the text, with the same known of groups and flags. -/
structure Moves (c d : Cursor) : Prop where
  text : d.text <:+ c.text
  scope : d.scope = c.scope
  token : c.IsAtToken → d.IsAtToken

variable {release : Release} {source before got other : List Char} {c d e : Cursor}

theorem Moves.refl (c : Cursor) : Moves c c := ⟨List.suffix_refl _, rfl, id⟩

theorem Moves.trans (h : Moves c d) (g : Moves d e) : Moves c e :=
  ⟨g.text.trans h.text, g.scope.trans h.scope, fun t => g.token (h.token t)⟩

theorem Moves.length_le (h : Moves c d) : d.text.length ≤ c.text.length := h.text.length_le

theorem Follows.take (h : c.Follows source before) (eq : c.text = got ++ d.text) :
    d.Follows source (before ++ got) := by
  unfold Follows at h ⊢
  rwa [List.append_assoc, ← eq]

theorem Follows.takeOne {x : Char} (h : c.Follows source before) (eq : c.text = x :: d.text) :
    d.Follows source (before ++ [x]) := h.take eq

theorem Follows.part (h : c.Follows source before) : before <:+: source :=
  (List.infix_append' [] before c.text).trans h.isInfix

theorem Follows.drop (h : c.Follows source (other ++ before)) : c.Follows source before := by
  unfold Follows at h ⊢
  rw [List.append_assoc] at h
  exact (List.suffix_append other _).trans h

theorem Follows.later (h : c.Follows source before) (later : d.text <:+ c.text) :
    d.Follows source [] :=
  later.trans ((List.suffix_append before c.text).trans h)

theorem Follows.move (h : c.Follows source before) (m : Moves c d) : d.Follows source [] :=
  h.later m.text

end Cursor

/-! ### Running a step -/

/-- Whether a step of reading, from a cursor on, ends in one way, or is refused for a reason that the
pattern shows. -/
def Runs {α : Type} (release : Release) (source : List Char) (x : Reader α) (c : Cursor)
    (after : α → Cursor → Prop) : Prop :=
  match x.run c with
  | .ok (a, d) => after a d
  | .error e => e.IsDue source release

section

variable {α β : Type} {release : Release} {source : List Char} {x : Reader α} {f : α → Reader β} {c : Cursor}
  {after after' : α → Cursor → Prop} {then' : β → Cursor → Prop} {a : α}

theorem runs_pure (h : after a c) : Runs release source (pure a) c after := h

theorem Runs.bind (h : Runs release source x c after) (g : ∀ a d, after a d → Runs release source (f a) d then') :
    Runs release source (x >>= f) c then' := by
  unfold Runs at h g ⊢
  rw [StateT.run_bind]
  cases run : x.run c with
  | error e =>
    rw [run] at h
    exact h
  | ok r =>
    rw [run] at h
    exact g r.1 r.2 h

theorem Runs.mono (h : Runs release source x c after) (imp : ∀ a d, after a d → after' a d) :
    Runs release source x c after' := by
  unfold Runs at h ⊢
  split at h
  · exact imp _ _ h
  · exact h

/-- What is known of how a step ends may include that it does. -/
theorem Runs.run_eq (h : Runs release source x c after) :
    Runs release source x c fun a d => after a d ∧ x.run c = .ok (a, d) := by
  unfold Runs at h ⊢
  cases run : x.run c with
  | error e =>
    rw [run] at h
    exact h
  | ok r =>
    rw [run] at h
    exact ⟨h, rfl⟩

theorem runs_throw {e : Refusal} (h : e.IsDue source release) :
    Runs release source (throw e : Reader α) c after := h

theorem runs_throw_bind {e : Refusal} (h : e.IsDue source release) :
    Runs release source (throw e >>= f) c then' := h

/-- Refusing the pattern at a place. -/
theorem runs_fail {problem : Problem} {back : Nat} (h : problem ≠ .tooDeep) :
    Runs release source (fail problem back : Reader α) c after := h

theorem runs_fail_from {problem : Problem} {start : Nat} (h : problem ≠ .tooDeep) :
    Runs release source (do fail problem ((← position) - start) : Reader α) c after := h

theorem runs_fail_from_bind {problem : Problem} {start : Nat} (h : problem ≠ .tooDeep) :
    Runs release source ((do fail problem ((← position) - start)) >>= f) c then' := h

theorem runs_fail_bind {problem : Problem} {back : Nat} (h : problem ≠ .tooDeep) :
    Runs release source (fail problem back >>= f) c then' := h

theorem runs_pure_bind (h : Runs release source (f a) c then') : Runs release source (pure a >>= f) c then' := h

/-- Going one way or another one, depending on a condition. -/
theorem Runs.ite {p : Prop} [Decidable p] {y : Reader α} (h : p → Runs release source x c after)
    (g : ¬p → Runs release source y c after) : Runs release source (if p then x else y) c after := by
  split
  · exact h ‹_›
  · exact g ‹_›

/-- Refusing the pattern at a place if a condition holds. -/
theorem runs_guard {p : Prop} [Decidable p] {g : Unit → Reader α} {problem : Problem} {back : Nat}
    (h : problem ≠ .tooDeep) (go : ¬p → Runs release source (g ()) c after) :
    Runs release source (if p then fail problem back >>= g else g ()) c after :=
  .ite (fun _ => runs_fail_bind h) go

/-! ### What is known at a cursor -/

theorem runs_position_bind {g : Nat → Reader α}
    (h : Runs release source (g (c.index - c.next.length)) c after) : Runs release source (position >>= g) c after := h

theorem runs_peek_bind {g : List Char → Reader α} (h : Runs release source (g c.next) c after) :
    Runs release source (peek >>= g) c after := h

theorem runs_scope_bind {g : Scope → Reader α} (h : Runs release source (g c.scope) c after) :
    Runs release source (scope >>= g) c after := h

theorem runs_get_bind {g : Cursor → Reader α} (h : Runs release source (g c) c after) :
    Runs release source (get >>= g) c after := h

theorem runs_modifyScope_bind {g : Unit → Reader α} {change : Scope → Scope}
    (h : Runs release source (g ()) { c with scope := change c.scope } after) :
    Runs release source (modifyScope change >>= g) c after := h

/-- There are fewer tokens left than the bound. -/
theorem runs_bound_bind {g : Nat → Reader α}
    (h : ∀ n, c.text.length < n → Runs release source (g n) c after) : Runs release source (bound >>= g) c after :=
  h _ (by simp [Cursor.text]; omega)

end

/-! ### Taking tokens -/

section

variable {α : Type} {release : Release} {source before : List Char} {c : Cursor}

/-- What is taken up of a text, unless a lone backslash ends it. -/
theorem load_cases (known : Scope) (index : Nat) (text : List Char) :
    (∃ problem position, load known index text = .error (.malformed problem position) ∧
      problem ≠ .tooDeep) ∨
    ∃ d, load known index text = .ok d ∧ d.text = text ∧ d.scope = known ∧ d.IsAtToken := by
  unfold load
  split
  · exact .inr ⟨_, rfl, rfl, rfl, .inl rfl⟩
  · exact .inl ⟨_, _, rfl, nofun⟩
  · exact .inr ⟨_, rfl, rfl, rfl, .inr (.inr ⟨_, rfl⟩)⟩
  · exact .inr ⟨_, rfl, rfl, rfl, .inr (.inl ⟨_, rfl⟩)⟩

/-- A step that takes up a text with what is known at the cursor. -/
theorem runs_load {index : Nat} {text : List Char} {result : α} {x : Reader α}
    {after : α → Cursor → Prop} (run : x.run c = (load c.scope index text).map fun d => (result, d))
    (h : ∀ d, d.text = text → d.scope = c.scope → d.IsAtToken → after result d) :
    Runs release source x c after := by
  unfold Runs
  rw [run]
  obtain ⟨problem, position, eq, reported⟩ | ⟨d, eq, text, known, token⟩ :=
    load_cases c.scope index text
  · rw [eq]
    exact reported
  · rw [eq]
    exact h d text known token

theorem run_take (c : Cursor) :
    take.run c = (load c.scope c.index c.rest).map fun d => (c.next, d) := by
  simp only [take, StateT.run_bind, StateT.run_get, pure_bind]
  cases load c.scope c.index c.rest <;> rfl

theorem runs_take : Runs release source take c fun token d =>
    token = c.next ∧ c.text = token ++ d.text ∧ c.Moves d :=
  runs_load (run_take c) fun d text known token =>
    ⟨rfl, by rw [text]; rfl, by rw [text]; exact List.suffix_append .., known, fun _ => token⟩

theorem run_reset (index : Nat) (text : List Char) (c : Cursor) :
    (reset index text).run c = (load c.scope index text).map fun d => ((), d) := by
  simp only [reset, StateT.run_bind, StateT.run_get, pure_bind]
  cases load c.scope index text <;> rfl

theorem runs_reset (index : Nat) (text : List Char) : Runs release source (reset index text) c fun _ d =>
    d.text = text ∧ d.scope = c.scope ∧ d.IsAtToken :=
  runs_load (run_reset index text c) fun _ eq known token => ⟨eq, known, token⟩

/-- Taking the next token. -/
theorem runs_take_bind {f : List Char → Reader α} {after : α → Cursor → Prop}
    (h : ∀ d, c.text = c.next ++ d.text → c.Moves d → Runs release source (f c.next) d after) :
    Runs release source (take >>= f) c after :=
  runs_take.bind fun _ d ⟨same, eq, moves⟩ => by
    subst same
    exact h d eq moves

/-- Taking the next token, if it is a given character. -/
theorem runs_accept (ch : Char) : Runs release source (accept ch) c fun taken d =>
    c.Moves d ∧ if taken then c.text = ch :: d.text else d = c := by
  unfold accept
  refine runs_peek_bind ?_
  split
  · rename_i same
    refine runs_take_bind fun d eq moves => runs_pure ⟨moves, ?_⟩
    rwa [same] at eq
  · exact runs_pure ⟨.refl c, rfl⟩

theorem runs_accept_bind {ch : Char} {f : Bool → Reader α} {after : α → Cursor → Prop}
    (yes : ∀ d, c.text = ch :: d.text → c.Moves d → Runs release source (f true) d after)
    (no : Runs release source (f false) c after) : Runs release source (accept ch >>= f) c after :=
  (runs_accept ch).bind fun taken d ⟨moves, eq⟩ => by
    cases taken with
    | true => exact yes d eq moves
    | false =>
      obtain rfl : d = c := eq
      exact no

/-- Taking characters of a kind. -/
theorem runs_takeWhile (p : Char → Bool) (n : Nat) :
    Runs release source (Reader.takeWhile p n) c fun got d =>
      c.text = got ++ d.text ∧ c.Moves d ∧ ∀ x ∈ got, p x = true := by
  induction n generalizing c with
  | zero => exact runs_pure ⟨rfl, .refl c, List.forall_mem_nil _⟩
  | succ n ih =>
    unfold Reader.takeWhile
    refine runs_peek_bind ?_
    split
    · rename_i x next
      split
      · rename_i fits
        refine runs_take_bind fun d eq moves => ih.bind fun got e ⟨eq', moves', all⟩ => ?_
        refine runs_pure ⟨?_, moves.trans moves', List.forall_mem_cons.mpr ⟨fits, all⟩⟩
        rw [eq, eq', next]
        rfl
      · exact runs_pure ⟨rfl, .refl c, List.forall_mem_nil _⟩
    · exact runs_pure ⟨rfl, .refl c, List.forall_mem_nil _⟩

/-- Fewer tokens are left after one has been taken. -/
theorem Cursor.length_lt_of_take {c d : Cursor} (eq : c.text = c.next ++ d.text)
    (some : c.next ≠ []) : d.text.length < c.text.length := by
  have := List.length_pos_iff.mpr some
  rw [eq, List.length_append]
  omega

theorem runs_takeUntil (close : Char) (what : String) (n : Nat) (got : List Char)
    (enough : c.text.length < n) :
    Runs release source (takeUntil close what n got) c fun _ d => c.Moves d := by
  induction n generalizing c got with
  | zero => omega
  | succ n ih =>
    unfold takeUntil
    refine runs_take_bind fun d eq moves => ?_
    split
    · split <;> exact runs_fail nofun
    · rename_i some
      have := Cursor.length_lt_of_take eq some
      split
      · exact runs_guard nofun fun _ => runs_pure moves
      · exact (ih _ (by omega)).mono fun _ _ => moves.trans

end

end Conform.Pattern
