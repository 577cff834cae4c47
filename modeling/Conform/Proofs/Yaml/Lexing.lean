import Conform.Proofs.Lists
import Conform.Yaml.Lexer
import Mathlib.Data.List.Basic
/-!
# Runs of the lexer

What the steps of the lexer do to its state, as equations: every step takes a number of characters
(`Lexer.passed`), and changes little else.
-/
namespace Conform.Yaml

/-! ### Passing characters -/

namespace Mark

/-- A character that ends no line stays on the line. -/
theorem after_of_not_break (m : Mark) {c : Char} (h : isBreak c = false) (next : Option Char) :
    (m.after c next).index = m.index + 1 ∧ (m.after c next).line = m.line := by
  simp only [after, h, Bool.false_and, Bool.false_eq_true, if_false]
  split <;> exact ⟨rfl, rfl⟩

end Mark

namespace Lexer

/-- The state after the next character. -/
def passedOne (s : Lexer) : Lexer :=
  match s.text with
  | c :: rest => { s with text := rest, mark := s.mark.after c rest.head? }
  | [] => s

/-- The state after a number of characters. -/
def passed (s : Lexer) : Nat → Lexer
  | 0 => s
  | n + 1 => s.passedOne.passed n

section Passed

variable (s : Lexer) (n : Nat)

@[simp] theorem passed_zero : s.passed 0 = s := rfl

theorem passed_passed (m : Nat) : (s.passed m).passed n = s.passed (m + n) := by
  induction m generalizing s with
  | zero => rw [passed_zero, Nat.zero_add]
  | succ m ih => rw [Nat.succ_add, passed, passed, ih]

theorem passedOne_eq : s.passedOne = { s with text := s.text.drop 1, mark := s.passedOne.mark } := by
  obtain ⟨text, limit, mark, tokens, indent, indents, flow, keyAllowed, keys⟩ := s
  cases text <;> rfl

theorem passed_eq : s.passed n = { s with text := s.text.drop n, mark := (s.passed n).mark } := by
  induction n generalizing s with
  | zero => simp
  | succ n ih =>
    rw [passed, ih, passedOne_eq]
    simp

@[simp] theorem passed_text : (s.passed n).text = s.text.drop n := by rw [passed_eq]

@[simp] theorem passed_limit : (s.passed n).limit = s.limit := by rw [passed_eq]

@[simp] theorem passed_tokens : (s.passed n).tokens = s.tokens := by rw [passed_eq]

@[simp] theorem passed_indent : (s.passed n).indent = s.indent := by rw [passed_eq]

@[simp] theorem passed_flow : (s.passed n).flow = s.flow := by rw [passed_eq]

@[simp] theorem passed_keyAllowed : (s.passed n).keyAllowed = s.keyAllowed := by rw [passed_eq]

@[simp] theorem passed_keys : (s.passed n).keys = s.keys := by rw [passed_eq]

end Passed

/-- The state in which a key may start, or may not. -/
def allow (s : Lexer) (b : Bool) : Lexer := { s with keyAllowed := b }

section Allow

variable (s : Lexer) (b : Bool)

@[simp] theorem allow_text : (s.allow b).text = s.text := rfl

@[simp] theorem allow_limit : (s.allow b).limit = s.limit := rfl

@[simp] theorem allow_mark : (s.allow b).mark = s.mark := rfl

@[simp] theorem allow_flow : (s.allow b).flow = s.flow := rfl

@[simp] theorem allow_keyAllowed : (s.allow b).keyAllowed = b := rfl

@[simp] theorem allow_allow (c : Bool) : (s.allow b).allow c = s.allow c := rfl

@[simp] theorem allow_self : s.allow s.keyAllowed = s := rfl

/-- Whether a key may start makes no difference to what is passed. -/
theorem passed_allow (n : Nat) : (s.allow b).passed n = (s.passed n).allow b := by
  induction n generalizing s with
  | zero => rfl
  | succ n ih =>
    have one : (s.allow b).passedOne = s.passedOne.allow b := by
      obtain ⟨text, limit, mark, tokens, indent, indents, flow, keyAllowed, keys⟩ := s
      cases text <;> rfl
    rw [passed, passed, one, ih]

end Allow

/-- Without a line break, the characters that are passed are counted on the line. -/
theorem mark_passed {s : Lexer} {cs rest : List Char} (h : s.text = cs ++ rest)
    (inLine : ∀ c ∈ cs, isBreak c = false) : (s.passed cs.length).mark.index =
      s.mark.index + cs.length ∧ (s.passed cs.length).mark.line = s.mark.line := by
  induction cs generalizing s with
  | nil => exact ⟨rfl, rfl⟩
  | cons c cs ih =>
    obtain ⟨hc, hcs⟩ := List.forall_mem_cons.mp inLine
    have one : s.passedOne = { s with text := cs ++ rest, mark := s.mark.after c (cs ++ rest).head? } := by
      rw [passedOne, h]
      rfl
    obtain ⟨index, line⟩ := ih (s := s.passedOne) (by rw [one]) hcs
    obtain ⟨index', line'⟩ := s.mark.after_of_not_break hc (cs ++ rest).head?
    rw [List.length_cons, passed, index, line, one]
    exact ⟨by rw [index', Nat.add_assoc, Nat.add_comm 1], line'⟩

end Lexer

namespace Lex

variable {s : Lexer}

theorem run_bind {α β : Type} (x : Lex α) (f : α → Lex β) (s : Lexer) :
    (x >>= f).run s = (x.run s).bind fun p => (f p.1).run p.2 := rfl

theorem run_pure {α : Type} (a : α) (s : Lexer) : (pure a : Lex α).run s = .ok (a, s) := rfl

theorem run_get (s : Lexer) : (get : Lex Lexer).run s = .ok (s, s) := rfl

theorem run_set (s t : Lexer) : (set t : Lex PUnit).run s = .ok (⟨⟩, t) := rfl

theorem run_modify (f : Lexer → Lexer) (s : Lexer) : (modify f : Lex PUnit).run s = .ok (⟨⟩, f s) := rfl

/-- The outcome of two steps one after the other. -/
theorem run_bind_of_run {α β : Type} {x : Lex α} {f : α → Lex β} {t : Lexer} {a : α}
    (h : x.run s = .ok (a, t)) : (x >>= f).run s = (f a).run t := by
  rw [run_bind, h]
  rfl

theorem run_peekAt (k : Nat) (s : Lexer) : (peekAt k).run s = .ok (s.text[k]?.getD endOfText, s) := rfl

theorem run_peek (s : Lexer) : peek.run s = .ok (s.text.head?.getD endOfText, s) := by
  rw [peek, run_peekAt]
  cases s.text <;> rfl

theorem run_mark (s : Lexer) : mark.run s = .ok (s.mark, s) := rfl

theorem run_column (s : Lexer) : column.run s = .ok (s.mark.column, s) := rfl

theorem run_limit (s : Lexer) : limit.run s = .ok (s.limit, s) := rfl

theorem run_advance (s : Lexer) : advance.run s = .ok ((), s.passed 1) := rfl

theorem run_skip (n : Nat) (s : Lexer) : (skip n).run s = .ok ((), s.passed n) := by
  induction n generalizing s with
  | zero => rfl
  | succ n ih =>
    rw [skip, run_bind_of_run (run_advance s), ih, Lexer.passed_passed, Nat.add_comm]

theorem spanFrom_eq (p : Char → Bool) (s : Lexer) : spanFrom p s.text s.mark =
    (s.text.takeWhile p, (s.passed (s.text.takeWhile p).length).text,
      (s.passed (s.text.takeWhile p).length).mark) := by
  obtain ⟨text, limit, mark, tokens, indent, indents, flow, keyAllowed, keys⟩ := s
  dsimp only
  induction text generalizing mark with
  | nil => rfl
  | cons c text ih =>
    rw [spanFrom, List.takeWhile_cons]
    cases p c with
    | true => simp only [if_true, ih, List.length_cons, Lexer.passed, Lexer.passedOne]
    | false => rfl

theorem run_takeWhile (p : Char → Bool) (s : Lexer) : (takeWhile p).run s =
    .ok (s.text.takeWhile p, s.passed (s.text.takeWhile p).length) := by
  rw [takeWhile, run_bind_of_run (run_get s), spanFrom_eq]
  dsimp only
  rw [run_bind_of_run (run_set ..), run_pure, Lexer.passed_text, ← Lexer.passed_eq]

theorem run_allowKey (b : Bool) (s : Lexer) : (allowKey b).run s = .ok ((), s.allow b) := rfl

/-! ### Up to the next token -/

/-- Whether a text is at its end or starts with a token. -/
def StartsToken (rest : List Char) : Prop :=
  ∀ c, rest.head? = some c → c ≠ ' ' ∧ c ≠ '#' ∧ c ≠ '\uFEFF' ∧ isBreak c = false

/-- Whether a character is a blank between tokens, a tab excepted. -/
def isGapChar (c : Char) : Bool := c == ' ' || c == '\n' || c == '\r'

theorem run_skipComment (h : s.text.head? ≠ some '#') : skipComment.run s = .ok ((), s) := by
  have other : (s.text.head?.getD endOfText == '#') = false := by
    cases hc : s.text.head? with
    | none => decide
    | some c =>
      rw [hc] at h
      simpa using h
  rw [skipComment, run_bind_of_run (run_peek s), other]
  rfl

theorem run_lineBreak_none (h : ∀ c, s.text.head? = some c → isBreak c = false) :
    lineBreak.run s = .ok ([], s) := by
  have none : isBreak (s.text.head?.getD endOfText) = false := by
    cases hc : s.text.head? with
    | none => decide
    | some c => exact h c hc
  generalize hc : s.text.head?.getD endOfText = c at none
  simp only [isBreak, Bool.or_eq_false_iff, beq_eq_false_iff_ne] at none
  obtain ⟨⟨⟨⟨lf, cr⟩, nel⟩, ls⟩, ps⟩ := none
  rw [lineBreak, run_bind_of_run (run_peek s), hc]
  simp [lf, cr, nel, ls, ps]
  rfl

/-- A line break of a gap takes one of its characters or two. -/
theorem run_lineBreak {c : Char} {gap rest : List Char} (h : s.text = c :: gap ++ rest)
    (hc : c = '\n' ∨ c = '\r') (hrest : StartsToken rest) :
    ∃ head tail, gap = head ++ tail ∧ lineBreak.run s = .ok (['\n'], s.passed (head.length + 1)) := by
  have first : s.text.head?.getD endOfText = c := by rw [h]; rfl
  have second : s.text[1]?.getD endOfText = (gap ++ rest).head?.getD endOfText := by
    rw [h, List.cons_append]
    cases gap ++ rest <;> rfl
  rw [lineBreak, run_bind_of_run (run_peek s), first]
  rcases hc with rfl | rfl
  · exact ⟨[], gap, rfl, rfl⟩
  · rw [if_pos (beq_self_eq_true _), run_bind_of_run (run_peekAt 1 s), second]
    by_cases hnext : (gap ++ rest).head? = some '\n'
    · -- The line feed belongs to the gap, for no token starts with one.
      obtain ⟨tail, rfl⟩ : ∃ tail, gap = '\n' :: tail := by
        cases gap with
        | nil => exact absurd (hrest _ hnext).2.2.2 (by decide)
        | cons d tail =>
          obtain rfl := Option.some.inj hnext
          exact ⟨tail, rfl⟩
      exact ⟨['\n'], tail, rfl, by rw [hnext]; rfl⟩
    · have other : ((gap ++ rest).head?.getD endOfText == '\n') = false := by
        cases hd : (gap ++ rest).head? with
        | none => decide
        | some d =>
          rw [hd] at hnext
          simpa using hnext
      exact ⟨[], gap, rfl, by rw [other]; rfl⟩

/-- The leading spaces of a gap. -/
theorem exists_spaces (gap : List Char) : ∃ spaces others, gap = spaces ++ others ∧
    (∀ c ∈ spaces, (c == ' ') = true) ∧ ∀ c, others.head? = some c → (c == ' ') = false := by
  induction gap with
  | nil => exact ⟨[], [], rfl, by simp, by simp⟩
  | cons c gap ih =>
    by_cases hc : c = ' '
    · obtain ⟨spaces, others, rfl, hspaces, hothers⟩ := ih
      exact ⟨c :: spaces, others, rfl, List.forall_mem_cons.mpr ⟨by simpa using hc, hspaces⟩, hothers⟩
    · exact ⟨[], c :: gap, rfl, by simp, fun d hd => by simpa [← Option.some.inj hd] using hc⟩

/-- **The lines of a gap.**  Behind the spaces of its first line a gap ends, or it goes on with a line
break. -/
theorem gap_cases {gap rest : List Char} (h : s.text = gap ++ rest) (hgap : gap.all isGapChar = true)
    (hrest : StartsToken rest) : ∃ spaces, s.text.takeWhile (· == ' ') = spaces ∧
      (spaces.length = gap.length ∧ (s.passed spaces.length).text = rest ∨
        ∃ c tail n, (c = '\n' ∨ c = '\r') ∧ (s.passed spaces.length).text.head? = some c ∧
          lineBreak.run (s.passed spaces.length) = .ok (['\n'], s.passed n) ∧
          (s.passed n).text = tail ++ rest ∧ tail.all isGapChar = true ∧
          n + tail.length = gap.length ∧ 0 < n) := by
  -- The scanner goes over a gap line by line; `tail` is what it leaves for its next round.
  obtain ⟨spaces, others, rfl, hspaces, hothers⟩ := exists_spaces gap
  rw [List.append_assoc] at h
  rw [List.all_append, Bool.and_eq_true] at hgap
  have behind : (s.passed spaces.length).text = others ++ rest := by
    rw [Lexer.passed_text, h, List.drop_left]
  refine ⟨spaces, ?_, ?_⟩
  · rw [h]
    refine takeWhile_eq hspaces fun c hc => ?_
    cases others with
    | nil => simpa using (hrest c hc).1
    | cons d others => exact hothers c hc
  · cases others with
    | nil => exact .inl ⟨by rw [List.append_nil], behind⟩
    | cons c others =>
      have lineEnd : c = '\n' ∨ c = '\r' := by
        have gapChar := List.all_eq_true.mp hgap.2 c (List.mem_cons_self ..)
        simpa [isGapChar, hothers c rfl] using gapChar
      obtain ⟨head, tail, rfl, broken⟩ := run_lineBreak behind lineEnd hrest
      rw [Lexer.passed_passed] at broken
      rw [List.all_cons, List.all_append, Bool.and_eq_true, Bool.and_eq_true] at hgap
      refine .inr ⟨c, tail, spaces.length + (head.length + 1), lineEnd, ?_, broken, ?_, hgap.2.2.2, ?_, ?_⟩
      · rw [behind]
        rfl
      · rw [← Lexer.passed_passed, Lexer.passed_text, behind]
        simp
      · simp only [List.length_cons, List.length_append]
        omega
      · omega

/-- Outside of flow collections the end of a line allows a key. -/
theorem run_lineEnd (n : Nat) (s : Lexer) :
    (do
      if (← get).flow == 0 then allowKey true
      toNextToken n : Lex Unit).run s =
      (toNextToken n).run (s.allow (s.flow == 0 || s.keyAllowed)) := by
  rw [run_bind_of_run (run_get s)]
  cases h : s.flow == 0 with
  | true => rfl
  | false => rfl

/-- **The way to the next token** leads over the whole gap. -/
theorem run_toNextToken {n : Nat} {gap rest : List Char} (h : s.text = gap ++ rest)
    (hgap : gap.all isGapChar = true) (hrest : StartsToken rest) (enough : gap.length < n) :
    ∃ b, (s.flow ≠ 0 → b = s.keyAllowed) ∧
      (toNextToken n).run s = .ok ((), (s.passed gap.length).allow b) := by
  induction n generalizing s gap with
  | zero => exact absurd enough (Nat.not_lt_zero _)
  | succ n ih =>
    obtain ⟨spaces, taken, lines⟩ := gap_cases h hgap hrest
    have skipped : skipSpaces.run s = .ok ((), s.passed spaces.length) := by
      rw [skipSpaces, run_bind_of_run (run_takeWhile ..), taken, run_pure]
    rw [toNextToken, run_bind_of_run skipped]
    rcases lines with ⟨total, behind⟩ | ⟨c, tail, k, lineEnd, ahead, broken, behind, tailGap, total, less⟩
    -- The gap ends behind its spaces.
    · have noComment : (s.passed spaces.length).text.head? ≠ some '#' := by
        rw [behind]
        exact fun hc => (hrest _ hc).2.1 rfl
      have none : lineBreak.run (s.passed spaces.length) = .ok ([], s.passed spaces.length) :=
        run_lineBreak_none fun c hc => (hrest c (by rwa [behind] at hc)).2.2.2
      refine ⟨s.keyAllowed, fun _ => rfl, ?_⟩
      rw [run_bind_of_run (run_skipComment noComment), run_bind_of_run none, ← Lexer.passed_allow,
        Lexer.allow_self, ← total]
      rfl
    -- It goes on with a line break.
    · have noComment : (s.passed spaces.length).text.head? ≠ some '#' := by
        rw [ahead]
        rintro hc
        obtain rfl := Option.some.inj hc
        exact absurd lineEnd (by decide)
      rw [run_bind_of_run (run_skipComment noComment), run_bind_of_run broken]
      have run := run_lineEnd n (s.passed k)
      rw [Lexer.passed_flow, Lexer.passed_keyAllowed] at run
      obtain ⟨b, hb, ended⟩ := ih (s := (s.passed k).allow (s.flow == 0 || s.keyAllowed)) behind tailGap
        (by omega)
      refine ⟨b, fun hflow => ?_, ?_⟩
      · rw [hb (by simpa using hflow)]
        simp [hflow]
      · rw [Lexer.passed_allow, Lexer.allow_allow, Lexer.passed_passed, total] at ended
        exact run.trans ended

end Lex

/-! ### Keys, indentation and tokens -/

namespace Lexer

/-- The state after one more token. -/
def pushed (s : Lexer) (t : Token) : Lexer := { s with tokens := s.tokens.push t }

/-- The state inside of a number of flow collections. -/
def atFlow (s : Lexer) (n : Nat) : Lexer := { s with flow := n }

/-- The state without the keys that can no longer have started. -/
def withoutStale (s : Lexer) : Lexer :=
  { s with keys := s.keys.filter fun k => !k.2.isStale s.mark }

/-- The state without the key of its flow level. -/
def withoutKey (s : Lexer) : Lexer := { s with keys := s.keys.filter fun k => k.1 != s.flow }

/-- The state in which a key may have started, if one may. -/
def withKey (s : Lexer) : Lexer :=
  if s.keyAllowed then
    { s with keys := (s.flow, ⟨s.tokens.size, false, s.mark⟩) :: s.withoutKey.keys }
  else s

/-- The state after a token of a number of characters. -/
def taken (s : Lexer) (kind : TokenKind) (n : Nat) : Lexer :=
  (s.passed n).pushed ⟨kind, s.mark, (s.passed n).mark⟩

/-- The state after a token was put in front of the token with a number. -/
def inserted (s : Lexer) (number : Nat) (t : Token) : Lexer :=
  { s with tokens := (s.tokens.extract 0 number).push t ++ s.tokens.extract number }

/-- Where the lexer is in a text without block collections: inside of how many flow collections, behind
which tokens, and in front of which text.  Nowhere does a key have to start. -/
structure IsAt (s : Lexer) (flow : Nat) (kinds : List TokenKind) (text : List Char) : Prop where
  ahead : s.text = text
  within : s.flow = flow
  behind : s.tokens.toList.map (·.kind) = kinds
  flat : s.indent = -1
  loose : ∀ k ∈ s.keys, k.2.required = false
  room : text.length < s.limit

namespace IsAt

variable {s : Lexer} {flow : Nat} {kinds : List TokenKind} {text : List Char}

theorem passed {cs : List Char} (h : s.IsAt flow kinds (cs ++ text)) :
    (s.passed cs.length).IsAt flow kinds text where
  ahead := by rw [passed_text, h.ahead, List.drop_left]
  within := by rw [passed_flow, h.within]
  behind := by rw [passed_tokens, h.behind]
  flat := by rw [passed_indent, h.flat]
  loose := by
    rw [passed_keys]
    exact h.loose
  room := by
    have room := h.room
    rw [List.length_append] at room
    rw [passed_limit]
    omega

theorem allow (h : s.IsAt flow kinds text) (b : Bool) : (s.allow b).IsAt flow kinds text :=
  ⟨h.ahead, h.within, h.behind, h.flat, h.loose, h.room⟩

theorem atFlow (h : s.IsAt flow kinds text) (n : Nat) : (s.atFlow n).IsAt n kinds text :=
  ⟨h.ahead, rfl, h.behind, h.flat, h.loose, h.room⟩

theorem withoutStale (h : s.IsAt flow kinds text) : s.withoutStale.IsAt flow kinds text :=
  ⟨h.ahead, h.within, h.behind, h.flat, fun k hk => h.loose k (List.mem_of_mem_filter hk), h.room⟩

theorem withoutKey (h : s.IsAt flow kinds text) : s.withoutKey.IsAt flow kinds text :=
  ⟨h.ahead, h.within, h.behind, h.flat, fun k hk => h.loose k (List.mem_of_mem_filter hk), h.room⟩

theorem withKey (h : s.IsAt flow kinds text) : s.withKey.IsAt flow kinds text := by
  unfold Lexer.withKey
  split
  · refine ⟨h.ahead, h.within, h.behind, h.flat, ?_, h.room⟩
    exact List.forall_mem_cons.mpr ⟨rfl, h.withoutKey.loose⟩
  · exact h

theorem pushed (h : s.IsAt flow kinds text) (t : Token) :
    (s.pushed t).IsAt flow (kinds ++ [t.kind]) text := by
  refine ⟨h.ahead, h.within, ?_, h.flat, h.loose, h.room⟩
  rw [Lexer.pushed, Array.toList_push, List.map_append, h.behind]
  rfl

theorem taken {cs : List Char} (h : s.IsAt flow kinds (cs ++ text)) (kind : TokenKind) :
    (s.taken kind cs.length).IsAt flow (kinds ++ [kind]) text :=
  h.passed.pushed _

theorem takenOne {c : Char} (h : s.IsAt flow kinds (c :: text)) (kind : TokenKind) :
    (s.taken kind 1).IsAt flow (kinds ++ [kind]) text := by
  have h : s.IsAt flow kinds ([c] ++ text) := h
  exact h.taken kind

theorem inserted {others : List TokenKind} (h : s.IsAt flow (kinds ++ others) text) (t : Token) :
    (s.inserted kinds.length t).IsAt flow (kinds ++ t.kind :: others) text := by
  refine ⟨h.ahead, h.within, ?_, h.flat, h.loose, h.room⟩
  have size : s.tokens.size = kinds.length + others.length := by
    rw [← List.length_append, ← h.behind, List.length_map, Array.length_toList]
  simp [Lexer.inserted, h.behind, size]

end IsAt

end Lexer

namespace Lex

variable {s : Lexer} {flow : Nat} {kinds : List TokenKind} {text : List Char}

theorem run_emit (kind : TokenKind) (m : Mark) (s : Lexer) :
    (emit kind m).run s = .ok ((), s.pushed ⟨kind, m, s.mark⟩) := rfl

theorem run_indicator (kind : TokenKind) (n : Nat) (s : Lexer) :
    (indicator kind n).run s = .ok ((), s.taken kind n) := by
  rw [indicator, run_bind_of_run (run_mark s), run_bind_of_run (run_skip n s), run_emit]
  rfl

/-- Where no key has to start, keys are given up without a failure. -/
private theorem any_required {ks : List (Nat × PendingKey)} (p : Nat × PendingKey → Bool)
    (h : ∀ k ∈ ks, k.2.required = false) : (ks.any fun k => p k && k.2.required) = false := by
  rw [List.any_eq_false]
  intro k hk
  rw [h k hk, Bool.and_false]
  exact Bool.false_ne_true

theorem run_dropStaleKeys (h : s.IsAt flow kinds text) :
    dropStaleKeys.run s = .ok ((), s.withoutStale) := by
  rw [dropStaleKeys, run_bind_of_run (run_get s), any_required _ h.loose]
  rfl

theorem run_dropKey (h : s.IsAt flow kinds text) : dropKey.run s = .ok ((), s.withoutKey) := by
  rw [dropKey, run_bind_of_run (run_get s), any_required _ h.loose]
  rfl

theorem run_noteKey (h : s.IsAt flow kinds text) : noteKey.run s = .ok ((), s.withKey) := by
  have column : (s.indent == (s.mark.column : Int)) = false := by
    rw [h.flat]
    exact beq_eq_false_iff_ne.mpr (by omega)
  rw [noteKey, run_bind_of_run (run_get s), Lexer.withKey, column, Bool.and_false]
  split
  · rw [run_bind_of_run (run_dropKey h)]
    rfl
  · rfl

theorem run_unwind (h : s.IsAt flow kinds text) (column : Int) (deep : -1 ≤ column) :
    (unwind column).run s = .ok ((), s) := by
  have none : ∀ n, (unwind.close column n).run s = .ok ((), s) := by
    intro n
    cases n with
    | zero => rfl
    | succ n =>
      rw [unwind.close, run_bind_of_run (run_get s), h.flat, if_neg (by omega)]
      rfl
  rw [unwind, run_bind_of_run (run_get s)]
  cases s.flow == 0 with
  | false => rfl
  | true => exact none _

/-- **The next token** starts behind the gap. -/
theorem run_next {gap rest : List Char} (h : s.IsAt flow kinds (gap ++ rest))
    (hgap : gap.all isGapChar = true) (hrest : StartsToken rest) :
    ∃ b, (s.flow ≠ 0 → b = s.keyAllowed) ∧
      next.run s = token.run ((s.passed gap.length).allow b).withoutStale := by
  have noByteOrderMark : s.text.head?.getD endOfText ≠ '\uFEFF' := by
    rw [h.ahead]
    cases gap with
    | nil =>
      cases rest with
      | nil => decide
      | cons c rest => exact (hrest c rfl).2.2.1
    | cons c gap =>
      rintro rfl
      exact absurd (List.all_eq_true.mp hgap _ (List.mem_cons_self ..)) (by decide)
  have room := h.room
  rw [List.length_append] at room
  obtain ⟨b, hb, gone⟩ := run_toNextToken h.ahead hgap hrest (n := s.limit) (by omega)
  refine ⟨b, hb, ?_⟩
  have passed := (h.passed).allow b
  rw [next, run_bind_of_run (run_mark s), run_bind_of_run (run_peek s),
    beq_eq_false_iff_ne.mpr noByteOrderMark, Bool.and_false]
  change (do toNextToken (← limit); dropStaleKeys; unwind (← column); token : Lex Bool).run s = _
  rw [run_bind_of_run (run_limit s), run_bind_of_run gone,
    run_bind_of_run (run_dropStaleKeys passed), run_bind_of_run (run_column _),
    run_bind_of_run (run_unwind passed.withoutStale _ (by omega))]

end Lex

end Conform.Yaml
