import Conform.Proofs.Json.Syntax
import Conform.Proofs.Yaml.Lexing
import Mathlib.Data.Bool.AllAny
/-!
# Scalars of JSON texts

The lexer reads the strings of portable texts as they are meant, and words and numbers as plain
scalars up to the next token.
-/
namespace Conform.Yaml.Lex

open Conform.JsonText

variable {s : Lexer} {rest : List Char}

/-! ### Escapes -/

theorem hexValue?_char (d : HexDigit) : Text.hexValue? d.char = some d.value.val := by
  obtain ⟨value, upper⟩ := d
  revert value upper
  decide

theorem run_hexNumber {ds : List HexDigit} {n : Nat}
    (h : s.text = ds.map HexDigit.char ++ rest) : (hexNumber ds.length n).run s =
      .ok (ds.foldl (fun n d => n * 16 + d.value) n, s.passed ds.length) := by
  induction ds generalizing s n with
  | nil => rfl
  | cons d ds ih =>
    have behind : (s.passed 1).text = ds.map HexDigit.char ++ rest := by
      rw [Lexer.passed_text, h]
      rfl
    rw [List.length_cons, hexNumber, run_bind_of_run (run_peek s), h]
    simp only [List.map_cons, List.cons_append, List.head?_cons, Option.getD_some, hexValue?_char]
    rw [run_bind_of_run (run_advance s), ih behind, Lexer.passed_passed, Nat.add_comm 1]
    rfl

theorem run_quotedEscape_short {e : ShortEscape} (h : s.text = e.letter :: rest) :
    quotedEscape.run s = .ok ([e.char], s.passed 1) := by
  rw [quotedEscape, run_bind_of_run (run_peek s), h]
  cases e <;> rfl

theorem run_quotedEscape_unit {q : HexQuad} (h : s.text = 'u' :: q.chars ++ rest) :
    quotedEscape.run s = .ok ([Text.ofCode q.code], s.passed 5) := by
  have behind : (s.passed 1).text =
      [q.first, q.second, q.third, q.fourth].map HexDigit.char ++ rest := by
    rw [Lexer.passed_text, h]
    rfl
  have number : (hexNumber 4 0).run (s.passed 1) = .ok (q.code, s.passed 5) := by
    have read := run_hexNumber (n := 0) behind
    rw [Lexer.passed_passed] at read
    simpa [HexQuad.code] using read
  have small := q.code_lt
  rw [quotedEscape, run_bind_of_run (run_peek s), h]
  change (do
    advance
    let code ← hexNumber 4 0
    if 0x7FFFFFFF < code then throw (.fault .characterTooLarge)
    if 0x10FFFF < code then throw (.fault .badCharacter)
    return [Text.ofCode code] : Lex (List Char)).run s = _
  rw [run_bind_of_run (run_advance s), run_bind_of_run number, if_neg (by omega), if_neg (by omega)]
  rfl

/-! ### Quoted text -/

/-- What is written for a character starts with the character itself or with a backslash. -/
theorem exists_chars (x : Piece) : ∃ c cs, x.chars = c :: cs ∧
    (c = '\\' ∨ ∃ unescaped, x = .plain c unescaped) := by
  cases x with
  | plain c unescaped => exact ⟨c, [], rfl, .inr ⟨unescaped, rfl⟩⟩
  | short e => exact ⟨'\\', [e.letter], rfl, .inl rfl⟩
  | unit q => exact ⟨'\\', 'u' :: q.chars, rfl, .inl rfl⟩

theorem length_inQuotes_pos {ps : List Piece} (h : ps ≠ []) : 0 < (inQuotes ps).length := by
  obtain ⟨x, ps, rfl⟩ := List.exists_cons_of_ne_nil h
  obtain ⟨c, cs, hx, -⟩ := exists_chars x
  rw [inQuotes_cons, hx]
  exact Nat.succ_pos _

/-- The pieces at the front that are written as they are and of one kind. -/
theorem exists_run (p : Char → Bool) (quote : p '\x22' = false) (backslash : p '\\' = false)
    (ps : List Piece) : ∃ run others, ps = run ++ others ∧ inQuotes run = run.map Piece.char ∧
      (∀ c ∈ run.map Piece.char, p c = true) ∧
      ∀ rest c, (inQuotes others ++ '\x22' :: rest).head? = some c → p c = false := by
  induction ps with
  | nil => exact ⟨[], [], rfl, rfl, by simp, fun rest c hc => by rwa [← Option.some.inj hc]⟩
  | cons x ps ih =>
    obtain ⟨c, cs, hx, form⟩ := exists_chars x
    cases hc : p c with
    | true =>
      rcases form with rfl | ⟨unescaped, rfl⟩
      · rw [backslash] at hc
        cases hc
      · obtain ⟨run, others, rfl, same, all, next⟩ := ih
        refine ⟨.plain c unescaped :: run, others, rfl, ?_, ?_, next⟩
        · rw [inQuotes_cons, same]
          rfl
        · exact List.forall_mem_cons.mpr ⟨hc, all⟩
    | false =>
      refine ⟨[], x :: ps, rfl, rfl, by simp, fun rest d hd => ?_⟩
      rw [inQuotes_cons, hx] at hd
      rwa [← Option.some.inj hd]

/-- No line ends inside a portable string, and neither does the text. -/
theorem next_of_isPortable {ps : List Piece} (h : ps.all (·.isPortable) = true) {c : Char}
    (hc : (inQuotes ps ++ '\x22' :: rest).head? = some c) :
    c ≠ endOfText ∧ isBreak c = false := by
  cases ps with
  | nil =>
    obtain rfl := Option.some.inj hc
    decide
  | cons x ps =>
    obtain ⟨d, ds, hx, form⟩ := exists_chars x
    rw [inQuotes_cons, hx] at hc
    obtain rfl := Option.some.inj hc
    rcases form with rfl | ⟨unescaped, rfl⟩
    · decide
    · have portable := (List.all_eq_true.mp h _ (List.mem_cons_self ..))
      rw [Piece.isPortable, Bool.and_eq_true, Bool.not_eq_true'] at portable
      refine ⟨?_, portable.2⟩
      rintro rfl
      exact absurd portable.1 (by decide)

/-- Whether a character is read together with others that are written as they are. -/
def isOrdinary (c : Char) : Bool := c != '\x22' && c != '\x27' && c != '\\' && !isSeparator c

theorem round_of_escape {n k : Nat} {tail cs : List Char} (h : s.text = '\\' :: tail)
    (escape : quotedEscape.run (s.passed 1) = .ok (cs, s.passed k)) :
    (quotedText true (n + 1)).run s =
      (do return cs ++ (← quotedText true n)).run (s.passed k) := by
  rw [quotedText, run_bind_of_run (run_peek s), h]
  change (do advance; let e ← quotedEscape; return e ++ (← quotedText true n)).run s = _
  rw [run_bind_of_run (run_advance s), run_bind_of_run escape]

theorem round_of_blanks {n : Nat} {c d : Char} {cs tail : List Char}
    (h : s.text = c :: cs ++ d :: tail) (all : ∀ x ∈ c :: cs, isBlankChar x = true)
    (next : d ≠ endOfText ∧ isBreak d = false) (other : isBlankChar d = false) :
    (quotedText true (n + 1)).run s =
      (do return c :: cs ++ (← quotedText true n)).run (s.passed (c :: cs).length) := by
  have blank := all c (List.mem_cons_self ..)
  have taken : s.text.takeWhile isBlankChar = c :: cs := by
    rw [h]
    exact takeWhile_eq all fun e he => by rwa [← Option.some.inj he]
  have behind : (s.passed (c :: cs).length).text = d :: tail := by
    rw [Lexer.passed_text, h, List.drop_left]
  have others : (c == endOfText) = false ∧ (c == '\x22') = false ∧ (c == '\\') = false := by
    rw [isBlankChar, Bool.or_eq_true, beq_iff_eq, beq_iff_eq] at blank
    rcases blank with rfl | rfl <;> decide
  rw [quotedText, run_bind_of_run (run_peek s), h]
  simp only [List.cons_append, List.head?_cons, Option.getD_some, others, blank, Bool.true_and,
    Bool.true_or, Bool.false_eq_true, if_false, if_true]
  rw [run_bind_of_run (run_takeWhile ..), taken, run_bind_of_run (run_peek _), behind]
  simp only [List.head?_cons, Option.getD_some, next, beq_eq_false_iff_ne.mpr next.1,
    Bool.false_eq_true, if_false]
  rfl

/-- An apostrophe, which would end other quotes, is read by itself. -/
theorem round_of_apostrophe {n : Nat} {tail : List Char} (h : s.text = '\x27' :: tail) :
    (quotedText true (n + 1)).run s =
      (do return ['\x27'] ++ (← quotedText true n)).run (s.passed 1) := by
  rw [quotedText, run_bind_of_run (run_peek s), h]
  change (do
    let cs ← takeWhile isOrdinary
    if cs.isEmpty then
      advance
      return '\x27' :: (← quotedText true n)
    return cs ++ (← quotedText true n) : Lex (List Char)).run s = _
  rw [run_bind_of_run (run_takeWhile ..), h]
  rfl

theorem round_of_ordinary {n : Nat} {c : Char} {cs tail : List Char}
    (h : s.text = c :: cs ++ tail) (all : ∀ x ∈ c :: cs, isOrdinary x = true)
    (next : ∀ d, tail.head? = some d → isOrdinary d = false) : (quotedText true (n + 1)).run s =
      (do return c :: cs ++ (← quotedText true n)).run (s.passed (c :: cs).length) := by
  have ordinary := all c (List.mem_cons_self ..)
  have taken : s.text.takeWhile isOrdinary = c :: cs := by
    rw [h]
    exact takeWhile_eq all next
  have others : (c == endOfText) = false ∧ (c == '\x22') = false ∧ (c == '\\') = false ∧
      (isBlankChar c || isBreak c) = false := by
    simp only [isOrdinary, isSeparator, isSpaceOrEnd, isBreakOrEnd, Bool.and_eq_true,
      Bool.not_eq_true', Bool.or_eq_false_iff, bne] at ordinary
    obtain ⟨⟨⟨quote, -⟩, backslash⟩, tab, space, ending, lineBreak⟩ := ordinary
    refine ⟨ending, quote, backslash, ?_⟩
    rw [isBlankChar, space, tab, lineBreak]
    rfl
  rw [quotedText, run_bind_of_run (run_peek s), h]
  simp only [List.cons_append, List.head?_cons, Option.getD_some, others, Bool.true_and,
    Bool.false_eq_true, if_false, if_true]
  change (do
    let cs ← takeWhile isOrdinary
    if cs.isEmpty then
      advance
      return c :: (← quotedText true n)
    return cs ++ (← quotedText true n) : Lex (List Char)).run s = _
  rw [run_bind_of_run (run_takeWhile ..), taken]
  rfl

theorem isOrdinary_of_isUnescaped {c : Char} (unescaped : isUnescaped c = true)
    (blank : isBlankChar c = false) (inLine : isBreak c = false) (quote : c ≠ '\x27') :
    isOrdinary c = true := by
  rw [isBlankChar, Bool.or_eq_false_iff] at blank
  simp only [isUnescaped, Bool.and_eq_true, decide_eq_true_eq, bne_iff_ne] at unescaped
  obtain ⟨⟨printable, double⟩, backslash⟩ := unescaped
  have ending : (c == endOfText) = false := by
    rw [beq_eq_false_iff_ne]
    rintro rfl
    exact absurd printable (by decide)
  simp [isOrdinary, isSeparator, isSpaceOrEnd, isBreakOrEnd, double, quote, backslash, blank, ending,
    inLine]

/-- A character that is written as it is is read together with others of its kind, an apostrophe
alone. -/
theorem exists_round_of_plain {n : Nat} {c : Char} {unescaped : isUnescaped c = true}
    {ps : List Piece} (portable : (Piece.plain c unescaped :: ps).all (·.isPortable) = true)
    (h : s.text = c :: inQuotes ps ++ '\x22' :: rest) :
    ∃ run others, ps = run ++ others ∧ (quotedText true (n + 1)).run s =
      (do return c :: run.map Piece.char ++ (← quotedText true n)).run
        (s.passed (inQuotes (.plain c unescaped :: run)).length) := by
  -- Blanks, apostrophes and ordinary characters are taken in separate rounds: `p` is the class of one.
  have together (p : Char → Bool) (quote : p '\x22' = false) (backslash : p '\\' = false) :
      ∃ run others, ps = run ++ others ∧
        inQuotes (.plain c unescaped :: run) = c :: run.map Piece.char ∧
        s.text = c :: run.map Piece.char ++ (inQuotes others ++ '\x22' :: rest) ∧
        (∀ x ∈ run.map Piece.char, p x = true) ∧
        ∀ x, (inQuotes others ++ '\x22' :: rest).head? = some x → p x = false := by
    obtain ⟨run, others, rfl, same, all, next⟩ := exists_run p quote backslash ps
    refine ⟨run, others, rfl, by rw [inQuotes_cons, same]; rfl, ?_, all, next rest⟩
    rw [h, inQuotes_append, same, List.cons_append, List.append_assoc]
    rfl
  simp only [List.all_cons, Piece.isPortable, Bool.and_eq_true, Bool.not_eq_true'] at portable
  obtain ⟨⟨-, inLine⟩, portable⟩ := portable
  cases hblank : isBlankChar c with
  | true =>
    obtain ⟨run, others, rfl, same, text, all, next⟩ := together isBlankChar rfl rfl
    refine ⟨run, others, rfl, ?_⟩
    obtain ⟨d, tail, hd⟩ : ∃ d tail, inQuotes others ++ '\x22' :: rest = d :: tail :=
      List.exists_cons_of_ne_nil (by simp)
    have head : (inQuotes others ++ '\x22' :: rest).head? = some d := by rw [hd]; rfl
    rw [List.all_append, Bool.and_eq_true] at portable
    rw [same]
    rw [hd] at text
    exact round_of_blanks text (List.forall_mem_cons.mpr ⟨hblank, all⟩)
      (next_of_isPortable portable.2 head) (next d head)
  | false =>
    by_cases quote : c = '\x27'
    · subst quote
      exact ⟨[], ps, rfl, round_of_apostrophe h⟩
    · have ordinary := isOrdinary_of_isUnescaped unescaped hblank inLine quote
      obtain ⟨run, others, rfl, same, text, all, next⟩ := together isOrdinary rfl rfl
      refine ⟨run, others, rfl, ?_⟩
      rw [same]
      exact round_of_ordinary text (List.forall_mem_cons.mpr ⟨ordinary, all⟩) next

/-- **A round** reads pieces that are written as they are, or one that is escaped. -/
theorem exists_round {n : Nat} {ps : List Piece} (portable : ps.all (·.isPortable) = true)
    (h : s.text = inQuotes ps ++ '\x22' :: rest) (nonempty : ps ≠ []) :
    ∃ front back, ps = front ++ back ∧ front ≠ [] ∧ (quotedText true (n + 1)).run s =
      (do return front.map Piece.char ++ (← quotedText true n)).run
        (s.passed (inQuotes front).length) := by
  obtain ⟨x, ps, rfl⟩ := List.exists_cons_of_ne_nil nonempty
  rw [inQuotes_cons] at h
  cases x with
  | plain c unescaped =>
    obtain ⟨run, others, rfl, round⟩ := exists_round_of_plain (n := n) portable h
    exact ⟨.plain c unescaped :: run, others, rfl, List.cons_ne_nil _ _, round⟩
  | short e =>
    refine ⟨[.short e], ps, rfl, List.cons_ne_nil _ _, ?_⟩
    have behind : (s.passed 1).text = e.letter :: (inQuotes ps ++ '\x22' :: rest) := by
      rw [Lexer.passed_text, h]
      rfl
    have escape := run_quotedEscape_short behind
    rw [Lexer.passed_passed] at escape
    exact round_of_escape h escape
  | unit q =>
    refine ⟨[.unit q], ps, rfl, List.cons_ne_nil _ _, ?_⟩
    have behind : (s.passed 1).text = 'u' :: q.chars ++ (inQuotes ps ++ '\x22' :: rest) := by
      rw [Lexer.passed_text, h]
      rfl
    have escape := run_quotedEscape_unit behind
    rw [Lexer.passed_passed] at escape
    exact round_of_escape h escape

/-- **A portable string is read as it is meant**, up to its closing quote. -/
theorem run_quotedText {n : Nat} {ps : List Piece} (portable : ps.all (·.isPortable) = true)
    (h : s.text = inQuotes ps ++ '\x22' :: rest) (enough : (inQuotes ps).length < n) :
    (quotedText true n).run s = .ok (ps.map Piece.char, s.passed (inQuotes ps).length) := by
  induction n generalizing s ps with
  | zero => exact absurd enough (Nat.not_lt_zero _)
  | succ n ih =>
    by_cases hps : ps = []
    · subst hps
      rw [quotedText, run_bind_of_run (run_peek s), h]
      rfl
    · obtain ⟨front, back, rfl, nonempty, round⟩ := exists_round (n := n) portable h hps
      have behind : (s.passed (inQuotes front).length).text = inQuotes back ++ '\x22' :: rest := by
        rw [Lexer.passed_text, h, inQuotes_append, List.append_assoc, List.drop_left]
      have positive := length_inQuotes_pos nonempty
      rw [List.all_append, Bool.and_eq_true] at portable
      rw [inQuotes_append, List.length_append] at enough ⊢
      rw [round, run_bind_of_run (ih portable.2 behind (by omega)), Lexer.passed_passed, run_pure,
        List.map_append]

/-! ### Plain text -/

/-- Whether a character may stand in words and numbers. -/
def isWordChar (c : Char) : Bool := c.isAlphanum || c == '+' || c == '-' || c == '.'

/-- Whether nothing follows, or what ends a part of a flow collection. -/
def Closes (flow : Nat) (rest : List Char) : Prop :=
  ∀ c, rest.head? = some c → flow ≠ 0 ∧ (c = ',' ∨ c = ']' ∨ c = '\x7d')

section Gaps

variable {gap : List Char}

theorem Closes.startsToken {flow : Nat} (h : Closes flow rest) : StartsToken rest := by
  intro c hc
  rcases (h c hc).2 with rfl | rfl | rfl <;> decide

/-- What is seen in a gap, or behind one. -/
theorem next_mem {flow : Nat} (hgap : gap.all isGapChar = true) (hrest : Closes flow rest) :
    (gap ++ rest).head?.getD endOfText ∈ [' ', '\n', '\r', ',', ']', '\x7d', endOfText] := by
  cases gap with
  | nil =>
    cases rest with
    | nil => simp
    | cons c rest =>
      rcases (hrest c rfl).2 with rfl | rfl | rfl <;> simp
  | cons c gap =>
    have blank := List.all_eq_true.mp hgap c (List.mem_cons_self ..)
    simp only [isGapChar, Bool.or_eq_true, beq_iff_eq] at blank
    rcases blank with (rfl | rfl) | rfl <;> simp

/-- No document starts or ends in a gap. -/
theorem run_documentMarkAhead {flow : Nat} (h : s.text = gap ++ rest)
    (hgap : gap.all isGapChar = true) (hrest : Closes flow rest) :
    documentMarkAhead.run s = .ok (false, s) := by
  have next := next_mem hgap hrest
  rw [← h] at next
  have noMarker : ∀ c ∈ [' ', '\n', '\r', ',', ']', '\x7d', endOfText], c ≠ '-' ∧ c ≠ '.' :=
    List.all_iff_forall_prop.mp (by decide)
  have head := noMarker _ next
  have ahead (c : Char) (other : s.text.head?.getD endOfText ≠ c) :
      (markerAhead c).run s = .ok (false, s) := by
    rw [markerAhead, run_bind_of_run (run_peek s), beq_eq_false_iff_ne.mpr other]
    rfl
  rw [documentMarkAhead, run_bind_of_run (ahead '-' head.1), run_bind_of_run (ahead '.' head.2)]
  rfl

/-- The line breaks and spaces of a gap do not belong to the text before it. -/
theorem run_plainBreaks {n : Nat} (h : s.text = gap ++ rest) (hgap : gap.all isGapChar = true)
    (hrest : Closes s.flow rest) (enough : gap.length < n) :
    ∃ breaks, (plainBreaks n).run s = .ok (some breaks, s.passed gap.length) := by
  induction n generalizing s gap with
  | zero => exact absurd enough (Nat.not_lt_zero _)
  | succ n ih =>
    rw [plainBreaks, run_bind_of_run (run_peek s), h]
    cases gap with
    | nil =>
      refine ⟨[], ?_⟩
      cases rest with
      | nil => rfl
      | cons c rest => rcases (hrest c rfl).2 with rfl | rfl | rfl <;> rfl
    | cons c gap =>
      have blank := List.all_eq_true.mp hgap c (List.mem_cons_self ..)
      simp only [isGapChar, Bool.or_eq_true, beq_iff_eq] at blank
      rw [List.all_cons, Bool.and_eq_true] at hgap
      rw [List.length_cons] at enough
      -- A space is one character; a line's end may be two, which `run_lineBreak` takes together.
      by_cases hc : c = ' '
      · subst hc
        have behind : (s.passed 1).text = gap ++ rest := by
          rw [Lexer.passed_text, h]
          rfl
        obtain ⟨breaks, run⟩ := ih behind hgap.2 (by rwa [Lexer.passed_flow]) (by omega)
        refine ⟨breaks, ?_⟩
        rw [Lexer.passed_passed, Nat.add_comm] at run
        exact run
      · have lineEnd : c = '\n' ∨ c = '\r' := by simpa [hc] using blank
        obtain ⟨head, tail, rfl, broken⟩ := run_lineBreak h lineEnd hrest.startsToken
        have behind : (s.passed (head.length + 1)).text = tail ++ rest := by
          rw [Lexer.passed_text, h]
          simp
        rw [List.all_append, Bool.and_eq_true] at hgap
        rw [List.length_append] at enough
        obtain ⟨breaks, run⟩ := ih behind hgap.2.2 (by rwa [Lexer.passed_flow]) (by omega)
        have isLineEnd : (c == ' ') = false ∧ isBreak c = true := by
          rcases lineEnd with rfl | rfl <;> decide
        refine ⟨['\n'] ++ breaks, ?_⟩
        simp only [List.cons_append, List.head?_cons, Option.getD_some, isLineEnd,
          Bool.false_eq_true, if_false, if_true]
        rw [run_bind_of_run broken, run_bind_of_run (run_documentMarkAhead behind hgap.2.2 hrest),
          if_neg Bool.false_ne_true, run_bind_of_run run, Lexer.passed_passed, run_pure,
          List.length_cons, List.length_append, Nat.add_right_comm]
        rfl

/-- The gap behind a plain text is passed with it; whether a key may start after it is of no use. -/
theorem run_plainSpaces (h : s.text = gap ++ rest) (hgap : gap.all isGapChar = true)
    (hrest : Closes s.flow rest) (enough : gap.length < s.limit) :
    ∃ spaces b, plainSpaces.run s = .ok (spaces, (s.passed gap.length).allow b) := by
  obtain ⟨spaces, taken, lines⟩ := gap_cases h hgap hrest.startsToken
  rw [plainSpaces, run_bind_of_run (run_takeWhile ..), taken, run_bind_of_run (run_peek _)]
  rcases lines with ⟨total, behind⟩ | ⟨c, tail, k, lineEnd, ahead, broken, behind, tailGap, total, less⟩
  -- The gap ends behind its spaces.
  · have inLine : isBreak ((s.passed spaces.length).text.head?.getD endOfText) = false := by
      rw [behind]
      cases rest with
      | nil => decide
      | cons c rest => exact (hrest.startsToken c rfl).2.2.2
    refine ⟨spaces, s.keyAllowed, ?_⟩
    rw [inLine, ← Lexer.passed_allow, Lexer.allow_self, ← total]
    rfl
  -- It goes on with a line break.
  · have isLineEnd : isBreak ((s.passed spaces.length).text.head?.getD endOfText) = true := by
      rw [ahead]
      rcases lineEnd with rfl | rfl <;> decide
    have behind : ((s.passed k).allow true).text = tail ++ rest := behind
    obtain ⟨breaks, run⟩ := run_plainBreaks (n := s.limit) behind tailGap (by simpa using hrest)
      (by omega)
    refine ⟨folded ['\n'] breaks, true, ?_⟩
    rw [isLineEnd, Bool.not_true, if_neg Bool.false_ne_true]
    rw [run_bind_of_run broken, run_bind_of_run (run_allowKey ..),
      run_bind_of_run (run_documentMarkAhead behind tailGap hrest), if_neg Bool.false_ne_true,
      run_bind_of_run (run_limit _), Lexer.allow_limit, Lexer.passed_limit, run_bind_of_run run,
      Lexer.passed_allow, Lexer.passed_passed, total]
    rfl

theorem ne_of_isWordChar {c : Char} (h : isWordChar c = true) {ds : List Char}
    (hds : ds.any isWordChar = false) : ∀ d ∈ ds, c ≠ d := by
  rintro d hd rfl
  exact List.any_eq_false.mp hds c hd h

theorem isSeparator_of_isWordChar {c : Char} (h : isWordChar c = true) : isSeparator c = false := by
  have other : ∀ d ∈ ['\t', ' ', endOfText, '\n', '\r', '\u0085', '\u2028', '\u2029'], c ≠ d :=
    ne_of_isWordChar h (by decide)
  simp only [List.forall_mem_cons] at other
  simp [isSeparator, isSpaceOrEnd, isBreakOrEnd, isBreak, other]

theorem startsToken_of_isWordChar {c : Char} (h : isWordChar c = true) (cs : List Char) :
    StartsToken (c :: cs) := by
  intro d hd
  obtain rfl := Option.some.inj hd
  have other : ∀ d ∈ [' ', '#', '\uFEFF'], c ≠ d := ne_of_isWordChar h (by decide)
  have separator := isSeparator_of_isWordChar h
  simp only [List.forall_mem_cons] at other
  simp only [isSeparator, isSpaceOrEnd, isBreakOrEnd, Bool.or_eq_false_iff] at separator
  exact ⟨other.1, other.2.1, other.2.2.1, separator.2.2.2⟩

/-- Words and numbers hold nothing that ends a plain text. -/
theorem endsPlain_of_isWordChar {c : Char} (h : isWordChar c = true) (inFlow : Bool)
    (next : Option Char) : endsPlain inFlow c next = false := by
  have other : ∀ d ∈ [':', ',', '?', '[', ']', '\x7b', '\x7d'], c ≠ d :=
    ne_of_isWordChar h (by decide)
  simp only [List.forall_mem_cons] at other
  simp [endsPlain, isSeparator_of_isWordChar h, other]

/-- The characters of a word end where a gap starts, or a part of a flow collection ends. -/
theorem plainRun_eq {flow : Nat} {cs : List Char} (hcs : ∀ c ∈ cs, isWordChar c = true)
    (hgap : gap.all isGapChar = true) (hrest : Closes flow rest) :
    plainRun (flow != 0) (cs ++ (gap ++ rest)) = cs := by
  induction cs with
  | nil =>
    cases gap with
    | nil =>
      cases rest with
      | nil => rfl
      | cons c rest =>
        obtain ⟨inFlow, hc⟩ := hrest c rfl
        rw [List.nil_append, List.nil_append, plainRun, bne_iff_ne.mpr inFlow]
        rcases hc with rfl | rfl | rfl <;> rfl
    | cons c gap =>
      have blank := List.all_eq_true.mp hgap c (List.mem_cons_self ..)
      simp only [isGapChar, Bool.or_eq_true, beq_iff_eq] at blank
      rw [List.nil_append, List.cons_append, plainRun]
      rcases blank with (rfl | rfl) | rfl <;> rfl
  | cons c cs ih =>
    obtain ⟨hc, hcs⟩ := List.forall_mem_cons.mp hcs
    rw [List.cons_append, plainRun, endsPlain_of_isWordChar hc, if_neg Bool.false_ne_true, ih hcs]

/-- Where a part ends no plain text goes on. -/
theorem run_plainText_end {n : Nat} {indent : Int} {text spaces : List Char} {stop : Mark}
    (h : Closes s.flow s.text) :
    (plainText indent (n + 1) text spaces stop).run s = .ok ((text, stop), s) := by
  have run : plainRun (s.flow != 0) ([] ++ ([] ++ s.text)) = [] :=
    plainRun_eq (List.forall_mem_nil _) rfl h
  rw [List.nil_append, List.nil_append] at run
  have other : ∀ c ∈ [' ', '\n', '\r', ',', ']', '\x7d', endOfText], (c == '#') = false :=
    List.all_iff_forall_prop.mp (by decide)
  have noComment : (s.text.head?.getD endOfText == '#') = false :=
    other _ (next_mem (List.all_nil ..) h)
  rw [plainText, run_bind_of_run (run_peek s), noComment]
  change (do
    let s ← get
    if (plainRun (s.flow != 0) s.text).isEmpty then return (text, stop)
    _ : Lex (List Char × Mark)).run s = _
  rw [run_bind_of_run (run_get s), run]
  rfl

/-- **A plain text is read as a whole**, with the gap behind it. -/
theorem run_plainText {n : Nat} {c : Char} {cs : List Char} {m : Mark}
    (h : s.text = c :: cs ++ (gap ++ rest)) (hcs : ∀ x ∈ c :: cs, isWordChar x = true)
    (hgap : gap.all isGapChar = true) (hrest : Closes s.flow rest) (enough : gap.length < s.limit) :
    ∃ stop b, (plainText 0 (n + 2) [] [] m).run s =
      .ok ((c :: cs, stop), (s.passed ((c :: cs).length + gap.length)).allow b) := by
  have noComment : (s.text.head?.getD endOfText == '#') = false := by
    rw [h, beq_eq_false_iff_ne]
    rintro rfl
    exact absurd (hcs _ (List.mem_cons_self ..)) (by decide)
  -- A word goes on behind the spaces after it unless what follows closes it, so the gap is read as well: the
  -- state behind the word is the one behind its gap.
  have run : plainRun (s.flow != 0) s.text = c :: cs := by rw [h, plainRun_eq hcs hgap hrest]
  have behind : ((s.allow false).passed (c :: cs).length).text = gap ++ rest := by
    rw [Lexer.passed_text, Lexer.allow_text, h, List.drop_left]
  obtain ⟨spaces, b, passed⟩ := run_plainSpaces behind hgap (by simpa using hrest)
    (by simpa using enough)
  rw [Lexer.passed_passed, Lexer.passed_allow _ _ (_ + _), Lexer.allow_allow] at passed
  have closes : Closes ((s.passed ((c :: cs).length + gap.length)).allow b).flow
      ((s.passed ((c :: cs).length + gap.length)).allow b).text := by
    rw [Lexer.allow_flow, Lexer.passed_flow, Lexer.allow_text, ← Lexer.passed_passed, Lexer.passed_text, Lexer.passed_text, h,
      List.drop_left, List.drop_left]
    exact hrest
  refine ⟨((s.allow false).passed (c :: cs).length).mark, b, ?_⟩
  rw [plainText, run_bind_of_run (run_peek s), noComment]
  change (do
    let s ← get
    let run := plainRun (s.flow != 0) s.text
    if run.isEmpty then return ([], m)
    allowKey false
    skip run.length
    let stop ← mark
    let text := [] ++ [] ++ run
    let spaces ← plainSpaces
    if spaces.isEmpty || (← peek) == '#' || (s.flow == 0 && (← column) < (0 : Int)) then
      return (text, stop)
    plainText 0 (n + 1) text spaces stop : Lex (List Char × Mark)).run s = _
  rw [run_bind_of_run (run_get s), run]
  change (do
    allowKey false
    skip (c :: cs).length
    let stop ← mark
    let spaces ← plainSpaces
    if spaces.isEmpty || (← peek) == '#' || (s.flow == 0 && (← column) < (0 : Int)) then
      return (c :: cs, stop)
    plainText 0 (n + 1) (c :: cs) spaces stop : Lex (List Char × Mark)).run s = _
  rw [run_bind_of_run (run_allowKey ..), run_bind_of_run (run_skip ..), run_bind_of_run (run_mark _),
    run_bind_of_run passed, run_bind_of_run (run_peek _), run_bind_of_run (run_column _)]
  split
  · rfl
  · exact run_plainText_end closes

end Gaps

end Conform.Yaml.Lex
