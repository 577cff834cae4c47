import Conform.Proofs.Json.Number
import Conform.Proofs.Json.Scalars
/-!
# Tokens of JSON texts

A portable text has the tokens that its tree announces (`lex_eq`).  The lexer goes through it token by
token; between two tokens only the number of open collections, the tokens taken and the text left count,
and in front of a member that a key may start.
-/
namespace Conform

open Yaml

namespace JsonText

/-! ### The tokens of a tree -/

mutual

/-- The tokens of a value. -/
def Element.kinds : Element → List TokenKind
  | .word w => [.scalar (String.ofList w.chars) true]
  | .number n => [.scalar (String.ofList n.chars) true]
  | .string ps => [.scalar (content ps) false]
  | .emptyArray _ => [.flowSequenceStart, .flowSequenceEnd]
  | .array items => .flowSequenceStart :: items.kinds ++ [.flowSequenceEnd]
  | .emptyObject _ => [.flowMappingStart, .flowMappingEnd]
  | .object members => .flowMappingStart :: members.kinds ++ [.flowMappingEnd]

/-- The tokens of items. -/
def Items.kinds : Items → List TokenKind
  | .last _ item _ => item.kinds
  | .cons _ item _ rest => item.kinds ++ .flowEntry :: rest.kinds

/-- The tokens of members. -/
def Members.kinds : Members → List TokenKind
  | .last _ name _ _ item _ => [.key, .scalar (content name) false, .value] ++ item.kinds
  | .cons _ name _ _ item _ rest =>
    [.key, .scalar (content name) false, .value] ++ item.kinds ++ .flowEntry :: rest.kinds

end

end JsonText

namespace Yaml

namespace Lexer

variable {s t u : Lexer} {flow : Nat} {kinds : List TokenKind} {text : List Char}

/-- The lexer gets from a state to another one by taking tokens of a character or more. -/
def Goes (s t : Lexer) : Prop :=
  ∃ n, n + t.text.length ≤ s.text.length ∧ ∀ k, lexFrom (n + k) s = lexFrom k t

theorem Goes.of_next (h : Lex.next.run s = .ok (true, t)) (less : t.text.length < s.text.length) :
    Goes s t := by
  refine ⟨1, by omega, fun k => ?_⟩
  rw [Nat.add_comm, lexFrom, h]

theorem Goes.trans (h : Goes s t) (g : Goes t u) : Goes s u := by
  obtain ⟨m, hm, first⟩ := h
  obtain ⟨n, hn, second⟩ := g
  refine ⟨m + n, by omega, fun k => ?_⟩
  rw [Nat.add_assoc, first, second]

/-- The lexer is in front of a gap and the text behind it. -/
def IsBefore (s : Lexer) (flow : Nat) (kinds : List TokenKind) (text : List Char) : Prop :=
  ∃ gap : List Char, gap.all Lex.isGapChar = true ∧ s.IsAt flow kinds (gap ++ text)

theorem IsAt.length_le (h : s.IsAt flow kinds text) : s.text.length ≤ text.length :=
  Nat.le_of_eq (congrArg List.length h.ahead)

theorem IsAt.isBefore (h : s.IsAt flow kinds text) : s.IsBefore flow kinds text := ⟨[], rfl, h⟩

theorem IsBefore.behind {gap : List Char} (hgap : gap.all Lex.isGapChar = true)
    (h : s.IsBefore flow kinds (gap ++ text)) : s.IsBefore flow kinds text := by
  obtain ⟨front, hfront, h⟩ := h
  refine ⟨front ++ gap, ?_, by rwa [List.append_assoc]⟩
  rw [List.all_append, hfront, hgap]
  rfl

/-- The key that was noted last may start a text of this length ago on the same line, in front of the
token with this number. -/
def HasNoted (s : Lexer) (flow number length : Nat) : Prop :=
  ∃ key ks, s.keys = (flow, key) :: ks ∧ key.number = number ∧ s.mark.line = key.mark.line ∧
    s.mark.index = key.mark.index + length

end Lexer

namespace Lex

open Conform.JsonText Lexer

variable {s : Lexer} {flow : Nat} {kinds : List TokenKind} {rest : List Char}

/-- **A token behind a gap** is taken from where it starts. -/
theorem exists_goes {P : Lexer → Prop} {c : Char} (h : s.IsBefore flow kinds (c :: rest))
    (starts : StartsToken (c :: rest))
    (taken : ∀ t : Lexer, t.IsAt flow kinds (c :: rest) → (flow ≠ 0 → t.keyAllowed = s.keyAllowed) →
      ∃ u, token.run t = .ok (true, u) ∧ u.text.length ≤ rest.length ∧ P u) :
    ∃ u, Goes s u ∧ P u := by
  obtain ⟨gap, hgap, h⟩ := h
  obtain ⟨b, hb, run⟩ := run_next h hgap starts
  obtain ⟨u, htoken, shorter, hu⟩ := taken _ (h.passed.allow b).withoutStale
    fun inFlow => hb (by rwa [h.within])
  refine ⟨u, Goes.of_next (run.trans htoken) ?_, hu⟩
  rw [h.ahead, List.length_append, List.length_cons]
  omega

/-! ### The characters of portable texts -/

theorem Gap.all_isGapChar {g : Gap} (h : g.isPortable = true) : g.chars.all isGapChar = true := by
  rw [Gap.chars, List.all_map, List.all_eq_true]
  intro b hb
  have portable := List.all_eq_true.mp h b hb
  cases b with
  | tab => cases portable
  | _ => rfl

theorem Gap.isPortable_of_isInLine {g : Gap} (h : g.isInLine = true) : g.isPortable = true := by
  refine List.all_eq_true.mpr fun b hb => ?_
  obtain rfl := beq_iff_eq.mp (List.all_eq_true.mp h b hb)
  rfl

theorem Gap.not_isBreak_of_isInLine {g : Gap} (h : g.isInLine = true) :
    ∀ c ∈ g.chars, isBreak c = false := by
  intro c hc
  obtain ⟨b, hb, rfl⟩ := List.mem_map.mp hc
  obtain rfl := beq_iff_eq.mp (List.all_eq_true.mp h b hb)
  rfl

theorem HexQuad.isAllowed_of_mem {q : HexQuad} {c : Char} (h : c ∈ q.chars) :
    isAllowed c = true ∧ isBreak c = false := by
  have digit (d : HexDigit) : isAllowed d.char = true ∧ isBreak d.char = false := by
    obtain ⟨value, upper⟩ := d
    revert value upper
    decide
  simp only [HexQuad.chars, List.mem_cons, List.not_mem_nil, or_false] at h
  rcases h with rfl | rfl | rfl | rfl
  all_goals exact digit _

/-- No line ends inside a portable string, and a document may hold its characters. -/
theorem isAllowed_of_mem_quoted {ps : List Piece} (h : isPortableText ps = true) {c : Char}
    (hc : c ∈ quoted ps) : isAllowed c = true ∧ isBreak c = false := by
  simp only [quoted, List.cons_append, List.mem_cons, List.mem_append, List.not_mem_nil, or_false,
    inQuotes, List.mem_flatMap] at hc
  rcases hc with rfl | ⟨x, hx, hc⟩ | rfl
  · decide
  · have portable := List.all_eq_true.mp (Bool.and_eq_true_iff.mp h).1 x hx
    cases x with
    | plain d unescaped =>
      obtain rfl := List.mem_singleton.mp hc
      simpa [Piece.isPortable] using portable
    | short e =>
      simp only [Piece.chars, List.mem_cons, List.not_mem_nil, or_false] at hc
      rcases hc with rfl | rfl
      · decide
      · cases e <;> decide
    | unit q =>
      simp only [Piece.chars, List.mem_cons] at hc
      rcases hc with rfl | rfl | hc
      · decide
      · decide
      · exact HexQuad.isAllowed_of_mem hc
  · decide

/-! ### Tokens of one character -/

theorem run_flowStart {c : Char} (h : s.IsAt flow kinds (c :: rest)) (kind : TokenKind) :
    ∃ u, (flowStart kind).run s = .ok ((), u) ∧ u.IsAt (flow + 1) (kinds ++ [kind]) rest ∧
      u.keyAllowed = true := by
  refine ⟨((s.withKey.atFlow (flow + 1)).allow true).taken kind 1, ?_,
    ((h.withKey.atFlow _).allow true).takenOne kind, ?_⟩
  · rw [flowStart, run_bind_of_run (run_noteKey h), run_bind_of_run (run_modify ..),
      run_bind_of_run (run_allowKey ..), run_indicator, ← h.withKey.within]
    rfl
  · rw [taken, pushed, passed_keyAllowed]
    rfl

theorem run_flowEnd {c : Char} (h : s.IsAt (flow + 1) kinds (c :: rest)) (kind : TokenKind) :
    ∃ u, (flowEnd kind).run s = .ok ((), u) ∧ u.IsAt flow (kinds ++ [kind]) rest := by
  refine ⟨((s.withoutKey.atFlow flow).allow false).taken kind 1, ?_,
    ((h.withoutKey.atFlow _).allow false).takenOne kind⟩
  have inner : s.withoutKey.flow - 1 = flow := by rw [h.withoutKey.within, Nat.add_sub_cancel]
  rw [flowEnd, run_bind_of_run (run_dropKey h), run_bind_of_run (run_modify ..),
    run_bind_of_run (run_allowKey ..), run_indicator, ← inner]
  rfl

theorem run_flowEntry {c : Char} (h : s.IsAt flow kinds (c :: rest)) :
    ∃ u, flowEntry.run s = .ok ((), u) ∧ u.IsAt flow (kinds ++ [.flowEntry]) rest ∧
      u.keyAllowed = true := by
  refine ⟨(s.allow true).withoutKey.taken .flowEntry 1, ?_,
    (h.allow true).withoutKey.takenOne .flowEntry, ?_⟩
  · rw [flowEntry, run_bind_of_run (run_allowKey ..), run_bind_of_run (run_dropKey (h.allow true)),
      run_indicator]
  · rw [taken, pushed, passed_keyAllowed]
    rfl

/-- The indicator of a flow collection. -/
inductive IsStart : Char → TokenKind → Prop
  | sequence : IsStart '[' .flowSequenceStart
  | mapping : IsStart '\x7b' .flowMappingStart

/-- The indicator of the end of a flow collection. -/
inductive IsEnd : Char → TokenKind → Prop
  | sequence : IsEnd ']' .flowSequenceEnd
  | mapping : IsEnd '\x7d' .flowMappingEnd

theorem goes_start {c : Char} {kind : TokenKind} (hc : IsStart c kind)
    (h : s.IsBefore flow kinds (c :: rest)) :
    ∃ u, Goes s u ∧ u.IsBefore (flow + 1) (kinds ++ [kind]) rest ∧ u.keyAllowed = true := by
  have starts : StartsToken (c :: rest) := by
    intro d hd
    obtain rfl := Option.some.inj hd
    cases hc <;> decide
  refine exists_goes h starts fun t ht _ => ?_
  have chosen : token.run t = (do flowStart kind; return true : Lex Bool).run t := by
    rw [token, run_bind_of_run (run_peek t), ht.ahead]
    cases hc <;> rfl
  obtain ⟨u, run, hu, allowed⟩ := run_flowStart ht kind
  exact ⟨u, chosen.trans (run_bind_of_run run), hu.length_le, hu.isBefore, allowed⟩

theorem goes_end {c : Char} {kind : TokenKind} (hc : IsEnd c kind)
    (h : s.IsBefore (flow + 1) kinds (c :: rest)) :
    ∃ u, Goes s u ∧ u.IsBefore flow (kinds ++ [kind]) rest := by
  have starts : StartsToken (c :: rest) := by
    intro d hd
    obtain rfl := Option.some.inj hd
    cases hc <;> decide
  refine exists_goes h starts fun t ht _ => ?_
  have chosen : token.run t = (do flowEnd kind; return true : Lex Bool).run t := by
    rw [token, run_bind_of_run (run_peek t), ht.ahead]
    cases hc <;> rfl
  obtain ⟨u, run, hu⟩ := run_flowEnd ht kind
  exact ⟨u, chosen.trans (run_bind_of_run run), hu.length_le, hu.isBefore⟩

theorem goes_entry (h : s.IsBefore flow kinds (',' :: rest)) :
    ∃ u, Goes s u ∧ u.IsBefore flow (kinds ++ [.flowEntry]) rest ∧ u.keyAllowed = true := by
  have starts : StartsToken (',' :: rest) := by
    intro d hd
    obtain rfl := Option.some.inj hd
    decide
  refine exists_goes h starts fun t ht _ => ?_
  have chosen : token.run t = (do flowEntry; return true : Lex Bool).run t := by
    rw [token, run_bind_of_run (run_peek t), ht.ahead]
    rfl
  obtain ⟨u, run, hu, allowed⟩ := run_flowEntry ht
  exact ⟨u, chosen.trans (run_bind_of_run run), hu.length_le, hu.isBefore, allowed⟩

/-! ### Scalars -/

theorem run_quotedScalar {ps : List Piece} (portable : isPortableText ps = true)
    (h : s.IsAt flow kinds (quoted ps ++ rest)) : ∃ stop, (quotedScalar true).run s = .ok ((),
      ((s.withKey.allow false).passed (quoted ps).length).pushed
        ⟨.scalar (content ps) false, s.mark, stop⟩) := by
  have start := (h.withKey).allow false
  have inside : ((s.withKey.allow false).passed 1).text = inQuotes ps ++ '\x22' :: rest := by
    rw [passed_text, start.ahead, quoted]
    simp
  have room := start.room
  simp only [quoted, List.length_append, List.length_cons, List.length_nil] at room
  have each := (Bool.and_eq_true_iff.mp portable).1
  have text := run_quotedText (n := (s.withKey.allow false).limit) each inside (by omega)
  rw [passed_passed] at text
  have mark : (s.withKey.allow false).mark = s.mark := by
    rw [allow_mark, withKey]
    split <;> rfl
  have length : 1 + (inQuotes ps).length + 1 = (quoted ps).length := by
    simp only [quoted, List.length_append, List.length_cons, List.length_nil]
    omega
  refine ⟨((s.withKey.allow false).passed (quoted ps).length).mark, ?_⟩
  rw [quotedScalar, run_bind_of_run (run_noteKey h), run_bind_of_run (run_allowKey ..),
    run_bind_of_run (run_mark _), run_bind_of_run (run_advance _), run_bind_of_run (run_limit _),
    passed_limit, run_bind_of_run text, run_bind_of_run (run_advance _), run_emit, passed_passed,
    length, mark, content_of_isPortableText portable]

theorem run_plainScalar {c : Char} {cs gap : List Char} (hcs : ∀ x ∈ c :: cs, isWordChar x = true)
    (hgap : gap.all isGapChar = true) (hrest : Closes flow rest)
    (h : s.IsAt flow kinds (c :: cs ++ (gap ++ rest))) : ∃ u, plainScalar.run s = .ok ((), u) ∧
      u.IsAt flow (kinds ++ [.scalar (String.ofList (c :: cs)) true]) rest := by
  have start := (h.withKey).allow false
  have room := start.room
  rw [List.length_append, List.length_append] at room
  have flat : (s.withKey.allow false).indent + 1 = 0 := by rw [start.flat]; rfl
  obtain ⟨n, enough⟩ : ∃ n, (s.withKey.allow false).limit = n + 2 := by
    rw [List.length_cons] at room
    exact ⟨(s.withKey.allow false).limit - 2, by omega⟩
  obtain ⟨stop, b, text⟩ := run_plainText (n := n) (m := (s.withKey.allow false).mark) start.ahead hcs
    hgap (by rwa [start.within]) (by omega)
  rw [← List.length_append] at text
  rw [← List.append_assoc] at start
  refine ⟨_, ?_, (start.passed.allow b).pushed
    ⟨.scalar (String.ofList (c :: cs)) true, (s.withKey.allow false).mark, stop⟩⟩
  rw [plainScalar, run_bind_of_run (run_noteKey h), run_bind_of_run (run_allowKey ..),
    run_bind_of_run (run_mark _), run_bind_of_run (run_get _), flat, run_bind_of_run (run_limit _),
    enough, run_bind_of_run text]
  rfl

/-- Characters that words and numbers without a sign start with. -/
def leads : List Char := ['0', '1', '2', '3', '4', '5', '6', '7', '8', '9', 't', 'f', 'n']

/-- Whether a text starts like a word or a number. -/
inductive StartsWord : List Char → Prop
  | unsigned {c : Char} (h : c ∈ leads) (cs : List Char) : StartsWord (c :: cs)
  | minus {c : Char} (h : c ∈ leads) (cs : List Char) : StartsWord ('-' :: c :: cs)

/-- A text that starts like a word or a number is a plain scalar. -/
theorem token_of_startsWord {cs : List Char} (h : s.text = cs ++ rest) (starts : StartsWord cs) :
    token.run s = (do plainScalar; return true : Lex Bool).run s := by
  obtain ⟨text, limit, ⟨index, line, column⟩, tokens, indent, indents, flow, keyAllowed, keys⟩ := s
  obtain rfl : text = cs ++ rest := h
  rw [token, run_bind_of_run (run_peek _)]
  cases starts with
  | unsigned hc cs =>
    simp only [leads, List.mem_cons, List.not_mem_nil, or_false] at hc
    rcases hc with rfl | rfl | rfl | rfl | rfl | rfl | rfl | rfl | rfl | rfl | rfl | rfl | rfl <;> rfl
  | minus hc cs =>
    -- At the start of a line a second minus would be looked for.
    simp only [leads, List.mem_cons, List.not_mem_nil, or_false] at hc
    rcases hc with rfl | rfl | rfl | rfl | rfl | rfl | rfl | rfl | rfl | rfl | rfl | rfl | rfl <;>
      cases column <;> rfl

theorem goes_plain {cs gap : List Char} (hcs : ∀ c ∈ cs, isWordChar c = true) (starts : StartsWord cs)
    (hgap : gap.all isGapChar = true) (hrest : Closes flow rest)
    (h : s.IsBefore flow kinds (cs ++ (gap ++ rest))) :
    ∃ u, Goes s u ∧ u.IsBefore flow (kinds ++ [.scalar (String.ofList cs) true]) rest := by
  obtain ⟨c, cs, rfl⟩ : ∃ d ds, cs = d :: ds := by
    cases starts <;> exact ⟨_, _, rfl⟩
  have h : s.IsBefore flow kinds (c :: (cs ++ (gap ++ rest))) := h
  have word := startsToken_of_isWordChar (hcs c (List.mem_cons_self ..)) (cs ++ (gap ++ rest))
  refine exists_goes h word fun t ht _ => ?_
  have ht : t.IsAt flow kinds (c :: cs ++ (gap ++ rest)) := ht
  obtain ⟨u, run, hu⟩ := run_plainScalar hcs hgap hrest ht
  refine ⟨u, (token_of_startsWord ht.ahead starts).trans (run_bind_of_run run), ?_, hu.isBefore⟩
  refine Nat.le_trans hu.length_le ?_
  rw [List.length_append, List.length_append]
  omega

/-! ### Strings and names -/

section Names

variable {number length : Nat}

theorem hasNoted_withKey (h : s.IsAt flow kinds rest) (allowed : s.keyAllowed = true) :
    s.withKey.HasNoted flow kinds.length 0 := by
  have size : s.tokens.size = kinds.length := by
    rw [← h.behind, List.length_map, Array.length_toList]
  refine ⟨⟨kinds.length, false, s.mark⟩, s.withoutKey.keys, ?_⟩
  rw [withKey, if_pos allowed, h.within, size]
  exact ⟨rfl, rfl, rfl, rfl⟩

/-- Within a line, the start of a key moves away with what is passed. -/
theorem hasNoted_passed {cs : List Char} (noted : s.HasNoted flow number length)
    (h : s.text = cs ++ rest) (inLine : ∀ c ∈ cs, isBreak c = false) :
    (s.passed cs.length).HasNoted flow number (length + cs.length) := by
  obtain ⟨key, ks, keys, hnumber, line, index⟩ := noted
  obtain ⟨index', line'⟩ := mark_passed h inLine
  refine ⟨key, ks, by rw [passed_keys, keys], hnumber, line'.trans line, ?_⟩
  rw [index', index, Nat.add_assoc]

/-- Within a line, a key is not given up for 1024 characters. -/
theorem hasNoted_withoutStale (noted : s.HasNoted flow number length) (short : length ≤ 1024) :
    s.withoutStale.HasNoted flow number length := by
  obtain ⟨key, ks, keys, hnumber, line, index⟩ := noted
  have fresh : key.isStale s.mark = false := by
    rw [PendingKey.isStale, line, index, Nat.add_sub_cancel_left, bne_self_eq_false, Bool.false_or,
      decide_eq_false_iff_not]
    omega
  refine ⟨key, ks.filter fun k => !k.2.isStale s.mark, ?_, hnumber, line, index⟩
  rw [withoutStale, keys, List.filter_cons_of_pos (by rw [fresh]; rfl)]

/-- The colon behind a name makes a key of it. -/
theorem run_value {kind : TokenKind} (h : s.IsAt (flow + 1) (kinds ++ [kind]) (':' :: rest))
    (noted : s.HasNoted (flow + 1) kinds.length length) : ∃ u, value.run s = .ok ((), u) ∧
      u.IsAt (flow + 1) (kinds ++ [.key, kind, .value]) rest := by
  obtain ⟨key, ks, keys, hnumber, -⟩ := noted
  have found : s.keys.find? (fun k => k.1 == s.flow) = some (flow + 1, key) := by
    rw [keys, h.within, List.find?_cons, beq_self_eq_true]
  have inFlow : (s.flow == 0) = false := by
    rw [h.within]
    rfl
  let t := (s.withoutKey.inserted key.number ⟨.key, key.mark, key.mark⟩).allow false
  have ht : t.IsAt (flow + 1) (kinds ++ [.key, kind]) (':' :: rest) := by
    have inserted := h.withoutKey.inserted ⟨.key, key.mark, key.mark⟩
    rw [← hnumber] at inserted
    exact inserted.allow false
  refine ⟨t.taken .value 1, ?_, ?_⟩
  · rw [value, run_bind_of_run (run_get s), found, inFlow]
    exact run_indicator .value 1 t
  · have taken := ht.takenOne .value
    rwa [List.append_assoc] at taken

theorem token_of_colon (h : s.text = ':' :: rest) (inFlow : s.flow = flow + 1) :
    token.run s = (do value; return true : Lex Bool).run s := by
  obtain ⟨text, limit, mark, tokens, indent, indents, flow', keyAllowed, keys⟩ := s
  obtain rfl : flow' = flow + 1 := inFlow
  rw [token, run_bind_of_run (run_peek _), h]
  rfl

/-- **A string** is taken as a whole.  Where a key may start, it is noted in front of the string. -/
theorem goes_quoted {ps : List Piece} (portable : isPortableText ps = true)
    (h : s.IsBefore flow kinds (quoted ps ++ rest)) :
    ∃ u, Goes s u ∧ u.IsAt flow (kinds ++ [.scalar (content ps) false]) rest ∧
      (flow ≠ 0 → s.keyAllowed = true → u.HasNoted flow kinds.length (quoted ps).length) := by
  have starts : StartsToken (quoted ps ++ rest) := by
    intro d hd
    obtain rfl := Option.some.inj hd
    decide
  refine exists_goes h starts fun t ht same => ?_
  have chosen : token.run t = (do quotedScalar true; return true : Lex Bool).run t := by
    rw [token, run_bind_of_run (run_peek t), ht.ahead]
    rfl
  have ht : t.IsAt flow kinds (quoted ps ++ rest) := ht
  obtain ⟨stop, run⟩ := run_quotedScalar portable ht
  have start := ht.withKey.allow false
  have behind := start.passed.pushed ⟨.scalar (content ps) false, t.mark, stop⟩
  refine ⟨_, chosen.trans (run_bind_of_run run), ?_, behind, fun inFlow allowed => ?_⟩
  · refine Nat.le_trans behind.length_le ?_
    exact (List.suffix_append _ rest).length_le
  · have noted : (t.withKey.allow false).HasNoted flow kinds.length 0 :=
      hasNoted_withKey ht ((same inFlow).trans allowed)
    have passed := hasNoted_passed noted start.ahead fun c hc => (isAllowed_of_mem_quoted portable hc).2
    rwa [Nat.zero_add] at passed

/-- A gap and the colon behind it are taken where a key is noted that is not too far away. -/
theorem goes_colon {kind : TokenKind} {gap : Gap} (inLine : gap.isInLine = true)
    (short : length + gap.length ≤ 1024)
    (h : s.IsAt (flow + 1) (kinds ++ [kind]) (gap.chars ++ ':' :: rest))
    (noted : s.HasNoted (flow + 1) kinds.length length) :
    ∃ u, Goes s u ∧ u.IsBefore (flow + 1) (kinds ++ [.key, kind, .value]) rest := by
  have starts : StartsToken (':' :: rest) := by
    intro d hd
    obtain rfl := Option.some.inj hd
    decide
  obtain ⟨b, -, run⟩ := run_next h (Gap.all_isGapChar (Gap.isPortable_of_isInLine inLine)) starts
  have ht := (h.passed.allow b).withoutStale
  have kept : ((s.passed gap.chars.length).allow b).withoutStale.HasNoted (flow + 1) kinds.length
      (length + gap.chars.length) := by
    refine hasNoted_withoutStale ?_ (by rwa [Gap.chars, List.length_map])
    exact hasNoted_passed noted h.ahead (Gap.not_isBreak_of_isInLine inLine)
  obtain ⟨u, value, hu⟩ := run_value ht kept
  refine ⟨u, Goes.of_next ?_ ?_, hu.isBefore⟩
  · rw [run, token_of_colon ht.ahead ht.within, run_bind_of_run value, run_pure]
  · rw [hu.ahead, h.ahead, List.length_append, List.length_cons]
    omega

/-- **A name and its colon** are taken as a key. -/
theorem goes_name {name : List Piece} {gap : Gap} (portable : isPortableName name gap = true)
    (allowed : s.keyAllowed = true)
    (h : s.IsBefore (flow + 1) kinds (quoted name ++ (gap.chars ++ ':' :: rest))) :
    ∃ u, Goes s u ∧
      u.IsBefore (flow + 1) (kinds ++ [.key, .scalar (content name) false, .value]) rest := by
  simp only [isPortableName, Bool.and_eq_true, decide_eq_true_eq] at portable
  obtain ⟨⟨portable, inLine⟩, short⟩ := portable
  obtain ⟨t, string, ht, noted⟩ := goes_quoted portable h
  obtain ⟨u, colon, hu⟩ := goes_colon inLine short ht (noted (Nat.succ_ne_zero _) allowed)
  exact ⟨u, string.trans colon, hu⟩

end Names

/-! ### Words and numbers -/

theorem isWordChar_of_mem_number {n : Number} : ∀ c ∈ n.chars, isWordChar c = true := by
  have inside : ∀ c ∈ numberChars, isWordChar c = true := List.all_eq_true.mp (by decide)
  exact fun c hc => inside c (Number.mem_numberChars c hc)

theorem isWordChar_of_mem_word {w : Word} : ∀ c ∈ w.chars, isWordChar c = true := by
  cases w <;> exact List.all_eq_true.mp (by decide)

theorem startsWord_word (w : Word) : StartsWord w.chars := by
  cases w <;> exact .unsigned (by decide) _

theorem startsWord_number (n : Number) : StartsWord n.chars := by
  have lead : ∀ d, digitChar d ∈ leads := by decide
  obtain ⟨d, cs, hd⟩ := n.exists_unsignedChars
  rw [Number.chars, hd]
  cases n.negative with
  | true => exact .minus (lead d) _
  | false => exact .unsigned (lead d) _

/-! ### Whole texts -/

/-- Inside of a collection a part ends before its next part or the end. -/
theorem closes_of_mem {c : Char} (h : c ∈ [',', ']', '\x7d']) : Closes (flow + 1) (c :: rest) := by
  intro d hd
  obtain rfl := Option.some.inj hd
  simp only [List.mem_cons, List.not_mem_nil, or_false] at h
  exact ⟨Nat.succ_ne_zero _, h⟩

mutual

/-- **The tokens of a value** are those that its tree announces. -/
theorem goes_element (e : Element) (portable : e.isPortable = true) {s : Lexer} {flow : Nat}
    {kinds : List TokenKind} {gap : Gap} {rest : List Char} (hgap : gap.isPortable = true)
    (hrest : Closes flow rest) (h : s.IsBefore flow kinds (e.chars ++ (gap.chars ++ rest))) :
    ∃ u, Goes s u ∧ u.IsBefore flow (kinds ++ e.kinds) rest := by
  have hgap := Gap.all_isGapChar hgap
  cases e with
  | word w => exact goes_plain isWordChar_of_mem_word (startsWord_word w) hgap hrest h
  | number n => exact goes_plain isWordChar_of_mem_number (startsWord_number n) hgap hrest h
  | string ps =>
    obtain ⟨u, string, hu, -⟩ := goes_quoted portable h
    exact ⟨u, string, gap.chars, hgap, hu⟩
  | emptyArray inside =>
    simp only [Element.chars, List.cons_append, List.append_assoc, List.nil_append] at h
    obtain ⟨t, opened, ht, -⟩ := goes_start .sequence h
    obtain ⟨u, closed, hu⟩ := goes_end .sequence (ht.behind (Gap.all_isGapChar portable))
    rw [List.append_assoc] at hu
    exact ⟨u, opened.trans closed, hu.behind hgap⟩
  | array items =>
    simp only [Element.chars, List.cons_append, List.append_assoc, List.nil_append] at h
    obtain ⟨t, opened, ht, -⟩ := goes_start .sequence h
    obtain ⟨u, inside, hu⟩ := goes_items items portable ht
    obtain ⟨v, closed, hv⟩ := goes_end .sequence hu
    rw [List.append_assoc, List.append_assoc] at hv
    exact ⟨v, (opened.trans inside).trans closed, hv.behind hgap⟩
  | emptyObject inside =>
    simp only [Element.chars, List.cons_append, List.append_assoc, List.nil_append] at h
    obtain ⟨t, opened, ht, -⟩ := goes_start .mapping h
    obtain ⟨u, closed, hu⟩ := goes_end .mapping (ht.behind (Gap.all_isGapChar portable))
    rw [List.append_assoc] at hu
    exact ⟨u, opened.trans closed, hu.behind hgap⟩
  | object members =>
    simp only [Element.chars, List.cons_append, List.append_assoc, List.nil_append] at h
    -- Members are read by their keys, so it matters that a key is allowed behind the brace.
    obtain ⟨t, opened, ht, allowed⟩ := goes_start .mapping h
    obtain ⟨u, inside, hu⟩ := goes_members members portable allowed ht
    obtain ⟨v, closed, hv⟩ := goes_end .mapping hu
    rw [List.append_assoc, List.append_assoc] at hv
    exact ⟨v, (opened.trans inside).trans closed, hv.behind hgap⟩

/-- `goes_element` for items. -/
theorem goes_items (is : Items) (portable : is.isPortable = true) {s : Lexer} {flow : Nat}
    {kinds : List TokenKind} {rest : List Char}
    (h : s.IsBefore (flow + 1) kinds (is.chars ++ ']' :: rest)) :
    ∃ u, Goes s u ∧ u.IsBefore (flow + 1) (kinds ++ is.kinds) (']' :: rest) := by
  cases is with
  | last before item after =>
    simp only [Items.isPortable, Bool.and_eq_true] at portable
    rw [Items.chars, List.append_assoc, List.append_assoc] at h
    exact goes_element item portable.1.2 portable.2 (closes_of_mem (by simp))
      (h.behind (Gap.all_isGapChar portable.1.1))
  | cons before item after others =>
    simp only [Items.isPortable, Bool.and_eq_true] at portable
    rw [Items.chars, List.append_assoc, List.append_assoc, List.append_assoc] at h
    obtain ⟨t, first, ht⟩ := goes_element item portable.1.1.2 portable.1.2 (closes_of_mem (by simp))
      (h.behind (Gap.all_isGapChar portable.1.1.1))
    obtain ⟨u, entry, hu, -⟩ := goes_entry ht
    obtain ⟨v, more, hv⟩ := goes_items others portable.2 hu
    rw [List.append_assoc, List.append_assoc] at hv
    exact ⟨v, (first.trans entry).trans more, hv⟩

/-- `goes_element` for members, in front of the first of which a key may start. -/
theorem goes_members (ms : Members) (portable : ms.isPortable = true) {s : Lexer} {flow : Nat}
    {kinds : List TokenKind} {rest : List Char} (allowed : s.keyAllowed = true)
    (h : s.IsBefore (flow + 1) kinds (ms.chars ++ '\x7d' :: rest)) :
    ∃ u, Goes s u ∧ u.IsBefore (flow + 1) (kinds ++ ms.kinds) ('\x7d' :: rest) := by
  cases ms with
  | last before name behindName behindColon item after =>
    simp only [Members.isPortable, Bool.and_eq_true] at portable
    obtain ⟨⟨⟨⟨hbefore, hname⟩, hcolon⟩, hitem⟩, hafter⟩ := portable
    simp only [Members.chars, List.append_assoc, List.cons_append] at h
    obtain ⟨t, key, ht⟩ := goes_name hname allowed (h.behind (Gap.all_isGapChar hbefore))
    obtain ⟨u, value, hu⟩ := goes_element item hitem hafter (closes_of_mem (by simp))
      (ht.behind (Gap.all_isGapChar hcolon))
    rw [List.append_assoc] at hu
    exact ⟨u, key.trans value, hu⟩
  | cons before name behindName behindColon item after others =>
    simp only [Members.isPortable, Bool.and_eq_true] at portable
    obtain ⟨⟨⟨⟨⟨hbefore, hname⟩, hcolon⟩, hitem⟩, hafter⟩, hothers⟩ := portable
    simp only [Members.chars, List.append_assoc, List.cons_append] at h
    obtain ⟨t, key, ht⟩ := goes_name hname allowed (h.behind (Gap.all_isGapChar hbefore))
    obtain ⟨u, value, hu⟩ := goes_element item hitem hafter (closes_of_mem (by simp))
      (ht.behind (Gap.all_isGapChar hcolon))
    obtain ⟨v, entry, hv, allowed⟩ := goes_entry hu
    obtain ⟨w, more, hw⟩ := goes_members others hothers allowed hv
    simp only [List.append_assoc] at hw
    exact ⟨w, ((key.trans value).trans entry).trans more, hw⟩

end

/-- At the end of the text the last token is taken. -/
theorem run_next_end (h : s.IsBefore 0 kinds []) : ∃ u, next.run s = .ok (false, u) ∧
    u.tokens.toList.map (·.kind) = kinds ++ [.textEnd] := by
  obtain ⟨gap, hgap, h⟩ := h
  obtain ⟨b, -, run⟩ := run_next h hgap (fun c hc => by cases hc)
  have ht := (h.passed.allow b).withoutStale
  let t := ((s.passed gap.length).allow b).withoutStale
  have ht : t.IsAt 0 kinds [] := ht
  refine ⟨t.withoutKey.pushed ⟨.textEnd, t.withoutKey.mark, t.withoutKey.mark⟩, ?_,
    (ht.withoutKey.pushed _).behind⟩
  have chosen : token.run t =
      (do unwind (-1); dropKey; emit .textEnd (← mark); return false : Lex Bool).run t := by
    rw [token, run_bind_of_run (run_peek t), ht.ahead]
    rfl
  rw [run, chosen, run_bind_of_run (run_unwind ht _ (by omega)), run_bind_of_run (run_dropKey ht),
    run_bind_of_run (run_mark _), run_bind_of_run (run_emit ..), run_pure]

/-! ### Allowed characters -/

theorem isAllowed_of_isWordChar {c : Char} (h : isWordChar c = true) : isAllowed c = true := by
  have letter : c.isAlpha = (decide ('A'.val ≤ c.val ∧ c.val ≤ 'Z'.val) ||
    ('a'.val ≤ c.val && c.val ≤ 'z'.val)) := rfl
  simp only [isWordChar, Char.isAlphanum, letter, Char.isDigit, Bool.or_eq_true, Bool.and_eq_true,
    decide_eq_true_eq, beq_iff_eq, ge_iff_le, UInt32.le_iff_toNat_le] at h
  have range : 0x20 ≤ c.toNat ∧ c.toNat ≤ 0x7E := by
    rcases h with ((alphanumeric | rfl) | rfl) | rfl
    · simp only [Char.reduceVal, UInt32.reduceToNat, Char.toNat_val] at alphanumeric
      omega
    all_goals decide
  simp [isAllowed, range]

theorem Gap.all_isAllowed {g : Gap} (h : g.isPortable = true) : g.chars.all isAllowed = true := by
  refine List.all_eq_true.mpr fun c hc => ?_
  have blank := List.all_eq_true.mp (Gap.all_isGapChar h) c hc
  simp only [isGapChar, Bool.or_eq_true, beq_iff_eq] at blank
  rcases blank with (rfl | rfl) | rfl <;> decide

theorem all_isAllowed_quoted {ps : List Piece} (h : isPortableText ps = true) :
    (quoted ps).all isAllowed = true :=
  List.all_eq_true.mpr fun _ hc => (isAllowed_of_mem_quoted h hc).1

mutual

/-- A document may hold the characters of a portable value. -/
theorem all_isAllowed_element (e : Element) (portable : e.isPortable = true) :
    e.chars.all isAllowed = true := by
  cases e with
  | word w =>
    exact List.all_eq_true.mpr fun c hc => isAllowed_of_isWordChar (isWordChar_of_mem_word c hc)
  | number n =>
    exact List.all_eq_true.mpr fun c hc => isAllowed_of_isWordChar (isWordChar_of_mem_number c hc)
  | string ps => exact all_isAllowed_quoted portable
  | emptyArray inside =>
    have hinside := Gap.all_isAllowed portable
    simp only [Element.chars, List.cons_append, List.all_cons, List.all_append, hinside]
    decide
  | array items =>
    have hitems := all_isAllowed_items items portable
    simp only [Element.chars, List.cons_append, List.all_cons, List.all_append, hitems]
    decide
  | emptyObject inside =>
    have hinside := Gap.all_isAllowed portable
    simp only [Element.chars, List.cons_append, List.all_cons, List.all_append, hinside]
    decide
  | object members =>
    have hmembers := all_isAllowed_members members portable
    simp only [Element.chars, List.cons_append, List.all_cons, List.all_append, hmembers]
    decide

/-- `all_isAllowed_element` for items. -/
theorem all_isAllowed_items (is : Items) (portable : is.isPortable = true) :
    is.chars.all isAllowed = true := by
  cases is with
  | last before item after =>
    simp only [Items.isPortable, Bool.and_eq_true] at portable
    simp only [Items.chars, List.all_append, Gap.all_isAllowed portable.1.1,
      all_isAllowed_element item portable.1.2, Gap.all_isAllowed portable.2]
    decide
  | cons before item after others =>
    simp only [Items.isPortable, Bool.and_eq_true] at portable
    simp only [Items.chars, List.all_append, List.all_cons, Gap.all_isAllowed portable.1.1.1,
      all_isAllowed_element item portable.1.1.2, Gap.all_isAllowed portable.1.2,
      all_isAllowed_items others portable.2]
    decide

/-- `all_isAllowed_element` for members. -/
theorem all_isAllowed_members (ms : Members) (portable : ms.isPortable = true) :
    ms.chars.all isAllowed = true := by
  have name {ps : List Piece} {gap : Gap} (h : isPortableName ps gap = true) :
      (quoted ps).all isAllowed = true ∧ gap.chars.all isAllowed = true := by
    simp only [isPortableName, Bool.and_eq_true] at h
    exact ⟨all_isAllowed_quoted h.1.1, Gap.all_isAllowed (Gap.isPortable_of_isInLine h.1.2)⟩
  cases ms with
  | last before ps behindName behindColon item after =>
    simp only [Members.isPortable, Bool.and_eq_true] at portable
    obtain ⟨⟨⟨⟨hbefore, hname⟩, hcolon⟩, hitem⟩, hafter⟩ := portable
    simp only [Members.chars, List.all_append, List.all_cons, Gap.all_isAllowed hbefore, name hname,
      Gap.all_isAllowed hcolon, all_isAllowed_element item hitem, Gap.all_isAllowed hafter]
    decide
  | cons before ps behindName behindColon item after others =>
    simp only [Members.isPortable, Bool.and_eq_true] at portable
    obtain ⟨⟨⟨⟨⟨hbefore, hname⟩, hcolon⟩, hitem⟩, hafter⟩, hothers⟩ := portable
    simp only [Members.chars, List.all_append, List.all_cons, Gap.all_isAllowed hbefore, name hname,
      Gap.all_isAllowed hcolon, all_isAllowed_element item hitem, Gap.all_isAllowed hafter,
      all_isAllowed_members others hothers]
    decide

end

/-- **The tokens of a portable text** are those that its tree announces, and the lexer does not fail. -/
theorem lex_eq {t : JsonText} (portable : t.isPortable = true) : ∃ tokens,
    lex t.chars = ⟨tokens, none⟩ ∧ tokens.map (·.kind) = t.root.kinds ++ [.textEnd] := by
  simp only [JsonText.isPortable, Bool.and_eq_true] at portable
  obtain ⟨⟨hbefore, hroot⟩, hafter⟩ := portable
  have allowed : t.chars.all isAllowed = true := by
    simp only [JsonText.chars, List.all_append, Gap.all_isAllowed hbefore,
      all_isAllowed_element t.root hroot, Gap.all_isAllowed hafter]
    decide
  let s : Lexer := { text := t.chars, limit := t.chars.length + 2 }
  have start : s.IsAt 0 [] t.chars :=
    ⟨rfl, rfl, rfl, rfl, List.forall_mem_nil _, Nat.lt_add_of_pos_right (by omega)⟩
  rw [JsonText.chars, List.append_assoc] at start
  have inFront := start.isBefore.behind (Gap.all_isGapChar hbefore)
  rw [← List.append_nil t.after.chars] at inFront
  obtain ⟨u, ⟨n, short, goes⟩, hu⟩ := goes_element t.root hroot hafter (fun c hc => by cases hc) inFront
  obtain ⟨v, run, hv⟩ := run_next_end hu
  refine ⟨v.tokens.toList, ?_, hv⟩
  obtain ⟨k, hk⟩ : ∃ k, t.chars.length + 2 = n + (k + 1) := by
    have short : n + u.text.length ≤ t.chars.length := short
    exact ⟨t.chars.length + 1 - n, by omega⟩
  rw [lex, if_pos allowed]
  change lexFrom (t.chars.length + 2) s = _
  rw [hk, goes, lexFrom, run]

end Lex

end Yaml

end Conform
