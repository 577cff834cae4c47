import Conform.Pattern.Basic
import Conform.Proofs.Pattern.Reversed
import Conform.Proofs.Text.CodePoint
import Mathlib.Data.List.Basic
/-!
# Patterns of ordinary characters

A text without special characters is a pattern.  It is found in the texts that it is a part of, and in
no others (`compile_ordinary`).
-/
namespace Conform.Pattern

open Reader

/-- Whether a character stands for itself wherever it stands outside of sets. -/
def IsOrdinary (c : Char) : Prop :=
  c ∉ ['\\', '[', '.', '^', '$', '(', '|', ')', '?', '*', '+', '{']

instance (c : Char) : Decidable (IsOrdinary c) :=
  inferInstanceAs (Decidable (c ∉ ['\\', '[', '.', '^', '$', '(', '|', ')', '?', '*', '+', '{']))

/-- Pieces that match characters as they are. -/
def literal (cs : List Char) : List Piece := cs.map fun c => .char (Text.code c)

theorem literal_append (cs ds : List Char) : literal (cs ++ ds) = literal cs ++ literal ds :=
  List.map_append

/-! ### Reading -/

/-- The cursor in front of ordinary characters. -/
def plainCursor (known : Scope) (index : Nat) : List Char → Cursor
  | [] => ⟨[], [], index, known⟩
  | c :: cs => ⟨[c], cs, index + 1, known⟩

section

variable {cs : List Char} {known : Scope} {index depth : Nat}

theorem run_bind_eq {α β : Type} {x : Reader α} {f : α → Reader β} {c d : Cursor} {a : α}
    (h : x.run c = .ok (a, d)) : (x >>= f).run c = (f a).run d := by
  rw [StateT.run_bind, h]
  rfl

theorem load_ordinary (ordinary : ∀ c ∈ cs, IsOrdinary c) :
    load known index cs = .ok (plainCursor known index cs) := by
  unfold load
  split
  · rfl
  · exact absurd (by decide) (ordinary _ List.mem_cons_self)
  · exact absurd (by decide) (ordinary _ List.mem_cons_self)
  · rfl

theorem run_take_ordinary {c : Char} (ordinary : ∀ x ∈ cs, IsOrdinary x) :
    take.run (plainCursor known index (c :: cs)) = .ok ([c], plainCursor known (index + 1) cs) := by
  have loaded : load known (index + 1) cs = .ok (plainCursor known (index + 1) cs) :=
    load_ordinary ordinary
  simp only [take, StateT.run_bind, StateT.run_get, pure_bind, plainCursor, loaded]
  rfl

theorem ungroup_literal (cs : List Char) : ungroup (literal cs) = literal cs := by
  induction cs with
  | nil => rfl
  | cons c cs ih =>
    rw [literal, List.map_cons, ungroup, List.flatMap_cons]
    exact congrArg _ ih

/-- An ordinary character is read as itself. -/
theorem run_pieces_cons {c : Char} (first : Bool) (got : List Char)
    (ordinary : ∀ x ∈ c :: cs, IsOrdinary x) :
    (pieces (depth + 1) false first (literal got)).run (plainCursor known index (c :: cs)) =
      (pieces depth false first (literal (got ++ [c]))).run (plainCursor known (index + 1) cs) := by
  obtain ⟨hc, hcs⟩ := List.forall_mem_cons.mp ordinary
  have other : ∀ x, ¬IsOrdinary x → [c] ≠ [x] := fun x special same =>
    special (List.singleton_inj.mp same ▸ hc)
  have next : (plainCursor known index (c :: cs)).next = [c] := rfl
  rw [pieces, run_bind_eq rfl, if_neg, run_bind_eq rfl, run_bind_eq (run_take_ordinary hcs), next]
  · simp only [Bool.false_and, Bool.false_eq_true, if_false]
    -- The token is a single character, and none that opens or repeats something.
    split
    · rename_i two
      cases two
    · exact absurd ‹_› (other _ (by decide))
    · exact absurd ‹_› (other _ (by decide))
    · exact absurd ‹_› (other _ (by decide))
    · exact absurd ‹_› (other _ (by decide))
    · exact absurd ‹_› (other _ (by decide))
    · rename_i x _ _ _ _ _ same
      obtain rfl := List.singleton_inj.mp same
      rw [if_neg, literal_append]
      · rfl
      · rintro (rfl | rfl | rfl | rfl) <;> exact absurd hc (by decide)
    · rename_i char
      exact absurd rfl (char c)
  · -- Nor does it end the sequence.
    rintro (none | bar | closing)
    · cases none
    · exact other _ (by decide) bar
    · exact other _ (by decide) closing

theorem run_pieces_ordinary (first : Bool) (got : List Char) (ordinary : ∀ c ∈ cs, IsOrdinary c)
    (enough : cs.length < depth) :
    (pieces depth false first (literal got)).run (plainCursor known index cs) =
      .ok (literal (got ++ cs), plainCursor known (index + cs.length) []) := by
  induction cs generalizing depth got index with
  | nil =>
    obtain ⟨depth, rfl⟩ := Nat.exists_eq_succ_of_ne_zero (Nat.ne_zero_of_lt enough)
    rw [pieces, run_bind_eq rfl, if_pos (.inl rfl), ungroup_literal, List.append_nil]
    rfl
  | cons c cs ih =>
    obtain ⟨depth, rfl⟩ := Nat.exists_eq_succ_of_ne_zero (Nat.ne_zero_of_lt enough)
    rw [run_pieces_cons first got ordinary,
      ih _ (List.forall_mem_cons.mp ordinary).2 (Nat.lt_of_succ_lt_succ enough), List.append_assoc,
      List.length_cons, Nat.add_assoc, Nat.add_comm 1]
    rfl

theorem run_alternatives_ordinary (ordinary : ∀ c ∈ cs, IsOrdinary c)
    (enough : cs.length < depth) :
    (alternatives (depth + 1) false false []).run (plainCursor known index cs) =
      .ok (literal cs, plainCursor known (index + cs.length) []) := by
  have body : (pieces depth false true []).run (plainCursor known index cs) =
      .ok (literal cs, plainCursor known (index + cs.length) []) :=
    run_pieces_ordinary true [] ordinary enough
  rw [alternatives]
  exact run_bind_eq body

theorem problemIn?_literal (ws : Widths) (template : Bool) (cs : List Char) :
    problemIn? ws template (literal cs) = none := by
  induction cs with
  | nil => rfl
  | cons c cs ih => exact ih

theorem looksBeyondIn_literal (ws : Widths) (limit : Nat) (cs : List Char) :
    looksBeyondIn ws limit (literal cs) = false := by
  induction cs with
  | nil => rfl
  | cons c cs ih => exact ih

/-- **Ordinary characters are read as themselves.** -/
theorem read_ordinary (release : Release) (ordinary : ∀ c ∈ cs, IsOrdinary c) :
    read release cs = .ok ⟨{ unicode := true }, literal cs, ({ release } : Scope).known⟩ := by
  have body : (alternatives (4 * cs.length + 8) false false []).run (plainCursor { release } 0 cs) =
      .ok (literal cs, plainCursor { release } (0 + cs.length) []) :=
    run_alternatives_ordinary ordinary (by omega)
  have whole : (readAll (4 * cs.length + 8)).run (plainCursor { release } 0 cs) =
      .ok (⟨{ unicode := true }, literal cs, ({ release } : Scope).known⟩,
        plainCursor { release } (0 + cs.length) []) := by
    rw [readAll, run_bind_eq body, run_bind_eq rfl]
    simp only [plainCursor, problemIn?_literal, looksBeyondIn_literal, List.find?_nil,
      Bool.and_self, Bool.false_eq_true, if_false]
    rfl
  rw [read, load_ordinary ordinary]
  exact congrArg (Except.map Prod.fst) whole

end

/-! ### Matching -/

theorem cons_prefix_drop_iff {c : Char} {cs text : List Char} {place : Nat} :
    c :: cs <+: text.drop place ↔ text[place]? = some c ∧ cs <+: text.drop (place + 1) := by
  by_cases inside : place < text.length
  · rw [List.drop_eq_getElem_cons inside, List.cons_prefix_cons, List.getElem?_eq_getElem inside,
      Option.some_inj, eq_comm]
  · have outside := Nat.le_of_not_lt inside
    rw [List.drop_eq_nil_of_le outside, List.getElem?_eq_none outside]
    refine iff_of_false (fun h => ?_) fun h => ?_
    · cases List.prefix_nil.mp h
    · cases h.1

namespace Subject

variable {s : Subject} {flags : Flags} {cs : List Char}

theorem any_admits_iff {here : Setting} (exact : here.flags.ignoreCase = false) {c : Char}
    {place : Nat} : (codeAt? s.text place).any (here.flags.folding.admits (Text.code c)) = true ↔
      s.text.toList[place]? = some c := by
  have folding : here.flags.folding = .exact := by simp [Flags.folding, exact]
  rw [codeAt?, folding, Array.getElem?_toList]
  cases s.text[place]? with
  | none => simp
  | some d =>
    change (Text.code c == Text.code d) = true ↔ some d = some c
    rw [beq_iff_eq, Text.code_injective.eq_iff, Option.some_inj, eq_comm]

/-- Ordinary characters match where they stand in the text. -/
theorem matchAll_literal {here : Setting} (exact : here.flags.ignoreCase = false) (cs : List Char)
    (place : Nat) (k : Continuation) (m : Memory) :
    s.matchAll here (literal cs) place k m =
      if cs <+: s.text.toList.drop place then k (place + cs.length) m else (false, m) := by
  induction cs generalizing place with
  | nil => simp [literal, matchAll]
  | cons c cs ih =>
    have first : (codeAt? s.text place).any (here.flags.folding.admits (Text.code c)) = true ↔
        s.text.toList[place]? = some c := any_admits_iff exact
    rw [literal, List.map_cons, matchAll, matchPiece, step, ← literal]
    by_cases same : s.text.toList[place]? = some c
    · rw [if_pos (first.mpr same), ih, List.length_cons, Nat.add_assoc, Nat.add_comm 1]
      simp only [cons_prefix_drop_iff, same, true_and]
    · rw [if_neg (mt first.mp same), if_neg fun h => same (cons_prefix_drop_iff.mp h).1]
      rfl

/-- A search goes on to the first place where they stand. -/
theorem searchFrom_literal_eq_none_iff (exact : flags.ignoreCase = false) (place n : Nat) :
    s.searchFrom flags (literal cs) place n = none ↔
      ∀ i < n, ¬cs <+: s.text.toList.drop (place + i) := by
  induction n generalizing place with
  | zero => simp [searchFrom]
  | succ n ih =>
    have setting : ({ flags } : Setting).flags.ignoreCase = false := exact
    rw [searchFrom, matchAll_literal setting, Nat.forall_lt_succ_left]
    by_cases here : cs <+: s.text.toList.drop place
    · rw [if_pos here]
      exact iff_of_false (fun found => by cases found) fun none => none.1 here
    · rw [if_neg here]
      simp only [ih, Nat.add_zero, here, not_false_eq_true, true_and, Nat.add_right_comm _ 1,
        Nat.add_assoc]

theorem least_literal_le (ws : Widths) (cs : List Char) :
    (widthOf ws (literal cs)).least ≤ cs.length := by
  induction cs with
  | nil => exact le_rfl
  | cons c cs ih =>
    calc (widthOf ws (literal (c :: cs))).least
      _ ≤ 1 + (widthOf ws (literal cs)).least := Nat.min_le_left ..
      _ ≤ (c :: cs).length := by rw [List.length_cons]; omega

theorem infix_iff_exists_drop {text : List Char} :
    cs <:+: text ↔ ∃ i, i + cs.length ≤ text.length ∧ cs <+: text.drop i := by
  constructor
  · rintro ⟨before, after, rfl⟩
    refine ⟨before.length, by simp, after, ?_⟩
    rw [List.append_assoc, List.drop_left]
  · rintro ⟨i, -, here⟩
    exact here.isInfix.trans (List.drop_suffix i text).isInfix

theorem search_literal_eq_none_iff (exact : flags.ignoreCase = false) :
    s.search flags (literal cs) = none ↔ ¬cs <:+: s.text.toList := by
  have least := least_literal_le s.widths cs
  have length : s.text.toList.length = s.size := Array.length_toList
  rw [search, searchFrom_literal_eq_none_iff exact, infix_iff_exists_drop, length]
  simp only [Nat.zero_add, not_exists, not_and]
  -- No place is passed over from which the rest of the text is long enough.
  constructor
  · exact fun none i fits => none i (by omega)
  · intro none i within here
    have short := here.length_le
    rw [List.length_drop, length] at short
    exact none i (by omega) here

end Subject

theorem allLie_literal (f : Features) (low : Nat) (cs : List Char) :
    AllLie f (literal cs) low low := by
  induction cs with
  | nil => exact le_rfl
  | cons c cs ih => exact ⟨low, le_rfl, ih⟩

/-- **A text of ordinary characters is a pattern**, and it is found exactly in the texts that it is a
part of. -/
theorem compile_ordinary (release : Release) {source : String}
    (ordinary : ∀ c ∈ source.toList, IsOrdinary c) :
    ∃ p, compile release source = .ok p ∧
      ∀ s : String, ∃ found, p.isFoundIn? s = some found ∧
        (found = true ↔ source.toList <:+: s.toList) := by
  refine ⟨_, by rw [compile, read_ordinary release ordinary], fun s => ?_⟩
  -- There are no groups, so none of them can end before it starts.
  let subject : Subject := ⟨s.toList.toArray, ({ release } : Scope).known⟩
  have absent : subject.search { unicode := true } (literal source.toList) = none ↔
      ¬source.toList <:+: s.toList := Subject.search_literal_eq_none_iff rfl
  unfold isFoundIn? search
  split
  · rename_i m found
    rw [Subject.hasReversed_of_search (f := ⟨False, False⟩) not_false (allLie_literal _ 1 _) found]
    have part : source.toList <:+: s.toList := by
      by_contra apart
      cases found.symm.trans (absent.mpr apart)
    exact ⟨true, rfl, iff_of_true rfl part⟩
  · rename_i none
    exact ⟨false, rfl, iff_of_false Bool.false_ne_true (absent.mp none)⟩

end Conform.Pattern
