import Conform.Proofs.Json.Syntax
import Conform.Proofs.Lists
import Conform.Yaml.Instance
import Mathlib.Data.Bool.AllAny
import Mathlib.Data.Fintype.Basic
import Mathlib.Tactic.FinCases
/-!
# Numbers of JSON texts

A number that is written without fraction and exponent has the form of an integer, one with a fraction
whose exponent has its sign that of a floating-point number, and both are read as what they stand for.
-/
namespace Conform.JsonText

open Yaml

/-! ### Characters -/

/-- The characters that numbers are written with. -/
def numberChars : List Char :=
  ['0', '1', '2', '3', '4', '5', '6', '7', '8', '9', '+', '-', '.', 'e', 'E']

theorem digitChar_mem (d : Fin 10) : digitChar d ∈ numberChars := by
  revert d
  decide

theorem isDigit_digitChar (d : Fin 10) : (digitChar d).isDigit = true := by
  revert d
  decide

theorem baseValue?_digitChar (d : Fin 10) : Text.baseValue? (digitChar d) = some d.val := by
  revert d
  decide

theorem Exponent.mem_numberChars {e : Exponent} : ∀ c ∈ e.chars, c ∈ numberChars := by
  obtain ⟨upper, sign, digits⟩ := e
  intro c hc
  simp only [Exponent.chars, List.cons_append, List.mem_cons, List.mem_append, List.mem_map] at hc
  rcases hc with rfl | hc | ⟨d, -, rfl⟩
  · cases upper <;> simp [numberChars]
  · rcases sign with _ | (_ | _)
    · cases hc
    · obtain rfl := List.mem_singleton.mp hc
      decide
    · obtain rfl := List.mem_singleton.mp hc
      decide
  · exact digitChar_mem d

theorem Number.mem_numberChars {n : Number} : ∀ c ∈ n.chars, c ∈ numberChars := by
  obtain ⟨negative, whole, fraction, exponent⟩ := n
  intro c hc
  simp only [Number.chars, Number.unsignedChars, List.mem_append, List.mem_map] at hc
  rcases hc with hc | (⟨d, -, rfl⟩ | hc) | hc
  · cases negative with
    | true =>
      obtain rfl := List.mem_singleton.mp hc
      decide
    | false => cases hc
  · exact digitChar_mem d
  · cases fraction with
    | none => cases hc
    | some ds =>
      rcases List.mem_cons.mp hc with rfl | hc
      · decide
      · obtain ⟨d, -, rfl⟩ := List.mem_map.mp hc
        exact digitChar_mem d
  · cases exponent with
    | none => cases hc
    | some e => exact Exponent.mem_numberChars c hc

/-- The lower case of a character of a number. -/
def lowered (c : Char) : Char := if c = 'E' then 'e' else c

theorem lowerIn_eq {c : Char} (h : c ∈ numberChars) (before after : List Char) :
    Text.lowerIn before c after = [lowered c] := by
  have letter : ∀ c ∈ numberChars, c ≠ 'İ' ∧ c ≠ 'Σ' ∧ Text.toLower c = lowered c :=
    List.all_iff_forall_prop.mp (by decide +kernel)
  obtain ⟨dotted, sigma, lower⟩ := letter c h
  rw [Text.lowerIn, if_neg dotted, if_neg sigma, lower]

section Chars

variable {s : List Char} (h : ∀ c ∈ s, c ∈ numberChars)

include h

theorem withoutUnderscores_eq : Scalar.withoutUnderscores s = s := by
  have other : ∀ c ∈ numberChars, (c != '_') = true := List.all_eq_true.mp (by decide)
  exact List.filter_eq_self.mpr fun c hc => other c (h c hc)

theorem not_contains_colon : s.contains ':' = false := by
  rw [← Bool.not_eq_true, List.contains_iff_mem]
  intro hc
  exact absurd (h _ hc) (by decide)

theorem lowerText_eq : Text.lowerText s = s.map lowered := by
  have after (before : List Char) : Text.lowerAfter before s = s.map lowered := by
    induction s generalizing before with
    | nil => rfl
    | cons c s ih =>
      obtain ⟨hc, hs⟩ := List.forall_mem_cons.mp h
      rw [Text.lowerAfter, lowerIn_eq hc, ih hs]
      rfl
  exact after []

theorem normalise_eq : NumberText.normalise s = s := by
  have margin {t : List Char} (ht : ∀ c ∈ t, c ∈ numberChars) :
      t.dropWhile NumberText.isMargin = t := by
    cases t with
    | nil => rfl
    | cons c t =>
      have inside : ∀ c ∈ numberChars, NumberText.isMargin c = false :=
        List.all_iff_forall_prop.mp (by decide)
      rw [List.dropWhile_cons, inside c (ht c (List.mem_cons_self ..)), if_neg Bool.false_ne_true]
  have ascii : ∀ c ∈ numberChars, NumberText.toAsciiDigit c = c :=
    List.all_iff_forall_prop.mp (by decide)
  rw [NumberText.normalise, Text.strip, margin h,
    margin fun c hc => h c (List.mem_reverse.mp hc), List.reverse_reverse]
  exact (List.map_congr_left (g := id) fun c hc => ascii c (h c hc)).trans (List.map_id s)

theorem dropUnderscores?_eq (before : Option Char) : NumberText.dropUnderscores? before s = some s := by
  induction s generalizing before with
  | nil => cases before <;> rfl
  | cons c s ih =>
    obtain ⟨hc, hs⟩ := List.forall_mem_cons.mp h
    have other : ∀ c ∈ numberChars, c ≠ '_' := List.all_iff_forall_prop.mp (by decide)
    rw [NumberText.dropUnderscores?, ih hs]
    · rfl
    · exact other c hc

end Chars

/-! ### Digits -/

theorem isDigit_of_mem_map {ds : List (Fin 10)} : ∀ c ∈ ds.map digitChar, c.isDigit = true := by
  intro c hc
  obtain ⟨d, -, rfl⟩ := List.mem_map.mp hc
  exact isDigit_digitChar d

theorem digitsValue_map (ds : List (Fin 10)) :
    NumberText.digitsValue 10 (ds.map digitChar) = decimal ds := by
  simp only [NumberText.digitsValue, List.foldl_map, baseValue?_digitChar, Option.getD_some]
  rfl

/-- Where no digit follows, digits are found to be all digits at the front. -/
theorem spanDigits_eq {ds : List (Fin 10)} {rest : List Char}
    (stop : ∀ c, rest.head? = some c → c.isDigit = false) :
    NumberText.spanDigits (ds.map digitChar ++ rest) = (ds.map digitChar, rest) := by
  rw [NumberText.spanDigits, takeWhile_eq isDigit_of_mem_map stop,
    dropWhile_eq isDigit_of_mem_map stop]

theorem Whole.exists_digits (w : Whole) : ∃ d ds, w.digits = d :: ds := by
  cases w with
  | zero => exact ⟨0, [], rfl⟩
  | nonzero first rest => exact ⟨first.succ, rest, rfl⟩

namespace Number

variable (n : Number)

/-- What follows the digits before the point. -/
def tail : List Char :=
  (match n.fraction with
    | some ds => '.' :: ds.all.map digitChar
    | none => []) ++ (match n.exponent with
    | some e => e.chars
    | none => [])

theorem unsignedChars_eq : n.unsignedChars = n.whole.digits.map digitChar ++ n.tail :=
  List.append_assoc ..

theorem mem_numberChars_unsigned : ∀ c ∈ n.unsignedChars, c ∈ numberChars :=
  fun _ hc => mem_numberChars _ (List.mem_append_right _ hc)

/-- A number without its sign starts with a digit. -/
theorem exists_unsignedChars : ∃ d cs, n.unsignedChars = digitChar d :: cs := by
  obtain ⟨d, ds, hd⟩ := n.whole.exists_digits
  rw [unsignedChars_eq, hd]
  exact ⟨d, ds.map digitChar ++ n.tail, rfl⟩

/-- A zero stands alone before the point. -/
theorem unsignedChars_ne_zero {first : Fin 9} {rest : List (Fin 10)}
    (hw : n.whole = .nonzero first rest) (cs : List Char) : n.unsignedChars ≠ '0' :: cs := by
  rw [unsignedChars_eq, hw]
  intro h
  have other : ∀ d : Fin 9, digitChar d.succ ≠ '0' := by decide
  exact other first (List.cons.inj h).1

theorem unsigned_chars : Form.unsigned n.chars = n.unsignedChars := by
  obtain ⟨d, cs, hd⟩ := n.exists_unsignedChars
  rw [chars, hd]
  cases n.negative with
  | true => rfl
  | false => fin_cases d <;> rfl

theorem signed?_chars : Scalar.signed? n.chars = some (n.negative, n.unsignedChars) := by
  obtain ⟨d, cs, hd⟩ := n.exists_unsignedChars
  rw [chars, hd]
  cases n.negative with
  | true => rfl
  | false => fin_cases d <;> rfl

theorem splitSign_unsignedChars : NumberText.splitSign n.unsignedChars = (false, n.unsignedChars) := by
  obtain ⟨d, cs, hd⟩ := n.exists_unsignedChars
  rw [hd]
  fin_cases d <;> rfl

/-! ### Forms -/

/-- No number is a word. -/
theorem ne_of_word {s : List Char} (h : ∀ c ∈ s, c ∈ numberChars) {ws : List String}
    (hws : ws.any (·.toList.all (numberChars.contains ·)) = false) :
    ws.any (·.toList == s) = false := by
  rw [List.any_eq_false] at hws ⊢
  intro w hw same
  rw [← beq_iff_eq.mp same] at h
  exact hws w hw (List.all_eq_true.mpr fun c hc => List.contains_iff_mem.mpr (h c hc))

/-- Digits before the point end at the point, or with the number. -/
theorem spanNumber_unsignedChars (h : n.tail = [] ∨ ∃ rest, n.tail = '.' :: rest) :
    Form.spanNumber n.unsignedChars = (n.whole.digits.map digitChar, n.tail) := by
  have inside : ∀ c ∈ n.whole.digits.map digitChar, (c.isDigit || c == '_') = true := by
    intro c hc
    rw [isDigit_of_mem_map c hc, Bool.true_or]
  have stop : ∀ c, n.tail.head? = some c → (c.isDigit || c == '_') = false := by
    intro c hc
    rcases h with h | ⟨rest, h⟩ <;> rw [h] at hc
    · cases hc
    · obtain rfl := Option.some.inj hc
      decide
  obtain ⟨d, ds, hd⟩ := n.whole.exists_digits
  have parts := And.intro (takeWhile_eq inside stop) (dropWhile_eq inside stop)
  rw [unsignedChars_eq]
  rw [hd] at parts ⊢
  rw [List.map_cons, List.cons_append, Form.spanNumber, isDigit_digitChar, if_pos rfl,
    List.span_eq_takeWhile_dropWhile]
  exact Prod.ext parts.1 parts.2

/-- A number has the form of a floating-point number if a fraction follows its first digits. -/
theorem isFloat_chars (h : n.tail = [] ∨ ∃ rest, n.tail = '.' :: rest) :
    Form.isFloat n.chars = match n.tail with
      | '.' :: rest => Form.isFraction rest
      | _ => false := by
  have infinite : [".inf", ".Inf", ".INF"].any (·.toList == n.unsignedChars) = false :=
    ne_of_word n.mem_numberChars_unsigned (by decide)
  have nan : [".nan", ".NaN", ".NAN"].any (·.toList == n.chars) = false :=
    ne_of_word mem_numberChars (by decide)
  have point : ∀ d rest, n.chars = '.' :: d :: rest → False := by
    intro d rest h
    obtain ⟨e, cs, he⟩ := n.exists_unsignedChars
    rw [chars, he] at h
    cases hn : n.negative with
    | true =>
      rw [hn] at h
      exact absurd (List.cons.inj h).1 (by decide)
    | false =>
      rw [hn] at h
      have noPoint : ∀ e, digitChar e ≠ '.' := by decide
      exact noPoint e (List.cons.inj h).1
  obtain ⟨d, ds, hd⟩ := n.whole.exists_digits
  rw [Form.isFloat]
  simp only [unsigned_chars, infinite, nan, spanNumber_unsignedChars n h, Bool.false_or, hd,
    List.map_cons]
  · rcases h with h | ⟨rest, h⟩
    · rw [h]
      rfl
    · rw [h]
      rfl
  · exact point

/-- Digits alone have the form of an integer. -/
theorem isInt_chars (h : n.tail = []) : Form.isInt n.chars = true := by
  have digits : n.unsignedChars = n.whole.digits.map digitChar := by
    rw [unsignedChars_eq, h, List.append_nil]
  have span := n.spanNumber_unsignedChars (.inl h)
  rw [Form.isInt, unsigned_chars]
  cases hw : n.whole with
  | zero =>
    rw [digits, hw]
    rfl
  | nonzero first rest =>
    split
    · exact absurd ‹_› (n.unsignedChars_ne_zero hw _)
    · exact absurd ‹_› (n.unsignedChars_ne_zero hw _)
    · exact absurd ‹_› (n.unsignedChars_ne_zero hw _)
    · rw [span, h, hw]
      rfl

/-- An exponent with a sign has the form of one. -/
theorem isExponent_chars {e : Exponent} (signed : e.sign.isSome = true) :
    Form.isExponent e.chars = true := by
  obtain ⟨upper, sign, digits⟩ := e
  obtain ⟨negative, rfl⟩ := Option.isSome_iff_exists.mp signed
  have all : (digits.all.map digitChar).all Char.isDigit = true :=
    List.all_eq_true.mpr isDigit_of_mem_map
  have nonempty : (digits.all.map digitChar).isEmpty = false := rfl
  cases upper <;> cases negative <;> simp [Exponent.chars, Form.isExponent, all, nonempty]

/-- An exponent starts with its letter. -/
theorem head_of_isExponent {e : List Char} (h : Form.isExponent e = true) :
    ∀ c, e.head? = some c → c = 'e' ∨ c = 'E' := by
  intro c hc
  rcases e with _ | ⟨c, _ | ⟨d, e⟩⟩
  · cases hc
  · cases h
  · obtain rfl := Option.some.inj hc
    simp only [Form.isExponent, Bool.and_eq_true, Bool.or_eq_true, beq_iff_eq] at h
    exact h.1.1.1

theorem isFraction_append {cs e : List Char} (digits : ∀ c ∈ cs, c.isDigit = true)
    (exponent : Form.isExponent e = true) : Form.isFraction (cs ++ e) = true := by
  have inside : ∀ c ∈ cs, (c.isDigit || c == '_') = true := by
    intro c hc
    rw [digits c hc, Bool.true_or]
  have stop : ∀ c, e.head? = some c → (c.isDigit || c == '_') = false := by
    intro c hc
    rcases head_of_isExponent exponent c hc with rfl | rfl <;> decide
  rw [Form.isFraction, dropWhile_eq inside stop, exponent]

/-- The power of an exponent is read with its sign or without one. -/
theorem exponent?_chars (e : Exponent) : NumberText.exponent? e.chars = some e.power := by
  obtain ⟨upper, sign, digits⟩ := e
  have all : (digits.all.map digitChar).all Char.isDigit = true :=
    List.all_eq_true.mpr isDigit_of_mem_map
  have nonempty : (digits.all.map digitChar).isEmpty = false := rfl
  have unsigned : NumberText.splitSign (digits.all.map digitChar) =
      (false, digits.all.map digitChar) := by
    obtain ⟨first, rest⟩ := digits
    rw [Digits.all, List.map_cons]
    fin_cases first <;> rfl
  have letter : (if upper then 'E' else 'e') = 'e' ∨ (if upper then 'E' else 'e') = 'E' := by
    cases upper <;> simp
  rw [Exponent.chars, List.cons_append, NumberText.exponent?, if_pos letter]
  rcases sign with _ | (_ | _)
  · simp only [List.nil_append, unsigned, nonempty, all]
    rw [digitsValue_map]
    rfl
  · simp only [List.cons_append, List.nil_append, NumberText.splitSign, nonempty, all]
    rw [digitsValue_map]
    rfl
  · simp only [List.cons_append, List.nil_append, NumberText.splitSign, nonempty, all]
    rw [digitsValue_map]
    rfl

/-- What follows the digits before the point of a portable number. -/
theorem tail_of_isPortable (portable : n.isPortable = true) :
    n.isInteger = true ∧ n.tail = [] ∨ n.isInteger = false ∧ ∃ ds e, n.fraction = some ds ∧
      n.tail = '.' :: (ds.all.map digitChar ++ e) ∧ Form.isExponent e = true ∧
      NumberText.exponent? e = some ((n.exponent.map (·.power)).getD 0) := by
  obtain ⟨negative, whole, fraction, exponent⟩ := n
  cases fraction with
  | none =>
    cases exponent with
    | none => exact .inl ⟨rfl, rfl⟩
    | some e => cases portable
  | some ds =>
    refine .inr ⟨rfl, ds, _, rfl, rfl, ?_, ?_⟩
    · cases exponent with
      | none => rfl
      | some e => exact isExponent_chars portable
    · cases exponent with
      | none => rfl
      | some e => exact exponent?_chars e

/-- What a number stands for as a plain scalar. -/
def meaning : Meaning := if n.isInteger then .int else .float

/-- **A portable number is taken for one** of its kind. -/
theorem plainTag_chars (portable : n.isPortable = true) :
    plainTag n.chars = n.meaning.tag := by
  have body : ¬(n.chars.getLast? = some '\n' ∧ 1 < n.chars.length) := by
    rintro ⟨last, -⟩
    exact absurd (mem_numberChars _ (List.mem_of_getLast? last)) (by decide)
  have words : boolWords.any (·.toList == n.chars) = false :=
    ne_of_word mem_numberChars (by decide)
  rw [plainTag, if_neg body, words, if_neg Bool.false_ne_true, meaning]
  rcases n.tail_of_isPortable portable with ⟨integer, tail⟩ | ⟨float, ds, e, -, tail, exponent, -⟩
  · rw [isFloat_chars n (.inl tail), tail, isInt_chars n tail, integer]
    rfl
  · rw [isFloat_chars n (.inr ⟨_, tail⟩), tail, float]
    exact if_pos (isFraction_append isDigit_of_mem_map exponent)

/-! ### Values -/

theorem integer?_digits {ds : List (Fin 10)} {s : List Char} (hs : s = ds.map digitChar)
    (nonempty : ds ≠ []) (unsigned : NumberText.splitSign s = (false, s)) :
    NumberText.integer? 10 s = some (decimal ds : Int) := by
  have chars : ∀ c ∈ s, c ∈ numberChars := by
    intro c hc
    obtain ⟨d, -, rfl⟩ := List.mem_map.mp (hs ▸ hc)
    exact digitChar_mem d
  have unmarked : NumberText.dropMarker 10 s = s := by
    unfold NumberText.dropMarker
    split
    · rfl
    · rfl
  have all : s.all (NumberText.isDigitOf 10) = true := by
    subst hs
    refine List.all_eq_true.mpr fun c hc => ?_
    obtain ⟨d, -, rfl⟩ := List.mem_map.mp hc
    rw [NumberText.isDigitOf, baseValue?_digitChar]
    exact decide_eq_true d.isLt
  have some : s.isEmpty = false := by
    subst hs
    simpa using nonempty
  rw [NumberText.integer?, normalise_eq chars, unsigned]
  simp only [unmarked, some, all]
  subst hs
  rw [digitsValue_map]
  rfl

theorem wholeInt_digits {ds : List (Fin 10)} {s : List Char} (hs : s = ds.map digitChar)
    (nonempty : ds ≠ []) (unsigned : NumberText.splitSign s = (false, s))
    (short : ds.length ≤ NumberText.digitLimit) :
    Scalar.wholeInt 10 s = .ok (decimal ds : Int) := by
  have chars : ∀ c ∈ s, c ∈ numberChars := by
    intro c hc
    obtain ⟨d, -, rfl⟩ := List.mem_map.mp (hs ▸ hc)
    exact digitChar_mem d
  have count : s.countP Char.isDigit = ds.length := by
    subst hs
    rw [List.countP_eq_length.mpr isDigit_of_mem_map, List.length_map]
  rw [Scalar.wholeInt, integer?_digits hs nonempty unsigned]
  dsimp only
  rw [normalise_eq chars, count, if_neg (by omega)]

/-- An integer is read as the number that its digits stand for. -/
theorem int_chars (h : n.tail = []) (short : n.whole.digits.length ≤ NumberText.digitLimit) :
    Scalar.int n.chars = .ok (.int n.integer) := by
  have digits : n.unsignedChars = n.whole.digits.map digitChar := by
    rw [unsignedChars_eq, h, List.append_nil]
  have read : Scalar.unsignedInt n.unsignedChars = .ok (decimal n.whole.digits : Int) := by
    cases hw : n.whole with
    | zero =>
      rw [digits, hw]
      rfl
    | nonzero first rest =>
      unfold Scalar.unsignedInt
      split
      · exact absurd ‹_› (by rw [digits, hw]; exact List.cons_ne_nil _ _)
      · exact absurd ‹_› (n.unsignedChars_ne_zero hw _)
      · exact absurd ‹_› (n.unsignedChars_ne_zero hw _)
      · exact absurd ‹_› (n.unsignedChars_ne_zero hw _)
      · exact absurd ‹_› (n.unsignedChars_ne_zero hw _)
      · rw [not_contains_colon n.mem_numberChars_unsigned, if_neg Bool.false_ne_true, ← hw]
        obtain ⟨d, ds, hd⟩ := n.whole.exists_digits
        exact wholeInt_digits digits (by rw [hd]; exact List.cons_ne_nil _ _)
          n.splitSign_unsignedChars short
  rw [Scalar.int, withoutUnderscores_eq mem_numberChars, signed?_chars, integer]
  dsimp only
  rw [read]
  cases n.negative <;> rfl

theorem nearest_true (m k : Nat) : Binary64.nearest true m k = (Binary64.nearest false m k).neg := by
  unfold Binary64.nearest
  dsimp only
  split
  · rfl
  · split <;> split <;> rfl

/-- The sign of a number may as well be set afterwards. -/
theorem nearestDecimal_true (m : Nat) (e : Int) :
    NumberText.nearestDecimal true m e = (NumberText.nearestDecimal false m e).neg := by
  unfold NumberText.nearestDecimal
  dsimp only
  split
  · rfl
  · split
    · rfl
    · split <;> exact nearest_true ..

/-- The number written with a small letter before its exponent. -/
def inLowerCase : Number := { n with exponent := n.exponent.map fun e => { e with upper := false } }

theorem chars_inLowerCase : n.inLowerCase.chars = n.chars.map lowered := by
  obtain ⟨negative, whole, fraction, exponent⟩ := n
  have digits (ds : List (Fin 10)) : (ds.map digitChar).map lowered = ds.map digitChar := by
    rw [List.map_map]
    refine List.map_congr_left fun d _ => ?_
    exact (by decide : ∀ d, lowered (digitChar d) = digitChar d) d
  have power (e : Exponent) : { e with upper := false }.chars = e.chars.map lowered := by
    obtain ⟨upper, sign, ds⟩ := e
    simp only [Exponent.chars, List.cons_append, List.map_cons, List.map_append, digits]
    cases upper <;> rcases sign with _ | (_ | _) <;> rfl
  simp only [inLowerCase, chars, unsignedChars, List.map_append, digits]
  cases negative <;> cases fraction <;> cases exponent <;> simp [power, digits] <;> decide

theorem nearest_inLowerCase : n.inLowerCase.nearest = n.nearest := by
  obtain ⟨negative, whole, fraction, exponent⟩ := n
  cases exponent <;> rfl

/-- A number with a fraction is read without its sign. -/
theorem decimal?_unsignedChars {ds : Digits} {e : List Char} {power : Int}
    (tail : n.tail = '.' :: (ds.all.map digitChar ++ e)) (exponent : Form.isExponent e = true)
    (read : NumberText.exponent? e = some power) :
    NumberText.decimal? false n.unsignedChars = some (NumberText.nearestDecimal false
      (decimal (n.whole.digits ++ ds.all)) (power - ds.all.length)) := by
  have point : NumberText.spanDigits (n.whole.digits.map digitChar ++ n.tail) =
      (n.whole.digits.map digitChar, n.tail) :=
    spanDigits_eq fun c hc => by
      rw [tail] at hc
      obtain rfl := Option.some.inj hc
      rfl
  have letter : NumberText.spanDigits (ds.all.map digitChar ++ e) = (ds.all.map digitChar, e) :=
    spanDigits_eq fun c hc => by
      rcases head_of_isExponent exponent c hc with rfl | rfl <;> rfl
  obtain ⟨d, others, hd⟩ := n.whole.exists_digits
  have nonempty : (n.whole.digits.map digitChar).isEmpty = false := by rw [hd]; rfl
  rw [NumberText.decimal?, unsignedChars_eq, point]
  simp only [tail, letter, nonempty, Bool.false_and, Bool.false_eq_true, if_false, read,
    Option.map_some, ← List.map_append, digitsValue_map, List.length_map]

theorem float?_unsignedChars (i : Nat) {x : Binary64}
    (read : NumberText.decimal? false n.unsignedChars = some x) :
    NumberText.float? i n.unsignedChars = some x := by
  have chars := n.mem_numberChars_unsigned
  obtain ⟨d, cs, hd⟩ := n.exists_unsignedChars
  have first : ∀ d, (digitChar d).toLower ≠ 'i' ∧ (digitChar d).toLower ≠ 'n' := by decide
  rw [NumberText.float?, normalise_eq chars, dropUnderscores?_eq chars]
  simp only [Option.bind_eq_bind, Option.bind_some, splitSign_unsignedChars]
  split
  · next h =>
    rw [hd] at h
    exact absurd (List.cons.inj h).1 (first d).1
  · next h =>
    rw [hd] at h
    exact absurd (List.cons.inj h).1 (first d).1
  · next h =>
    rw [hd] at h
    exact absurd (List.cons.inj h).1 (first d).2
  · exact read

theorem isPortable_inLowerCase (portable : n.isPortable = true) :
    n.inLowerCase.isPortable = true := by
  obtain ⟨negative, whole, fraction, exponent⟩ := n
  cases fraction <;> cases exponent <;> exact portable

/-- A number with a fraction is read as the floating-point number that is nearest. -/
theorem float_chars (portable : n.isPortable = true) (float : n.isInteger = false) (i : Nat) :
    Scalar.float i n.chars = .ok (.float n.nearest) := by
  have noInteger : n.inLowerCase.isInteger = false := by
    obtain ⟨negative, whole, fraction, exponent⟩ := n
    cases fraction <;> cases exponent <;> exact float
  rcases n.inLowerCase.tail_of_isPortable (n.isPortable_inLowerCase portable) with
    ⟨integer, -⟩ | ⟨-, ds, e, fraction, tail, exponent, power⟩
  · rw [noInteger] at integer
    cases integer
  have read := n.inLowerCase.float?_unsignedChars i
    (n.inLowerCase.decimal?_unsignedChars tail exponent power)
  have chars := n.inLowerCase.mem_numberChars_unsigned
  have noWord : ∀ cs, n.inLowerCase.unsignedChars ≠ '.' :: cs := by
    intro cs h
    obtain ⟨d, ds, hd⟩ := n.inLowerCase.exists_unsignedChars
    have noPoint : ∀ d, digitChar d ≠ '.' := by decide
    rw [hd] at h
    exact noPoint d (List.cons.inj h).1
  rw [Scalar.float, withoutUnderscores_eq mem_numberChars, lowerText_eq mem_numberChars,
    ← chars_inLowerCase, signed?_chars, ← nearest_inLowerCase, nearest, decimals, fraction]
  dsimp only
  rw [if_neg (noWord _), if_neg (noWord _), not_contains_colon chars, if_neg Bool.false_ne_true,
    Scalar.wholeFloat, read]
  cases n.inLowerCase.negative with
  | false => rfl
  | true =>
    rw [nearestDecimal_true]
    rfl

/-- **A portable number is read as the value that it stands for.** -/
theorem scalarValue_chars (portable : n.isPortable = true) (t : Tree) :
    Tree.scalarValue t n.meaning n.chars = .ok n.value := by
  rw [meaning, value]
  rcases n.tail_of_isPortable portable with ⟨integer, tail⟩ | ⟨float, -⟩
  · have short : n.whole.digits.length ≤ NumberText.digitLimit := by
      obtain ⟨negative, whole, fraction, exponent⟩ := n
      cases fraction <;> cases exponent <;> simp_all [isPortable, isInteger]
    rw [integer]
    exact n.int_chars tail short
  · rw [float]
    exact n.float_chars portable float (t.id + 1)

end Number

/-! ### Words -/

namespace Word

/-- What a word stands for as a plain scalar. -/
def meaning : Word → Meaning
  | null => .null
  | true => .bool
  | false => .bool

theorem plainTag_chars (w : Word) : plainTag w.chars = w.meaning.tag := by
  cases w <;> decide +kernel

theorem lowerText_chars (w : Word) : Text.lowerText w.chars = w.chars := by
  cases w <;> decide +kernel

theorem scalarValue_chars (w : Word) (t : Tree) :
    Tree.scalarValue t w.meaning w.chars = .ok w.value := by
  cases w with
  | null => rfl
  | true =>
    change Scalar.bool Word.true.chars = _
    rw [Scalar.bool, lowerText_chars]
    rfl
  | false =>
    change Scalar.bool Word.false.chars = _
    rw [Scalar.bool, lowerText_chars]
    rfl

end Word

end Conform.JsonText
