import Conform.Proofs.Json.Number
import Conform.Proofs.Json.Scalars
/-!
# JSON texts stand for one datum

Two trees with one text stand for one datum: where a part of the text ends does not depend on the tree.
Most parts show their end themselves.  A number does not, and ends where no character of a number
follows; so each part is compared together with what follows it.  The main statement is
`datum_eq_of_chars_eq`.
-/
namespace Conform.JsonText

/-! ### What follows -/

/-- Whether a text does not start with a character of a class. -/
def StartsOutside (chars cs : List Char) : Prop := ∀ c, cs.head? = some c → c ∉ chars

theorem startsOutside_cons {chars cs : List Char} {c : Char} (h : c ∉ chars) :
    StartsOutside chars (c :: cs) := by
  intro d hd
  rwa [← Option.some.inj hd]

/-- Characters of a class end where no other follows. -/
theorem append_inj_of_class {chars xs ys r s : List Char} (hxs : ∀ c ∈ xs, c ∈ chars)
    (hys : ∀ c ∈ ys, c ∈ chars) (hr : StartsOutside chars r) (hs : StartsOutside chars s)
    (same : xs ++ r = ys ++ s) : xs = ys ∧ r = s := by
  have outside {cs : List Char} (h : StartsOutside chars cs) :
      ∀ c, cs.head? = some c → chars.contains c = false := by
    intro c hc
    rw [← Bool.not_eq_true, List.contains_iff_mem]
    exact h c hc
  apply append_inj_of_runs (p := fun c => chars.contains c) _ _ (outside hr) (outside hs) same
  · exact fun c hc => List.contains_iff_mem.mpr (hxs c hc)
  · exact fun c hc => List.contains_iff_mem.mpr (hys c hc)

/-! ### Gaps -/

/-- The characters of gaps. -/
def blankChars : List Char := [' ', '\t', '\n', '\r']

theorem Gap.mem_blankChars {g : Gap} : ∀ c ∈ g.chars, c ∈ blankChars := by
  intro c hc
  obtain ⟨b, -, rfl⟩ := List.mem_map.mp hc
  cases b <;> decide

/-- A gap ends where no blank follows. -/
theorem Gap.append_cancel {g h : Gap} {x y : List Char} (hx : StartsOutside blankChars x)
    (hy : StartsOutside blankChars y) (same : g.chars ++ x = h.chars ++ y) : x = y :=
  (append_inj_of_class Gap.mem_blankChars Gap.mem_blankChars hx hy same).2

/-- What stands behind two gaps starts with the same character. -/
theorem Gap.cons_cancel {g h : Gap} {c d : Char} {x y : List Char} (hc : c ∉ blankChars)
    (hd : d ∉ blankChars) (same : g.chars ++ c :: x = h.chars ++ d :: y) : c = d ∧ x = y :=
  List.cons.inj (Gap.append_cancel (startsOutside_cons hc) (startsOutside_cons hd) same)

/-! ### Numbers -/

/-- No gap starts with a character of a number. -/
theorem startsOutside_behind {cs : List Char} (h : StartsOutside numberChars cs) (g : Gap) :
    StartsOutside numberChars (g.chars ++ cs) := by
  cases g with
  | nil => exact h
  | cons b g => exact startsOutside_cons (by cases b <;> decide)

theorem digitChar_injective : Function.Injective digitChar := by
  intro d e h
  revert d e
  decide

/-- Digits end where no digit follows. -/
theorem digits_inj {ds es : List (Fin 10)} {r s : List Char}
    (hr : ∀ c, r.head? = some c → c.isDigit = false)
    (hs : ∀ c, s.head? = some c → c.isDigit = false)
    (same : ds.map digitChar ++ r = es.map digitChar ++ s) : ds = es ∧ r = s := by
  obtain ⟨digits, rest⟩ := append_inj_of_runs isDigit_of_mem_map isDigit_of_mem_map hr hs same
  exact ⟨digitChar_injective.list_map digits, rest⟩

namespace Number

/-- The text of the exponent, if there is one. -/
def exponentChars (n : Number) : List Char :=
  match n.exponent with
  | some e => e.chars
  | none => []

theorem head_exponentChars (n : Number) : ∀ c, n.exponentChars.head? = some c → c = 'e' ∨ c = 'E' := by
  intro c hc
  rw [exponentChars] at hc
  cases he : n.exponent with
  | none =>
    rw [he] at hc
    cases hc
  | some e =>
    rw [he] at hc
    obtain rfl := Option.some.inj hc
    cases e.upper <;> simp

theorem not_isDigit_head_exponentChars (n : Number) :
    ∀ c, n.exponentChars.head? = some c → c.isDigit = false := by
  intro c hc
  rcases n.head_exponentChars c hc with rfl | rfl <;> decide

/-- The power is read off the text of the exponent. -/
theorem power_eq_of_exponentChars {n m : Number} (same : n.exponentChars = m.exponentChars) :
    n.exponent.map (·.power) = m.exponent.map (·.power) := by
  have read (e f : Exponent) (h : e.chars = f.chars) : e.power = f.power := by
    have powers := congrArg NumberText.exponent? h
    rwa [exponent?_chars, exponent?_chars, Option.some.injEq] at powers
  simp only [exponentChars] at same
  cases hn : n.exponent with
  | none =>
    cases hm : m.exponent with
    | none => rfl
    | some f => simp [hn, hm, Exponent.chars] at same
  | some e =>
    cases hm : m.exponent with
    | none => simp [hn, hm, Exponent.chars] at same
    | some f =>
      rw [hn, hm] at same
      simp [read e f same]

theorem tail_eq (n : Number) : n.tail = (match n.fraction with
    | some ds => '.' :: ds.all.map digitChar
    | none => []) ++ n.exponentChars := rfl

theorem head_tail (n : Number) : ∀ c, n.tail.head? = some c → c.isDigit = false := by
  intro c hc
  rw [tail_eq] at hc
  cases hf : n.fraction with
  | none =>
    rw [hf] at hc
    exact n.not_isDigit_head_exponentChars c hc
  | some ds =>
    rw [hf] at hc
    obtain rfl := Option.some.inj hc
    rfl

/-- No exponent starts with a point. -/
theorem exponentChars_ne_point (n : Number) (cs : List Char) : n.exponentChars ≠ '.' :: cs := by
  intro h
  rcases n.head_exponentChars '.' (by rw [h]; rfl) with h | h <;> cases h

/-- What follows the digits before the point shows fraction and exponent. -/
theorem parts_of_tail {n m : Number} (same : n.tail = m.tail) :
    n.fraction = m.fraction ∧ n.exponentChars = m.exponentChars := by
  rw [tail_eq, tail_eq] at same
  cases hn : n.fraction with
  | none =>
    cases hm : m.fraction with
    | none =>
      rw [hn, hm] at same
      exact ⟨rfl, same⟩
    | some es =>
      rw [hn, hm] at same
      exact absurd same (n.exponentChars_ne_point _)
  | some ds =>
    cases hm : m.fraction with
    | none =>
      rw [hn, hm] at same
      exact absurd same.symm (m.exponentChars_ne_point _)
    | some es =>
      rw [hn, hm] at same
      obtain ⟨digits, exponents⟩ := digits_inj n.not_isDigit_head_exponentChars
        m.not_isDigit_head_exponentChars (List.cons.inj same).2
      obtain ⟨first, rest⟩ := ds
      obtain ⟨first', rest'⟩ := es
      cases digits
      exact ⟨rfl, exponents⟩

/-- The text of a number stands for one number. -/
theorem datum_eq_of_chars_eq {n m : Number} (same : n.chars = m.chars) : n.datum = m.datum := by
  have signs := congrArg Yaml.Scalar.signed? same
  rw [signed?_chars, signed?_chars, Option.some.injEq, Prod.mk.injEq] at signs
  obtain ⟨negative, unsigned⟩ := signs
  rw [unsignedChars_eq, unsignedChars_eq] at unsigned
  obtain ⟨digits, tails⟩ := digits_inj n.head_tail m.head_tail unsigned
  obtain ⟨fraction, exponents⟩ := parts_of_tail tails
  have power := power_eq_of_exponentChars exponents
  have present : n.exponent.isNone = m.exponent.isNone := by
    rw [← Option.isNone_map (f := (·.power)), power, Option.isNone_map]
  have decimals : n.decimals = m.decimals := by rw [Number.decimals, Number.decimals, fraction]
  have integer : n.integer = m.integer := by rw [Number.integer, Number.integer, negative, digits]
  have nearest : n.nearest = m.nearest := by
    rw [Number.nearest, Number.nearest, negative, digits, decimals, power]
  rw [datum, datum, isInteger, isInteger, fraction, present, integer, nearest]

end Number

/-! ### Strings -/

theorem HexDigit.value_eq_of_char_eq {d e : HexDigit} (same : d.char = e.char) :
    d.value.val = e.value.val := by
  have read := congrArg Text.hexValue? same
  rwa [Yaml.Lex.hexValue?_char, Yaml.Lex.hexValue?_char, Option.some.injEq] at read

/-- Four digits end by themselves and stand for one number. -/
theorem HexQuad.code_inj {p q : HexQuad} {r s : List Char} (same : p.chars ++ r = q.chars ++ s) :
    p.code = q.code ∧ r = s := by
  simp only [chars, List.cons_append, List.nil_append, List.cons.injEq] at same
  obtain ⟨first, second, third, fourth, rest⟩ := same
  refine ⟨?_, rest⟩
  rw [code, code, HexDigit.value_eq_of_char_eq first, HexDigit.value_eq_of_char_eq second,
    HexDigit.value_eq_of_char_eq third, HexDigit.value_eq_of_char_eq fourth]

theorem ShortEscape.eq_of_letter_eq {e f : ShortEscape} (same : e.letter = f.letter) : e = f := by
  cases e <;> cases f <;> first | rfl | exact absurd same (by decide)

theorem ShortEscape.letter_ne (e : ShortEscape) : e.letter ≠ 'u' := by
  cases e <;> decide

namespace Piece

theorem ne_backslash {c : Char} (unescaped : isUnescaped c = true) : c ≠ '\\' := by
  rintro rfl
  cases unescaped

theorem ne_quote {c : Char} (unescaped : isUnescaped c = true) : c ≠ '\x22' := by
  rintro rfl
  cases unescaped

/-- What is written for a code point shows its end and is one code point. -/
theorem point_inj {p q : Piece} {r s : List Char} (same : p.chars ++ r = q.chars ++ s) :
    p.point = q.point ∧ r = s := by
  cases p with
  | plain c unescaped =>
    cases q with
    | plain d unescaped' =>
      obtain ⟨char, rest⟩ := List.cons.inj same
      exact ⟨Fin.ext (congrArg Char.toNat char), rest⟩
    | _ => exact absurd (List.cons.inj same).1 (ne_backslash unescaped)
  | short e =>
    cases q with
    | plain d unescaped => exact absurd (List.cons.inj same).1.symm (ne_backslash unescaped)
    | short f =>
      obtain ⟨-, letters⟩ := List.cons.inj same
      obtain ⟨letter, rest⟩ := List.cons.inj letters
      rw [ShortEscape.eq_of_letter_eq letter]
      exact ⟨rfl, rest⟩
    | unit q => exact absurd (List.cons.inj (List.cons.inj same).2).1 e.letter_ne
  | unit u =>
    cases q with
    | plain d unescaped => exact absurd (List.cons.inj same).1.symm (ne_backslash unescaped)
    | short f => exact absurd (List.cons.inj (List.cons.inj same).2).1.symm f.letter_ne
    | unit w =>
      obtain ⟨code, rest⟩ := HexQuad.code_inj (List.cons.inj (List.cons.inj same).2).2
      exact ⟨Fin.ext code, rest⟩

/-- No character of a string is written as the quote that ends it. -/
theorem chars_ne_quote (p : Piece) (r s : List Char) : p.chars ++ r ≠ '\x22' :: s := by
  intro h
  cases p with
  | plain c unescaped => exact ne_quote unescaped (List.cons.inj h).1
  | _ => exact absurd (List.cons.inj h).1 (by decide)

end Piece

/-- A string ends at the first quote that no backslash precedes. -/
theorem inQuotes_inj {ps qs : List Piece} {r s : List Char}
    (same : inQuotes ps ++ '\x22' :: r = inQuotes qs ++ '\x22' :: s) :
    ps.map Piece.point = qs.map Piece.point ∧ r = s := by
  induction ps generalizing qs with
  | nil =>
    cases qs with
    | nil => exact ⟨rfl, (List.cons.inj same).2⟩
    | cons q qs =>
      rw [inQuotes_cons, List.append_assoc] at same
      exact absurd same.symm (q.chars_ne_quote _ _)
  | cons p ps ih =>
    cases qs with
    | nil =>
      rw [inQuotes_cons, List.append_assoc] at same
      exact absurd same (p.chars_ne_quote _ _)
    | cons q qs =>
      rw [inQuotes_cons, inQuotes_cons, List.append_assoc, List.append_assoc] at same
      obtain ⟨point, rest⟩ := Piece.point_inj same
      obtain ⟨points, rest⟩ := ih rest
      exact ⟨by rw [List.map_cons, List.map_cons, point, points], rest⟩

theorem points_inj {ps qs : List Piece} {r s : List Char}
    (same : quoted ps ++ r = quoted qs ++ s) : points ps = points qs ∧ r = s := by
  simp only [quoted, List.cons_append, List.append_assoc, List.nil_append] at same
  obtain ⟨each, rest⟩ := inQuotes_inj (List.cons.inj same).2
  exact ⟨congrArg Text.joined each, rest⟩

/-! ### Values -/

/-- The characters that values start with. -/
def openingChars : List Char :=
  ['n', 't', 'f', '\x22', '[', '\x7b', '-', '0', '1', '2', '3', '4', '5', '6', '7', '8', '9']

theorem not_blank_of_opening : ∀ c ∈ openingChars, c ∉ blankChars :=
  List.all_iff_forall_prop.mp (by decide)

/-- What the first character of a value shows of it. -/
inductive Opening where
  | word (w : Word)
  | number
  | quote
  | bracket
  | brace
deriving DecidableEq, Repr

/-- What a character at the front of a value shows. -/
def Opening.ofChar (c : Char) : Opening :=
  if c = 'n' then word .null
  else if c = 't' then word .true
  else if c = 'f' then word .false
  else if c = '\x22' then quote
  else if c = '[' then bracket
  else if c = '\x7b' then brace
  else number

namespace Element

/-- What is shown of a value at its front. -/
def opening : Element → Opening
  | word w => .word w
  | number _ => .number
  | string _ => .quote
  | emptyArray _ => .bracket
  | array _ => .bracket
  | emptyObject _ => .brace
  | object _ => .brace

/-- A value starts with a character that shows what it is. -/
theorem exists_chars (e : Element) :
    ∃ c cs, e.chars = c :: cs ∧ c ∈ openingChars ∧ Opening.ofChar c = e.opening := by
  cases e with
  | word w => cases w <;> exact ⟨_, _, rfl, by decide⟩
  | number n =>
    obtain ⟨d, cs, hd⟩ := n.exists_unsignedChars
    have digit : ∀ d, digitChar d ∈ openingChars ∧ Opening.ofChar (digitChar d) = .number := by
      decide
    rw [chars, Number.chars, hd]
    cases n.negative with
    | true => exact ⟨'-', _, rfl, by decide, rfl⟩
    | false => exact ⟨digitChar d, cs, rfl, digit d⟩
  | _ => exact ⟨_, _, rfl, by decide, rfl⟩

theorem startsOutside (e : Element) (r : List Char) : StartsOutside blankChars (e.chars ++ r) := by
  obtain ⟨c, cs, hc, opens, -⟩ := e.exists_chars
  rw [hc]
  exact startsOutside_cons (not_blank_of_opening c opens)

/-- Values at the front of one text are of one kind. -/
theorem opening_eq {e f : Element} {r s : List Char} (same : e.chars ++ r = f.chars ++ s) :
    e.opening = f.opening := by
  obtain ⟨c, cs, he, -, showsE⟩ := e.exists_chars
  obtain ⟨d, ds, hf, -, showsF⟩ := f.exists_chars
  rw [he, hf] at same
  rw [← showsE, ← showsF, (List.cons.inj same).1]

theorem emptyArray_append (inside : Gap) (r : List Char) :
    (emptyArray inside).chars ++ r = '[' :: (inside.chars ++ ']' :: r) := by
  simp [chars]

theorem array_append (items : Items) (r : List Char) :
    (array items).chars ++ r = '[' :: (items.chars ++ ']' :: r) := by
  simp [chars]

theorem emptyObject_append (inside : Gap) (r : List Char) :
    (emptyObject inside).chars ++ r = '\x7b' :: (inside.chars ++ '\x7d' :: r) := by
  simp [chars]

theorem object_append (members : Members) (r : List Char) :
    (object members).chars ++ r = '\x7b' :: (members.chars ++ '\x7d' :: r) := by
  simp [chars]

end Element

/-- An array with items is not empty. -/
theorem Items.chars_ne_empty (items : Items) (inside : Gap) (r s : List Char) :
    items.chars ++ r ≠ inside.chars ++ ']' :: s := by
  have first (before : Gap) (item : Element) (r : List Char) :
      before.chars ++ (item.chars ++ r) ≠ inside.chars ++ ']' :: s := by
    intro same
    obtain ⟨c, cs, hc, opens, -⟩ := item.exists_chars
    rw [hc] at same
    have first := (Gap.cons_cancel (not_blank_of_opening c opens) (by decide) same).1
    rw [first] at opens
    exact absurd opens (by decide)
  cases items with
  | last before item after =>
    rw [Items.chars, List.append_assoc, List.append_assoc]
    exact first before item _
  | cons before item after rest =>
    simp only [Items.chars, List.append_assoc]
    exact first before item _

/-- An object with members is not empty. -/
theorem Members.chars_ne_empty (members : Members) (inside : Gap) (r s : List Char) :
    members.chars ++ r ≠ inside.chars ++ '\x7d' :: s := by
  intro same
  cases members <;>
    simp only [Members.chars, quoted, List.cons_append, List.append_assoc] at same <;>
    exact absurd (Gap.cons_cancel (by decide) (by decide) same).1 (by decide)

/-- Items at the front of one text: they stand for the same if they do whatever follows, and the same
follows them. -/
theorem item_inj {before before' after after' : Gap} {item item' : Element} {c d : Char}
    {r s : List Char}
    (each : ∀ {r s : List Char}, StartsOutside numberChars r → StartsOutside numberChars s →
      item.chars ++ r = item'.chars ++ s → item.datum = item'.datum ∧ r = s)
    (hc : c ∉ blankChars ∧ c ∉ numberChars) (hd : d ∉ blankChars ∧ d ∉ numberChars)
    (same : before.chars ++ (item.chars ++ (after.chars ++ c :: r)) =
      before'.chars ++ (item'.chars ++ (after'.chars ++ d :: s))) :
    item.datum = item'.datum ∧ c = d ∧ r = s := by
  have items := Gap.append_cancel (item.startsOutside _) (item'.startsOutside _) same
  obtain ⟨datum, behind⟩ := each (startsOutside_behind (startsOutside_cons hc.2) after)
    (startsOutside_behind (startsOutside_cons hd.2) after') items
  exact ⟨datum, Gap.cons_cancel hc.1 hd.1 behind⟩

/-- Members at the front of one text: a name and its colon come before the item. -/
theorem name_inj {before before' behindName behindName' : Gap} {name name' : List Piece}
    {r s : List Char}
    (same : before.chars ++ (quoted name ++ (behindName.chars ++ ':' :: r)) =
      before'.chars ++ (quoted name' ++ (behindName'.chars ++ ':' :: s))) :
    points name = points name' ∧ r = s := by
  have quote (ps : List Piece) (r : List Char) : StartsOutside blankChars (quoted ps ++ r) :=
    startsOutside_cons (by decide)
  have names := Gap.append_cancel (quote name _) (quote name' _) same
  obtain ⟨spelled, behind⟩ := points_inj names
  exact ⟨spelled, (Gap.cons_cancel (by decide) (by decide) behind).2⟩

mutual

/-- A value that is followed by no character of a number shows its end and stands for one datum. -/
theorem Element.datum_inj (e f : Element) {r s : List Char} (hr : StartsOutside numberChars r)
    (hs : StartsOutside numberChars s) (same : e.chars ++ r = f.chars ++ s) :
    e.datum = f.datum ∧ r = s := by
  -- The first character settles which form an element has, but for the two arrays and the two
  -- objects, which share a bracket.
  have opening := Element.opening_eq same
  cases e with
  | word w =>
    cases f with
    | word w' =>
      cases opening
      exact ⟨rfl, List.append_cancel_left same⟩
    | _ => cases opening
  | number n =>
    cases f with
    | number m =>
      obtain ⟨chars, rest⟩ :=
        append_inj_of_class Number.mem_numberChars Number.mem_numberChars hr hs same
      exact ⟨Number.datum_eq_of_chars_eq chars, rest⟩
    | _ => cases opening
  | string ps =>
    cases f with
    | string qs =>
      obtain ⟨spelled, rest⟩ := points_inj same
      exact ⟨congrArg Datum.text spelled, rest⟩
    | _ => cases opening
  | emptyArray inside =>
    rw [Element.emptyArray_append] at same
    cases f with
    | emptyArray inside' =>
      rw [Element.emptyArray_append] at same
      exact ⟨rfl, (Gap.cons_cancel (by decide) (by decide) (List.cons.inj same).2).2⟩
    | array items =>
      rw [Element.array_append] at same
      exact absurd (List.cons.inj same).2.symm (items.chars_ne_empty _ _ _)
    | _ => cases opening
  | array items =>
    rw [Element.array_append] at same
    cases f with
    | emptyArray inside =>
      rw [Element.emptyArray_append] at same
      exact absurd (List.cons.inj same).2 (items.chars_ne_empty _ _ _)
    | array items' =>
      rw [Element.array_append] at same
      obtain ⟨data, rest⟩ := Items.data_inj items items' (List.cons.inj same).2
      exact ⟨congrArg Datum.array data, rest⟩
    | _ => cases opening
  | emptyObject inside =>
    rw [Element.emptyObject_append] at same
    cases f with
    | emptyObject inside' =>
      rw [Element.emptyObject_append] at same
      exact ⟨rfl, (Gap.cons_cancel (by decide) (by decide) (List.cons.inj same).2).2⟩
    | object members =>
      rw [Element.object_append] at same
      exact absurd (List.cons.inj same).2.symm (members.chars_ne_empty _ _ _)
    | _ => cases opening
  | object members =>
    rw [Element.object_append] at same
    cases f with
    | emptyObject inside =>
      rw [Element.emptyObject_append] at same
      exact absurd (List.cons.inj same).2 (members.chars_ne_empty _ _ _)
    | object members' =>
      rw [Element.object_append] at same
      obtain ⟨data, rest⟩ := Members.data_inj members members' (List.cons.inj same).2
      exact ⟨congrArg Datum.object data, rest⟩
    | _ => cases opening

/-- `Element.datum_inj` for items up to the end of their array. -/
theorem Items.data_inj (xs ys : Items) {r s : List Char}
    (same : xs.chars ++ ']' :: r = ys.chars ++ ']' :: s) : xs.data = ys.data ∧ r = s := by
  -- What closes an item tells whether another one follows, so the two lists end together.
  cases xs with
  | last before item after =>
    cases ys with
    | last before' item' after' =>
      simp only [Items.chars, List.append_assoc] at same
      obtain ⟨datum, -, rest⟩ := item_inj (Element.datum_inj item item') (by decide) (by decide) same
      exact ⟨by rw [Items.data, Items.data, datum], rest⟩
    | cons before' item' after' others =>
      simp only [Items.chars, List.append_assoc, List.cons_append] at same
      obtain ⟨-, closer, -⟩ := item_inj (Element.datum_inj item item') (by decide) (by decide) same
      exact absurd closer (by decide)
  | cons before item after others =>
    cases ys with
    | last before' item' after' =>
      simp only [Items.chars, List.append_assoc, List.cons_append] at same
      obtain ⟨-, closer, -⟩ := item_inj (Element.datum_inj item item') (by decide) (by decide) same
      exact absurd closer (by decide)
    | cons before' item' after' others' =>
      simp only [Items.chars, List.append_assoc, List.cons_append] at same
      obtain ⟨datum, -, rest⟩ := item_inj (Element.datum_inj item item') (by decide) (by decide) same
      obtain ⟨data, rest⟩ := Items.data_inj others others' rest
      exact ⟨by rw [Items.data, Items.data, datum, data], rest⟩

/-- `Element.datum_inj` for members up to the end of their object. -/
theorem Members.data_inj (ms ns : Members) {r s : List Char}
    (same : ms.chars ++ '\x7d' :: r = ns.chars ++ '\x7d' :: s) : ms.data = ns.data ∧ r = s := by
  cases ms with
  | last before name behindName behindColon item after =>
    cases ns with
    | last before' name' behindName' behindColon' item' after' =>
      simp only [Members.chars, List.append_assoc, List.cons_append] at same
      obtain ⟨spelled, behind⟩ := name_inj same
      obtain ⟨datum, -, rest⟩ :=
        item_inj (Element.datum_inj item item') (by decide) (by decide) behind
      exact ⟨by rw [Members.data, Members.data, spelled, datum], rest⟩
    | cons before' name' behindName' behindColon' item' after' others =>
      simp only [Members.chars, List.append_assoc, List.cons_append] at same
      obtain ⟨-, behind⟩ := name_inj same
      obtain ⟨-, closer, -⟩ :=
        item_inj (Element.datum_inj item item') (by decide) (by decide) behind
      exact absurd closer (by decide)
  | cons before name behindName behindColon item after others =>
    cases ns with
    | last before' name' behindName' behindColon' item' after' =>
      simp only [Members.chars, List.append_assoc, List.cons_append] at same
      obtain ⟨-, behind⟩ := name_inj same
      obtain ⟨-, closer, -⟩ :=
        item_inj (Element.datum_inj item item') (by decide) (by decide) behind
      exact absurd closer (by decide)
    | cons before' name' behindName' behindColon' item' after' others' =>
      simp only [Members.chars, List.append_assoc, List.cons_append] at same
      obtain ⟨spelled, behind⟩ := name_inj same
      obtain ⟨datum, -, rest⟩ :=
        item_inj (Element.datum_inj item item') (by decide) (by decide) behind
      obtain ⟨data, rest⟩ := Members.data_inj others others' rest
      exact ⟨by rw [Members.data, Members.data, spelled, datum, data], rest⟩

end

/-- **JSON texts stand for one datum.** -/
theorem datum_eq_of_chars_eq {t u : JsonText} (same : t.chars = u.chars) : t.datum = u.datum := by
  simp only [JsonText.chars, List.append_assoc] at same
  have roots := Gap.append_cancel (t.root.startsOutside _) (u.root.startsOutside _) same
  have ends (g : Gap) : StartsOutside numberChars g.chars := by
    have atEnd : StartsOutside numberChars [] := by
      intro c hc
      cases hc
    simpa using startsOutside_behind atEnd g
  exact (Element.datum_inj t.root u.root (ends _) (ends _) roots).1

end Conform.JsonText
