import Conform.Proofs.Json.Syntax
import Conform.Report.Json
import Mathlib.Data.List.Basic
/-!
# What is written is JSON

Reports are written as values of their own, `Json`, and each is written as a JSON text that stands for
it: numbers without fraction and exponent, strings in which everything beyond ASCII is escaped, items
and members on lines of their own.  Only where two halves of a surrogate pair stand next to each other
does the text stand for the code point that they make up.  The main result is `exists_jsonText`.
-/
namespace Conform

open JsonText Text

/-! ### Numbers -/

namespace JsonText

theorem digitChar_eq (d : Fin 10) : digitChar d = Nat.digitChar d := by
  revert d
  decide

/-- A number is written with the digits that are asked for. -/
theorem exists_whole (n : Nat) :
    ∃ w : Whole, w.digits.map digitChar = Nat.toDigits 10 n ∧ decimal w.digits = n := by
  induction n using Nat.strongRecOn with
  | ind n ih =>
    rcases Nat.lt_or_ge n 10 with small | large
    · have all : ∀ d : Fin 10, ∃ w : Whole, w.digits = [d] := by
        intro d
        cases d using Fin.cases with
        | zero => exact ⟨.zero, rfl⟩
        | succ e => exact ⟨.nonzero e [], rfl⟩
      obtain ⟨w, hw⟩ := all ⟨n, small⟩
      refine ⟨w, ?_, by simp [hw, decimal]⟩
      rw [hw, Nat.toDigits_of_lt_base small, List.map_singleton, digitChar_eq]
    · obtain ⟨w, hw, value⟩ := ih (n / 10) (by omega)
      have last : n % 10 < 10 := Nat.mod_lt _ (by decide)
      cases w with
      | zero =>
        have : n / 10 = 0 := value.symm
        omega
      | nonzero first rest =>
        refine ⟨.nonzero first (rest ++ [⟨n % 10, last⟩]), ?_, ?_⟩
        · rw [Nat.toDigits_eq_if (by decide), if_neg (by omega), ← hw, Whole.digits, Whole.digits,
            ← List.cons_append, List.map_append, List.map_singleton, digitChar_eq]
        · rw [Whole.digits, ← List.cons_append, decimal, List.foldl_append]
          change decimal (Whole.nonzero first rest).digits * 10 + n % 10 = n
          rw [value]
          omega

theorem exists_number (n : Int) :
    ∃ k : Number, k.chars = (toString n).toList ∧ k.datum = .int n := by
  obtain ⟨w, hw, value⟩ := exists_whole n.natAbs
  cases n with
  | ofNat m =>
    refine ⟨⟨false, w, none, none⟩, ?_, ?_⟩
    · simp only [Number.chars, Number.unsignedChars, Bool.false_eq_true, if_false, hw,
        List.append_nil, List.nil_append]
      exact Nat.toList_repr.symm
    · change Datum.int (decimal w.digits) = _
      rw [value]
      rfl
  | negSucc m =>
    refine ⟨⟨true, w, none, none⟩, ?_, ?_⟩
    · simp only [Number.chars, Number.unsignedChars, if_true, hw, List.append_nil]
      change _ = ("-" ++ Nat.repr (m + 1)).toList
      rw [String.toList_append, Nat.toList_repr]
      rfl
    · change Datum.int (-(decimal w.digits)) = _
      rw [value]
      rfl

/-! ### Strings -/

/-- The last digit of a number. -/
def HexDigit.ofNat (n : Nat) : HexDigit := ⟨⟨n % 16, Nat.mod_lt n (Nat.succ_pos 15)⟩, false⟩

theorem HexDigit.char_ofNat (n : Nat) : (HexDigit.ofNat n).char = Nat.digitChar (n % 16) := by
  have each : ∀ d : Fin 16, HexDigit.char ⟨d, false⟩ = Nat.digitChar d := by decide
  exact each _

/-- The four digits of a number below the second plane. -/
def HexQuad.ofNat (n : Nat) : HexQuad where
  first := .ofNat (n / 16 / 16 / 16)
  second := .ofNat (n / 16 / 16)
  third := .ofNat (n / 16)
  fourth := .ofNat n

theorem HexQuad.code_ofNat {n : Nat} (h : n < 0x10000) : (HexQuad.ofNat n).code = n := by
  simp only [ofNat, HexDigit.ofNat, code]
  omega

/-- The last digit of a number that is written with at least two. -/
theorem hexDigits_succ {k : Nat} (hk : 0 < k) (n : Nat) :
    Text.hexDigits (k + 1) n = Text.hexDigits k (n / 16) ++ [Nat.digitChar (n % 16)] := by
  unfold Text.hexDigits
  rcases Nat.lt_or_ge n 16 with small | large
  · have zero : n / 16 = 0 := by omega
    have padding : List.replicate k '0' = List.replicate (k - 1) '0' ++ ['0'] := by
      rw [← List.replicate_succ', Nat.sub_add_cancel hk]
    simp [Nat.toDigits_of_lt_base small, zero, Nat.mod_eq_of_lt small, padding, Nat.digitChar]
  · rw [Nat.toDigits_eq_if (by decide : 1 < 16) (n := n), if_neg (by omega)]
    simp

theorem HexQuad.chars_ofNat {n : Nat} (h : n < 0x10000) :
    (HexQuad.ofNat n).chars = Text.hexDigits 4 n := by
  have one : ∀ m < 16, Text.hexDigits 1 m = [Nat.digitChar m] := by
    intro m hm
    simp [Text.hexDigits, Nat.toDigits_of_lt_base hm]
  rw [hexDigits_succ (by decide), hexDigits_succ (by decide), hexDigits_succ (by decide),
    one _ (by omega)]
  simp only [ofNat, chars, HexDigit.char_ofNat, List.cons_append, List.nil_append]
  rw [Nat.mod_eq_of_lt (by omega : n / 16 / 16 / 16 < 16)]

theorem toList_unicodeEscape {n : Nat} (h : n < 0x10000) :
    (Json.unicodeEscape n).toList = '\\' :: 'u' :: (HexQuad.ofNat n).chars := by
  rw [Json.unicodeEscape, HexQuad.chars_ofNat h]
  simp

/-- The escape of a code point of the first plane. -/
theorem exists_unit {c : CodePoint} (h : c.val < 0x10000) :
    ∃ p : Piece, p.chars = (Json.unicodeEscape c).toList ∧ p.point = c := by
  refine ⟨.unit (.ofNat c), ?_, Fin.ext (HexQuad.code_ofNat h)⟩
  rw [toList_unicodeEscape h]
  rfl

/-- A printable code point of ASCII is written as it is. -/
theorem exists_plain {c : CodePoint} (least : ' '.toNat ≤ c.val) (greatest : c.val ≤ '~'.toNat)
    (quote : c.val ≠ '\x22'.toNat) (backslash : c.val ≠ '\\'.toNat) :
    ∃ p : Piece, p.chars = (Char.ofNat c).toString.toList ∧ p.point = c := by
  have valid : c.val.isValidChar := .inl (Nat.lt_of_le_of_lt greatest (by decide))
  have number : (Char.ofNat c).toNat = c.val := by
    rw [Char.ofNat, dif_pos valid]
    rfl
  have other {d : Char} (hd : c.val ≠ d.toNat) : Char.ofNat c ≠ d := fun same =>
    hd (by rw [← number, same])
  have unescaped : isUnescaped (Char.ofNat c) = true := by
    have printable : ' ' ≤ Char.ofNat c := Nat.le_trans least (Nat.le_of_eq number.symm)
    simp [isUnescaped, printable, other quote, other backslash]
  exact ⟨.plain _ unescaped, by simp [Piece.chars], Fin.ext number⟩

/-- What is written for a code point of the first plane stands for it. -/
theorem exists_piece {c : CodePoint} (h : c.val < 0x10000) :
    ∃ p : Piece, p.chars = (Json.escape c).toList ∧ p.point = c := by
  unfold Json.escape
  split
  next h => exact ⟨.short .quote, rfl, Fin.ext h.symm⟩
  next quote =>
  split
  next h => exact ⟨.short .backslash, rfl, Fin.ext h.symm⟩
  next backslash =>
  split
  next h => exact ⟨.short .lineFeed, rfl, Fin.ext h.symm⟩
  split
  next h => exact ⟨.short .carriageReturn, rfl, Fin.ext h.symm⟩
  split
  next h => exact ⟨.short .tab, rfl, Fin.ext h.symm⟩
  split
  next h => exact ⟨.short .backspace, rfl, Fin.ext h.symm⟩
  split
  next h => exact ⟨.short .formFeed, rfl, Fin.ext h.symm⟩
  split
  next h =>
    exact exists_plain h.1 h.2 quote backslash
  exact exists_unit h

/-- A code point beyond the first plane is written as its halves are. -/
theorem escape_of_ge {c : CodePoint} (h : 0x10000 ≤ c.val) :
    Json.escape c = Json.unicodeEscape (highHalf c) ++ Json.unicodeEscape (lowHalf c) := by
  have other {d : Char} (hd : d.toNat < 0x10000) : c.val ≠ d.toNat := by omega
  unfold Json.escape
  iterate 7 rw [if_neg (other (by decide))]
  rw [if_neg (fun printable => absurd printable.2 ?_), if_neg (Nat.not_lt.mpr h)]
  · rfl
  · change ¬c.val ≤ 0x7E
    omega

theorem escape_of_half {c : CodePoint} (h : isHigh c.val = true ∨ isLow c.val = true) :
    Json.escape c = Json.unicodeEscape c := by
  rw [isHigh_iff, isLow_iff] at h
  have other {d : Char} (hd : d.toNat < 0xD800) : c.val ≠ d.toNat := by omega
  unfold Json.escape
  iterate 7 rw [if_neg (other (by decide))]
  rw [if_neg (fun printable => absurd printable.2 ?_), if_pos (by omega)]
  change ¬c.val ≤ 0x7E
  omega

/-- Halves are written as the code point that they make up is. -/
theorem quote_joined (s : List CodePoint) : Json.quote (joined s) = Json.quote s := by
  have each (c : CodePoint) (cs : List CodePoint) : String.join ((joinTo c cs).map Json.escape) =
      Json.escape c ++ String.join (cs.map Json.escape) := by
    unfold joinTo
    split
    next d cs =>
      split
      next pair =>
        obtain ⟨high, low⟩ := Bool.and_eq_true_iff.mp pair
        rw [List.map_cons, String.join_cons, List.map_cons, String.join_cons,
          escape_of_ge (Nat.le_trans (Nat.le_add_right _ _) (Nat.le_add_right _ _)),
          highHalf_paired high, lowHalf_paired low, escape_of_half (.inl high),
          escape_of_half (.inr low), String.append_assoc]
      next => rw [List.map_cons, String.join_cons]
    next => rw [List.map_cons, String.join_cons]
  have text : String.join ((joined s).map Json.escape) = String.join (s.map Json.escape) := by
    induction s with
    | nil => rfl
    | cons c cs ih => rw [joined_cons, each, ih, List.map_cons, String.join_cons]
  rw [Json.quote, Json.quote, text]

/-- What is written for code points stands for them as far as a text of escapes can. -/
theorem exists_pieces (s : List CodePoint) :
    ∃ ps, quoted ps = (Json.quote s).toList ∧ points ps = joined s := by
  have each : ∀ cs : List CodePoint, ∃ ps,
      inQuotes ps = (String.join (cs.map Json.escape)).toList ∧ points ps = joined cs := by
    intro cs
    -- A character up to U+FFFF is one piece; one beyond it is written as its two halves, which reading joins.
    induction cs with
    | nil => exact ⟨[], rfl, rfl⟩
    | cons c cs ih =>
      obtain ⟨ps, hps, spelled⟩ := ih
      rw [List.map_cons, String.join_cons, String.toList_append]
      rcases Nat.lt_or_ge c.val 0x10000 with first | beyond
      · obtain ⟨p, hp, point⟩ := exists_piece first
        refine ⟨p :: ps, by rw [inQuotes_cons, hp, hps], ?_⟩
        rw [points, List.map_cons, point, joined_cons, joined_cons, ← points, spelled]
      · have first := (isHigh_iff.mp (isHigh_highHalf c)).2
        have second := (isLow_iff.mp (isLow_lowHalf c)).2
        obtain ⟨p, hp, high⟩ := exists_unit (Nat.lt_trans first (by decide))
        obtain ⟨q, hq, low⟩ := exists_unit (Nat.lt_trans second (by decide))
        refine ⟨p :: q :: ps, ?_, ?_⟩
        · rw [inQuotes_cons, inQuotes_cons, hp, hq, hps, escape_of_ge beyond, String.toList_append,
            List.append_assoc]
        · rw [points, List.map_cons, List.map_cons, high, low, joined_halves beyond, joined_cons,
            ← points, spelled, joined_cons]
  obtain ⟨ps, hps, spelled⟩ := each s
  refine ⟨ps, ?_, spelled⟩
  rw [quoted, hps, Json.quote, String.toList_append, String.toList_append]
  rfl

/-! ### Lines -/

/-- The gap at the start of a line at a level. -/
def Gap.lineStart (level : Nat) : Gap := .lineFeed :: List.replicate (2 * level) .space

theorem Gap.chars_lineStart (level : Nat) :
    (Gap.lineStart level).chars = (Json.lineStart level).toList := by
  simp [Gap.lineStart, Gap.chars, Json.lineStart, Blank.char]

@[simp] theorem Gap.chars_nil : Gap.chars [] = [] := rfl

@[simp] theorem Gap.chars_space : Gap.chars [.space] = [' '] := rfl

/-! ### Items and members -/

/-- Items that are written, each on a line of its own, before a line at the outer level. -/
theorem exists_items (level : Nat) {es : List Element} {texts : List String}
    (written : List.Forall₂ (fun e t => e.chars = t.toList) es texts) (nonempty : es ≠ []) :
    ∃ items : Items, items.data = es.map Element.datum ∧ items.chars =
      (",".intercalate (texts.map fun t => Json.lineStart (level + 1) ++ t)
        ++ Json.lineStart level).toList := by
  induction written with
  | nil => exact absurd rfl nonempty
  | @cons e t es texts he hes ih =>
    cases hes with
    | nil =>
      refine ⟨.last (.lineStart (level + 1)) e (.lineStart level), rfl, ?_⟩
      simp [Items.chars, Gap.chars_lineStart, he]
    | cons hd hrest =>
      obtain ⟨items, data, chars⟩ := ih (by simp)
      refine ⟨.cons (.lineStart (level + 1)) e [] items, by rw [Items.data, data]; rfl, ?_⟩
      rw [Items.chars, chars]
      simp [Gap.chars_lineStart, he, String.intercalate_cons_cons]

/-- Members that are written, each on a line of its own, before a line at the outer level. -/
theorem exists_members (level : Nat) {ms : List (List CodePoint × Element)} {texts : List String}
    (written : List.Forall₂ (fun m t => (Json.quote m.1).toList ++ ": ".toList ++ m.2.chars =
      t.toList) ms texts) (nonempty : ms ≠ []) :
    ∃ members : Members, members.data = ms.map (fun m => (joined m.1, m.2.datum)) ∧
      members.chars = (",".intercalate (texts.map fun t => Json.lineStart (level + 1) ++ t)
        ++ Json.lineStart level).toList := by
  induction written with
  | nil => exact absurd rfl nonempty
  | @cons m t ms texts hm hms ih =>
    obtain ⟨name, hname, spelled⟩ := exists_pieces m.1
    cases hms with
    | nil =>
      refine ⟨.last (.lineStart (level + 1)) name [] [.space] m.2 (.lineStart level), ?_, ?_⟩
      · rw [Members.data, spelled]
        rfl
      · simp [Members.chars, Gap.chars_lineStart, hname, ← hm]
    | cons hd hrest =>
      obtain ⟨members, data, chars⟩ := ih (by simp)
      refine ⟨.cons (.lineStart (level + 1)) name [] [.space] m.2 [] members, ?_, ?_⟩
      · rw [Members.data, spelled, data]
        rfl
      · rw [Members.chars, chars]
        simp [Gap.chars_lineStart, hname, ← hm, String.intercalate_cons_cons]

end JsonText

namespace Json

/-! ### Values -/

mutual

/-- What the text that is written for a value stands for. -/
def datum : Json → Datum
  | number n => .int n
  | text s => .text (joined s)
  | array items => .array (data items)
  | object members => .object (namedData members)

/-- `datum` for the items of an array. -/
def data : List Json → List Datum
  | [] => []
  | x :: xs => x.datum :: data xs

/-- `datum` for the members of an object. -/
def namedData : List (String × Json) → List (List CodePoint × Datum)
  | [] => []
  | (k, x) :: ms => (joined (codePoints k), x.datum) :: namedData ms

end

mutual

/-- What is written is an element of the language. -/
theorem exists_element (level : Nat) : ∀ j : Json,
    ∃ e : Element, e.chars = (j.write level).toList ∧ e.datum = j.datum
  | number n => by
    obtain ⟨k, chars, number⟩ := exists_number n
    exact ⟨.number k, chars, number⟩
  | text s => by
    obtain ⟨ps, chars, spelled⟩ := exists_pieces s
    exact ⟨.string ps, chars, by rw [Element.datum, spelled, datum]⟩
  | array [] => ⟨.emptyArray [], by simp [Element.chars, write, writeItems, bracketed], rfl⟩
  | array (x :: xs) => by
    obtain ⟨es, written, same⟩ := exists_elements (level + 1) (x :: xs)
    have nonempty : es ≠ [] := by
      rintro rfl
      cases written
    obtain ⟨items, hdata, chars⟩ := exists_items level written nonempty
    refine ⟨.array items, ?_, by rw [Element.datum, hdata, same, datum]⟩
    rw [Element.chars, chars]
    simp [write, writeItems, bracketed]
  | object [] => ⟨.emptyObject [], by simp [Element.chars, write, writeMembers, bracketed], rfl⟩
  | object (m :: ms) => by
    obtain ⟨es, written, same⟩ := exists_named (level + 1) (m :: ms)
    have nonempty : es ≠ [] := by
      rintro rfl
      cases written
    obtain ⟨members, hdata, chars⟩ := exists_members level written nonempty
    refine ⟨.object members, ?_, by rw [Element.datum, hdata, same, datum]⟩
    rw [Element.chars, chars]
    simp [write, writeMembers, bracketed]

theorem exists_elements (level : Nat) : ∀ xs : List Json, ∃ es : List Element,
    List.Forall₂ (fun e t => e.chars = t.toList) es (writeItems level xs) ∧
      es.map Element.datum = data xs
  | [] => ⟨[], .nil, rfl⟩
  | x :: xs => by
    obtain ⟨e, chars, he⟩ := exists_element level x
    obtain ⟨es, written, hes⟩ := exists_elements level xs
    exact ⟨e :: es, .cons chars written, by rw [List.map_cons, he, hes, data]⟩

theorem exists_named (level : Nat) : ∀ ms : List (String × Json),
    ∃ es : List (List CodePoint × Element),
      List.Forall₂ (fun m t => (quote m.1).toList ++ ": ".toList ++ m.2.chars = t.toList) es
        (writeMembers level ms) ∧ es.map (fun m => (joined m.1, m.2.datum)) = namedData ms
  | [] => ⟨[], .nil, rfl⟩
  | (k, x) :: ms => by
    obtain ⟨e, chars, he⟩ := exists_element level x
    obtain ⟨es, written, hes⟩ := exists_named level ms
    refine ⟨(codePoints k, e) :: es, .cons (by simp [chars]) written, ?_⟩
    rw [List.map_cons, he, hes, namedData]

end

/-- **What is written is JSON.**  The text of a value is a JSON text that stands for it. -/
theorem exists_jsonText (j : Json) :
    ∃ t : JsonText, t.chars = (j.write 0).toList ∧ t.datum = j.datum := by
  obtain ⟨e, chars, datum⟩ := exists_element 0 j
  exact ⟨⟨[], e, []⟩, by simp [JsonText.chars, chars], datum⟩

end Json

end Conform
