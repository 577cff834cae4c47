import Conform.Proofs.Text.Lines
import Conform.Value.Text
/-!
# Literals are printable

What diagnostics show of a value is printable: numbers, dates and times by nature, and texts because
they are quoted, so that a character that is not printable is written by number.
-/
namespace Conform

namespace Text

/-- Texts with a printable separator between them. -/
theorem printable_intercalate {separator : String} (hs : Printable separator)
    {texts : List String} (h : ∀ t ∈ texts, Printable t) :
    Printable (separator.intercalate texts) := by
  induction texts with
  | nil => simp [Printable]
  | cons t texts ih =>
    obtain ⟨ht, htexts⟩ := List.forall_mem_cons.mp h
    cases texts with
    | nil => simpa using ht
    | cons u us =>
      rw [String.intercalate_cons_cons]
      simp [ht, hs, ih htexts]

/-! ### Numbers -/

theorem isPrintable_digitChar (n : Nat) : isPrintable n.digitChar = true := by
  rcases Nat.lt_or_ge n 16 with small | large
  · revert n
    decide
  · have star : n.digitChar = '*' := by
      unfold Nat.digitChar
      iterate 16 rw [if_neg (by omega)]
    rw [star]
    decide

theorem isPrintable_of_mem_toDigits {base n : Nat} {c : Char} (h : c ∈ Nat.toDigits base n) :
    isPrintable c = true := by
  -- Digits are put before those that are known already.
  have digits : ∀ fuel n ds, (∀ d ∈ ds, isPrintable d = true) →
      ∀ d ∈ Nat.toDigitsCore base fuel n ds, isPrintable d = true := by
    intro fuel
    induction fuel with
    | zero => exact fun _ _ h => h
    | succ fuel ih =>
      intro n ds h
      have one : ∀ d ∈ (n % base).digitChar :: ds, isPrintable d = true :=
        List.forall_mem_cons.mpr ⟨isPrintable_digitChar _, h⟩
      rw [Nat.toDigitsCore]
      split
      · exact one
      · exact ih _ _ one
  exact digits _ _ [] (by simp) c h

@[simp] theorem printable_natText (n : Nat) : Printable (toString n) := by
  intro c hc
  exact isPrintable_of_mem_toDigits (Nat.toList_repr ▸ hc)

@[simp] theorem printable_intText (n : Int) : Printable (toString n) := by
  cases n with
  | ofNat m => exact printable_natText m
  | negSucc m => exact printable_append.mpr ⟨by decide, printable_natText (m + 1)⟩

/-! ### Quoted text -/

theorem isPrintable_of_mem_hexDigits {width n : Nat} {c : Char} (h : c ∈ hexDigits width n) :
    isPrintable c = true := by
  rcases List.mem_append.mp h with h | h
  · rw [List.eq_of_mem_replicate h]
    decide
  · exact isPrintable_of_mem_toDigits h

theorem isPrintable_of_mem_escapeByNumber {c d : Char} (h : d ∈ escapeByNumber c) :
    isPrintable d = true := by
  have named : ∀ marker width, isPrintable marker = true →
      d ∈ '\\' :: marker :: hexDigits width (code c) → isPrintable d = true := by
    intro marker width hmarker hd
    simp only [List.mem_cons] at hd
    rcases hd with rfl | rfl | hd
    · decide
    · exact hmarker
    · exact isPrintable_of_mem_hexDigits hd
  unfold escapeByNumber at h
  split at h
  · exact named 'x' 2 (by decide) h
  · split at h
    · exact named 'u' 4 (by decide) h
    · exact named 'U' 8 (by decide) h

/-- A character between printable quotes, of which only printable ones stand for themselves. -/
theorem isPrintable_of_mem_escapeChar {shown : Char → Bool} {quote c d : Char}
    (hshown : ∀ x, shown x = true → isPrintable x = true) (hquote : isPrintable quote = true)
    (h : d ∈ escapeChar shown quote c) : isPrintable d = true := by
  have pair : ∀ x, isPrintable x = true → d ∈ ['\\', x] → isPrintable d = true := by
    intro x hx hd
    simp only [List.mem_cons, List.not_mem_nil, or_false] at hd
    rcases hd with rfl | rfl
    · decide
    · exact hx
  unfold escapeChar at h
  split at h
  · rename_i special
    refine pair c ?_ h
    rcases special with rfl | rfl
    · exact hquote
    · decide
  split at h
  · exact pair 't' (by decide) h
  split at h
  · exact pair 'n' (by decide) h
  split at h
  · exact pair 'r' (by decide) h
  split at h
  · rename_i hc
    obtain rfl := List.mem_singleton.mp h
    exact hshown d hc
  · exact isPrintable_of_mem_escapeByNumber h

theorem isPrintable_of_mem_quotedChars {shown : Char → Bool} {s : List Char} {d : Char}
    (hshown : ∀ x, shown x = true → isPrintable x = true) (h : d ∈ quotedChars shown s) :
    isPrintable d = true := by
  have hquote : isPrintable (enclosingQuote s) = true := by
    unfold enclosingQuote
    split <;> decide
  simp only [quotedChars, List.mem_append, List.mem_cons, List.mem_flatMap, List.not_mem_nil,
    or_false] at h
  rcases h with (rfl | ⟨c, -, hd⟩) | rfl
  · exact hquote
  · exact isPrintable_of_mem_escapeChar hshown hquote hd
  · exact hquote

@[simp] theorem printable_quoted (s : String) : Printable (quoted s) :=
  printable_ofList.mpr fun _ => isPrintable_of_mem_quotedChars fun _ h => h

@[simp] theorem printable_quotedAscii (s : String) : Printable (quotedAscii s) := by
  refine printable_ofList.mpr fun _ => isPrintable_of_mem_quotedChars fun c h => ?_
  obtain ⟨least, greatest⟩ := Bool.and_eq_true_iff.mp h
  rw [isPrintable, if_pos (of_decide_eq_true greatest)]
  exact least

@[simp] theorem printable_quotedBytes (bytes : List UInt8) : Printable (quotedBytes bytes) :=
  printable_append.mpr ⟨by decide, printable_quotedAscii _⟩

end Text

open Text

/-! ### Dates and times -/

theorem printable_padded (width n : Nat) : Printable (padded width n) := by
  unfold padded
  simp only [printable_append, printable_natText, and_true, printable_ofList]
  intro c hc
  rw [List.eq_of_mem_replicate hc]
  decide

theorem Date.printable_isoText (d : Date) : Printable d.isoText := by
  unfold Date.isoText
  simp only [printable_append, printable_padded]
  decide

theorem Date.printable_literal (d : Date) : Printable d.literal := by
  unfold Date.literal
  simp only [printable_append, printable_natText]
  decide

theorem printable_durationLiteral (seconds : Int) : Printable (durationLiteral seconds) := by
  have days : ∀ n : Int, Printable s!"days={n}" := by
    intro n
    simp only [printable_append, printable_intText, printable_toString]
    decide
  have rest : ∀ n : Int, Printable s!"seconds={n}" := by
    intro n
    simp only [printable_append, printable_intText, printable_toString]
    decide
  have joined : ∀ parts : List String, (∀ t ∈ parts, Printable t) →
      Printable (if parts.isEmpty then "0" else ", ".intercalate parts) := by
    intro parts h
    split
    · decide
    · exact printable_intercalate (by decide) h
  unfold durationLiteral
  simp only [printable_append, printable_toString]
  refine ⟨⟨by decide, joined _ fun t ht => ?_⟩, by decide⟩
  rcases List.mem_append.mp ht with ht | ht
  · split at ht
    · cases ht
    · exact List.mem_singleton.mp ht ▸ days _
  · split at ht
    · cases ht
    · exact List.mem_singleton.mp ht ▸ rest _

namespace DateTime

theorem printable_offsetText (seconds : Int) : Printable (offsetText seconds) := by
  have base : ∀ sign : String, Printable sign → ∀ hours minutes,
      Printable (sign ++ padded 2 hours ++ ":" ++ padded 2 minutes) := by
    intro sign h hours minutes
    simp only [printable_append, printable_padded, h]
    decide
  have sign : Printable (if seconds < 0 then "-" else "+") := by
    split <;> decide
  unfold offsetText
  dsimp only
  split
  · exact base _ sign _ _
  · simp only [printable_append, printable_padded, base _ sign]
    decide

theorem printable_isoText {separator : String} (h : Printable separator) (t : DateTime) :
    Printable (t.isoText separator) := by
  have fraction :
      Printable (if t.microsecond = 0 then "" else "." ++ padded 6 t.microsecond) := by
    split
    · decide
    · exact printable_append.mpr ⟨by decide, printable_padded 6 _⟩
  have offset : Printable ((t.offset.map offsetText).getD "") := by
    cases t.offset with
    | none => decide
    | some seconds => exact printable_offsetText seconds
  unfold isoText
  simp only [printable_append, printable_padded, Date.printable_isoText, h, fraction, offset]
  decide

theorem printable_literal (t : DateTime) : Printable t.literal := by
  have zone : Printable ((t.offset.map fun s => s!", tzinfo={zoneLiteral s}").getD "") := by
    cases t.offset with
    | none => decide
    | some seconds =>
      have literal : Printable (zoneLiteral seconds) := by
        unfold zoneLiteral
        split
        · decide
        · simp only [printable_append, printable_toString, printable_durationLiteral]
          decide
      change Printable s!", tzinfo={zoneLiteral seconds}"
      simp only [printable_append, printable_toString, literal]
      decide
  unfold literal
  simp only [printable_append, zone]
  refine ⟨⟨⟨by decide, printable_intercalate (by decide) fun u hu => ?_⟩, trivial⟩, by decide⟩
  obtain ⟨n, -, rfl⟩ := List.mem_map.mp hu
  exact printable_natText n

end DateTime

/-! ### Floating-point numbers -/

theorem Decimal.printable_toText (d : Decimal) : Printable d.toText := by
  have digits : ∀ n : Nat, ∀ c ∈ (toString n).toList, isPrintable c = true := printable_natText
  have first : ∀ k, ∀ c ∈ (toString d.digits).toList.take k, isPrintable c = true :=
    fun k c hc => digits _ c (List.mem_of_mem_take hc)
  have others : ∀ k, ∀ c ∈ (toString d.digits).toList.drop k, isPrintable c = true :=
    fun k c hc => digits _ c (List.mem_of_mem_drop hc)
  have zeros : ∀ n : Nat, ∀ c ∈ List.replicate n '0', isPrintable c = true := by
    intro n c hc
    rw [List.eq_of_mem_replicate hc]
    decide
  have marks : isPrintable '0' = true ∧ isPrintable '.' = true ∧ isPrintable 'e' = true ∧
      isPrintable '-' = true ∧ isPrintable '+' = true := by decide
  have both : ∀ {cs ds : List Char}, (∀ c ∈ cs, isPrintable c = true) →
      (∀ c ∈ ds, isPrintable c = true) → ∀ c ∈ cs ++ ds, isPrintable c = true :=
    fun hcs hds => List.forall_mem_append.mpr ⟨hcs, hds⟩
  have one : ∀ {c : Char} {cs : List Char}, isPrintable c = true →
      (∀ d ∈ cs, isPrintable d = true) → ∀ d ∈ c :: cs, isPrintable d = true :=
    fun hc hcs => List.forall_mem_cons.mpr ⟨hc, hcs⟩
  have none : ∀ c ∈ ([] : List Char), isPrintable c = true := by simp
  unfold toText
  dsimp only
  rw [printable_ofList]
  split
  · split
    · exact both (both (one marks.1 (one marks.2.1 none)) (zeros _)) (digits _)
    · split
      · exact both (both (digits _) (zeros _)) (one marks.2.1 (one marks.1 none))
      · exact both (first _) (one marks.2.1 (others _))
  · refine both (both (first 1) ?_) (one marks.2.2.1 (one ?_ ?_))
    · split
      · exact none
      · exact one marks.2.1 (others 1)
    · split
      · exact marks.2.2.2.1
      · exact marks.2.2.2.2
    · split
      · exact one marks.1 (digits _)
      · exact digits _

theorem Binary64.printable_toText (x : Binary64) : Printable x.toText := by
  cases x with
  | finite s m e =>
    rw [toText, printable_append]
    constructor
    · split <;> decide
    · split
      · decide
      · exact Decimal.printable_toText _
  | infinite s => cases s <;> decide
  | nan payload => exact (by decide : Printable "nan")

/-! ### Values -/

namespace Value

theorem printable_tupleText {items : List String} (h : ∀ t ∈ items, Printable t) :
    Printable (tupleText items) := by
  unfold tupleText
  split
  · simp only [printable_append, h _ (List.mem_singleton_self _)]
    decide
  · simp only [printable_append, printable_intercalate (by decide : Printable ", ") h]
    decide

/-- Whether the ellipses of the loops that are being written are printable. -/
def ShownOpen (open_ : List (Nat × String)) : Prop := ∀ e ∈ open_, Printable e.2

theorem ShownOpen.ellipsis? {open_ : List (Nat × String)} (h : ShownOpen open_) {label : Nat}
    {e : String} (he : ellipsis? open_ label = some e) : Printable e := by
  obtain ⟨entry, found, rfl⟩ := Option.map_eq_some_iff.mp he
  exact h entry (List.mem_of_find?_eq_some found)

theorem printable_ellipsis (v : Value) : Printable v.ellipsis := by
  unfold ellipsis
  split <;> decide

mutual

/-- A value is printable inside loops whose ellipses are. -/
theorem printable_literalIn {open_ : List (Nat × String)} (h : ShownOpen open_) :
    ∀ v : Value, Printable (literalIn open_ v)
  | null => (by decide : Printable "None")
  | bool true => (by decide : Printable "True")
  | bool false => (by decide : Printable "False")
  | int n => printable_intText n
  | float x => x.printable_toText
  | str s => printable_quoted s
  | bytes bs => printable_quotedBytes bs
  | date d => d.printable_literal
  | datetime t => t.printable_literal
  | list xs => by
    simp only [literalIn, printable_append]
    exact ⟨⟨by decide, printable_intercalate (by decide) (printable_literalItems h xs)⟩, by decide⟩
  | tuple xs => printable_tupleText (printable_literalItems h xs)
  | map es => by
    simp only [literalIn, printable_append]
    exact ⟨⟨by decide, printable_intercalate (by decide) (printable_literalEntries h es)⟩,
      by decide⟩
  | set [] => (by decide : Printable "set()")
  | set (x :: xs) => by
    have items : ∀ t ∈ literalIn open_ x :: literalItems open_ xs, Printable t :=
      List.forall_mem_cons.mpr ⟨printable_literalIn h x, printable_literalItems h xs⟩
    simp only [literalIn, printable_append]
    exact ⟨⟨by decide, printable_intercalate (by decide) items⟩, by decide⟩
  | loop l body => by
    rw [literalIn]
    split
    · rename_i e he
      exact h.ellipsis? he
    · exact printable_literalIn (List.forall_mem_cons.mpr ⟨printable_ellipsis body, h⟩) body
  | back l => by
    rw [literalIn]
    cases he : ellipsis? open_ l with
    | none => exact (by decide : Printable "...")
    | some e => exact h.ellipsis? he

theorem printable_literalItems {open_ : List (Nat × String)} (h : ShownOpen open_) :
    ∀ xs : List Value, ∀ t ∈ literalItems open_ xs, Printable t
  | [] => by simp [literalItems]
  | x :: xs => by
    rw [literalItems]
    exact List.forall_mem_cons.mpr ⟨printable_literalIn h x, printable_literalItems h xs⟩

theorem printable_literalEntries {open_ : List (Nat × String)} (h : ShownOpen open_) :
    ∀ es : List (Value × Value), ∀ t ∈ literalEntries open_ es, Printable t
  | [] => by simp [literalEntries]
  | (k, x) :: es => by
    rw [literalEntries]
    refine List.forall_mem_cons.mpr ⟨?_, printable_literalEntries h es⟩
    simp only [printable_append, printable_literalIn h k, printable_literalIn h x]
    decide

end

@[simp] theorem printable_literal (v : Value) : Printable v.literal :=
  printable_literalIn (by simp [ShownOpen]) v

/-- Of the values that stand alone only a text may be shown as it is. -/
theorem printable_text {v : Value} (h : v.isStr = false) : Printable v.text := by
  cases v with
  | str s => cases h
  | date d => exact d.printable_isoText
  | datetime t => exact DateTime.printable_isoText (by decide) t
  | _ => exact printable_literal _

end Value

end Conform
