import Conform.Proofs.Pattern.Literal
import Conform.Proofs.Pattern.Reading
import Conform.Proofs.Pattern.Reversed
import Conform.Proofs.Schema.Faults
/-!
# Patterns of string schemas

A pattern is compiled when its schema is made.  If it cannot be, the schema is refused with the text of
the pattern and the problem; but a few patterns are refused in another way, each of which shows in the
text of the pattern (`Escapes`).  A schema that is made checks every value, except that a possessive
repetition may leave a group that ends before it starts, and that a value or a bound may be shown which cannot
be written.  A text of ordinary characters always makes a schema, of the texts that it is a part of.
-/
namespace Conform

open Pattern

/-- The faults with which a schema is refused besides that of an unusable pattern, each with the part of
the pattern that it comes from. -/
inductive Fault.Escapes (release : Release) (source : List Char) : Fault → Prop where
  | longCount {digits : List Char} (count : HasCount source digits)
      (long : 4300 < digits.length) : Escapes release source (.integerTooLong digits.length)
  | largeCount {digits : List Char} (count : HasCount source digits)
      (short : digits.length ≤ 4300) (large : 4294967295 ≤ valueOf 10 digits) :
      Escapes release source .repetitionTooLarge
  | largeCharacter {digits : List Char} (character : HasCharacter source digits)
      (large : 0x7FFFFFFF < valueOf 16 digits) : Escapes release source .characterTooLarge
  | alphabets (ascii : SetsFlag source 'a') (unicode : SetsFlag source 'u') :
      Escapes release source .twoAlphabets
  | wideLookbehind (lookbehind : HasLookbehind source) (wide : LooksTooFar source release) :
      Escapes release source .lookbehindTooWide

namespace Pattern

variable {release : Release} {source : String}

/-- A pattern is refused only for a reason that it shows. -/
theorem isDue_of_compile {e : Refusal} (h : compile release source = .error e) :
    e.IsDue source.toList release := by
  have outcome := read_outcome release source.toList
  unfold compile at h
  cases hread : read release source.toList with
  | ok program =>
    rw [hread] at h
    cases h
  | error e' =>
    rw [hread] at h outcome
    cases h
    exact outcome

/-- A look-behind may be too wide in one release only. -/
example : (compile .early "(?<=(?:ab){1073741824})c").toOption.isSome = false ∧
    (compile .late "(?<=(?:ab){1073741824})c").toOption.isSome = true := by
  decide +kernel

/-- A pattern that is compiled can be searched for, unless it shows a possessive repetition. -/
theorem isFoundIn?_of_compile {p : Pattern} (h : compile release source = .ok p)
    (never : ¬HasPossessive source.toList) (s : String) : p.isFoundIn? s ≠ none := by
  have outcome := read_outcome release source.toList
  unfold compile at h
  cases hread : read release source.toList with
  | error e =>
    rw [hread] at h
    cases h
  | ok program =>
    rw [hread] at h outcome
    cases h
    obtain ⟨high, lies⟩ := outcome
    unfold isFoundIn?
    split
    · rename_i m found
      rw [Subject.hasReversed_of_search never lies found]
      nofun
    · nofun

/-- A possessive repetition keeps the end of a group whose next match fails behind its start. -/
example : (compile .early "(?:(ab)|.)*+").toOption.map (fun p => p.isFoundIn? "abxa") = some none := by
  decide +kernel

end Pattern

/-- Whether the bounds of the length can be written. -/
def CanWriteBounds (minLength : Int) (maxLength : Option Int) : Prop :=
  (Value.int minLength).isWritable = true ∧ ∀ m, maxLength = some m → (Value.int m).isWritable = true

/-- The faults of the check of a text: what is shown cannot be written, or the search goes wrong. -/
theorem StringRule.Faults.cases_search {r : StringRule} {v : Value} {f : Fault}
    (h : r.Faults v f) : (f = .integerUnwritable ∧
      (v.isWritable = false ∨ ¬CanWriteBounds r.minLength r.maxLength)) ∨
      f = .reversedGroup ∧ ∃ s, v = .str s ∧ r.GoesWrong s := by
  cases h with
  | value _ unwritable => exact .inl ⟨rfl, .inl unwritable⟩
  | tooShort _ unwritable =>
    exact .inl ⟨rfl, .inr fun written => by simp [written.1] at unwritable⟩
  | tooLong _ bound _ unwritable =>
    exact .inl ⟨rfl, .inr fun written => by simp [written.2 _ bound] at unwritable⟩
  | search wrong => exact .inr ⟨rfl, _, rfl, wrong⟩

namespace Schema

/-- Whether a schema accepts the texts within bounds that hold a text, and checks every value if it and the
bounds can be written. -/
def LooksFor (s : Schema) (minLength : Int) (maxLength : Option Int) (part : String) : Prop :=
  ∀ v parent, (∀ node, (s.trace v parent).result = .ok node → (node.isValid = true ↔
    ∃ t, v = .str t ∧ minLength ≤ t.length ∧ (∀ m, maxLength = some m → (t.length : Int) ≤ m) ∧
      part.toList <:+: t.toList)) ∧
    (v.isWritable = true → CanWriteBounds minLength maxLength → ∃ node, (s.trace v parent).result = .ok node)

/-- A pattern of ordinary characters is looked for as it stands. -/
theorem ofPattern_ordinary (release : Release) (minLength : Int) (maxLength : Option Int) {source : String}
    (ordinary : ∀ c ∈ source.toList, IsOrdinary c) :
    ∃ s, ofPattern release minLength maxLength (some source) = .ok s ∧
      s.LooksFor minLength maxLength source := by
  obtain ⟨p, hcompile, search⟩ := compile_ordinary release ordinary
  let rule : StringRule := { minLength, maxLength, pattern := some p }
  refine ⟨.string rule, by simp only [ofPattern, hcompile, rule], fun v parent => ?_⟩
  -- To be found is to be a part of the text.
  have found : ∀ t : String, p.isFoundIn? t = some true ↔ source.toList <:+: t.toList := by
    intro t
    obtain ⟨found, same, part⟩ := search t
    rw [same, Option.some_inj, part]
  have admits : ∀ t, rule.Admits t ↔ minLength ≤ t.length ∧
      (∀ m, maxLength = some m → (t.length : Int) ≤ m) ∧ source.toList <:+: t.toList := by
    intro t
    constructor
    · exact fun h => ⟨h.longEnough, h.shortEnough, (found t).mp (h.matched p rfl)⟩
    · rintro ⟨longEnough, shortEnough, part⟩
      refine ⟨longEnough, shortEnough, fun q hq => ?_⟩
      obtain rfl := Option.some.inj hq
      exact (found t).mpr part
  refine ⟨fun node hnode => ?_, fun writable bounds => ?_⟩
  · have checked : rule.check v parent = .ok node := hnode
    simp only [StringRule.check_isValid_iff checked, admits]
  · cases hcheck : rule.check v parent with
    | ok node => exact ⟨node, hcheck⟩
    | error f =>
      rcases (StringRule.check_eq_error_iff.mp hcheck).cases_search with
        ⟨-, unwritable | unwritable⟩ | ⟨-, t, -, wrong⟩
      · simp [writable] at unwritable
      · exact absurd bounds unwritable
      · -- The search for ordinary characters always has an answer.
        obtain ⟨q, hq, fails⟩ := wrong.search
        obtain rfl := Option.some.inj hq
        obtain ⟨found, same, -⟩ := search t
        cases same.symm.trans fails

/-- **A string schema with a pattern** is refused for the pattern, with its text and a problem; or is
made, and then checks every value unless a possessive repetition goes wrong, or the value or a bound cannot
be written; or is refused with another fault, for which there is a reason in the text of the pattern.  With a
pattern of ordinary characters it is made. -/
theorem ofPattern_outcome (release : Release) (minLength : Int) (maxLength : Option Int) (source : String) :
    ((∃ problem position, problem ≠ .tooDeep ∧ ofPattern release minLength maxLength (some source) =
      .error (.refusedPattern source problem position)) ∨
    (∃ s, ofPattern release minLength maxLength (some source) = .ok s ∧ ∀ v parent,
      (∃ node, (s.trace v parent).result = .ok node) ∨
        (HasPossessive source.toList ∧ (s.trace v parent).result = .error .reversedGroup) ∨
        (v.isWritable = false ∨ ¬CanWriteBounds minLength maxLength) ∧
          (s.trace v parent).result = .error .integerUnwritable) ∨
    ∃ f, ofPattern release minLength maxLength (some source) = .error f ∧ f.Escapes release source.toList) ∧
    ((∀ c ∈ source.toList, IsOrdinary c) → ∃ s, ofPattern release minLength maxLength (some source) = .ok s ∧
      s.LooksFor minLength maxLength source) := by
  refine ⟨?_, ofPattern_ordinary release minLength maxLength⟩
  cases hcompile : compile release source with
  | ok p =>
    let rule : StringRule := { minLength, maxLength, pattern := some p }
    refine .inr (.inl ⟨.string rule, by simp only [ofPattern, hcompile, rule], fun v parent => ?_⟩)
    cases hcheck : rule.check v parent with
    | ok node => exact .inl ⟨node, hcheck⟩
    | error f =>
      -- A check fails only at what it has to write or at the search.
      rcases (StringRule.check_eq_error_iff.mp hcheck).cases_search with
        ⟨rfl, unwritable⟩ | ⟨rfl, s, -, wrong⟩
      · exact .inr (.inr ⟨unwritable, hcheck⟩)
      · obtain ⟨q, hq, search⟩ := wrong.search
        obtain rfl := Option.some.inj hq
        exact .inr (.inl ⟨by_contra fun never => isFoundIn?_of_compile hcompile never s search, hcheck⟩)
  | error e =>
    -- Each problem but that of a malformed text has its cause in a part of the text.
    have due := isDue_of_compile hcompile
    cases e with
    | malformed problem position =>
      exact .inl ⟨problem, position, due, by simp only [ofPattern, hcompile]⟩
    | repetitionTooLong n =>
      obtain ⟨digits, count, rfl, long⟩ := due
      exact .inr (.inr ⟨_, by simp only [ofPattern, hcompile], .longCount count long⟩)
    | repetitionTooLarge =>
      obtain ⟨digits, count, short, large⟩ := due
      exact .inr (.inr ⟨_, by simp only [ofPattern, hcompile], .largeCount count short large⟩)
    | characterTooLarge =>
      obtain ⟨digits, character, large⟩ := due
      exact .inr (.inr ⟨_, by simp only [ofPattern, hcompile], .largeCharacter character large⟩)
    | twoAlphabets =>
      exact .inr (.inr ⟨_, by simp only [ofPattern, hcompile], .alphabets due.1 due.2⟩)
    | lookbehindTooWide =>
      exact .inr (.inr ⟨_, by simp only [ofPattern, hcompile], .wideLookbehind due.1 due.2⟩)

theorem ofPattern_outcome_hyphen : (∀ c ∈ "a-b".toList, IsOrdinary c) ∧
    ∃ s, ofPattern .early 2 none (some "a-b") = .ok s ∧ s.LooksFor 2 none "a-b" := by
  have ordinary : ∀ c ∈ "a-b".toList, IsOrdinary c := by simp [IsOrdinary]
  exact ⟨ordinary, (ofPattern_outcome .early 2 none "a-b").2 ordinary⟩

/-- A count that is too large is refused with another fault than that of an unusable pattern. -/
theorem ofPattern_large_count :
    (∀ release ∈ [Release.early, .late],
      ofPattern release 0 none (some "a{4294967295}") = .error .repetitionTooLarge) ∧
    Fault.repetitionTooLarge.kind = "OverflowError" := by
  have refused : ∀ release ∈ [Release.early, .late],
      (Pattern.read release "a{4294967295}".toList).map (fun _ => ()) =
        .error .repetitionTooLarge := by
    decide +kernel
  refine ⟨fun release known => ?_, rfl⟩
  have refused := refused release known
  cases h : Pattern.read release "a{4294967295}".toList with
  | error e =>
    rw [h] at refused
    cases refused
    simp only [ofPattern, compile, h]
  | ok program =>
    rw [h] at refused
    cases refused

end Schema

end Conform
