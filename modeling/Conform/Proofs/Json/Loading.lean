import Conform.Proofs.Json.Reading
import Conform.Proofs.Source.Kept
/-!
# Loading JSON texts

A portable text is loaded as the value that it stands for (`ofText_of_isPortable`): its tokens are those of its
tree, they are read as a plain document, and nothing is changed in this document while it is loaded.

A number with an exponent is portable only if it has a fraction and the exponent a sign.  Other ones are
taken for texts.
-/
namespace Conform

open Yaml

namespace Yaml

/-- A document that stands for a value is loaded as this value. -/
theorem load_of_standsFor {text : List Char} {d : Tree} {v : Value}
    (composed : Tree.ofText text = .ok (some d)) (h : d.StandsFor v) : load text = .ok v := by
  have plain : d.Plain := ⟨h.isPlain, Tree.nodup_ids_of_ofText composed⟩
  rw [load, composed]
  exact Tree.instance?_of_plainValue? ⟨plain, h.noDefaults, h.value⟩

end Yaml

namespace JsonText

/-- **A portable text is loaded as its value.**  Names are texts, of members with one name the last
counts, and the numbers, words and escapes are those of the grammar. -/
theorem ofText_of_isPortable {t : JsonText} (portable : t.isPortable = true) :
    ∃ m, ∀ syntaxError origin, Document.ofText syntaxError origin t.chars = .ok ⟨t.value, m⟩ := by
  obtain ⟨d, composed, stands⟩ := Tree.exists_ofText portable
  have loaded : load t.chars = .ok t.value := load_of_standsFor composed stands
  obtain ⟨-, -, document⟩ := ofText_of_loaded composed stands.isPlain loaded stands.written
  exact ⟨d.spotMap, document⟩

/-- The later one of two members with the name `a` counts, and an escape is decoded. -/
theorem ofText_of_isPortable_object : ∃ t : JsonText, t.isPortable = true ∧
    t.chars = "\x7b\"a\": [1, -2.5E+3],\r\n \"b\":null, \"a\" : \"\\u00e9\\n\"\x7d\n".toList ∧
    t.value = .map [(.str "a", .str "é\n"), (.str "b", .null)] ∧
    ∃ m, ∀ syntaxError origin, Document.ofText syntaxError origin t.chars = .ok ⟨t.value, m⟩ := by
  let name (c : Char) (h : isUnescaped c = true) : List Piece := [.plain c h]
  let numbers : Items :=
    .cons [] (.number ⟨false, .nonzero 0 [], none, none⟩) []
      (.last [.space] (.number ⟨true, .nonzero 1 [], some ⟨5, []⟩,
        some ⟨true, some false, ⟨3, []⟩⟩⟩) [])
  let zero : HexDigit := ⟨0, false⟩
  let text : List Piece := [.unit ⟨zero, zero, ⟨14, false⟩, ⟨9, false⟩⟩, .short .lineFeed]
  let t : JsonText := ⟨[], .object
    (.cons [] (name 'a' (by decide)) [] [.space] (.array numbers) []
      (.cons [.carriageReturn, .lineFeed, .space] (name 'b' (by decide)) [] [] (.word .null) []
        (.last [.space] (name 'a' (by decide)) [.space] [.space] (.string text) []))), [.lineFeed]⟩
  have portable : t.isPortable = true := by decide
  have decoded : content text = "é\n" := by decide
  have value : t.value = .map [(.str "a", .str "é\n"), (.str "b", .null)] := by
    have same : Value.sameKey (.str "a") (.str "a") = true := by decide +kernel
    have other : Value.sameKey (.str "b") (.str "a") = false := by decide +kernel
    rw [← decoded]
    change Value.mapOf [(.str "a", (Element.array numbers).value), (.str "b", .null),
      (.str "a", .str (content text))] = _
    simp [Value.mapOf, Value.entriesOf, setEntry, same, other]
  exact ⟨t, portable, by decide, value, ofText_of_isPortable portable⟩

/-- A number with an exponent and no fraction is loaded as a text. -/
theorem exponent_loaded_as_text : ∃ t : JsonText, t.chars = "1e5".toList ∧
    t.value = .float (NumberText.nearestDecimal false 1 5) ∧
    (∃ m, ∀ syntaxError origin, Document.ofText syntaxError origin t.chars = .ok ⟨.str "1e5", m⟩) ∧
    ¬∃ m syntaxError origin, Document.ofText syntaxError origin t.chars = .ok ⟨t.value, m⟩ := by
  let t : JsonText := ⟨[], .number ⟨false, .nonzero 0 [], none, some ⟨false, none, ⟨5, []⟩⟩⟩, []⟩
  have text : t.chars = "1e5".toList := by decide
  have composed : ∃ d, Tree.ofText "1e5".toList = .ok (some d) ∧ d.isPlain = true ∧
      d.HasNoDefaults ∧ (∀ t ∈ d.nodes, ∀ k ∈ t.keyValues, k.isWritable = true) ∧
      d.plainValue?.any (Value.builtLike (.str "1e5")) = true := by
    unfold Tree.HasNoDefaults
    apply Tree.exists_of_any
    decide +kernel
  obtain ⟨d, composed, plain, noDefaults, written, value⟩ := composed
  have stands : d.StandsFor (.str "1e5") :=
    ⟨plain, noDefaults, written, Value.eq_some_of_builtLike value⟩
  obtain ⟨-, -, document⟩ :=
    ofText_of_loaded composed plain (load_of_standsFor composed stands) written
  rw [← text] at document
  refine ⟨t, text, rfl, ⟨_, document⟩, ?_⟩
  rintro ⟨m, syntaxError, origin, number⟩
  rw [document] at number
  cases number

end JsonText

end Conform
