import Conform.Source.Map
import Conform.Text.Utf8
import Conform.File.Path
/-!
# Documents

A document is an instance together with the positions of its parts.  Both are drawn from the same
text, each on its own.
-/
namespace Conform

/-- An instance and where its parts start. -/
structure Document where
  content : Value
  sourceMap : SourceMap
deriving Inhabited

namespace Document

/-- The document of a text.  Where the text is malformed, `origin` names it and `syntaxError` says
what is wrong with it, in words that may take several lines.  A scalar that cannot be what its tag
says is a fault of its own. -/
def ofText (syntaxError : List Char → String) (origin : String) (text : List Char) :
    Except Fault Document :=
  match Yaml.load text with
  | .error .malformed =>
    .error (.loading s!"Failed to parse instance document {origin}: {syntaxError text}")
  | .error (.fault f) => .error f
  | .ok v => (SourceMap.ofText text).map fun m => ⟨v, m⟩

def ofBytes (syntaxError : List Char → String) (path : FilePath) (bytes : List UInt8) :
    Except Fault Document :=
  match Text.decodeUtf8 bytes with
  | .error e => .error (.loading s!"Failed to read instance file {path.text}: {e.message}")
  | .ok text => ofText syntaxError path.text (Text.normaliseBreaks text)

end Document

end Conform
