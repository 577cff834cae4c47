import Conform.Pattern.Reader
import Conform.Pattern.Match
/-!
# Compiled patterns

A pattern keeps the text it was written as, by which two patterns are told apart, beside its syntax
tree.  `isFoundIn?` looks for a match anywhere in a text; there is no answer if a group of the match
ends before it starts.
-/
namespace Conform

/-- A pattern that can be searched for. -/
structure Pattern where
  source : String
  program : Pattern.Program

namespace Pattern

def compile (release : Release) (source : String) : Except Refusal Pattern :=
  match read release source.toList with
  | .ok program => .ok ⟨source, program⟩
  | .error e => .error e

/-- What the first match in a text remembers. -/
def search (p : Pattern) (s : String) : Option Memory :=
  Subject.search ⟨s.toList.toArray, p.program.widths⟩ p.program.flags p.program.body

/-- Whether the pattern matches somewhere in a text. -/
def isFoundIn? (p : Pattern) (s : String) : Option Bool :=
  match p.search s with
  | some m => if m.hasReversed then none else some true
  | none => some false

theorem compile_source {release : Release} {source : String} {p : Pattern}
    (h : compile release source = .ok p) :
    p.source = source := by
  unfold compile at h
  split at h
  · cases h; rfl
  · cases h

end Pattern

end Conform
