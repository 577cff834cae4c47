import Conform.Document
import Conform.File.Tree
import Conform.Log.Basic
/-!
# Loading documents

A loader reads documents from files and, if caching is on, keeps each document under its path until
it is told to forget.  Whether there is a file at the path is looked up every time; what is in the
file only when the path is not known.  Failing to read leaves the cache as it is.
-/
namespace Conform

/-- A loader with what it has kept, and with the words for what is wrong with a malformed text. -/
structure Loader where
  syntaxError : List Char → String
  caching : Bool := true
  cache : List (FilePath × Document) := []

def Files.bytesAt (fs : Files) (p : FilePath) : Except Fault (List UInt8) :=
  match fs.find? p with
  | none => .error (.loading s!"Instance file not found: {p.text}")
  | some (.file bytes) => .ok bytes
  | some _ => .error (.loading s!"Path is not a file: {p.text}")

namespace Loader

def logger : String := "schematize.parsing.instance_loader"

def kept? (l : Loader) (p : FilePath) : Option Document :=
  if l.caching then (l.cache.find? (·.1 == p)).map (·.2) else none

def keep (l : Loader) (p : FilePath) (d : Document) : Loader :=
  if l.caching then { l with cache := (p, d) :: l.cache } else l

def load (fs : Files) (p : FilePath) (l : Loader) : Logged (Loader × Except Fault Document) :=
  match fs.bytesAt p with
  | .error f => .silent (l, .error f)
  | .ok bytes =>
    match l.kept? p with
    | some d => .after (Log.debug logger s!"Loading instance from cache: {p.text}") (l, .ok d)
    | none =>
      .after (Log.debug logger s!"Loading instance file: {p.text}")
        (match Document.ofBytes l.syntaxError p bytes with
          | .ok d => (l.keep p d, .ok d)
          | .error f => (l, .error f))

def loadInstance (fs : Files) (p : FilePath) (l : Loader) :
    Logged (Loader × Except Fault Value) := do
  let (l, loaded) ← l.load fs p
  return (l, loaded.map (·.content))

/-- Forgets every document. -/
def clear (l : Loader) : Logged Loader :=
  .after (Log.debug logger "Instance loader cache cleared") { l with cache := [] }

theorem kept?_keep_self {l : Loader} (h : l.caching = true) (p : FilePath) (d : Document) :
    (l.keep p d).kept? p = some d := by
  simp [kept?, keep, h]

theorem kept?_keep_of_ne (l : Loader) {p q : FilePath} (h : q ≠ p) (d : Document) :
    (l.keep p d).kept? q = l.kept? q := by
  unfold keep kept?
  split <;> simp_all [Ne.symm h]

end Loader

end Conform
