import Conform.File.Tree
import Conform.Log.Basic
/-!
# Searching for instance files

A file that is named itself counts by its suffix, what lies in a directory by how its name ends; so a
file whose name is a suffix alone is found in a directory only, and so is a directory or a broken link that
is named like a file.  Links to directories are followed where they are named, not where they lie in a
directory.  What is found is listed once, in the order of the names on its path.
-/
namespace Conform

namespace Files

def searchLogger : String := "schematize.checker.run_check"

def instanceSuffixes : List String := [".yaml", ".yml", ".json"]

/-- Whether a file that is named itself is taken for an instance. -/
def hasInstanceSuffix (p : FilePath) : Bool := instanceSuffixes.contains p.suffix

/-- Whether something in a directory is taken for an instance. -/
def endsLikeInstance (p : FilePath) : Bool :=
  instanceSuffixes.any fun s => s.toList.isSuffixOf p.name.toList

/-- The instances that an argument stands for; an argument that stands for none is noted. -/
def instancesAt (fs : Files) (p : FilePath) : Logged (List FilePath) :=
  let note (m : String) : Logged (List FilePath) :=
    .after (Log.warning searchLogger (m ++ ": " ++ p.text)) []
  match fs.find? p with
  | none => note "Path does not exist"
  | some (.file _) =>
    if hasInstanceSuffix p then .silent [p] else note "File is not a YAML or JSON document"
  | some (.directory es) => .silent ((FileTree.contentsOf p es).filter endsLikeInstance)
  | some _ => note "Path is neither file nor directory"

/-- Puts a path into a list that is in order, unless it is there. -/
def insertPath (p : FilePath) : List FilePath → List FilePath
  | [] => [p]
  | q :: qs =>
    if p.parts < q.parts then p :: q :: qs
    else if q.parts < p.parts then q :: insertPath p qs
    else q :: qs

/-- Paths in order, each once. -/
def inOrder (ps : List FilePath) : List FilePath := ps.foldr insertPath []

/-- The instances that arguments stand for. -/
def search (fs : Files) (arguments : List FilePath) : Logged (List FilePath) :=
  let found := arguments.map fs.instancesAt
  ⟨found.flatMap (·.log), inOrder (found.flatMap (·.outcome))⟩

end Files

end Conform
