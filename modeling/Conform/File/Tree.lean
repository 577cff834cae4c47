import Conform.Entries
import Conform.File.Path
/-!
# Files

The files that a run sees: a tree below the working directory and one below the root.  A step
up from a directory leads to the directory that was gone through before, and no step leads on from a
file.  A symbolic link stands for what its target leads to: from its own directory, or from the root if
the target starts there.  A path that goes through too many links leads nowhere.
-/
namespace Conform

/-- A file, a directory, a symbolic link or something else that has a name. -/
inductive FileTree where
  | file (bytes : List UInt8)
  | directory (entries : List (String × FileTree))
  | link (target : FilePath)
  | device
deriving Inhabited

namespace FileTree

/-- What a directory holds under a name. -/
def child? (name : String) : FileTree → Option FileTree
  | directory es => (es.find? (·.1 == name)).map (·.2)
  | _ => none

/-- Whether steps lead on from here. -/
def isDirectory : FileTree → Bool
  | directory _ => true
  | _ => false

/-- What is reached by names from a place, given the directories above it and whether the outermost
one is the root, where a step up leads nowhere else.  `jump` goes on at a link: from the directory that it
is in, with its target and the names that are left. -/
def followWith (jump : Bool → List FileTree → FileTree → FilePath → List String → Option FileTree)
    (rooted : Bool) (above : List FileTree) (t : FileTree) : List String → Option FileTree
  | [] => some t
  | n :: ns =>
    if n = ".." then
      match t.isDirectory, above with
      | true, a :: above => followWith jump rooted above a ns
      | true, [] => if rooted then followWith jump rooted [] t ns else none
      | _, _ => none
    else
      match t.child? n with
      | none => none
      | some (link target) => jump rooted above t target ns
      | some c => followWith jump rooted (t :: above) c ns

/-- What is reached by names from a place, through as many links at most. -/
def follow? (root : FileTree) : Nat → Bool → List FileTree → FileTree → List String → Option FileTree
  | 0 => followWith fun _ _ _ _ _ => none
  | links + 1 => followWith fun rooted above t target ns =>
    if target.root = .here then follow? root links rooted above t (target.names ++ ns)
    else follow? root links true [] root (target.names ++ ns)

/-- The entries of a directory; nothing else has any. -/
def entries : FileTree → List (String × FileTree)
  | directory es => es
  | _ => []

/-- Changes what may be at a path; directories on the way are made. -/
def updateAt (f : Option FileTree → FileTree) : List String → Option FileTree → FileTree
  | [], t => f t
  | n :: ns, t =>
    let t := t.getD (directory [])
    directory (setEntry (· == ·) n (updateAt f ns (t.child? n)) t.entries)

/-- Changes what is at a path below a tree. -/
def update (f : Option FileTree → FileTree) (names : List String) (t : FileTree) : FileTree :=
  updateAt f names (some t)

/-- Takes away what is at a path. -/
def remove : List String → FileTree → FileTree
  | [n], directory es => directory (es.filter (·.1 != n))
  | n :: ns, directory es =>
    match (directory es).child? n with
    | some c => directory (setEntry (· == ·) n (remove ns c) es)
    | none => directory es
  | _, t => t

mutual

/-- The paths of everything below a place whose path is given. -/
def contents (path : FilePath) : FileTree → List FilePath
  | directory es => contentsOf path es
  | _ => []

/-- The paths of entries and of everything below them. -/
def contentsOf (path : FilePath) : List (String × FileTree) → List FilePath
  | [] => []
  | (n, t) :: es => path.below n :: (contents (path.below n) t ++ contentsOf path es)

end

end FileTree

/-- What is known above the working directory at least: a device without content. -/
def FileTree.devices : FileTree := .directory [("dev", .directory [("null", .device)])]

/-- The files that a run sees, below the working directory and below the root. -/
structure Files where
  here : FileTree := .directory []
  top : FileTree := .devices
deriving Inhabited

namespace Files

/-- The tree that a path starts from. -/
def start (fs : Files) (p : FilePath) : FileTree := if p.root = .here then fs.here else fs.top

/-- The number of links that a path may go through. -/
def linkLimit : Nat := 40

/-- What is at a path, through all links. -/
def find? (fs : Files) (p : FilePath) : Option FileTree :=
  FileTree.follow? fs.top linkLimit (p.root ≠ .here) [] (fs.start p) p.names

/-- Changes the tree that a path starts from. -/
def modify (fs : Files) (p : FilePath) (f : FileTree → FileTree) : Files :=
  if p.root = .here then { fs with here := f fs.here } else { fs with top := f fs.top }

/-- Puts a tree at a path, in place of what is there; directories on the way are made. -/
def put (fs : Files) (p : FilePath) (t : FileTree) : Files :=
  fs.modify p fun tree => tree.update (fun _ => t) p.names

/-- Writes a file; directories on the way are made. -/
def write (fs : Files) (p : FilePath) (bytes : List UInt8) : Files := fs.put p (.file bytes)

/-- Makes a symbolic link; directories on the way are made. -/
def makeLink (fs : Files) (p target : FilePath) : Files := fs.put p (.link target)

def makeDirectory (fs : Files) (p : FilePath) : Files :=
  fs.modify p fun tree =>
    tree.update (fun t => .directory ((t.map FileTree.entries).getD [])) p.names

def remove (fs : Files) (p : FilePath) : Files := fs.modify p (FileTree.remove p.names)

end Files

end Conform
