/-!
# Diagnostic paths

A path is a text of segments separated by dots.  A segment may itself hold a dot, so `segments` is
no inverse of `child`; what holds always is that joining the segments gives the path back.
-/
namespace Conform.Path

def separator : Char := '.'

/-- The segment that marks the step into an optional value. -/
def optionalMarker : List Char := ['?']

/-- The texts between the separators; there is one more than there are separators. -/
def segments : List Char → List (List Char)
  | [] => [[]]
  | c :: s =>
    if c = separator then [] :: segments s
    else
      match segments s with
      | [] => [[c]]
      | w :: ws => (c :: w) :: ws

/-- Segments with a separator between each two. -/
def join : List (List Char) → List Char
  | [] => []
  | [w] => w
  | w :: v :: ws => w ++ separator :: join (v :: ws)

/-- The path one segment below a path; below the empty path it is the segment alone. -/
def child (path segment : List Char) : List Char :=
  if path.isEmpty then segment else path ++ separator :: segment

/-- The path without the optional markers, as positions of a document are named. -/
def toDocument (path : List Char) : List Char :=
  if path.isEmpty then [] else join ((segments path).filter (· ≠ optionalMarker))

/-- The path cut before its last separator; empty if there is none. -/
def parent (path : List Char) : List Char :=
  ((path.reverse.dropWhile (· ≠ separator)).drop 1).reverse

theorem segments_ne_nil (s : List Char) : segments s ≠ [] := by
  cases s with
  | nil => simp [segments]
  | cons c s =>
    simp only [segments]
    split
    · simp
    · split <;> simp

theorem join_segments (s : List Char) : join (segments s) = s := by
  induction s with
  | nil => rfl
  | cons c s ih =>
    simp only [segments]
    cases h : segments s with
    | nil => exact absurd h (segments_ne_nil s)
    | cons w ws =>
      rw [h] at ih
      split
      · rename_i hc
        simp [join, hc, ih]
      · cases ws with
        | nil => simpa [join] using ih
        | cons v ws => simpa [join] using ih

theorem parent_length_lt {path : List Char} (h : path ≠ []) :
    (parent path).length < path.length := by
  have hpos : 0 < path.length := List.length_pos_iff.2 h
  have hle : (path.reverse.dropWhile (· ≠ separator)).length ≤ path.length := by
    have := (List.dropWhile_suffix (p := (· ≠ separator)) (l := path.reverse)).length_le
    simpa using this
  simp only [parent, List.length_reverse, List.length_drop]
  omega

end Conform.Path
