import Conform.Proofs.Node
import Conform.Schema.Trace
/-!
# The spelling of labels

A node and a source map each build a path by going down along labels, the one from the root and the
other from the empty path.  Both come to the labels with separators between them, except that empty
labels at the front leave no trace (`Path.foldl_child_nil`).  The markers that a check puts between the
labels do not show in a document, where the path of a node is spelled by the labels alone
(`Node.toDocument_foldl_child`).
-/
namespace Conform

namespace Path

theorem join_append_cons (v w : List Char) (ws : List (List Char)) :
    join ((v ++ separator :: w) :: ws) = join (v :: w :: ws) := by
  cases ws with
  | nil => rfl
  | cons u us => simp [join]

/-- Below a path that is not empty each label adds a separator and itself. -/
theorem foldl_child_of_ne_nil {path : List Char} (ne : path ≠ []) (ws : List (List Char)) :
    ws.foldl child path = join (path :: ws) := by
  induction ws generalizing path with
  | nil => rfl
  | cons w ws ih =>
    have step : child path w = path ++ separator :: w := if_neg (by simpa using ne)
    rw [List.foldl_cons, step, ih (by simp), join_append_cons]

/-- Below the empty path the labels are joined from the first one on that is not empty. -/
theorem foldl_child_nil (ws : List (List Char)) :
    ws.foldl child [] = join (ws.dropWhile (·.isEmpty)) := by
  induction ws with
  | nil => rfl
  | cons w ws ih =>
    have step : child [] w = w := rfl
    rw [List.foldl_cons, step]
    cases w with
    | nil => exact ih
    | cons c w => exact foldl_child_of_ne_nil (by simp) ws

/-- The path that spells labels is the text with a dot between each two. -/
theorem ofList_ofLabels (ls : List String) : String.ofList (ofLabels ls) = ".".intercalate ls := by
  induction ls with
  | nil => rfl
  | cons l ls ih =>
    cases ls with
    | nil => simp [ofLabels, join]
    | cons k ks =>
      have dot : (".").toList = [separator] := rfl
      rw [String.intercalate_cons_cons, ← ih, ← String.toList_inj]
      simp [ofLabels, join, dot]

/-- No label is lost if none is empty. -/
theorem AreSegments.dropWhile_empty {ls : List String} (h : AreSegments ls) :
    ls.dropWhile (· = "") = ls := by
  cases ls with
  | nil => rfl
  | cons l ls =>
    have ne : l ≠ "" := fun empty => (h l (List.mem_cons_self ..)).1 (by rw [empty]; rfl)
    exact List.dropWhile_cons_of_neg (by simpa using ne)

/-- The path that a source map comes to along labels, which it goes down from the empty path. -/
def along (ls : List String) : List Char := ls.foldl (fun path l => child path l.toList) []

theorem along_eq (ls : List String) : along ls = ofLabels (ls.dropWhile (· = "")) := by
  have empty : (fun w : List Char => w.isEmpty) ∘ String.toList = fun l => decide (l = "") := by
    funext l
    rw [Bool.eq_iff_iff]
    simp
  rw [along, ← List.foldl_map, foldl_child_nil, List.dropWhile_map, empty, ofLabels]

end Path

namespace Node

theorem pathText_foldl_child (n : Node) (ls : List String) : (ls.foldl child n).pathText.toList =
    ls.foldl (fun path l => Path.child path l.toList) n.pathText.toList := by
  induction ls generalizing n with
  | nil => rfl
  | cons l ls ih => rw [List.foldl_cons, ih, pathText_child, List.foldl_cons]

theorem pathText_foldl_child_root (ls : List String) :
    (ls.foldl child .root).pathText.toList = Path.along ls :=
  pathText_foldl_child .root ls

/-- In a document the path of a node is spelled by the labels that are no markers. -/
theorem toDocument_foldl_child {ls marked : List String} (labels : ∀ l ∈ ls, Path.IsLabel l.toList)
    (same : marked.filter (· ≠ Schema.optionalSegment) = ls) :
    Path.toDocument (marked.foldl child .root).pathText.toList = Path.ofLabels ls := by
  have segments : Path.AreSegments marked := by
    intro m hm
    by_cases marker : m = Schema.optionalSegment
    · subst marker
      decide
    · have isLabel := labels m (same ▸ List.mem_filter.mpr ⟨hm, by simpa using marker⟩)
      exact ⟨isLabel.ne_nil, isLabel.separator⟩
  have path : (marked.foldl child .root).pathText.toList = Path.ofLabels marked := by
    rw [pathText_foldl_child_root, Path.along_eq, segments.dropWhile_empty]
  have markers : (fun w => decide (w ≠ Path.optionalMarker)) ∘ String.toList =
      fun l => decide (l ≠ Schema.optionalSegment) := by
    funext l
    rw [Bool.eq_iff_iff]
    simp [Schema.optionalSegment, ← String.toList_inj]
  rw [path, Path.ofLabels, Path.toDocument_join segments.map, List.filter_map, markers, same,
    Path.ofLabels]

/-- **Nodes and source maps spell labels alike**: the labels from the first one on that is not empty,
with a dot between each two.  In a document the path of a node is spelled in the same way, whichever
markers stand between the labels, as long as each of these is a segment of its own and no marker. -/
theorem labels_spelled_alike (ls : List String) :
    (ls.foldl child .root).pathText.toList = Path.along ls ∧
    String.ofList (Path.along ls) = ".".intercalate (ls.dropWhile (· = "")) ∧
    ((∀ l ∈ ls, Path.IsLabel l.toList) →
      ∀ marked : List String, marked.filter (· ≠ Schema.optionalSegment) = ls →
        Path.toDocument (marked.foldl child .root).pathText.toList = Path.along ls) := by
  refine ⟨pathText_foldl_child_root ls, ?_, fun labels marked same => ?_⟩
  · rw [Path.along_eq, Path.ofList_ofLabels]
  · rw [toDocument_foldl_child labels same, Path.along_eq,
      (Path.AreSegments.of_isLabel labels).dropWhile_empty]

/-- Markers at the front, at the end and in a row. -/
theorem labels_spelled_alike_marked :
    (∀ l ∈ ["a", "b"], Path.IsLabel l.toList) ∧
    ["?", "a", "?", "?", "b", "?"].filter (· ≠ Schema.optionalSegment) = ["a", "b"] ∧
    Path.toDocument ((["?", "a", "?", "?", "b", "?"].foldl child .root).pathText.toList) =
      "a.b".toList := by
  have labels : ∀ l ∈ ["a", "b"], Path.IsLabel l.toList := by decide
  have same : ["?", "a", "?", "?", "b", "?"].filter (· ≠ Schema.optionalSegment) = ["a", "b"] := by
    decide
  exact ⟨labels, same, (labels_spelled_alike ["a", "b"]).2.2 labels _ same⟩

end Node

end Conform
