/-!
# What a match remembers

A match marks where each group starts and ends.  A mark that no step has set since the group before
it was marked is missing, and so are all marks beyond the last one that is known.

Beside the marks a match remembers its cursor, the place that the latest step went to.  It is where
a body that has been matched ended, and where a body that keeps no way back goes on.  Failing does
not undo what is remembered: a step that tries something else says what it takes back.
-/
namespace Conform.Pattern

/-- The marks that are known and the cursor.  Marks `2 * g - 2` and `2 * g - 1` are those of the
group `g`. -/
structure Memory where
  marks : List (Option Nat) := []
  cursor : Nat := 0
deriving DecidableEq, Repr, Inhabited

namespace Memory

def moveTo (m : Memory) (place : Nat) : Memory := { m with cursor := place }

/-- Sets a mark.  Marks between the last one known and a new one are missing. -/
def mark (m : Memory) (i place : Nat) : Memory :=
  let known := m.marks ++ List.replicate (i + 1 - m.marks.length) none
  { m with marks := known.set i (some place) }

/-- Forgets the marks that were not known before. -/
def lower (m before : Memory) : Memory := { m with marks := m.marks.take before.marks.length }

/-- Takes back the marks as they were before. -/
def restore (m before : Memory) : Memory := { m with marks := before.marks }

/-- Takes back the marks after a failure: inside a repetition as they were, elsewhere as far as they
were not known. -/
def takeBack (m before : Memory) (repeating : Bool) : Memory :=
  if repeating then m.restore before else m.lower before

/-- Start and end of a group. -/
def span? (m : Memory) (group : Nat) : Option (Nat × Nat) :=
  match m.marks[2 * group - 2]?.join, m.marks[2 * group - 1]?.join with
  | some first, some last => some (first, last)
  | _, _ => none

/-- Start and end of a group that does not end before it starts. -/
def group? (m : Memory) (group : Nat) : Option (Nat × Nat) :=
  (m.span? group).filter fun s => s.1 ≤ s.2

/-- Whether some group ends before it starts. -/
def hasReversed (m : Memory) : Bool :=
  (List.range (m.marks.length / 2)).any fun i => (m.span? (i + 1)).any fun s => s.2 < s.1

end Memory

/-- Something that may fail; what it remembers it keeps also if it fails. -/
abbrev Attempt := Memory → Bool × Memory

/-- What is to be matched from a place on. -/
abbrev Continuation := Nat → Attempt

namespace Attempt

/-- Succeeds if a condition holds. -/
def when (condition : Bool) : Attempt := fun m => (condition, m)

def fail : Attempt := when false

/-- Tries something, and something else if it fails. -/
def orElse (first : Attempt) (second : Memory → Bool × Memory) : Attempt := fun m =>
  match first m with
  | (true, n) => (true, n)
  | (false, n) => second n

/-- Tries something with the cursor at a place, to which it goes back on failure. -/
def around (place : Nat) (attempt : Attempt) : Attempt := fun m =>
  (attempt.orElse fun n => (false, n.moveTo place)) (m.moveTo place)

end Attempt

/-- Ends a match, or the match of a body that is looked at by itself. -/
def stop : Continuation := fun place m => (true, m.moveTo place)

end Conform.Pattern
