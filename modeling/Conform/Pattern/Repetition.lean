import Conform.Pattern.Lead
import Conform.Pattern.Memory
/-!
# Repetitions

How often a body is tried, and in which order.  A body of one character is counted; any other body
is an attempt with a continuation.

A repetition goes on only from an iteration that went forward in the text, which is why it ends.
-/
namespace Conform.Pattern

/-- One fewer of a number of further iterations, if it is bounded. -/
def fewer (left : Option Nat) : Option Nat := left.map (· - 1)

/-! ### Bodies of one character -/

def codeAt? (text : Array Char) (place : Nat) : Option Nat := text[place]?.map Text.code

/-- How many characters from a place on fit, up to a limit and to the end of the text. -/
def countFrom (text : Array Char) (c : Single) (place : Nat) : Nat → Nat
  | 0 => 0
  | n + 1 =>
    if (codeAt? text place).any c.admits then countFrom text c (place + 1) n + 1 else 0

/-- How many characters from a place on fit, up to a bound. -/
def Single.count (c : Single) (text : Array Char) (most : Option Nat) (place : Nat) : Nat :=
  let left := text.size - place
  countFrom text c place ((most.map (min left)).getD left)

/-- Where the cursor is after counting from a place. -/
def Single.counted (c : Single) (place n : Nat) (m : Memory) : Memory :=
  m.moveTo (if c.moves then place + n else place)

/-- Tries what follows at a place, and takes the marks back if it fails. -/
def attemptAt (repeating : Bool) (k : Continuation) (place : Nat) : Attempt := fun m =>
  match k place (m.moveTo place) with
  | (true, n) => (true, n)
  | (false, n) => (false, n.takeBack m repeating)

/-- Tries what follows after `extra` characters from a place on, then after fewer.  Places where the
text after the repetition cannot begin are passed over. -/
def descend (text : Array Char) (repeating : Bool) (next : Lead) (place : Nat) (k : Continuation) :
    Nat → Attempt
  | 0 => here 0
  | extra + 1 => (here (extra + 1)).orElse (descend text repeating next place k extra)
where
  here (extra : Nat) : Attempt :=
    if next.admits (codeAt? text (place + extra)) then attemptAt repeating k (place + extra)
    else Attempt.fail

/-- Tries what follows, then one character more, up to a number of further characters. -/
def Single.ascend (c : Single) (text : Array Char) (repeating : Bool) (k : Continuation)
    (left place : Nat) : Attempt :=
  (attemptAt repeating k place).orElse fun m =>
    let fits := c.count text (some 1) place
    let m := c.counted place fits m
    match fits, left with
    | 0, _ => (false, m)
    | _, 0 => (false, m)
    | _, left + 1 => c.ascend text repeating k left (place + 1) m

def Single.repeated (c : Single) (text : Array Char) (repeating : Bool) (next : Lead) (mode : Mode)
    (least : Nat) (most : Option Nat) (place : Nat) (k : Continuation) : Attempt := fun m =>
  if text.size - place < least then (false, m)
  else
    let m := m.moveTo place
    match mode with
    | .greedy =>
      let n := c.count text most place
      let m := c.counted place n m
      if n < least then (false, m)
      else descend text repeating next.onlyChar (place + least) k (n - least) m
    | .possessive =>
      let n := c.count text most place
      let m := c.counted place n m
      if n < least then (false, m) else k (place + n) m
    | .lazy =>
      let n := if least = 0 then 0 else c.count text (some least) place
      let m := if least = 0 then m else c.counted place n m
      if n < least then (false, m)
      else
        let left := (most.map (· - least)).getD (text.size - (place + least))
        c.ascend text repeating k left (place + least) m

/-! ### Other bodies -/

/-- A body with what is to be matched after it. -/
abbrev Body := Nat → Continuation → Attempt

/-- Tries a body a fixed number of times. -/
def required (body : Body) (k : Continuation) : Nat → Continuation
  | 0, place => k place
  | n + 1, place => Attempt.around place (body place (required body k n))

/-- Tries as many further iterations as possible first. -/
def greedily (body : Body) (size : Nat) (k : Continuation) (left : Option Nat) (place : Nat) :
    Attempt := fun m =>
  let tail (here : Nat) : Attempt := Attempt.around here (k here)
  let m := m.moveTo place
  if left = some 0 then tail place m
  else
    let iteration : Attempt := body place fun here =>
      if _ : place < here ∧ here ≤ size then greedily body size k (fewer left) here
      else tail here
    iteration.orElse (fun n => tail place (n.restore m)) m
termination_by size - place

/-- Tries what follows at a place, to which the cursor goes back if it fails. -/
def settle (repeating : Bool) (k : Continuation) (place : Nat) : Attempt :=
  Attempt.around place (attemptAt repeating k place)

/-- Tries as few further iterations as possible first. -/
def lazily (body : Body) (size : Nat) (repeating : Bool) (k : Continuation) (left : Option Nat)
    (place : Nat) : Attempt :=
  (settle repeating k place).orElse fun m =>
    if left = some 0 then (false, m)
    else
      Attempt.around place (body place fun here =>
        if _ : place < here ∧ here ≤ size then lazily body size repeating k (fewer left) here
        else settle repeating k here) m
termination_by size - place

/-- Matches a body a fixed number of times from the cursor on, each time in the first way. -/
def settled (body : Body) : Nat → Attempt
  | 0, m => (true, m)
  | n + 1, m =>
    match body m.cursor stop m with
    | (true, m) => settled body n m
    | (false, m) => (false, m)

/-- Matches a body as often as possible from the cursor on, each time in the first way.  The
iteration that fails leaves the cursor where it came to. -/
def possessively (body : Body) (size : Nat) (left : Option Nat) (m : Memory) : Memory :=
  if left = some 0 then m
  else
    match body m.cursor stop m with
    | (true, n) =>
      if _ : m.cursor < n.cursor ∧ n.cursor ≤ size then possessively body size (fewer left) n
      else n
    | (false, n) => n.restore m
termination_by size - m.cursor

def repeatBody (body : Body) (size : Nat) (repeating : Bool) (mode : Mode) (least : Nat)
    (most : Option Nat) (place : Nat) (k : Continuation) : Attempt :=
  let left := most.map (· - least)
  match mode with
  | .greedy => required body (greedily body size k left) least place
  | .lazy => required body (lazily body size repeating k left) least place
  | .possessive => fun m =>
    match settled body least (m.moveTo place) with
    | (true, n) =>
      let n := possessively body size left n
      k n.cursor n
    | (false, n) => (false, n.moveTo place)

end Conform.Pattern
