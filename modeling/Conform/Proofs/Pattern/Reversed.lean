import Conform.Pattern.Match
import Conform.Proofs.Pattern.Repeating
/-!
# Without possessive repetitions no group of a match ends before it starts

Each piece keeps the groups in order, by induction on the pattern.  A search starts without marks, and
so finds them in order if it finds a match.
-/
namespace Conform.Pattern

open Memory

variable {f : Features} {r : Frame}

namespace Subject

mutual

theorem matches_piece (s : Subject) (f : Features) (never : ¬f.possessive) {r : Frame} :
    (p : Piece) → {low high : Nat} → (here : Setting) → here.repeating = r.repeating → 1 ≤ low →
      p.Lies f low high → r.Holds low high → Matches r low high (s.matchPiece here p)
  | .char n, low, high, here, rep, _, lies, _ => by
    simp only [matchPiece]
    exact s.matches_step _ lies
  | .notChar n, low, high, here, rep, _, lies, _ => by
    simp only [matchPiece]
    exact s.matches_step _ lies
  | .any, low, high, here, rep, _, lies, _ => by
    simp only [matchPiece]
    exact s.matches_step _ lies
  | .charSet negated items, low, high, here, rep, _, lies, _ => by
    simp only [matchPiece]
    exact s.matches_step _ lies
  | .anchor a, low, high, here, rep, _, lies, _ => by
    intro o outer success ref place k continues m sound
    simp only [matchPiece]
    split
    · exact matches_nothing lies o outer success ref place k continues m sound
    · exact ends_false.mpr sound.agrees
  | .backref g, low, high, here, rep, _, lies, _ => by
    intro o outer success ref place k continues m sound
    have room := sound.mono (Frame.ceiling_mono (r := r) lies) le_rfl
    simp only [matchPiece]
    split
    · split
      · exact continues.go lies room (Nat.le_add_right ..)
      · exact ends_false.mpr sound.agrees
    · exact ends_false.mpr sound.agrees
  | .group none set clear body, low, high, here, rep, one, lies, holds => by
    simp only [matchPiece]
    exact s.matches_all f never body _ rep one lies holds
  | .group (some g) set clear body, low, high, here, rep, one, lies, holds => by
    simp only [matchPiece]
    obtain ⟨le, lies⟩ := lies
    let inner : Setting := { here with flags := here.flags.within set clear, next := .unknown }
    exact (s.matches_all f never body inner rep (one.trans (Nat.le_succ_of_le le)) lies
      (holds.mono (Nat.le_succ_of_le le) le_rfl)).group (one.trans le) le lies.le holds
  | .atomic body, low, high, here, rep, one, lies, holds => by
    simp only [matchPiece]
    exact (s.matches_all f never body { here with next := .unknown } rep one lies holds).atomic
      (AllLie.le lies)
  | .look behind negated body, low, high, here, rep, one, lies, holds => by
    simp only [matchPiece]
    rw [rep]
    let inner : Setting := { flags := here.flags, repeating := r.repeating }
    exact (s.matches_all f never body inner rfl one lies.2 holds).look lies.2.le negated
      fun _ => if behind then (widthOf s.widths body).least else 0
  | .branch alternatives, low, high, here, rep, one, lies, holds => by
    simp only [matchPiece]
    exact s.matches_any f never alternatives _ rep one lies holds
  | .conditional g yes no, low, high, here, rep, one, ⟨mid, hyes, hno⟩, holds => by
    simp only [matchPiece]
    let first : Setting := { here with next := if no.isEmpty then here.next else .unknown }
    exact ((s.matches_all f never yes first rep one hyes (holds.mono le_rfl hno.le)).mono le_rfl
      hno.le).ite ((s.matches_all f never no here rep (one.trans hyes.le) hno
        (holds.mono hyes.le le_rfl)).mono hyes.le le_rfl) fun m => (m.group? g).isSome
  | .repeated mode least most body, low, high, here, rep, one, ⟨hmode, lies⟩, holds => by
    simp only [matchPiece]
    have reconsiders : mode ≠ .possessive := fun same => never (hmode same)
    -- A body of one character holds no groups; any other one is inside a repetition from here on.
    split
    · rw [rep]
      exact Single.matches_repeated _ _ _ least most lies.le reconsiders
    · rw [rep]
      refine matches_repeatBody (s.matches_all f never body _ ?_ one lies holds.inside) lies.le
        s.size least most reconsiders
      simp [Frame.inside, reconsiders]

theorem matches_all (s : Subject) (f : Features) (never : ¬f.possessive) {r : Frame} :
    (ps : List Piece) → {low high : Nat} → (here : Setting) → here.repeating = r.repeating →
      1 ≤ low → AllLie f ps low high → r.Holds low high → Matches r low high (s.matchAll here ps)
  | [], low, high, here, _, _, le, _ => by
    simp only [matchAll]
    exact matches_nothing le
  | p :: ps, low, high, here, rep, one, ⟨mid, first, rest⟩, holds => by
    simp only [matchAll]
    let first' : Setting := { here with next := leadOf here.flags here.next ps }
    exact (s.matches_piece f never p first' rep one first (holds.mono le_rfl rest.le)).seq
      (s.matches_all f never ps here rep (one.trans first.le) rest (holds.mono first.le le_rfl))
      first.le

theorem matches_any (s : Subject) (f : Features) (never : ¬f.possessive) {r : Frame} :
    (alternatives : List (List Piece)) → {low high : Nat} → (here : Setting) →
      here.repeating = r.repeating → 1 ≤ low → AnyLie f alternatives low high →
      r.Holds low high → Matches r low high (s.matchAny here alternatives)
  | [], low, high, here, _, _, _, _ => by
    simp only [matchAny]
    exact matches_fail
  | ps :: rest, low, high, here, rep, one, ⟨mid, hfirst, hrest⟩, holds => by
    simp only [matchAny]
    rw [rep]
    exact ((s.matches_all f never ps here rep one hfirst (holds.mono le_rfl hrest.le)).mono le_rfl
      hrest.le).orElse ((s.matches_any f never rest here rep (one.trans hfirst.le) hrest
        (holds.mono hfirst.le le_rfl)).mono hfirst.le le_rfl) _

end

/-- What a search finds has its groups in order. -/
theorem isInOrder_of_searchFrom {s : Subject} {flags : Flags} {body : List Piece} {high : Nat}
    {m : Memory} (never : ¬f.possessive) (lies : AllLie f body 1 high) (n place : Nat)
    (found : s.searchFrom flags body place n = some m) : m.IsInOrder [] := by
  -- Nothing is open, and no marks are known that would have to stay.
  let r : Frame := ⟨false, 0, 0⟩
  have body : Matches r 1 high (s.matchAll { flags } body) :=
    s.matches_all f never body { flags } rfl le_rfl lies ⟨nofun, nofun⟩
  induction n generalizing place with
  | zero => cases found
  | succ n ih =>
    have sound : IsSound [] (r.ceiling 1) (r.floor 1) (Memory.at? { cursor := place })
        { cursor := place } :=
      ⟨⟨nofun, nofun, nofun⟩, Nat.zero_le _, .refl [] _ _⟩
    have ends := body.alone (List.forall_mem_nil _) place sound
    rw [searchFrom] at found
    split at found
    · rename_i same
      rw [same] at ends
      obtain rfl := Option.some.inj found
      exact (ends_true.mp ends).1.order
    · exact ih (place + 1) found

end Subject

/-- No group ends before it starts if none is open and the marks are in order. -/
theorem Memory.IsInOrder.hasReversed {m : Memory} (h : m.IsInOrder []) : m.hasReversed = false := by
  simp only [Memory.hasReversed, List.any_eq_false, List.mem_range, Option.any_eq_true,
    decide_eq_true_eq, not_exists, not_and, not_lt]
  intro i _ span hspan
  obtain ⟨first, last⟩ := (m.span?_eq_some_iff).mp hspan
  exact h.closed (i + 1) (Nat.succ_pos i) (List.forall_mem_nil _) _ _ first last

/-- No search finds a group that ends before it starts, unless for a possessive repetition. -/
theorem Subject.hasReversed_of_search {s : Subject} {flags : Flags} {body : List Piece}
    {high : Nat} {m : Memory} (never : ¬f.possessive) (lies : AllLie f body 1 high)
    (found : s.search flags body = some m) : m.hasReversed = false :=
  (isInOrder_of_searchFrom never lies _ 0 found).hasReversed

end Conform.Pattern
