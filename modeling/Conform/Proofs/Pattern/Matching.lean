import Conform.Proofs.Pattern.Marks
/-!
# Matching keeps groups in order

A piece is matched at a place with a continuation.  If the continuation can be trusted with every memory
whose marks are in order, then so can the match of the piece (`Matches`): if it succeeds, it has done so
through the continuation, and if it fails, the marks that it leaves below the groups of the piece are
those that it found.
-/
namespace Conform.Pattern

open Memory

/-- Where pieces are matched: whether inside a repetition, and the bounds of the marks of its groups. -/
structure Frame where
  repeating : Bool
  base : Nat
  top : Nat

namespace Frame

/-- The marks below which nothing changes while pieces are matched whose groups are numbered from a
number on. -/
def floor (r : Frame) (low : Nat) : Nat := if r.repeating then r.base else 2 * low - 2

/-- The number of marks that may be known before pieces are matched whose groups are numbered from a
number on. -/
def ceiling (r : Frame) (low : Nat) : Nat := if r.repeating then r.top else 2 * low - 2

/-- Whether the groups between two numbers have their marks in the bounds. -/
structure Holds (r : Frame) (low high : Nat) : Prop where
  base : r.repeating = true → r.base ≤ 2 * low - 2
  top : r.repeating = true → 2 * high - 2 ≤ r.top

variable {r : Frame} {low mid high low' high' : Nat}

theorem floor_mono (h : low ≤ high) : r.floor low ≤ r.floor high := by
  unfold floor
  split <;> omega

theorem ceiling_mono (h : low ≤ high) : r.ceiling low ≤ r.ceiling high := by
  unfold ceiling
  split <;> omega

theorem Holds.mono (h : r.Holds low high) (hl : low ≤ low') (hh : high' ≤ high) :
    r.Holds low' high' :=
  ⟨fun rep => (h.base rep).trans (by omega), fun rep => (by omega : _ ≤ _).trans (h.top rep)⟩

theorem Holds.floor_le (h : r.Holds low high) : r.floor low ≤ 2 * low - 2 := by
  unfold floor
  split
  · rename_i rep
    exact h.base rep
  · exact le_rfl

theorem Holds.le_ceiling (h : r.Holds low high) : 2 * high - 2 ≤ r.ceiling high := by
  unfold ceiling
  split
  · rename_i rep
    exact h.top rep
  · exact le_rfl

/-- The frame of the body of a repetition. -/
def inside (r : Frame) (low high : Nat) : Frame := ⟨true, r.floor low, r.ceiling high⟩

theorem Holds.inside (h : r.Holds low high) : (r.inside low high).Holds low high :=
  ⟨fun _ => h.floor_le, fun _ => h.le_ceiling⟩

end Frame

/-- How an attempt ends: with a memory of one kind if it succeeds, of another if it fails. -/
def Ends (success failure : Memory → Prop) (x : Bool × Memory) : Prop :=
  if x.1 then success x.2 else failure x.2

section

variable {success failure failure' : Memory → Prop} {m n : Memory} {x : Bool × Memory}

theorem Ends.mono (h : Ends success failure x) (imp : ∀ n, failure n → failure' n) :
    Ends success failure' x := by
  unfold Ends at h ⊢
  split at h <;> simp_all

theorem Ends.cases {motive : Bool × Memory → Prop} (h : Ends success failure x)
    (succeeds : ∀ n, success n → motive (true, n)) (fails : ∀ n, failure n → motive (false, n)) :
    motive x := by
  obtain ⟨b, n⟩ := x
  cases b with
  | true => exact succeeds n h
  | false => exact fails n h

theorem ends_true : Ends success failure (true, m) ↔ success m := by simp [Ends]

theorem ends_false : Ends success failure (false, m) ↔ failure m := by simp [Ends]

theorem ends_orElse {first : Attempt} {second : Memory → Bool × Memory}
    (h : Ends success failure (first m)) (next : ∀ n, failure n → Ends success failure' (second n)) :
    Ends success failure' (first.orElse second m) := by
  unfold Attempt.orElse
  rcases eq : first m with ⟨found, n⟩
  rw [eq] at h
  cases found with
  | true => exact ends_true.mpr (ends_true.mp h)
  | false => exact next n (ends_false.mp h)

theorem ends_around {attempt : Attempt} {place : Nat}
    (h : Ends success failure (attempt (m.moveTo place)))
    (moves : ∀ n, failure n → failure (n.moveTo place)) :
    Ends success failure (Attempt.around place attempt m) :=
  ends_orElse h fun n hn => ends_false.mpr (moves n hn)

end

/-! ### Continuations -/

/-- Whether a continuation can be trusted with sound memories from a place on. -/
def Continues (r : Frame) (high : Nat) (o : Opened) (success : Memory → Prop) (floor : Nat)
    (ref : Nat → Option Nat) (place : Nat) (k : Continuation) : Prop :=
  ∀ q, place ≤ q → ∀ m, IsSound o (r.ceiling high) floor ref m →
    Ends success (Agrees o (r.floor high) m.at?) (k q m)

/-- Whether a body whose groups lie between two numbers can be trusted with continuations that can. -/
def Matches (r : Frame) (low high : Nat) (body : Body) : Prop :=
  ∀ o : Opened, (∀ g ∈ o, g.1 < low) → ∀ success ref place k,
    Continues r high o success (r.floor low) ref place k →
    ∀ m, IsSound o (r.ceiling low) (r.floor low) ref m →
      Ends success (Agrees o (r.floor low) ref) (body place k m)

section

variable {r : Frame} {low mid high low' high' floor floor' place place' : Nat} {o : Opened}
  {success : Memory → Prop} {ref : Nat → Option Nat} {k : Continuation} {m n : Memory} {body : Body}

theorem Continues.mono (h : Continues r high o success floor ref place k) (le : place ≤ place')
    (top : high' ≤ high) : Continues r high' o success floor ref place' k :=
  fun q hq m sound => (h q (le.trans hq) m (sound.mono (Frame.ceiling_mono top) le_rfl)).mono
    fun _ hn => hn.mono (Frame.floor_mono top)

/-- A memory that was referred to may be referred to through another one. -/
theorem Continues.trans (h : Continues r high o success floor ref place k) {ceiling : Nat}
    (sound : IsSound o ceiling floor ref m) (le : floor ≤ floor') :
    Continues r high o success floor' m.at? place k :=
  fun q hq n hn => h q hq n (sound.trans hn le)

/-- Going on at once. -/
theorem Continues.go (h : Continues r high o success (r.floor low) ref place k) (le : low ≤ high)
    (sound : IsSound o (r.ceiling high) (r.floor low) ref m) (after : place ≤ place') :
    Ends success (Agrees o (r.floor low) ref) (k place' m) :=
  (h place' after m sound).mono fun _ hn =>
    sound.agrees.trans (hn.mono (Frame.floor_mono le)) le_rfl

/-- Taking back the marks after a failure. -/
theorem recovers_takeBack (agrees : Agrees o (r.floor low) m.at? n)
    (known : m.marks.length ≤ r.ceiling low) : Recovers o m (n.takeBack m r.repeating) := by
  unfold takeBack
  split
  · exact ⟨fun _ _ => rfl, le_rfl⟩
  · -- Outside of repetitions all marks that were known lie below the floor.
    rename_i rep
    refine ⟨fun i inner => ?_, length_lower_le ..⟩
    rw [at?_lower]
    unfold Frame.ceiling at known
    unfold Frame.floor at agrees
    rw [if_neg rep] at known agrees
    split
    · exact agrees i (by omega) inner
    · rename_i beyond
      exact (at?_eq_none (Nat.le_of_not_lt beyond)).symm

/-- Trying something, and taking back the marks if it fails. -/
theorem ends_attemptAt (h : Ends success (Agrees o (r.floor low) m.at?) (k place (m.moveTo place)))
    (known : m.marks.length ≤ r.ceiling low) :
    Ends success (Recovers o m) (attemptAt r.repeating k place m) := by
  unfold Pattern.attemptAt
  rcases eq : k place (m.moveTo place) with ⟨found, n⟩
  rw [eq] at h
  cases found with
  | true => exact ends_true.mpr (ends_true.mp h)
  | false => exact ends_false.mpr (recovers_takeBack (ends_false.mp h) known)

theorem Continues.attemptAt (h : Continues r high o success floor ref place k) (le : place ≤ place')
    (sound : IsSound o (r.ceiling high) floor ref m) :
    Ends success (Recovers o m) (attemptAt r.repeating k place' m) :=
  ends_attemptAt (h place' le (m.moveTo place') (sound.moveTo place')) sound.length

/-! ### What a match is made of -/

/-- Matching in narrower bounds is matching. -/
theorem Matches.mono (h : Matches r low' high' body) (hl : low ≤ low') (hh : high' ≤ high) :
    Matches r low high body := by
  intro o outer success ref place k continues m sound
  have below := Frame.floor_mono (r := r) hl
  refine (h o (fun g hg => (outer g hg).trans_le hl) success m.at? place k
    ((continues.mono le_rfl hh).trans sound below) m
    ((sound.mono (Frame.ceiling_mono hl) le_rfl).self _)).mono fun n hn => ?_
  exact sound.agrees.trans (hn.mono below) le_rfl

/-- Matching one thing after the other. -/
theorem Matches.seq {first second : Body} (h : Matches r low mid first)
    (g : Matches r mid high second) (le : low ≤ mid) :
    Matches r low high fun place k => first place fun q => second q k := by
  intro o outer success ref place k continues m sound
  refine h o outer success ref place _ (fun q hq n hn => ?_) m sound
  exact g o (fun x hx => (outer x hx).trans_le le) success n.at? q k
    ((continues.mono hq le_rfl).trans hn (Frame.floor_mono le)) n (hn.self _)

/-- A body that is matched by itself leaves a sound memory, behind where it began. -/
theorem Matches.alone (h : Matches r low high body) (outer : ∀ g ∈ o, g.1 < low) (place : Nat)
    (sound : IsSound o (r.ceiling low) (r.floor low) ref m) :
    Ends (fun n => IsSound o (r.ceiling high) (r.floor low) ref n ∧ place ≤ n.cursor)
      (Agrees o (r.floor low) ref) (body place stop m) :=
  h o outer _ ref place stop (fun q hq _ hn => ends_true.mpr ⟨hn.moveTo q, hq⟩) m sound

theorem matches_fail : Matches r low high fun _ _ => Attempt.fail :=
  fun _ _ _ _ _ _ _ _ sound => ends_false.mpr sound.agrees

theorem matches_nothing (le : low ≤ high) : Matches r low high fun place k => k place :=
  fun _ _ _ _ _ _ continues _ sound =>
    continues.go le (sound.mono (Frame.ceiling_mono le) le_rfl) le_rfl

theorem Subject.matches_step (s : Subject) (test : Nat → Bool) (le : low ≤ high) :
    Matches r low high (s.step test) := by
  intro o outer success ref place k continues m sound
  unfold step
  split
  · exact continues.go le (sound.mono (Frame.ceiling_mono le) le_rfl) (Nat.le_succ place)
  · exact ends_false.mpr sound.agrees

/-- A group is marked before and after its body. -/
theorem Matches.group {g : Nat} (h : Matches r (g + 1) high body) (hg : 1 ≤ g) (le : low ≤ g)
    (le' : g + 1 ≤ high) (holds : r.Holds low high) :
    Matches r low high fun place k m =>
      body place (fun last m => k last (m.mark (2 * g - 1) last)) (m.mark (2 * g - 2) place) := by
  intro o outer success ref place k continues m sound
  have below : r.floor low ≤ 2 * g - 2 := holds.floor_le.trans (by omega)
  have lower : r.floor low ≤ r.floor (g + 1) := Frame.floor_mono (by omega)
  have room : 2 * g ≤ r.ceiling (g + 1) :=
    (by omega : 2 * g ≤ 2 * (g + 1) - 2).trans (holds.mono (by omega) le').le_ceiling
  have roomAfter : 2 * g ≤ r.ceiling high := room.trans (Frame.ceiling_mono le')
  refine (h ((g, place) :: o) (List.forall_mem_cons.mpr ⟨Nat.lt_succ_self g, fun x hx =>
    (outer x hx).trans_le (by omega)⟩) success _ place _ (fun q hq n hn => ?_) _
    (sound.opened place hg (fun x hx => (outer x hx).trans_le le) (Frame.ceiling_mono (by omega))
      (by omega) _)).mono fun n hn => hn.of_opened hg sound.agrees below lower
  -- Behind the group what was there before is referred to again, the group itself being closed.
  have shut := hn.shut sound.agrees hq roomAfter below lower
  refine (continues q hq _ shut).mono fun z hz i hi inner => ?_
  have notEnd : i ≠ 2 * g - 1 := fun same => inner ⟨(g, place), List.mem_cons_self, same⟩
  rw [hz i hi fun ⟨x, hx, same⟩ => inner ⟨x, List.mem_cons_of_mem _ hx, same⟩, at?_mark,
    if_neg notEnd]

/-- A body that keeps no way back. -/
theorem Matches.atomic (h : Matches r low high body) (le : low ≤ high) :
    Matches r low high fun place k m =>
      match body place stop (m.moveTo place) with
      | (true, n) => k n.cursor n
      | (false, n) => (false, n.moveTo place) := by
  intro o outer success ref place k continues m sound
  exact (h.alone outer place (sound.moveTo place)).cases
    (motive := fun x => Ends success (Agrees o (r.floor low) ref) (match x with
      | (true, n) => k n.cursor n
      | (false, n) => (false, n.moveTo place)))
    (fun n hn => continues.go le hn.1 hn.2) fun n hn => ends_false.mpr hn

/-- A body that is looked at, from a place on. -/
theorem Matches.look (h : Matches r low high body) (le : low ≤ high) (negated : Bool)
    (back : Nat → Nat) : Matches r low high fun place k m =>
      if place < back place then if negated then k place m else (false, m)
      else
        match body (place - back place) stop (m.moveTo (place - back place)) with
        | (true, n) => if negated then (false, n) else k place n
        | (false, n) =>
          if negated then k place (n.takeBack m r.repeating) else (false, n) := by
  intro o outer success ref place k continues m sound
  have onward : ∀ {n : Memory}, IsSound o (r.ceiling low) (r.floor low) ref n →
      Ends success (Agrees o (r.floor low) ref) (k place n) := fun hn =>
    continues.go le (hn.mono (Frame.ceiling_mono le) le_rfl) le_rfl
  dsimp only
  split
  · split
    · exact onward sound
    · exact ends_false.mpr sound.agrees
  · -- The match of the body may move the cursor, but what follows goes on at the place itself.
    generalize place - back place = start
    refine (h.alone outer start ((sound.self (r.floor low)).moveTo start)).cases
      (motive := fun x => Ends success (Agrees o (r.floor low) ref) (match x with
        | (true, n) => if negated then (false, n) else k place n
        | (false, n) => if negated then k place (n.takeBack m r.repeating) else (false, n)))
      (fun n hn => ?_) fun n hn => ?_
    · have hn := sound.trans hn.1 le_rfl
      dsimp only
      split
      · exact ends_false.mpr hn.agrees
      · exact continues.go le hn le_rfl
    · dsimp only
      split
      · exact onward ((recovers_takeBack hn sound.length).isSound sound)
      · exact ends_false.mpr (sound.agrees.trans hn le_rfl)

/-- One thing, or else another one. -/
theorem Matches.orElse {first second : Body} (h : Matches r low high first)
    (g : Matches r low high second) (test : Nat → Bool) :
    Matches r low high fun place k =>
      (if test place then Pattern.attemptAt r.repeating (fun q => first q k) place
        else Attempt.fail).orElse fun m => second place k m := by
  intro o outer success ref place k continues m sound
  have tried : Ends success (Recovers o m) ((if test place then
      Pattern.attemptAt r.repeating (fun q => first q k) place else Attempt.fail) m) := by
    split
    · exact ends_attemptAt (h o outer success _ place k (continues.trans sound le_rfl) _
        ((sound.self _).moveTo place)) sound.length
    · exact ends_false.mpr (.refl o m)
  exact ends_orElse tried fun n hn =>
    g o outer success ref place k continues n (hn.isSound sound)

/-- One thing or another one, depending on what is remembered. -/
theorem Matches.ite {first second : Body} (h : Matches r low high first)
    (g : Matches r low high second) (test : Memory → Prop) [DecidablePred test] :
    Matches r low high fun place k m => if test m then first place k m else second place k m := by
  intro o outer success ref place k continues m sound
  dsimp only
  split
  · exact h o outer success ref place k continues m sound
  · exact g o outer success ref place k continues m sound

end

end Conform.Pattern
