import Conform.Pattern.Repetition
import Conform.Proofs.Pattern.Matching
/-!
# Repetitions keep groups in order

A repetition that reconsiders its counts takes back the marks of each iteration that fails.  So an
iteration finds sound memories, and what follows does too.
-/
namespace Conform.Pattern

open Memory

variable {r : Frame} {low high floor place place' : Nat} {o : Opened} {success : Memory → Prop}
  {ref : Nat → Option Nat} {k : Continuation} {m : Memory} {body : Body}

/-! ### Bodies of one character -/

/-- Counting characters leaves the marks as they are. -/
theorem Memory.IsSound.counted {ceiling : Nat} (h : IsSound o ceiling floor ref m) (c : Single)
    (place n : Nat) : IsSound o ceiling floor ref (c.counted place n m) := h.moveTo _

theorem recovers_counted (c : Single) (place n : Nat) : Recovers o m (c.counted place n m) :=
  ⟨fun _ _ => rfl, le_rfl⟩

theorem Continues.descend (h : Continues r high o success floor ref place k)
    (le : place ≤ place') (text : Array Char) (next : Lead) (extra : Nat)
    (sound : IsSound o (r.ceiling high) floor ref m) :
    Ends success (Recovers o m) (descend text r.repeating next place' k extra m) := by
  have here : ∀ extra m, IsSound o (r.ceiling high) floor ref m →
      Ends success (Recovers o m) (descend.here text r.repeating next place' k extra m) := by
    intro extra m sound
    unfold descend.here
    split
    · exact h.attemptAt (by omega) sound
    · exact ends_false.mpr (.refl o m)
  induction extra generalizing m with
  | zero => exact here 0 m sound
  | succ extra ih =>
    exact ends_orElse (here (extra + 1) m sound) fun n hn =>
      (ih (hn.isSound sound)).mono fun _ => hn.trans

theorem Continues.ascend (h : Continues r high o success floor ref place k)
    (le : place ≤ place') (c : Single) (text : Array Char) (left : Nat)
    (sound : IsSound o (r.ceiling high) floor ref m) :
    Ends success (Recovers o m) (c.ascend text r.repeating k left place' m) := by
  -- What follows fails and takes its marks back; then one character more is counted.
  induction left generalizing m place' with
  | zero =>
    unfold Single.ascend
    refine ends_orElse (h.attemptAt le sound) fun n hn => ?_
    have hn := hn.trans (recovers_counted c place' (c.count text (some 1) place'))
    dsimp only
    split
    · exact ends_false.mpr hn
    · exact ends_false.mpr hn
    · rename_i absurd _
      cases absurd
  | succ left ih =>
    unfold Single.ascend
    refine ends_orElse (h.attemptAt le sound) fun n hn => ?_
    have hn := hn.trans (recovers_counted c place' (c.count text (some 1) place'))
    dsimp only
    split
    · exact ends_false.mpr hn
    · rename_i absurd _
      cases absurd
    · rename_i same _
      obtain rfl := Nat.succ.inj same
      exact (ih (by omega) (hn.isSound sound)).mono fun _ => hn.trans

/-- Repeating a single character, unless possessively. -/
theorem Single.matches_repeated (c : Single) (text : Array Char) (next : Lead) {mode : Mode}
    (least : Nat) (most : Option Nat) (le : low ≤ high) (reconsiders : mode ≠ .possessive) :
    Matches r low high (c.repeated text r.repeating next mode least most) := by
  intro o outer success ref place k continues m sound
  have moved := (sound.mono (Frame.ceiling_mono le) le_rfl).moveTo place
  -- Taking back all marks gives more than is asked: agreement below the floor.
  have back : ∀ {n n' : Memory}, IsSound o (r.ceiling high) (r.floor low) ref n →
      Recovers o n n' → Agrees o (r.floor low) ref n' := fun hn recovers =>
    (recovers.isSound hn).agrees
  unfold Single.repeated
  split
  · exact ends_false.mpr sound.agrees
  · cases mode with
    | greedy =>
      have counted := moved.counted c place (c.count text most place)
      dsimp only
      split
      · exact ends_false.mpr counted.agrees
      · exact (continues.descend (by omega) _ _ _ counted).mono fun _ => back counted
    | possessive => exact absurd rfl reconsiders
    | lazy =>
      dsimp only
      by_cases free : least = 0
      · simp only [free, ↓reduceIte, Nat.lt_irrefl]
        exact (continues.ascend (Nat.le_add_right place 0) c _ _ moved).mono fun _ => back moved
      · have counted := moved.counted c place (c.count text (some least) place)
        simp only [if_neg free]
        split
        · exact ends_false.mpr counted.agrees
        · exact (continues.ascend (Nat.le_add_right place least) c _ _ counted).mono fun _ =>
            back counted

/-! ### Other bodies -/

/-- What follows a repetition, as it is found by the body of the repetition. -/
theorem Continues.inside (h : Continues r high o success floor ref place k) (le : low ≤ high) :
    Continues (r.inside low high) high o success floor ref place k :=
  fun q hq m sound => (h q hq m sound).mono fun _ hn => hn.mono (Frame.floor_mono le)

/-- Trying a continuation with the cursor at a place. -/
theorem Continues.around (h : Continues r high o success floor ref place k) (le : place ≤ place')
    (sound : IsSound o (r.ceiling high) floor ref m) :
    Ends success (Agrees o (r.floor high) m.at?) (Attempt.around place' (k place') m) :=
  ends_around (h place' le _ (sound.moveTo place')) fun _ hn => hn

theorem Continues.settle (h : Continues r high o success floor ref place k) (le : place ≤ place')
    (sound : IsSound o (r.ceiling high) floor ref m) :
    Ends success (Recovers o m) (settle r.repeating k place' m) :=
  ends_around ((h.attemptAt le (sound.moveTo place')).mono fun _ hn => ⟨hn.same, hn.length⟩)
    fun _ hn => ⟨hn.same, hn.length⟩

/-- An iteration of the body of a repetition, with a continuation that can be trusted from the place of
the iteration on. -/
theorem Continues.iterate (matched : Matches (r.inside low high) low high body)
    (outer : ∀ g ∈ o, g.1 < low)
    (h : Continues (r.inside low high) high o success (r.floor low) ref place k)
    (sound : IsSound o (r.ceiling high) (r.floor low) ref m) :
    Ends success (Agrees o (r.floor low) m.at?) (body place k m) :=
  matched o outer success m.at? place k (h.trans sound le_rfl) m (sound.self _)

theorem Continues.required (matched : Matches (r.inside low high) low high body)
    (outer : ∀ g ∈ o, g.1 < low)
    (h : Continues (r.inside low high) high o success (r.floor low) ref place k) (n : Nat) :
    Continues (r.inside low high) high o success (r.floor low) ref place (required body k n) := by
  induction n with
  | zero => exact h
  | succ n ih =>
    intro q hq m sound
    have iteration := Continues.iterate matched outer (ih.mono hq le_rfl) (sound.moveTo q)
    exact ends_around iteration fun _ hn => hn

theorem Continues.greedily (matched : Matches (r.inside low high) low high body)
    (outer : ∀ g ∈ o, g.1 < low)
    (h : Continues (r.inside low high) high o success (r.floor low) ref place k) (size : Nat)
    (left : Option Nat) : Continues (r.inside low high) high o success (r.floor low) ref place
      (greedily body size k left) := by
  intro q hq m sound
  -- Each iteration that is gone on from goes forward in the text.
  generalize hn : size - q = n
  induction n using Nat.strongRecOn generalizing q left m with
  | ind n ih =>
    have moved := sound.moveTo q
    rw [Pattern.greedily]
    dsimp only
    split
    · exact h.around (m := m.moveTo q) hq moved
    · refine ends_orElse (Continues.iterate matched outer (fun here after p found => ?_) moved)
        fun z hz => h.around hq (m := z.restore (m.moveTo q)) ?_
      · split
        · exact ih (size - here) (by omega) (fewer left) here (hq.trans after) p found rfl
        · exact h.around (hq.trans after) found
      · exact Recovers.isSound (m := m.moveTo q) ⟨fun _ _ => rfl, le_rfl⟩ moved

theorem Continues.lazily (matched : Matches (r.inside low high) low high body)
    (outer : ∀ g ∈ o, g.1 < low) (h : Continues r high o success (r.floor low) ref place k)
    (size : Nat) (left : Option Nat) :
    Continues (r.inside low high) high o success (r.floor low) ref place
      (lazily body size r.repeating k left) := by
  intro q hq m sound
  -- As before, the places left in the text get fewer.
  generalize hn : size - q = n
  induction n using Nat.strongRecOn generalizing q left m with
  | ind n ih =>
    rw [Pattern.lazily]
    refine ends_orElse (h.settle hq sound) fun z hz => ?_
    have found := hz.isSound sound
    split
    · exact ends_false.mpr (hz.agrees _)
    · refine (ends_around (Continues.iterate matched outer (fun here after p hp => ?_)
        (found.moveTo q)) fun _ hn => hn).mono fun _ hn => (hz.agrees _).trans hn le_rfl
      split
      · exact ih (size - here) (by omega) (fewer left) here (hq.trans after) p hp rfl
      · exact (h.settle (hq.trans after) hp).mono fun _ hn => hn.agrees _

/-- Repeating a body, unless possessively. -/
theorem matches_repeatBody (matched : Matches (r.inside low high) low high body) (le : low ≤ high)
    (size : Nat) {mode : Mode} (least : Nat) (most : Option Nat)
    (reconsiders : mode ≠ .possessive) :
    Matches r low high (repeatBody body size r.repeating mode least most) := by
  intro o outer success ref place k continues m sound
  have sound : IsSound o (r.ceiling high) (r.floor low) ref m :=
    sound.mono (Frame.ceiling_mono le) le_rfl
  have settles : ∀ k', Continues (r.inside low high) high o success (r.floor low) ref place k' →
      Ends success (Agrees o (r.floor low) ref) (required body k' least place m) := fun k' h =>
    (Continues.required matched outer h least place le_rfl m sound).mono fun _ hn =>
      sound.agrees.trans hn le_rfl
  unfold repeatBody
  cases mode with
  | greedy => exact settles _ ((continues.inside le).greedily matched outer size _)
  | possessive => exact absurd rfl reconsiders
  | lazy => exact settles _ (continues.lazily matched outer size _)

end Conform.Pattern
