import Conform.Pattern.Basic
import Conform.Proofs.Pattern.Layout
import Mathlib.Tactic.Ring
/-!
# What a match remembers of groups

A group is marked where it starts before it is matched, and where it ends afterwards.  In between, and
if the match of the group fails, its marks need not be in order.  Whoever goes on after a failure takes
back the marks: inside a repetition all of them, elsewhere those that are new.  The second is enough as
long as no group is matched twice, since then all marks that a failure leaves are new, but for the ends
of groups that are still open.  A possessive repetition is the exception: it matches groups again and
takes back no more than what is new.  Without one, no group of a match ends before it starts
(`hasReversed_of_search`).
-/
namespace Conform.Pattern

namespace Memory

/-- The place of a mark, if it is known and set. -/
def at? (m : Memory) (i : Nat) : Option Nat := m.marks[i]?.join

variable (m n : Memory) (i j place : Nat)

theorem at?_eq_none {m : Memory} {i : Nat} (h : m.marks.length ≤ i) : m.at? i = none := by
  rw [at?, List.getElem?_eq_none h, Option.join_none]

theorem at?_lower : (m.lower n).at? i = if i < n.marks.length then m.at? i else none := by
  rw [at?, lower, List.getElem?_take]
  split <;> rfl

theorem length_lower_le : (m.lower n).marks.length ≤ n.marks.length := by
  simp [lower]

theorem length_mark : (m.mark i place).marks.length = max m.marks.length (i + 1) := by
  simp [mark]
  omega

theorem at?_mark : (m.mark i place).at? j = if j = i then some place else m.at? j := by
  rw [at?, mark, List.getElem?_set]
  split
  · subst j
    rw [if_pos rfl, if_pos (by simp; omega), Option.join_some]
  · rename_i h
    rw [if_neg (Ne.symm h), List.getElem?_append, at?]
    split
    · rfl
    · rename_i beyond
      rw [List.getElem?_eq_none (Nat.le_of_not_lt beyond), List.getElem?_replicate]
      split <;> rfl

theorem span?_eq_some_iff {first last : Nat} {g : Nat} : m.span? g = some (first, last) ↔
    m.at? (2 * g - 2) = some first ∧ m.at? (2 * g - 1) = some last := by
  unfold span? at?
  split <;> simp_all

end Memory

/-! ### Marks in order -/

/-- The groups that are open, each with the place where it started. -/
abbrev Opened := List (Nat × Nat)

/-- Whether a mark is the end of an open group. -/
def Opened.IsEnd (o : Opened) (i : Nat) : Prop := ∃ g ∈ o, i = 2 * g.1 - 1

namespace Memory

/-- Whether open groups are marked where they started, and others do not end before they start. -/
structure IsInOrder (m : Memory) (o : Opened) : Prop where
  numbered : ∀ g ∈ o, 1 ≤ g.1
  started : ∀ g ∈ o, m.at? (2 * g.1 - 2) = some g.2
  closed : ∀ g, 1 ≤ g → (∀ h ∈ o, h.1 ≠ g) → ∀ first last, m.at? (2 * g - 2) = some first →
    m.at? (2 * g - 1) = some last → first ≤ last

/-- Whether the marks below a floor are those that are referred to, but for the ends of open groups. -/
def Agrees (o : Opened) (floor : Nat) (ref : Nat → Option Nat) (m : Memory) : Prop :=
  ∀ i < floor, ¬o.IsEnd i → m.at? i = ref i

/-- Whether a memory has taken back the marks of another, but for the ends of open groups. -/
structure Recovers (o : Opened) (m n : Memory) : Prop where
  same : ∀ i, ¬o.IsEnd i → n.at? i = m.at? i
  length : n.marks.length ≤ m.marks.length

/-- Whether a memory can be gone on with: its marks are in order and below a ceiling, and below a floor
they are those that are referred to. -/
structure IsSound (o : Opened) (ceiling floor : Nat) (ref : Nat → Option Nat) (m : Memory) :
    Prop where
  order : m.IsInOrder o
  length : m.marks.length ≤ ceiling
  agrees : Agrees o floor ref m

variable {o : Opened} {m n : Memory} {floor floor' ceiling ceiling' : Nat} {ref ref' : Nat → Option Nat}

theorem Agrees.refl (o : Opened) (floor : Nat) (m : Memory) : Agrees o floor m.at? m :=
  fun _ _ _ => rfl

theorem Agrees.mono (h : Agrees o floor ref m) (le : floor' ≤ floor) : Agrees o floor' ref m :=
  fun i hi => h i (hi.trans_le le)

theorem Agrees.trans (h : Agrees o floor ref m) (g : Agrees o floor' m.at? n) (le : floor ≤ floor') :
    Agrees o floor ref n :=
  fun i hi inner => (g i (hi.trans_le le) inner).trans (h i hi inner)

theorem Recovers.refl (o : Opened) (m : Memory) : Recovers o m m := ⟨fun _ _ => rfl, le_rfl⟩

theorem Recovers.trans {k : Memory} (h : Recovers o m n) (g : Recovers o n k) : Recovers o m k :=
  ⟨fun i inner => (g.same i inner).trans (h.same i inner), g.length.trans h.length⟩

theorem Recovers.agrees (h : Recovers o m n) (floor : Nat) : Agrees o floor m.at? n :=
  fun i _ => h.same i

/-- Starts are no ends, nor are the marks of closed groups. -/
theorem not_isEnd {g : Nat} (numbered : ∀ h ∈ o, 1 ≤ h.1) (hg : 1 ≤ g) : ¬o.IsEnd (2 * g - 2) := by
  rintro ⟨h, hh, same⟩
  have := numbered h hh
  omega

theorem not_isEnd_of_closed {g : Nat} (numbered : ∀ h ∈ o, 1 ≤ h.1) (hg : 1 ≤ g)
    (other : ∀ h ∈ o, h.1 ≠ g) : ¬o.IsEnd (2 * g - 1) := by
  rintro ⟨h, hh, same⟩
  have := numbered h hh
  exact other h hh (by omega)

theorem Recovers.isInOrder (h : Recovers o m n) (order : m.IsInOrder o) : n.IsInOrder o where
  numbered := order.numbered
  started g hg := by
    rw [h.same _ (not_isEnd order.numbered (order.numbered g hg))]
    exact order.started g hg
  closed g hg other first last := by
    rw [h.same _ (not_isEnd order.numbered hg),
      h.same _ (not_isEnd_of_closed order.numbered hg other)]
    exact order.closed g hg other first last

theorem Recovers.isSound (h : Recovers o m n) (sound : IsSound o ceiling floor ref m) :
    IsSound o ceiling floor ref n :=
  ⟨h.isInOrder sound.order, h.length.trans sound.length,
    sound.agrees.trans (h.agrees floor) le_rfl⟩

theorem IsSound.mono (h : IsSound o ceiling floor ref m) (le : ceiling ≤ ceiling')
    (le' : floor' ≤ floor) : IsSound o ceiling' floor' ref m :=
  ⟨h.order, h.length.trans le, h.agrees.mono le'⟩

/-- What agrees with a sound memory above a floor agrees with what the sound one agrees with below. -/
theorem IsSound.trans (h : IsSound o ceiling floor ref m) (g : IsSound o ceiling' floor' m.at? n)
    (le : floor ≤ floor') : IsSound o ceiling' floor ref n :=
  ⟨g.order, g.length, h.agrees.trans g.agrees le⟩

theorem IsSound.self (h : IsSound o ceiling floor ref m) (floor' : Nat) :
    IsSound o ceiling floor' m.at? m := ⟨h.order, h.length, .refl o floor' m⟩

theorem IsSound.moveTo (h : IsSound o ceiling floor ref m) (place : Nat) :
    IsSound o ceiling floor ref (m.moveTo place) :=
  ⟨⟨h.order.1, h.order.2, h.order.3⟩, h.length, h.agrees⟩

/-- A group is opened by the mark of its start. -/
theorem IsSound.opened {g : Nat} (h : IsSound o ceiling floor ref m) (place : Nat) (hg : 1 ≤ g)
    (outer : ∀ x ∈ o, x.1 < g) (le : ceiling ≤ ceiling') (room : 2 * g - 1 ≤ ceiling')
    (floor' : Nat) : IsSound ((g, place) :: o) ceiling' floor' (m.mark (2 * g - 2) place).at?
      (m.mark (2 * g - 2) place) where
  order := {
    numbered := List.forall_mem_cons.mpr ⟨hg, h.order.numbered⟩
    started := by
      refine List.forall_mem_cons.mpr ⟨by rw [at?_mark, if_pos rfl], fun x hx => ?_⟩
      -- The groups around it have smaller numbers, and so other marks.
      have := h.order.numbered x hx
      have := outer x hx
      rw [at?_mark, if_neg (by omega)]
      exact h.order.started x hx
    closed := by
      intro x hx other first last
      obtain ⟨hne, other⟩ := List.forall_mem_cons.mp other
      rw [at?_mark, at?_mark, if_neg (by omega), if_neg (by omega)]
      exact h.order.closed x hx other first last }
  length := by
    have := h.length
    rw [length_mark]
    omega
  agrees := .refl _ _ _

/-- What is left below an open group is what was there before it was opened. -/
theorem Agrees.of_opened {g start : Nat} (hg : 1 ≤ g)
    (h : Agrees ((g, start) :: o) floor' (m.mark (2 * g - 2) start).at? n)
    (outer : Agrees o floor ref m) (below : floor ≤ 2 * g - 2) (lower : floor ≤ floor') :
    Agrees o floor ref n := by
  intro i hi inner
  have noEnd : ¬Opened.IsEnd ((g, start) :: o) i := by
    rintro ⟨x, hx, same⟩
    rcases List.mem_cons.mp hx with rfl | hx
    · dsimp only at same
      omega
    · exact inner ⟨x, hx, same⟩
  rw [h i (by omega) noEnd, at?_mark, if_neg (by omega)]
  exact outer i hi inner

/-- A group is closed by the mark of its end, which lies behind its start. -/
theorem IsSound.shut {g start last : Nat}
    (h : IsSound ((g, start) :: o) ceiling floor' (m.mark (2 * g - 2) start).at? n)
    (outer : Agrees o floor ref m) (le : start ≤ last) (room : 2 * g ≤ ceiling)
    (below : floor ≤ 2 * g - 2) (lower : floor ≤ floor') :
    IsSound o ceiling floor ref (n.mark (2 * g - 1) last) where
  order := {
    numbered := fun x hx => h.order.numbered x (List.mem_cons_of_mem _ hx)
    started := by
      intro x hx
      have := h.order.numbered x (List.mem_cons_of_mem _ hx)
      have := h.order.numbered (g, start) List.mem_cons_self
      rw [at?_mark, if_neg (by omega)]
      exact h.order.started x (List.mem_cons_of_mem _ hx)
    closed := by
      intro x hx other first last' hfirst hlast
      have := h.order.numbered (g, start) List.mem_cons_self
      rw [at?_mark, if_neg (by omega)] at hfirst
      rw [at?_mark] at hlast
      -- The group that is shut is now among the closed ones; the marks of the others are as they were.
      by_cases same : x = g
      · subst same
        rw [h.order.started (x, start) List.mem_cons_self] at hfirst
        rw [if_pos rfl] at hlast
        obtain rfl := Option.some.inj hfirst
        obtain rfl := Option.some.inj hlast
        exact le
      · rw [if_neg (by omega)] at hlast
        exact h.order.closed x hx (List.forall_mem_cons.mpr ⟨Ne.symm same, other⟩) first last'
          hfirst hlast }
  length := by
    have := h.length
    have := h.order.numbered (g, start) List.mem_cons_self
    rw [length_mark]
    omega
  agrees := by
    intro i hi inner
    have hg := h.order.numbered (g, start) List.mem_cons_self
    rw [at?_mark, if_neg (by omega)]
    exact h.agrees.of_opened hg outer below lower i hi inner

end Memory

end Conform.Pattern
