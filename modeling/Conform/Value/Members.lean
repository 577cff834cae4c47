import Conform.Value.Equality
/-!
# The order in which a set lists its members

A set of numbers keeps each member in a slot and lists the members slot by slot.  Where a member
looks for a slot is decided by its value alone, through its residue modulo a prime, so that equal
numbers of different kinds look in the same places.  A member whose slot is taken looks further on,
and for this the order in which members come matters.

A set with a member that is no number lists the members as they came.  Either way they are listed
once each, which is `listed_perm`.
-/
namespace Conform.Value

/-- The prime modulo which residues are taken; powers of two have the period 61. -/
def residuePrime : Nat := 2305843009213693951

/-- The residue of a number whose denominator is a power of two, with the sign of the number.  To
divide by `2^k` is to multiply by a power of two that adds up with it to a multiple of the period.
The residue -1 is not used. -/
def residue (q : Rat) : Int :=
  let factor := Nat.pow 2 ((61 - q.den.log2 % 61) % 61)
  let r : Int := (q.num.natAbs * factor % residuePrime : Nat)
  if 0 ≤ q.num then r else if r = 1 then -2 else -r

/-- The number that decides where a member looks for a slot. -/
def startOf : Quantity → Option Int
  | .below => some (-314159)
  | .exact q => some (residue q)
  | .above => some 314159
  | .undefined => none

/-- The number of slots for a number of members: less than half of them are taken. -/
def capacity (members : Nat) : Nat :=
  if members < 5 then 8 else Nat.pow 2 ((2 * members).log2 + 1)

/-- The first free slot of up to ten in a row, or else of a row that begins elsewhere; `distance`
varies the places where rows begin. -/
def freeSlot (capacity : Nat) (taken : Nat → Bool) : Nat → Nat → Nat → Nat
  | 0, slot, _ => slot
  | fuel + 1, slot, distance =>
    let row := if slot + 9 < capacity then List.range' slot 10 else [slot]
    match row.find? fun i => !taken i with
    | some i => i
    | none =>
      let distance := distance / 32
      freeSlot capacity taken fuel ((slot * 5 + 1 + distance) % capacity) distance

/-- Puts a member into its slot among those of the others, which are in order. -/
def insertSlot (slot : Nat) (v : Value) : List (Nat × Value) → List (Nat × Value)
  | [] => [(slot, v)]
  | e :: es => if slot < e.1 then (slot, v) :: e :: es else e :: insertSlot slot v es

/-- Puts a member, with the number that decides where it looks, into a free slot.  Numbers below
zero count back from `2^64`. -/
def place (capacity : Nat) (slots : List (Nat × Value)) (v : Value) (start : Int) :
    List (Nat × Value) :=
  let distance := (start % 18446744073709551616).toNat
  let taken (i : Nat) : Bool := slots.any (·.1 == i)
  insertSlot (freeSlot capacity taken (capacity + 16) (distance % capacity) distance) v slots

/-- The members with the numbers that decide where they look; none if one is no number. -/
def starts? : List Value → Option (List (Value × Int))
  | [] => some []
  | v :: vs => do
    let start ← startOf (← v.quantity?)
    return (v, start) :: (← starts? vs)

/-- The members of a set in the order in which it lists them. -/
def listed (members : List Value) : List Value :=
  match starts? members with
  | none => members
  | some ms =>
    (ms.foldl (fun slots m => place (capacity ms.length) slots m.1 m.2) []).map (·.2)

theorem insertSlot_perm (slot : Nat) (v : Value) (es : List (Nat × Value)) :
    (insertSlot slot v es).Perm ((slot, v) :: es) := by
  induction es with
  | nil => exact .refl _
  | cons e es ih =>
    simp only [insertSlot]
    split
    · exact .refl _
    · exact (ih.cons e).trans (.swap _ _ _)

theorem place_perm (capacity : Nat) (slots : List (Nat × Value)) (v : Value) (start : Int) :
    ((place capacity slots v start).map (·.2)).Perm (v :: slots.map (·.2)) :=
  (insertSlot_perm _ v slots).map _

theorem foldl_place_perm (capacity : Nat) (ms : List (Value × Int)) (slots : List (Nat × Value)) :
    ((ms.foldl (fun slots m => place capacity slots m.1 m.2) slots).map (·.2)).Perm
      (ms.map (·.1) ++ slots.map (·.2)) := by
  induction ms generalizing slots with
  | nil => exact .refl _
  | cons m ms ih =>
    exact (ih _).trans (((place_perm capacity slots m.1 m.2).append_left _).trans
      List.perm_middle)

theorem map_fst_starts? {vs : List Value} {ms : List (Value × Int)} (h : starts? vs = some ms) :
    ms.map (·.1) = vs := by
  induction vs generalizing ms with
  | nil =>
    simp only [starts?, Option.some.injEq] at h
    simp [← h]
  | cons v vs ih =>
    simp only [starts?, Option.bind_eq_bind, Option.bind_eq_some_iff, Option.pure_def,
      Option.some.injEq] at h
    obtain ⟨_, _, _, _, rest, hrest, rfl⟩ := h
    simp [ih hrest]

/-- A set lists each of its members once. -/
theorem listed_perm (members : List Value) : (listed members).Perm members := by
  unfold listed
  split
  · exact .refl _
  · rename_i ms h
    have := foldl_place_perm (capacity ms.length) ms []
    rwa [map_fst_starts? h, List.map_nil, List.append_nil] at this

end Conform.Value
