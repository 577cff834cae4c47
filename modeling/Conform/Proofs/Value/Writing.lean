import Conform.Proofs.Value.Building
import Conform.Proofs.Value.Distinct
import Conform.Value.Text
/-!
# Values that can be written

A value is written as its literal or as its text unless it holds an integer with too many digits, for
which writing fails in one way only.
-/
namespace Conform.Value

variable {v : Value} {s : String} {f : Fault}

theorem writeLiteral_eq_ok_iff :
    v.writeLiteral = .ok s ↔ v.isWritable = true ∧ v.literal = s := by
  unfold writeLiteral
  cases v.isWritable <;> simp

theorem writeLiteral_eq_error_iff :
    v.writeLiteral = .error f ↔ f = .integerUnwritable ∧ v.isWritable = false := by
  unfold writeLiteral
  cases v.isWritable <;> simp [eq_comm]

theorem writeText_eq_ok_iff : v.writeText = .ok s ↔ v.isWritable = true ∧ v.text = s := by
  unfold writeText
  cases v.isWritable <;> simp

theorem writeText_eq_error_iff :
    v.writeText = .error f ↔ f = .integerUnwritable ∧ v.isWritable = false := by
  unfold writeText
  cases v.isWritable <;> simp [eq_comm]

theorem writeLiteral_of_isWritable (h : v.isWritable = true) : v.writeLiteral = .ok v.literal :=
  writeLiteral_eq_ok_iff.mpr ⟨h, rfl⟩

theorem writeText_of_isWritable (h : v.isWritable = true) : v.writeText = .ok v.text :=
  writeText_eq_ok_iff.mpr ⟨h, rfl⟩

/-- What is said of a value fails to be said only if the value cannot be written. -/
theorem bind_writeLiteral_eq_error_iff {α : Type} {next : String → α} :
    (v.writeLiteral >>= fun s => pure (next s)) = .error f ↔
      f = .integerUnwritable ∧ v.isWritable = false := by
  unfold writeLiteral
  cases v.isWritable <;> simp [bind, Except.bind, pure, Except.pure, eq_comm]

theorem bind_writeText_eq_error_iff {α : Type} {next : String → α} :
    (v.writeText >>= fun s => pure (next s)) = .error f ↔
      f = .integerUnwritable ∧ v.isWritable = false := by
  unfold writeText
  cases v.isWritable <;> simp [bind, Except.bind, pure, Except.pure, eq_comm]

theorem bind_writeTexts_eq_error_iff {α : Type} {w : Value} {next : String → String → α} :
    (v.writeText >>= fun s => w.writeText >>= fun t => pure (next s t)) = .error f ↔
      f = .integerUnwritable ∧ (v.isWritable = false ∨ w.isWritable = false) := by
  unfold writeText
  cases v.isWritable <;> cases w.isWritable <;>
    simp [bind, Except.bind, pure, Except.pure, eq_comm]

theorem areWritable_iff {vs : List Value} :
    areWritable vs = true ↔ ∀ v ∈ vs, v.isWritable = true := by
  induction vs with
  | nil => simp [areWritable]
  | cons v vs ih => simp [areWritable, ih]

theorem areWritableEntries_iff {es : List (Value × Value)} : areWritableEntries es = true ↔
    ∀ e ∈ es, e.1.isWritable = true ∧ e.2.isWritable = true := by
  induction es with
  | nil => simp [areWritableEntries]
  | cons e es ih =>
    obtain ⟨k, x⟩ := e
    rw [areWritableEntries, Bool.and_eq_true, Bool.and_eq_true, ih, List.forall_mem_cons]

theorem isWritable_mapOf {ps : List (Value × Value)}
    (h : ∀ p ∈ ps, p.1.isWritable = true ∧ p.2.isWritable = true) : (mapOf ps).isWritable = true := by
  unfold mapOf
  rw [isWritable, areWritableEntries_iff]
  induction ps using List.reverseRecOn with
  | nil => simp [entriesOf]
  | append_singleton ps p ih =>
    obtain ⟨key, value⟩ := h p (by simp)
    have old := ih fun q hq => h q (List.mem_append_left _ hq)
    intro e he
    rw [entriesOf_concat] at he
    rcases mem_setEntry he with known | ⟨hvalue, hkey⟩
    · exact old e known
    · refine ⟨?_, hvalue ▸ value⟩
      rcases hkey with eq | ⟨-, f, hf, eq⟩
      · exact eq ▸ key
      · exact eq ▸ (old f hf).1

theorem isWritable_setOf {xs : List Value} (h : ∀ x ∈ xs, x.isWritable = true) :
    (setOf xs).isWritable = true := by
  unfold setOf
  rw [isWritable, areWritable_iff]
  intro x hx
  exact h x ((keepFirst_sublist sameKey xs).subset ((listed_perm _).mem_iff.mp hx))

end Conform.Value
