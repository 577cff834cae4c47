import Conform.Proofs.Schema.Verdict
import Conform.Proofs.Value.Writing
/-!
# Candidates of an enumeration

An enumeration stores the first of each group of equal candidates and drops the others.  As equality
is transitive, a candidate stays exactly if no candidate before it is equal to it, whether that one
stays or not (`keepFirst_equals`); so nothing is lost that a value could be compared with.
-/
namespace Conform.Schema

/-- The candidates that are equal to none before them. -/
def firsts (candidates : List Value) : List Value :=
  (candidates.zipIdx.filter fun c => (candidates.take c.2).all fun d => !c.1.equals d).map (·.1)

theorem firsts_concat (candidates : List Value) (c : Value) : firsts (candidates ++ [c]) =
    if candidates.any c.equals then firsts candidates else firsts candidates ++ [c] := by
  -- The candidates before another one are the same without the last one.
  have before : ∀ e ∈ candidates.zipIdx, ((candidates ++ [c]).take e.2).all (fun d => !e.1.equals d) =
      (candidates.take e.2).all fun d => !e.1.equals d := by
    intro e he
    have := List.snd_lt_of_mem_zipIdx he
    rw [List.take_append_of_le_length (by omega)]
  have last : candidates.all (fun d => !c.equals d) = !candidates.any c.equals :=
    List.not_any_eq_all_not.symm
  rw [firsts, List.zipIdx_append, List.filter_append, List.filter_congr before, List.map_append]
  cases h : candidates.any c.equals <;> simp [firsts, last, h]

/-- What is kept is what no candidate before it is equal to. -/
theorem keepFirst_equals {candidates : List Value} (regular : ∀ c ∈ candidates, c.IsRegular) :
    Value.keepFirst Value.equals candidates = firsts candidates := by
  induction candidates using List.reverseRecOn with
  | nil => rfl
  | append_singleton candidates c ih =>
    have others : ∀ d ∈ candidates, d.IsRegular := fun d hd => regular d (List.mem_append_left _ hd)
    have same : (Value.keepFirst Value.equals candidates).any c.equals = candidates.any c.equals := by
      rw [Bool.eq_iff_iff, List.any_eq_true, List.any_eq_true]
      exact exists_equal_keepFirst_iff others (regular c (by simp))
    rw [Value.keepFirst_concat, same, ih others, firsts_concat]

/-- The faults of the check whether a value is one of some candidates.  They are written first, then
compared with the value in order, and the value is written last. -/
inductive CandidateFaults (candidates : List Value) (v : Value) : Fault → Prop where
  | candidate {c : Value} (candidate : c ∈ candidates) (unwritable : c.isWritable = false) :
      CandidateFaults candidates v .integerUnwritable
  | comparison {before : List Value} {c : Value} {after : List Value}
      (written : ∀ d ∈ candidates, d.isWritable = true) (split : candidates = before ++ c :: after)
      (different : ∀ d ∈ before, v.compare d = .ok false) (endless : Value.isEndless v c = true) :
      CandidateFaults candidates v .endlessComparison
  | value {found : Bool} (written : ∀ d ∈ candidates, d.isWritable = true)
      (compared : candidates.anyM v.compare = .ok found) (unwritable : v.isWritable = false) :
      CandidateFaults candidates v .integerUnwritable

theorem checkEnumeration_eq_error_iff {candidates : List Value} {v : Value} {p : Node} {f : Fault} :
    checkEnumeration candidates v p = .error f ↔ CandidateFaults candidates v f := by
  -- Whether it is found or not, the value is written.
  have last (shown : String) (found : Bool) : (if found = true then do
        return p.accept s!"{← v.writeLiteral} is in the enum {shown}"
      else do return p.reject s!"{← v.writeLiteral} is not in the enum {shown}" : Verdict) = .error f ↔
      f = .integerUnwritable ∧ v.isWritable = false := by
    cases found <;> exact Value.bind_writeLiteral_eq_error_iff
  have written : (Value.list candidates).isWritable = true ↔ ∀ d ∈ candidates, d.isWritable = true :=
    Value.areWritable_iff
  rw [checkEnumeration, bind_eq_error_iff, Value.writeLiteral_eq_error_iff]
  simp only [bind_eq_error_iff, last, Value.writeLiteral_eq_ok_iff, written]
  constructor
  · rintro (⟨rfl, unwritable⟩ | ⟨shown, ⟨written, -⟩, fails | ⟨found, compared, rfl, unwritable⟩⟩)
    · obtain ⟨c, hc, unwritable⟩ : ∃ c ∈ candidates, c.isWritable = false := by
        by_contra none
        have all := written.mpr fun c hc =>
          by_contra fun fails => none ⟨c, hc, by simpa using fails⟩
        rw [all] at unwritable
        cases unwritable
      exact .candidate hc unwritable
    · obtain ⟨before, c, after, split, different, fails⟩ := anyM_eq_error_iff.mp fails
      obtain ⟨rfl, endless⟩ := Value.compare_eq_error_iff.mp fails
      exact .comparison written split different endless
    · exact .value written compared unwritable
  · rintro (⟨hc, unwritable⟩ | ⟨written, split, different, endless⟩ | ⟨written, compared, unwritable⟩)
    · refine .inl ⟨rfl, Bool.eq_false_iff.mpr fun all => ?_⟩
      rw [written.mp all _ hc] at unwritable
      cases unwritable
    · refine .inr ⟨_, ⟨written, rfl⟩, .inl (anyM_eq_error_iff.mpr ⟨_, _, _, split, different, ?_⟩)⟩
      exact Value.compare_eq_error_iff.mpr ⟨rfl, endless⟩
    · exact .inr ⟨_, ⟨written, rfl⟩, .inr ⟨_, compared, rfl, unwritable⟩⟩

theorem of_checkEnumeration_eq_error {candidates : List Value} {v : Value} {p : Node} {f : Fault}
    (h : checkEnumeration candidates v p = .error f) :
    f = .integerUnwritable ∧ (v.isWritable = false ∨ ∃ c ∈ candidates, c.isWritable = false) ∨
      f = .endlessComparison ∧ ∃ c ∈ candidates, Value.isEndless v c = true := by
  cases checkEnumeration_eq_error_iff.mp h with
  | candidate hc unwritable => exact .inl ⟨rfl, .inr ⟨_, hc, unwritable⟩⟩
  | comparison written split different endless => exact .inr ⟨rfl, _, by simp [split], endless⟩
  | value written compared unwritable => exact .inl ⟨rfl, .inl unwritable⟩

/-- **An enumeration of candidates loses none of them.**  It stores those that are equal to none before
them, in order and no two of them equal; an enumeration of what it stores is the same again; and
wherever its check comes to a verdict, it accepts what is equal to any candidate that was given.

There is no enumeration only if a candidate is compared without end with one before it.  The check comes to a
verdict unless the value or a stored candidate cannot be written, or the two are compared without end. -/
theorem enumeration_of_candidates {candidates : List Value}
    (regular : ∀ c ∈ candidates, c.IsRegular) :
    (ofEnumerable (.list candidates) = .error .endlessComparison ∧
      ∃ before v after, candidates = before ++ v :: after ∧
        ∃ w ∈ before, Value.isEndless v w = true) ∨
    ∃ stored, ofEnumerable (.list candidates) = .ok (enumeration stored) ∧
      (∀ v : Value, v.IsRegular → ∀ p : Node,
        (∀ n, ((enumeration stored).trace v p).result = .ok n →
          (n.isValid = true ↔ ∃ c ∈ candidates, v.equals c = true)) ∧
        ∀ f, ((enumeration stored).trace v p).result = .error f →
          f = .integerUnwritable ∧ (v.isWritable = false ∨ ∃ c ∈ stored, c.isWritable = false) ∨
            f = .endlessComparison ∧ ∃ c ∈ stored, Value.isEndless v c = true) ∧
      stored.Sublist candidates ∧
      stored.Pairwise (fun c d => c.equals d = false ∧ d.equals c = false) ∧
      stored = firsts candidates ∧
      ofEnumerable (.tuple stored) = .ok (enumeration stored) := by
  have build (vs : List Value) : ofEnumerable (.list vs) = (vs.foldlM Value.keepNew []).map enumeration :=
    rfl
  rw [build]
  cases hstored : candidates.foldlM Value.keepNew [] with
  | error f =>
    obtain ⟨rfl, before, v, after, split, w, hw, endless⟩ := Value.of_foldlM_keepNew_eq_error hstored
    exact .inl ⟨rfl, before, v, after, split, w, hw, endless⟩
  | ok stored =>
    have sublist := Value.keepFirst_sublist Value.equals candidates
    have same := Value.eq_keepFirst_of_foldlM hstored
    refine .inr ⟨stored, rfl, fun v hv p => ⟨fun n hn => ?_, fun f hf => ?_⟩, same ▸ sublist, ?_,
      same.trans (keepFirst_equals regular), ?_⟩
    · rw [checkEnumeration_isValid_iff hn, same]
      exact exists_equal_keepFirst_iff regular hv
    · exact of_checkEnumeration_eq_error hf
    · have apart := Value.pairwise_keepFirst Value.equals candidates
      rw [same]
      refine List.Pairwise.imp_of_mem (fun {c d} hc hd h => ⟨?_, h⟩) apart
      -- If the earlier one were equal to the later one, then the later one to it.
      refine Bool.eq_false_iff.mpr fun h' => ?_
      have := Value.equals_symm (regular c (sublist.subset hc)) (regular d (sublist.subset hd)) h'
      rw [h] at this
      cases this
    · change (stored.foldlM Value.keepNew []).map enumeration = _
      rw [Value.foldlM_keepNew_again hstored rfl]
      rfl

/-- One, true, and both again in other forms, beside a list that holds itself. -/
theorem enumeration_of_candidates_ones :
    let one := Value.float (.finite false 1 0)
    let candidates := [.int 1, .bool true, one, .list [.int 1], selfList, .tuple [one], .bool true]
    (∀ c ∈ candidates, c.IsRegular) ∧ (Value.tuple [.int 1]).IsRegular ∧
      ofEnumerable (.list candidates) =
        .ok (enumeration [.int 1, .bool true, .list [.int 1], selfList]) ∧
      ∃ n, ((enumeration [.int 1, .bool true, .list [.int 1], selfList]).trace
        (.tuple [.int 1]) .root).result = .ok n ∧ n.isValid = true := by
  intro one candidates
  have regular : ∀ c ∈ candidates, c.IsRegular := by
    simp [candidates, one, Value.IsRegular, Value.IsProper, Value.AreProper, isCyclic_selfList]
  have tuple : (Value.tuple [.int 1]).IsRegular := Or.inl (by simp [Value.IsProper, Value.AreProper])
  have ends : ((ofEnumerable (.list candidates)).toOption.isSome) = true := by decide +kernel
  obtain ⟨fails, -⟩ | ⟨stored, built, accepts, -, -, hstored, -⟩ := enumeration_of_candidates regular
  · rw [fails] at ends
    cases ends
  have new : candidates.zipIdx.map (fun c => (candidates.take c.2).all fun d => !c.1.equals d) =
      [true, true, false, true, true, false, false] := by
    decide +kernel
  have kept : firsts candidates = [.int 1, .bool true, .list [.int 1], selfList] := by
    simp only [candidates, List.zipIdx_cons, List.zipIdx_nil, List.map_cons, List.map_nil,
      List.cons.injEq] at new
    simp only [firsts, candidates, List.zipIdx_cons, List.zipIdx_nil, List.filter_cons, new]
    rfl
  rw [hstored, kept] at built accepts
  obtain ⟨n, hn⟩ : ∃ n, ((enumeration [.int 1, .bool true, .list [.int 1], selfList]).trace
      (.tuple [.int 1]) .root).result = .ok n := by
    have checked : ((enumeration [.int 1, .bool true, .list [.int 1], selfList]).trace
      (.tuple [.int 1]) .root).result.toOption.isSome = true := by decide +kernel
    generalize (Schema.trace _ _ _).result = r at checked ⊢
    cases r with
    | error f => cases checked
    | ok n => exact ⟨n, rfl⟩
  refine ⟨regular, tuple, built, n, hn, ((accepts _ tuple .root).1 n hn).mpr ⟨.list [.int 1], ?_, ?_⟩⟩
  · simp [candidates]
  · decide +kernel

/-- The only candidate is equal to the value, and neither of them can be written. -/
theorem enumeration_fails_at_large_integer :
    let large := Value.int (Nat.pow 10 5000)
    ofEnumerable (.list [large]) = .ok (enumeration [large]) ∧ large.equals large = true ∧
      ((enumeration [large]).trace large .root).result = .error .integerUnwritable :=
  ⟨rfl, by decide +kernel, by decide +kernel⟩

end Conform.Schema
