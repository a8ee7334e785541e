import LinProg.Proofs.Solve

set_option autoImplicit false

namespace LinProg.Problem

section Causes

variable {K : Type} [Scalar K]

inductive Fault (p : Problem K) (limit : Int) : SolveError → Prop
  | notAtMost {before after : List (Constraint K)} {c : Constraint K} : p.constraints = before ++ c :: after →
      (∀ d ∈ before, d.sense = .atMost ∧ ¬ d.rhs < 0) → c.sense ≠ .atMost →
      Fault p limit (.notAtMost before.length c.sense)
  | negativeRhs {before after : List (Constraint K)} {c : Constraint K} : p.constraints = before ++ c :: after →
      (∀ d ∈ before, d.sense = .atMost ∧ ¬ d.rhs < 0) → c.sense = .atMost → c.rhs < 0 →
      Fault p limit (.negativeRhs before.length (Scalar.value c.rhs))
  | negativeLimit : (∀ c ∈ p.constraints, c.sense = .atMost ∧ ¬ c.rhs < 0) → limit < 0 → Fault p limit .negativeLimit
  | clash : (∀ c ∈ p.constraints, c.sense = .atMost ∧ ¬ c.rhs < 0) → 0 ≤ limit → ¬ p.Apart →
      Fault p limit (.clash ⟨Extended.clashes p.names p.constraints.length⟩)

variable {p : Problem K} {limit : Int} {fault : SolveError}

theorem check_origin_error_iff (p : Problem K) (fault : SolveError) :
    p.checkOrigin = .error fault ↔
      ∃ before c after, p.constraints = before ++ c :: after ∧ (∀ d ∈ before, d.sense = .atMost ∧ ¬ d.rhs < 0) ∧
        originFault? c before.length = some fault := by
  have found : p.checkOrigin = .error fault ↔
      p.constraints.zipIdx.findSome? (fun place => originFault? place.1 place.2) = some fault := by
    rw [checkOrigin]
    cases p.constraints.zipIdx.findSome? fun place => originFault? place.1 place.2 <;> simp
  rw [found, List.findSome?_eq_some_iff]
  constructor
  · intro ⟨places, place, others, split, faulty, fine⟩
    obtain ⟨before, rest, whole, rfl, tail⟩ := List.zipIdx_eq_append_iff.mp split
    obtain ⟨c, after, rfl, rfl, _⟩ := List.zipIdx_eq_cons_iff.mp tail.symm
    refine ⟨before, c, after, whole, ?_, by simpa using faulty⟩
    intro d member
    obtain ⟨i, inside, rfl⟩ := List.mem_iff_getElem.mp member
    exact (origin_fault_none_iff _ i).mp
      (fine (before[i], i) (List.mk_mem_zipIdx_iff_getElem?.mpr (List.getElem?_eq_getElem inside)))
  · intro ⟨before, c, after, whole, fine, faulty⟩
    refine ⟨before.zipIdx, (c, before.length), after.zipIdx (before.length + 1), ?_, faulty, ?_⟩
    · rw [whole, List.zipIdx_append, List.zipIdx_cons, Nat.zero_add]
    · intro place member
      exact (origin_fault_none_iff _ _).mpr (fine _ (List.fst_mem_of_mem_zipIdx member))

theorem origin_fault_kind {c : Constraint K} {row : Nat} (refused : originFault? c row = some fault) :
    fault.failureKind = .invalidModel := by
  rw [originFault?] at refused
  split at refused
  · cases refused
    rfl
  · split at refused
    · cases refused
      rfl
    · cases refused

theorem solve_of_check_error (limit : Limit) (refused : p.checkOrigin = .error fault) :
    p.solve limit = .error fault := by
  rw [solve, refused]
  rfl

theorem Fault.solve_eq (faulty : p.Fault limit fault) : p.solve (.count limit) = .error fault := by
  cases faulty with
  | notAtMost whole fine other =>
      apply solve_of_check_error
      exact (check_origin_error_iff p _).mpr ⟨_, _, _, whole, fine, by simp [originFault?, other]⟩
  | negativeRhs whole fine sense negative =>
      apply solve_of_check_error
      exact (check_origin_error_iff p _).mpr ⟨_, _, _, whole, fine, by simp [originFault?, sense, negative]⟩
  | negativeLimit fine negative =>
      have refused : (Limit.count limit).isNegative = true := by simp [Limit.isNegative, negative]
      rw [solve, (check_origin_ok_iff p).mpr fine, Outcome.ok_bind, if_pos refused]
      rfl
  | clash fine nonneg named =>
      have allowed : ¬ (Limit.count limit).isNegative = true := by simp [Limit.isNegative, nonneg]
      have clashing : ¬ Extended.clashes p.names p.rows.length = [] := by
        rwa [Extended.clashes_nil_iff, p.length_rows]
      rw [solve, (check_origin_ok_iff p).mpr fine, Outcome.ok_bind, if_neg allowed, StandardForm.ofProblem,
        if_neg clashing, p.length_rows]
      rfl

theorem fault_or_admitted (p : Problem K) (limit : Int) : (∃ fault, p.Fault limit fault) ∨ p.Admitted ∧ 0 ≤ limit := by
  cases checked : p.checkOrigin with
  | error fault =>
      obtain ⟨before, c, after, whole, fine, faulty⟩ := (check_origin_error_iff p fault).mp checked
      by_cases sense : c.sense = .atMost
      · by_cases negative : c.rhs < 0
        · exact .inl ⟨_, .negativeRhs whole fine sense negative⟩
        · simp [originFault?, sense, negative] at faulty
      · exact .inl ⟨_, .notAtMost whole fine sense⟩
  | ok =>
      have fine := (check_origin_ok_iff p).mp checked
      by_cases negative : limit < 0
      · exact .inl ⟨_, .negativeLimit fine negative⟩
      · by_cases apart : p.Apart
        · exact .inr ⟨⟨fun c member => (fine c member).1, fun c member => (fine c member).2, apart⟩, not_lt.mp negative⟩
        · exact .inl ⟨_, .clash fine (not_lt.mp negative) apart⟩

theorem solve_error_iff (apart : Scalar.ZeroApart K) (p : Problem K) (limit : Int) (fault : SolveError) :
    p.solve (.count limit) = .error fault ↔ p.Fault limit fault := by
  constructor
  · intro failed
    rcases p.fault_or_admitted limit with ⟨other, faulty⟩ | ⟨admitted, nonneg⟩
    · cases failed.symm.trans faulty.solve_eq
      exact faulty
    · obtain ⟨s, solved⟩ := admitted.solved apart nonneg
      cases failed.symm.trans solved
  · exact Fault.solve_eq

end Causes

theorem fails_as_announced (p : Problem Rat) (limit : Int) :
    ((∃ c ∈ p.constraints, c.sense ≠ .atMost ∨ c.rhs < 0) →
      ∃ fault, p.solve (.count limit) = .error fault ∧ fault.failureKind = .invalidModel) ∧
    ((∀ c ∈ p.constraints, c.sense = .atMost ∧ 0 ≤ c.rhs) →
      (limit < 0 → ∃ fault, p.solve (.count limit) = .error fault ∧ fault.failureKind = .badValue) ∧
      (0 ≤ limit → (∃ name ∈ p.names, ∃ i < p.constraints.length, (name == Extended.slackName i) = true) →
        ∃ fault, p.solve (.count limit) = .error fault ∧ fault.failureKind = .invalidModel) ∧
      (0 ≤ limit → (∀ name ∈ p.names, ∀ i < p.constraints.length, (name == Extended.slackName i) = false) →
        ∃ s, p.solve (.count limit) = .ok s)) ∧
    (∀ fault, p.solve (.count limit) = .error fault ↔ p.Fault limit fault) ∧
    ∀ cause, p.solve (.count limit) ≠ .error (.tableau cause) := by
  have causes := solve_error_iff Scalar.zero_apart_rational p limit
  refine ⟨?_, ?_, causes, ?_⟩
  · intro ⟨c, member, faulty⟩
    cases checked : p.checkOrigin with
    | ok =>
        have fine := (check_origin_ok_iff p).mp checked c member
        exact absurd faulty (not_or.mpr ⟨not_not.mpr fine.1, fine.2⟩)
    | error fault =>
        obtain ⟨before, d, after, _, _, refused⟩ := (check_origin_error_iff p fault).mp checked
        exact ⟨fault, solve_of_check_error _ checked, origin_fault_kind refused⟩
  · intro bounds
    have fine : ∀ c ∈ p.constraints, c.sense = .atMost ∧ ¬ c.rhs < 0 := by
      intro c member
      exact ⟨(bounds c member).1, not_lt.mpr (bounds c member).2⟩
    refine ⟨?_, ?_, ?_⟩
    · intro negative
      exact ⟨_, (Fault.negativeLimit fine negative).solve_eq, rfl⟩
    · intro nonneg ⟨name, member, i, inside, same⟩
      have clashing : ¬ p.Apart := by
        intro apart
        cases same.symm.trans (apart name member i inside)
      exact ⟨_, (Fault.clash fine nonneg clashing).solve_eq, rfl⟩
    · intro nonneg apart
      have admitted : p.Admitted := ⟨fun c member => (fine c member).1, fun c member => (fine c member).2, apart⟩
      exact admitted.solved Scalar.zero_apart_rational nonneg
  · intro cause failed
    cases (causes _).mp failed

def misnamed : Problem Rat :=
  { workshop with names := [Extended.slackName 0, Label.numbered "x" 1], has_names := by simp, distinct := by decide,
                  objective_length := rfl, row_length := workshop.row_length }

def sunk : Problem Rat := planar (3, 5) [(1, 0, 4), (0, 2, -12), (3, 2, 18)] (List.cons_ne_nil _ _)

-- The second row is no upper bound, and the third one, below zero, is not looked at.
def floored : Problem Rat :=
  { workshop with constraints := [⟨[1, 0], .atMost, 4⟩, ⟨[0, 2], .atLeast, 12⟩, ⟨[3, 2], .atMost, -18⟩],
                  has_constraints := by simp, row_length := by simp [workshop, planar] }

theorem workshop_announced :
    (∃ s, workshop.solve (.count 50) = .ok s) ∧
    (∃ fault, workshop.solve (.count (-1)) = .error fault ∧ fault.failureKind = .badValue) ∧
    (∃ fault, misnamed.solve (.count 50) = .error fault ∧ fault.failureKind = .invalidModel) ∧
    (∃ fault, sunk.solve (.count 50) = .error fault ∧ fault.failureKind = .invalidModel) ∧
    sunk.solve (.count 50) = .error (.negativeRhs 1 (Scalar.value (-12 : Rat))) ∧
    (∃ fault, floored.solve (.count 50) = .error fault ∧ fault.failureKind = .invalidModel) ∧
    floored.solve (.count 50) = .error (.notAtMost 1 .atLeast) := by
  have bounds : ∀ c ∈ workshop.constraints, c.sense = .atMost ∧ 0 ≤ c.rhs := fun c member =>
    ⟨workshop_accepted.atMost c member, workshop_accepted.origin c member⟩
  refine ⟨?_, ?_, ?_, ?_, ?_, ?_, ?_⟩
  · exact ((fails_as_announced workshop 50).2.1 bounds).2.2 (by decide) workshop_accepted.apart
  · exact ((fails_as_announced workshop (-1)).2.1 bounds).1 (by decide)
  · exact ((fails_as_announced misnamed 50).2.1 bounds).2.1 (by decide)
      ⟨Extended.slackName 0, List.mem_cons_self, 0, by decide, beq_self_eq_true _⟩
  · exact (fails_as_announced sunk 50).1 ⟨⟨[0, 2], .atMost, -12⟩, by simp [sunk, planar], .inr (by norm_num)⟩
  · have split : sunk.constraints = [⟨[1, 0], .atMost, 4⟩] ++ ⟨[0, 2], .atMost, -12⟩ :: [⟨[3, 2], .atMost, 18⟩] := rfl
    exact ((fails_as_announced sunk 50).2.2.1 _).mpr (.negativeRhs split (by simp) rfl (by norm_num))
  · exact (fails_as_announced floored 50).1 ⟨⟨[0, 2], .atLeast, 12⟩, by simp [floored], .inl (by decide)⟩
  · have split : floored.constraints =
        [⟨[1, 0], .atMost, 4⟩] ++ ⟨[0, 2], .atLeast, 12⟩ :: [⟨[3, 2], .atMost, -18⟩] := rfl
    exact ((fails_as_announced floored 50).2.2.1 _).mpr (.notAtMost split (by simp) (by decide))

end LinProg.Problem
