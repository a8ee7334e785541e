import LinProg.Failure
import LinProg.Proofs.Outcome

set_option autoImplicit false

namespace LinProg

-- Work begun with one record comes to a result and leaves another record behind.
def Ends {ε σ α : Type} (x : ExceptT ε (StateM σ) α) (before : σ) (result : Except ε α) (after : σ) : Prop :=
  x.run before = (result, after)

namespace Ends

variable {ε σ α β : Type} {before after : σ}

theorem exists_end (x : ExceptT ε (StateM σ) α) (before : σ) : ∃ result after, Ends x before result after :=
  ⟨_, _, rfl⟩

theorem unique {x : ExceptT ε (StateM σ) α} {result other : Except ε α} {left : σ} (ends : Ends x before result after)
    (again : Ends x before other left) : result = other ∧ after = left :=
  Prod.mk.inj (ends.symm.trans again)

theorem run_iff {x : ExceptT ε (StateM σ) α} {first : Except ε α} {between : σ} (ended : Ends x before first between)
    (result : Except ε α) : Ends x before result after ↔ result = first ∧ after = between := by
  refine ⟨fun ends => ends.unique ended, ?_⟩
  intro ⟨same, kept⟩
  rw [same, kept]
  exact ended

theorem pure_iff (a : α) (result : Except ε α) :
    Ends (pure a) before result after ↔ result = .ok a ∧ after = before := run_iff rfl result

theorem throw_iff (fault : ε) (result : Except ε α) :
    Ends (throw fault) before result after ↔ result = .error fault ∧ after = before := run_iff rfl result

theorem modify_iff (f : σ → σ) (result : Except ε PUnit) :
    Ends (modify f) before result after ↔ result = .ok () ∧ after = f before := run_iff rfl result

theorem bind_iff (x : ExceptT ε (StateM σ) α) (f : α → ExceptT ε (StateM σ) β) (result : Except ε β) :
    Ends (x >>= f) before result after ↔
      (∃ a between, Ends x before (.ok a) between ∧ Ends (f a) between result after) ∨
        ∃ fault, Ends x before (.error fault) after ∧ result = .error fault := by
  obtain ⟨first, between, ended⟩ := exists_end x before
  have step : (x >>= f).run before = (ExceptT.bindCont f first) between := by
    change (ExceptT.bindCont f (x.run before).1) (x.run before).2 = _
    rw [show x.run before = (first, between) from ended]
  cases first with
  | ok a =>
      constructor
      · intro ends
        exact .inl ⟨a, between, ended, step.symm.trans ends⟩
      · rintro (⟨_, _, first, rest⟩ | ⟨_, first, _⟩)
        · obtain ⟨⟨⟩, rfl⟩ := ended.unique first
          exact step.trans rest
        · cases (ended.unique first).1
  | error fault =>
      constructor
      · intro ends
        obtain ⟨rfl, rfl⟩ := Prod.mk.inj (step.symm.trans ends)
        exact .inr ⟨fault, ended, rfl⟩
      · rintro (⟨_, _, first, _⟩ | ⟨_, first, rfl⟩)
        · cases (ended.unique first).1
        · obtain ⟨⟨⟩, rfl⟩ := ended.unique first
          exact step

theorem bind_ok_iff (x : ExceptT ε (StateM σ) α) (f : α → ExceptT ε (StateM σ) β) (b : β) :
    Ends (x >>= f) before (.ok b) after ↔
      ∃ a between, Ends x before (.ok a) between ∧ Ends (f a) between (.ok b) after := by
  rw [bind_iff]
  simp

theorem bind_error_iff (x : ExceptT ε (StateM σ) α) (f : α → ExceptT ε (StateM σ) β) (fault : ε) :
    Ends (x >>= f) before (.error fault) after ↔
      Ends x before (.error fault) after ∨
        ∃ a between, Ends x before (.ok a) between ∧ Ends (f a) between (.error fault) after := by
  rw [bind_iff, or_comm]
  simp

end Ends

namespace Failure

variable {α : Type}

theorem lift_bytes (x : Except Text.Utf8Error α) : (liftM x : Except Failure α) = x.mapError .bytes := rfl

theorem lift_report (x : Except Report.ReportError α) : (liftM x : Except Failure α) = x.mapError .report := rfl

theorem lift_tableau (x : Except TableauError α) : (liftM x : Except Failure α) = x.mapError .tableau := rfl

theorem lift_figure (x : Except FigureError α) : (liftM x : Except Failure α) = x.mapError .figure := rfl

end Failure

end LinProg
