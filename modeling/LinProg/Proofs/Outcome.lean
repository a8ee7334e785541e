import Mathlib

set_option autoImplicit false

namespace LinProg.Outcome

variable {ε α β : Type}

theorem bind_ok_iff (x : Except ε α) (f : α → Except ε β) (b : β) :
    (x >>= f) = .ok b ↔ ∃ a, x = .ok a ∧ f a = .ok b := by
  cases x <;> simp [bind, Except.bind]

theorem bind_error_iff (x : Except ε α) (f : α → Except ε β) (fault : ε) :
    (x >>= f) = .error fault ↔ x = .error fault ∨ ∃ a, x = .ok a ∧ f a = .error fault := by
  cases x <;> simp [bind, Except.bind]

theorem ok_bind (a : α) (f : α → Except ε β) : (Except.ok a >>= f) = f a := rfl

theorem map_ok_iff (f : α → β) (x : Except ε α) (b : β) : f <$> x = .ok b ↔ ∃ a, x = .ok a ∧ f a = b := by
  cases x <;> simp

theorem pure_ok_iff (a b : α) : (pure a : Except ε α) = .ok b ↔ a = b := by
  simp [pure, Except.pure]

theorem throw_ok_iff (fault : ε) (b : α) : (throw fault : Except ε α) = .ok b ↔ False := by
  simp [throw, throwThe, MonadExceptOf.throw]

theorem mapError_ok_iff (translate : ε → β) (x : Except ε α) (a : α) :
    x.mapError translate = .ok a ↔ x = .ok a := by
  cases x <;> simp [Except.mapError]

theorem mapError_error_iff (translate : ε → β) (x : Except ε α) (fault : β) :
    x.mapError translate = .error fault ↔ ∃ cause, x = .error cause ∧ translate cause = fault := by
  cases x <;> simp [Except.mapError]

theorem to_option_some_iff (x : Except ε α) (a : α) : x.toOption = some a ↔ x = .ok a := by
  cases x <;> simp [Except.toOption]

theorem mapM_pure_of {m : Type → Type} [Monad m] [LawfulMonad m] (f : α → m β) (g : α → β) (xs : List α)
    (each : ∀ x ∈ xs, f x = pure (g x)) : xs.mapM f = pure (xs.map g) := by
  induction xs with
  | nil => simp
  | cons x xs ih =>
      have rest := ih fun y member => each y (List.mem_cons_of_mem x member)
      simp [each x List.mem_cons_self, rest]

theorem mapM_ok (f : α → Except ε β) (g : α → β) (xs : List α) (each : ∀ x ∈ xs, f x = .ok (g x)) :
    xs.mapM f = .ok (xs.map g) :=
  mapM_pure_of f g xs each

theorem mapM_ok_iff (f : α → Except ε β) (xs : List α) (ys : List β) :
    xs.mapM f = .ok ys ↔ List.Forall₂ (fun x y => f x = .ok y) xs ys := by
  induction xs generalizing ys with
  | nil => rw [List.mapM_nil, pure_ok_iff, List.forall₂_nil_left_iff, eq_comm]
  | cons x xs ih =>
      simp only [List.mapM_cons, bind_ok_iff, pure_ok_iff, ih, List.forall₂_cons_left_iff]
      constructor
      · rintro ⟨y, first, rest, others, rfl⟩
        exact ⟨y, rest, first, others, rfl⟩
      · rintro ⟨y, rest, first, others, rfl⟩
        exact ⟨y, first, rest, others, rfl⟩

theorem mapM_error_iff (f : α → Except ε β) (xs : List α) (fault : ε) : xs.mapM f = .error fault ↔
    ∃ before x after, xs = before ++ x :: after ∧ (∀ y ∈ before, ∃ z, f y = .ok z) ∧ f x = .error fault := by
  induction xs with
  | nil => simp [pure, Except.pure]
  | cons x xs ih =>
      rw [List.mapM_cons, bind_error_iff]
      constructor
      · rintro (first | ⟨y, first, later⟩)
        · exact ⟨[], x, xs, rfl, by simp, first⟩
        · obtain rest | ⟨_, _, done⟩ := (bind_error_iff _ _ _).mp later
          · obtain ⟨before, z, after, rfl, fine, failed⟩ := ih.mp rest
            exact ⟨x :: before, z, after, rfl, by simpa using ⟨⟨y, first⟩, fine⟩, failed⟩
          · cases done
      · rintro ⟨before, z, after, split, fine, failed⟩
        cases before with
        | nil =>
            obtain ⟨rfl, _⟩ := List.cons.inj split
            exact .inl failed
        | cons _ before =>
            obtain ⟨rfl, rfl⟩ := List.cons.inj split
            obtain ⟨⟨y, first⟩, others⟩ := List.forall_mem_cons.mp fine
            exact .inr ⟨y, first, (bind_error_iff _ _ _).mpr (.inl (ih.mpr ⟨before, z, after, rfl, others, failed⟩))⟩

theorem mapM_succeeds_iff (f : α → Except ε β) (xs : List α) :
    (∃ ys, xs.mapM f = .ok ys) ↔ ∀ x ∈ xs, ∃ y, f x = .ok y := by
  constructor
  · rintro ⟨ys, done⟩ x member
    have paired := (mapM_ok_iff f xs ys).mp done
    obtain ⟨i, inside, rfl⟩ := List.mem_iff_getElem.mp member
    exact ⟨_, paired.get inside (paired.length_eq ▸ inside)⟩
  · intro each
    cases done : xs.mapM f with
    | ok ys => exact ⟨ys, rfl⟩
    | error fault =>
        obtain ⟨before, x, after, rfl, _, failed⟩ := (mapM_error_iff f xs fault).mp done
        obtain ⟨y, fine⟩ := each x (by simp)
        cases failed.symm.trans fine

theorem filterM_ok (f : α → Except ε Bool) (g : α → Bool) (xs : List α) (each : ∀ x ∈ xs, f x = .ok (g x)) :
    xs.filterM f = .ok (xs.filter g) := by
  have gathered (kept : List α) : xs.filterAuxM f kept = .ok ((xs.filter g).reverse ++ kept) := by
    induction xs generalizing kept with
    | nil => rfl
    | cons x xs ih =>
        have rest := ih fun y member => each y (List.mem_cons_of_mem x member)
        rw [List.filterAuxM, each x List.mem_cons_self, ok_bind, rest]
        cases chosen : g x <;> simp [chosen]
  rw [List.filterM, gathered [], ok_bind]
  simp [pure, Except.pure]

-- What each step of a fold keeps, and keeps it from failing, the fold keeps.
theorem foldlM_ok (f : β → α → Except ε β) (property : β → Prop) (xs : List α) (start : β) (base : property start)
    (step : ∀ b x, property b → x ∈ xs → ∃ c, f b x = .ok c ∧ property c) :
    ∃ last, xs.foldlM f start = .ok last ∧ property last := by
  induction xs generalizing start with
  | nil => exact ⟨start, rfl, base⟩
  | cons x xs ih =>
      obtain ⟨next, stepped, kept⟩ := step start x base List.mem_cons_self
      obtain ⟨last, onward, reached⟩ := ih next kept fun b y held member => step b y held (List.mem_cons_of_mem x member)
      refine ⟨last, ?_, reached⟩
      rw [List.foldlM_cons, stepped]
      exact onward

end LinProg.Outcome
