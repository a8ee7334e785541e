import LinProg.CommandLine.Run
import LinProg.Proofs.Effects

set_option autoImplicit false

namespace LinProg.CommandLine

def read (arguments : List Text) : Except UsageError Request := do
  match ← collect {} (← itemsOf arguments) with
  | .help => return .help
  | .run o =>
    if o.path.isNone then throw .missingPath
    if !o.extras.isEmpty then throw (.unrecognized o.extras)
    return .run o

def checkLimit : Request → Except UsageError Request
  | .help => .ok .help
  | .run o => if o.limit.any (· < 0) then .error .negativeLimit else .ok (.run o)

theorem parse_eq (arguments : List Text) : parse arguments = read arguments >>= checkLimit := by
  unfold parse read
  cases itemsOf arguments with
  | error cause => rfl
  | ok items =>
      rw [Outcome.ok_bind, Outcome.ok_bind]
      cases collect {} items with
      | error cause => rfl
      | ok request =>
          cases request with
          | help => rfl
          | run o =>
              simp only [Outcome.ok_bind]
              cases o.path.isNone <;> cases o.extras.isEmpty <;> rfl

theorem check_limit_error_iff (request : Request) (cause : UsageError) : checkLimit request = .error cause ↔
    cause = .negativeLimit ∧ ∃ o limit, request = .run o ∧ o.limit = some limit ∧ limit < 0 := by
  cases request with
  | help => simp [checkLimit]
  | run o =>
      cases limited : o.limit with
      | none => simp [checkLimit, limited]
      | some limit => by_cases negative : limit < 0 <;> simp [checkLimit, limited, negative, eq_comm]

theorem check_limit_run_iff (request : Request) (o : Options) : checkLimit request = .ok (.run o) ↔
    request = .run o ∧ ∀ limit, o.limit = some limit → 0 ≤ limit := by
  cases request with
  | help => simp [checkLimit]
  | run given =>
      have below : given.limit.any (· < 0) = true ↔ ∃ limit, given.limit = some limit ∧ limit < 0 := by
        cases given.limit <;> simp
      rw [Request.run.injEq, checkLimit]
      split
      · rename_i negative
        obtain ⟨limit, limited, under⟩ := below.mp negative
        simp only [reduceCtorEq, false_iff, not_and]
        rintro rfl nonneg
        exact not_le.mpr under (nonneg limit limited)
      · rename_i fine
        simp only [Except.ok.injEq, Request.run.injEq, iff_self_and]
        rintro rfl limit limited
        exact not_lt.mp fun under => fine (below.mpr ⟨limit, limited, under⟩)

theorem parse_error_iff (arguments : List Text) (cause : UsageError) : parse arguments = .error cause ↔
    read arguments = .error cause ∨
      cause = .negativeLimit ∧ ∃ o limit, read arguments = .ok (.run o) ∧ o.limit = some limit ∧ limit < 0 := by
  rw [parse_eq, Outcome.bind_error_iff]
  refine or_congr_right ?_
  constructor
  · rintro ⟨_, asked, fault⟩
    obtain ⟨same, o, limit, rfl, limited⟩ := (check_limit_error_iff _ _).mp fault
    exact ⟨same, o, limit, asked, limited⟩
  · rintro ⟨same, o, limit, asked, limited⟩
    exact ⟨_, asked, (check_limit_error_iff _ _).mpr ⟨same, o, limit, rfl, limited⟩⟩

theorem parse_run_iff (arguments : List Text) (o : Options) : parse arguments = .ok (.run o) ↔
    read arguments = .ok (.run o) ∧ ∀ limit, o.limit = some limit → 0 ≤ limit := by
  rw [parse_eq, Outcome.bind_ok_iff]
  constructor
  · rintro ⟨_, asked, fine⟩
    obtain ⟨rfl, nonneg⟩ := (check_limit_run_iff _ _).mp fine
    exact ⟨asked, nonneg⟩
  · rintro ⟨asked, nonneg⟩
    exact ⟨_, asked, (check_limit_run_iff _ _).mpr ⟨rfl, nonneg⟩⟩

def Options.file (o : Options) : Text := o.path.getD []

def Options.Holds (o : Options) (files : Files) (text : Text) : Prop :=
  pathError? o.file = none ∧ ∃ bytes, files o.file = .ok bytes ∧ Text.ofBytes bytes = .ok text

def Options.Loads (o : Options) (files : Files) (p : Problem Float) : Prop :=
  ∃ text model, o.Holds files text ∧ Json.parse text = .ok model ∧ Problem.ofModel model o.direction = .ok p

inductive Options.Unloaded (o : Options) (files : Files) : Refusal → Prop
  | file {cause : FileError} (usable : pathError? o.file = none) (failed : files o.file = .error cause) :
      o.Unloaded files (.file o.file cause)
  | text {text : Text} {flaw : Json.Flaw} {place : Json.Place} (holds : o.Holds files text)
      (flawed : Json.parse text = .error (.flaw flaw place)) : o.Unloaded files (.text (.flaw flaw place))
  | model {text : Text} {model : Json} {cause : ModelError} (holds : o.Holds files text)
      (parsed : Json.parse text = .ok model) (unfit : Problem.ofModel model o.direction = .error cause)
      (reported : cause.failureKind = .invalidModel) : o.Unloaded files (.model cause)

section Unique

variable {o : Options} {files : Files} {p q : Problem Float} {text other : Text} {cause : Refusal}

theorem Options.Holds.unique (holds : o.Holds files text) (again : o.Holds files other) : text = other := by
  obtain ⟨_, bytes, read, decoded⟩ := holds
  obtain ⟨_, _, same, redecoded⟩ := again
  cases read.symm.trans same
  exact Except.ok.inj (decoded.symm.trans redecoded)

theorem Options.Loads.unique (loads : o.Loads files p) (again : o.Loads files q) : p = q := by
  obtain ⟨text, model, holds, parsed, fits⟩ := loads
  obtain ⟨_, _, held, reparsed, refits⟩ := again
  cases holds.unique held
  cases parsed.symm.trans reparsed
  exact Except.ok.inj (fits.symm.trans refits)

theorem Options.Loads.not_unloaded (loads : o.Loads files p) : ¬ o.Unloaded files cause := by
  obtain ⟨text, model, holds, parsed, fits⟩ := loads
  intro unloaded
  cases unloaded with
  | file _ failed =>
      obtain ⟨_, _, read, _⟩ := holds
      cases read.symm.trans failed
  | text held flawed =>
      cases holds.unique held
      cases parsed.symm.trans flawed
  | model held reparsed unfit _ =>
      cases holds.unique held
      cases parsed.symm.trans reparsed
      cases fits.symm.trans unfit

end Unique

section Runs

variable {t u : Transcript} {α : Type}

theorem or_fail_iff (x : Except Failure α) (r : Except Stop α) :
    Ends (orFail x) t r u ↔ r = x.mapError .failure ∧ u = t := by
  cases x with
  | ok value => exact Ends.pure_iff _ _
  | error cause => exact Ends.throw_iff _ _

theorem or_fail_ok_iff (x : Except Failure α) (a : α) : Ends (orFail x) t (.ok a) u ↔ x = .ok a ∧ u = t := by
  rw [or_fail_iff, eq_comm, Outcome.mapError_ok_iff]

theorem or_fail_never_refuses (x : Except Failure α) (cause : Refusal) :
    ¬ Ends (orFail x) t (.error (.refusal cause)) u := by
  rw [or_fail_iff]
  cases x <;> simp [Except.mapError]

theorem refuse_iff (cause : Refusal) (r : Except Stop α) :
    Ends (refuse cause) t r u ↔ r = .error (.refusal cause) ∧ u = t := Ends.throw_iff _ _

theorem read_model_ok_iff (o : Options) (files : Files) (model : Json) : Ends (readModel o.file files) t (.ok model) u ↔
    u = t ∧ ∃ text, o.Holds files text ∧ Json.parse text = .ok model := by
  unfold readModel Options.Holds
  cases unusable : pathError? o.file with
  | some cause => simp [Ends.throw_iff]
  | none =>
      cases opened : files o.file with
      | error cause => simp [refuse_iff]
      | ok bytes =>
          simp only [Ends.bind_ok_iff, or_fail_ok_iff, Failure.lift_bytes, Outcome.mapError_ok_iff]
          constructor
          · rintro ⟨text, _, ⟨decoded, rfl⟩, rest⟩
            split at rest
            · obtain ⟨⟨⟩, rfl⟩ := (Ends.pure_iff _ _).mp rest
              exact ⟨rfl, text, ⟨trivial, bytes, rfl, decoded⟩, by assumption⟩
            · cases ((refuse_iff _ _).mp rest).1
            · cases ((Ends.throw_iff _ _).mp rest).1
          · rintro ⟨rfl, text, ⟨_, _, ⟨⟩, decoded⟩, parsed⟩
            exact ⟨text, u, ⟨decoded, rfl⟩, by rw [parsed]; exact (Ends.pure_iff _ _).mpr ⟨rfl, rfl⟩⟩

theorem read_model_refusal_iff (o : Options) (files : Files) (cause : Refusal) :
    Ends (readModel o.file files) t (.error (.refusal cause)) u ↔
      u = t ∧ ((∃ fault, pathError? o.file = none ∧ files o.file = .error fault ∧ cause = .file o.file fault) ∨
        ∃ text flaw place, o.Holds files text ∧ Json.parse text = .error (.flaw flaw place) ∧
          cause = .text (.flaw flaw place)) := by
  unfold readModel Options.Holds
  cases unusable : pathError? o.file with
  | some cause => simp [Ends.throw_iff]
  | none =>
      cases opened : files o.file with
      | error fault => simp [refuse_iff, and_comm]
      | ok bytes =>
          simp only [Ends.bind_error_iff, or_fail_ok_iff, or_fail_never_refuses, Failure.lift_bytes,
            Outcome.mapError_ok_iff, false_or]
          constructor
          · rintro ⟨text, _, ⟨decoded, rfl⟩, rest⟩
            split at rest
            · cases ((Ends.pure_iff _ _).mp rest).1
            · obtain ⟨⟨⟩, rfl⟩ := (refuse_iff _ _).mp rest
              exact ⟨rfl, .inr ⟨text, _, _, ⟨trivial, bytes, rfl, decoded⟩, by assumption, rfl⟩⟩
            · cases ((Ends.throw_iff _ _).mp rest).1
          · rintro ⟨rfl, ⟨_, _, ⟨⟩, _⟩ | ⟨text, flaw, place, ⟨_, _, ⟨⟩, decoded⟩, flawed, rfl⟩⟩
            exact ⟨text, u, ⟨decoded, rfl⟩, by rw [flawed]; exact (refuse_iff _ _).mpr ⟨rfl, rfl⟩⟩

-- A path that the system cannot be asked for is no reason to refuse.
theorem read_model_unusable {o : Options} {cause : PathError} (files : Files) (unusable : pathError? o.file = some cause) :
    Ends (readModel o.file files) t (.error (.failure (.path cause))) t := by
  unfold readModel
  simp [unusable, Ends.throw_iff]

theorem load_problem_ok_iff (o : Options) (files : Files) (p : Problem Float) :
    Ends (loadProblem o files) t (.ok p) u ↔ u = t ∧ o.Loads files p := by
  unfold loadProblem
  rw [Ends.bind_ok_iff]
  constructor
  · rintro ⟨model, _, opened, rest⟩
    obtain ⟨rfl, text, holds, parsed⟩ := (read_model_ok_iff o files model).mp opened
    split at rest
    · obtain ⟨⟨⟩, rfl⟩ := (Ends.pure_iff _ _).mp rest
      exact ⟨rfl, text, model, holds, parsed, by assumption⟩
    · split at rest
      · cases ((refuse_iff _ _).mp rest).1
      · cases ((Ends.throw_iff _ _).mp rest).1
  · rintro ⟨rfl, text, model, holds, parsed, fits⟩
    refine ⟨model, u, (read_model_ok_iff o files model).mpr ⟨rfl, text, holds, parsed⟩, ?_⟩
    rw [fits]
    exact (Ends.pure_iff _ _).mpr ⟨rfl, rfl⟩

theorem load_problem_refusal_iff (o : Options) (files : Files) (cause : Refusal) :
    Ends (loadProblem o files) t (.error (.refusal cause)) u ↔ u = t ∧ o.Unloaded files cause := by
  unfold loadProblem
  rw [Ends.bind_error_iff]
  constructor
  · rintro (unread | ⟨model, _, opened, rest⟩)
    · obtain ⟨rfl, ⟨fault, usable, failed, rfl⟩ | ⟨text, flaw, place, holds, flawed, rfl⟩⟩ :=
        (read_model_refusal_iff o files cause).mp unread
      · exact ⟨rfl, .file usable failed⟩
      · exact ⟨rfl, .text holds flawed⟩
    · obtain ⟨rfl, text, holds, parsed⟩ := (read_model_ok_iff o files model).mp opened
      split at rest
      · cases ((Ends.pure_iff _ _).mp rest).1
      · split at rest
        · obtain ⟨⟨⟩, rfl⟩ := (refuse_iff _ _).mp rest
          exact ⟨rfl, .model holds parsed (by assumption) (by assumption)⟩
        · cases ((Ends.throw_iff _ _).mp rest).1
  · rintro ⟨rfl, unloaded⟩
    cases unloaded with
    | file usable failed =>
        exact .inl ((read_model_refusal_iff o files _).mpr ⟨rfl, .inl ⟨_, usable, failed, rfl⟩⟩)
    | text holds flawed =>
        exact .inl ((read_model_refusal_iff o files _).mpr ⟨rfl, .inr ⟨_, _, _, holds, flawed, rfl⟩⟩)
    | model holds parsed unfit reported =>
        refine .inr ⟨_, u, (read_model_ok_iff o files _).mpr ⟨rfl, _, holds, parsed⟩, ?_⟩
        rw [unfit]
        dsimp only
        rw [if_pos reported]
        exact (refuse_iff _ _).mpr ⟨rfl, rfl⟩

end Runs

end LinProg.CommandLine
