import LinProg.Problem.Reader
import LinProg.Proofs.Outcome

set_option autoImplicit false

namespace LinProg

namespace Json

theorem members_ok_iff (value : Json) (items : List Json) : value.members = .ok items ↔ value.members? = some items := by
  cases found : value.members? <;> simp [members, found]

theorem members_error_iff (value : Json) (fault : ModelError) :
    value.members = .error fault ↔ value.members? = none ∧ fault = .notMembers value.kind := by
  cases found : value.members? <;> simp [members, found, eq_comm]

theorem sized_some {value : Json} {items : List Json} (found : value.members? = some items) : value.sized = .ok items := by
  simp [sized, found]

theorem sized_none {value : Json} (missing : value.members? = none) : value.sized = .error (.notSized value.kind) := by
  simp [sized, missing]

def Numeric (value : Json) : Prop := ∃ x, value.number = .ok x

def Numbers (items : List Json) (xs : List Float) : Prop := List.Forall₂ (fun value x => value.number = .ok x) items xs

def Row (value : Json) (xs : List Float) : Prop := ∃ items, value.members? = some items ∧ Numbers items xs

def Relates (value : Json) (relation : Sense) : Prop := Sense.ofText? value.plain = some relation

theorem read_number_ok_iff (value : Json) (x : Float) : value.readNumber = .ok x ↔ value.number = .ok x := by
  rw [readNumber, Outcome.mapError_ok_iff]

theorem read_number_error_iff (value : Json) (fault : ModelError) :
    value.readNumber = .error fault ↔ ∃ cause, value.number = .error cause ∧ .number cause = fault := by
  rw [readNumber, Outcome.mapError_error_iff]

theorem numbers_ok_iff (items : List Json) (xs : List Float) : items.mapM readNumber = .ok xs ↔ Numbers items xs := by
  simp only [Outcome.mapM_ok_iff, read_number_ok_iff, Numbers]

theorem Numbers.numeric {items : List Json} {xs : List Float} (numbers : Numbers items xs) : ∀ v ∈ items, v.Numeric := by
  have read := (Outcome.mapM_succeeds_iff readNumber items).mp ⟨xs, (numbers_ok_iff items xs).mpr numbers⟩
  simpa only [read_number_ok_iff, Numeric] using read

theorem exists_numbers {items : List Json} (numeric : ∀ v ∈ items, v.Numeric) : ∃ xs, Numbers items xs := by
  simp only [← numbers_ok_iff, Outcome.mapM_succeeds_iff, read_number_ok_iff]
  exact numeric

theorem numbers_error_iff (items : List Json) (fault : ModelError) : items.mapM readNumber = .error fault ↔
    ∃ before value after cause, items = before ++ value :: after ∧ (∀ v ∈ before, v.Numeric) ∧
      value.number = .error cause ∧ .number cause = fault := by
  simp only [Outcome.mapM_error_iff, read_number_ok_iff, read_number_error_iff, Numeric, exists_and_left]

theorem read_numbers_ok_iff (value : Json) (xs : List Float) : value.readNumbers = .ok xs ↔ value.Row xs := by
  simp only [readNumbers, Row, Outcome.bind_ok_iff, members_ok_iff, numbers_ok_iff]

theorem read_numbers_overflow_iff (value : Json) : value.readNumbers = .error (.number .tooLarge) ↔
    ∃ before v after, value.members? = some (before ++ v :: after) ∧ (∀ u ∈ before, u.Numeric) ∧
      v.number = .error .tooLarge := by
  rw [readNumbers, Outcome.bind_error_iff, members_error_iff]
  constructor
  · rintro (⟨_, other⟩ | ⟨items, found, failed⟩)
    · cases other
    · obtain ⟨before, v, after, cause, rfl, fine, large, same⟩ := (numbers_error_iff _ _).mp failed
      cases same
      exact ⟨before, v, after, (members_ok_iff _ _).mp found, fine, large⟩
  · rintro ⟨before, v, after, found, fine, large⟩
    exact .inr ⟨_, (members_ok_iff _ _).mpr found, (numbers_error_iff _ _).mpr ⟨before, v, after, _, rfl, fine, large, rfl⟩⟩

theorem read_sense_ok_iff (value : Json) (relation : Sense) :
    value.readSense = .ok relation ↔ value.Relates relation := by
  cases found : Sense.ofText? value.plain <;> simp [readSense, Relates, found]

def Single (value : Json) : Prop := (Label.mk value).isSingle = true

def readLabel (value : Json) : Except ModelError Label :=
  match Label.single? value with
  | some label => .ok label
  | none => .error (.unusableName value.kind)

theorem read_label_ok_iff (value : Json) : (∃ name, readLabel value = .ok name) ↔ value.Single := by
  by_cases single : (Label.mk value).isSingle <;> simp [readLabel, Label.single?, Single, single]

theorem read_label_single {value : Json} (single : value.Single) : readLabel value = .ok ⟨value⟩ := by
  simp [readLabel, Label.single?, show (Label.mk value).isSingle = true from single]

theorem read_label_error_iff (value : Json) (fault : ModelError) :
    readLabel value = .error fault ↔ ¬ value.Single ∧ fault = .unusableName value.kind := by
  by_cases single : (Label.mk value).isSingle <;> simp [readLabel, Label.single?, Single, single, eq_comm]

theorem read_names_ok_iff (values : List Json) (names : List Label) :
    readNames values = .ok names ↔ (∀ v ∈ values, v.Single) ∧ names = values.map Label.mk := by
  have single : (∃ names, values.mapM readLabel = .ok names) ↔ ∀ v ∈ values, v.Single := by
    simp only [Outcome.mapM_succeeds_iff, read_label_ok_iff]
  have read (each : ∀ v ∈ values, v.Single) : readNames values = .ok (values.map Label.mk) :=
    Outcome.mapM_ok readLabel Label.mk values fun v member => read_label_single (each v member)
  constructor
  · intro done
    have each := single.mp ⟨names, done⟩
    exact ⟨each, Except.ok.inj (done.symm.trans (read each))⟩
  · rintro ⟨each, rfl⟩
    exact read each

theorem read_names_error_iff (values : List Json) (fault : ModelError) : readNames values = .error fault ↔
    ∃ before value after, values = before ++ value :: after ∧ (∀ v ∈ before, v.Single) ∧ ¬ value.Single ∧
      fault = .unusableName value.kind := by
  have each : readNames values = values.mapM readLabel := rfl
  simp only [each, Outcome.mapM_error_iff, read_label_ok_iff, read_label_error_iff]

end Json

namespace Constraint

structure Reads (c : Constraint Float) (row sense bound : Json) : Prop where
  coefficients : row.Row c.coefficients
  sense : sense.Relates c.sense
  rhs : bound.number = .ok c.rhs

variable {row sense bound : Json} {c : Constraint Float}

theorem reads_iff : c.Reads row sense bound ↔
    Json.Row row c.coefficients ∧ Json.Relates sense c.sense ∧ bound.number = .ok c.rhs :=
  ⟨fun reads => ⟨reads.coefficients, reads.sense, reads.rhs⟩, fun ⟨row, sense, rhs⟩ => ⟨row, sense, rhs⟩⟩

theorem read_ok_iff : read row sense bound = .ok c ↔ c.Reads row sense bound := by
  simp only [read, Outcome.bind_ok_iff, Outcome.pure_ok_iff, Json.read_numbers_ok_iff,
    Json.read_sense_ok_iff, Json.read_number_ok_iff]
  constructor
  · rintro ⟨xs, numbers, relation, known, x, level, rfl⟩
    exact ⟨numbers, known, level⟩
  · intro reads
    exact ⟨_, reads.coefficients, _, reads.sense, _, reads.rhs, rfl⟩

-- A whole number that no 64-bit number is near stands among the coefficients or, after a row and a relation that are
-- in order, as the right-hand side.
inductive Overflows (row sense bound : Json) : Prop
  | coefficient {before after : List Json} {value : Json} : row.members? = some (before ++ value :: after) →
      (∀ v ∈ before, v.Numeric) → value.number = .error .tooLarge → Overflows row sense bound
  | rhs {items : List Json} : row.members? = some items → (∀ v ∈ items, v.Numeric) →
      (∃ relation, sense.Relates relation) → bound.number = .error .tooLarge →
      Overflows row sense bound

theorem read_overflow_iff : read row sense bound = .error (.number .tooLarge) ↔ Overflows row sense bound := by
  have unmatched (value : Json) : value.readSense ≠ .error (.number .tooLarge) := by
    cases found : Sense.ofText? value.plain <;> simp [Json.readSense, found]
  rw [read, Outcome.bind_error_iff]
  constructor
  · rintro (large | ⟨xs, row, later⟩)
    · obtain ⟨before, value, after, found, fine, large⟩ := (Json.read_numbers_overflow_iff _).mp large
      exact .coefficient found fine large
    · obtain ⟨items, found, numbers⟩ := (Json.read_numbers_ok_iff _ _).mp row
      rcases (Outcome.bind_error_iff _ _ _).mp later with unknown | ⟨relation, known, last⟩
      · exact absurd unknown (unmatched sense)
      · rcases (Outcome.bind_error_iff _ _ _).mp last with failed | ⟨_, _, done⟩
        · obtain ⟨cause, large, same⟩ := (Json.read_number_error_iff _ _).mp failed
          cases same
          exact .rhs found numbers.numeric ⟨relation, (Json.read_sense_ok_iff _ _).mp known⟩ large
        · cases done
  · intro overflows
    cases overflows with
    | coefficient found fine large =>
        exact .inl ((Json.read_numbers_overflow_iff row).mpr ⟨_, _, _, found, fine, large⟩)
    | rhs found fine known large =>
        obtain ⟨xs, numbers⟩ := Json.exists_numbers fine
        obtain ⟨relation, known⟩ := known
        have failed := (Json.read_number_error_iff bound _).mpr ⟨_, large, rfl⟩
        have last := (Outcome.bind_error_iff _ (fun x => pure (Constraint.mk xs relation x)) _).mpr (.inl failed)
        exact .inr ⟨xs, (Json.read_numbers_ok_iff _ _).mpr ⟨_, found, numbers⟩,
          (Outcome.bind_error_iff _ _ _).mpr (.inr ⟨relation, (Json.read_sense_ok_iff _ _).mpr known, last⟩)⟩

end Constraint

theorem ModelError.in_constraint_kind (cause : ModelError) :
    cause.inConstraint.failureKind ≠ .invalidModel ↔ cause = .number .tooLarge := by
  cases cause with
  | number cause => cases cause <;> simp [ModelError.inConstraint, failureKind, NumberError.failureKind]
  | _ => simp [ModelError.inConstraint, failureKind]

namespace Problem

section Parts

variable {K : Type} {objective : List K} {constraints : List (Constraint K)} {given : List Label} {maximize : Bool}

theorem eq_of_parts {p q : Problem K} (objective : p.objective = q.objective) (constraints : p.constraints = q.constraints)
    (names : p.names = q.names) (maximize : p.maximize = q.maximize) : p = q := by
  cases p
  cases q
  simp_all

theorem misfit_none {n : Nat} (fitting : ∀ c ∈ constraints, c.coefficients.length = n) : misfit? n constraints = none := by
  rw [misfit?, Option.map_eq_none_iff, List.find?_eq_none]
  intro place member
  simpa using fitting place.1 (List.fst_mem_of_mem_zipIdx member)

theorem make_ok_iff (p : Problem K) : make? objective constraints given maximize = .ok p ↔
    p.objective = objective ∧ p.constraints = constraints ∧
      p.names = (if given.isEmpty then defaultNames objective.length else given) ∧ p.maximize = maximize := by
  unfold make?
  extract_lets names
  change _ ↔ _ ∧ _ ∧ p.names = names ∧ _
  constructor
  · intro made
    split at made
    · cases made
    · split at made
      · cases made
      · split at made
        · split at made
          · split at made
            · cases made
            · cases made
              exact ⟨rfl, rfl, rfl, rfl⟩
          · cases made
        · cases made
  · rintro ⟨rfl, rfl, same, rfl⟩
    have fitting : misfit? names.length p.constraints = none := misfit_none (same ▸ p.row_length)
    rw [dif_neg (same ▸ p.has_names), dif_neg p.has_constraints, dif_pos (same ▸ p.distinct),
      dif_pos (same ▸ p.objective_length)]
    split
    · rename_i misfits
      cases fitting.symm.trans misfits
    · exact congrArg Except.ok (eq_of_parts rfl rfl same.symm rfl)

theorem make_error_kind {cause : ModelError} (failed : make? objective constraints given maximize = .error cause) :
    cause.failureKind = .invalidModel := by
  unfold make? at failed
  extract_lets names at failed
  split at failed
  · cases failed
    rfl
  · split at failed
    · cases failed
      rfl
    · split at failed
      · split at failed
        · split at failed
          · cases failed
            rfl
          · cases failed
        · cases failed
          rfl
      · cases failed
        rfl

end Parts

section Data

variable {objective : List Float} {constraints : List (Constraint Float)} {names : List Json} {maximize : Bool}

theorem of_data_ok_iff (p : Problem Float) : ofData objective constraints names maximize = .ok p ↔
    (∀ v ∈ names, v.Single) ∧ make? objective constraints (names.map Label.mk) maximize = .ok p := by
  cases constraints with
  | nil =>
      have empty (given : List Label) : make? objective [] given maximize ≠ .ok p := by
        intro made
        exact p.has_constraints ((make_ok_iff p).mp made).2.1
      simp [ofData, empty]
  | cons c rest =>
      simp only [ofData, List.isEmpty_cons, Bool.false_eq_true, if_false, Outcome.bind_ok_iff, Json.read_names_ok_iff]
      constructor
      · rintro ⟨labels, ⟨single, rfl⟩, made⟩
        exact ⟨single, made⟩
      · rintro ⟨single, made⟩
        exact ⟨_, ⟨single, rfl⟩, made⟩

theorem of_data_escapes_iff (fault : ModelError) :
    (ofData objective constraints names maximize = .error fault ∧ fault.failureKind ≠ .invalidModel) ↔
      constraints ≠ [] ∧ ∃ before value after, names = before ++ value :: after ∧ (∀ v ∈ before, v.Single) ∧
        ¬ value.Single ∧ fault = .unusableName value.kind := by
  cases constraints with
  | nil =>
      simp only [ofData, List.isEmpty_nil, if_true, ne_eq, not_true_eq_false, false_and, iff_false, not_and, not_not]
      exact make_error_kind
  | cons c rest =>
      simp only [ofData, List.isEmpty_cons, Bool.false_eq_true, if_false, Outcome.bind_error_iff, ne_eq, reduceCtorEq,
        not_false_eq_true, true_and, ← Json.read_names_error_iff]
      constructor
      · rintro ⟨unusable | ⟨labels, _, failed⟩, other⟩
        · exact unusable
        · exact absurd (make_error_kind failed) other
      · intro unusable
        obtain ⟨_, value, _, _, _, _, rfl⟩ := (Json.read_names_error_iff _ _).mp unusable
        exact ⟨.inl unusable, by simp [ModelError.failureKind]⟩

end Data

def relations (model : Json) (rows : List Json) : Json :=
  if (optional model "senses").isGiven then optional model "senses"
  else .array (rows.map fun _ => .text Sense.atMost.symbol)

def givenNames (model : Json) : Json :=
  if (optional model "variables").isGiven then optional model "variables" else .array []

structure Fields (model costs rows bounds : Json) : Prop where
  costs : required model "c" = .ok costs
  rows : required model "A" = .ok rows
  bounds : required model "b" = .ok bounds

theorem required_field {fields : List (Text × Json)} {name : String} {value : Json}
    (found : Json.field? name fields = some value) : required (.object fields) name = .ok value := by
  simp [required, found]

theorem required_missing {fields : List (Text × Json)} {name : String} (missing : Json.field? name fields = none) :
    required (.object fields) name = .error (.missingField name) := by
  simp [required, missing]

theorem fields_or_fails (model : Json) (maximize : Option Bool) : (∃ costs a b, Fields model costs a b) ∨
    ((∀ fields, model ≠ .object fields) ∧ ofModel model maximize = .error (.notFields model.kind)) ∨
    ∃ name, ofModel model maximize = .error (.missingField name) := by
  cases model with
  | object fields =>
      cases c : Json.field? "c" fields with
      | none => exact .inr (.inr ⟨_, by rw [ofModel, required_missing c]; rfl⟩)
      | some costs =>
          cases a : Json.field? "A" fields with
          | none => exact .inr (.inr ⟨_, by rw [ofModel, required_field c, Outcome.ok_bind, required_missing a]; rfl⟩)
          | some rows =>
              cases b : Json.field? "b" fields with
              | none =>
                  refine .inr (.inr ⟨"b", ?_⟩)
                  rw [ofModel, required_field c, Outcome.ok_bind, required_field a, Outcome.ok_bind, required_missing b]
                  rfl
              | some bounds => exact .inl ⟨costs, rows, bounds, required_field c, required_field a, required_field b⟩
  | _ => exact .inr (.inl ⟨by simp, rfl⟩)

def readLine (line : Json × Json × Json) : Except ModelError (Constraint Float) :=
  (Constraint.read line.1 line.2.1 line.2.2).mapError ModelError.inConstraint

-- What remains to be read once as many relations and bounds as rows are found.
def readLines (model costs : Json) (lines : List (Json × Json × Json)) (maximize : Option Bool) :
    Except ModelError (Problem Float) := do
  let constraints ← lines.mapM readLine
  let items ← costs.members
  let names ← (givenNames model).members
  let xs ← items.mapM Json.readNumber
  ofData xs constraints names (direction model maximize)

theorem of_model_fields {model costs rows bounds : Json} (has : Fields model costs rows bounds) (maximize : Option Bool) :
    ofModel model maximize =
      match rows.members?, bounds.members? with
      | none, _ => .error (.notSized rows.kind)
      | some _, none => .error (.notSized bounds.kind)
      | some rowItems, some boundItems =>
        if rowItems.length ≠ boundItems.length then .error .rowCounts
        else match (relations model rowItems).members? with
          | none => .error (.notSized (relations model rowItems).kind)
          | some senseItems =>
            if rowItems.length ≠ senseItems.length then .error .rowCounts
            else readLines model costs (rowItems.zip (senseItems.zip boundItems)) maximize := by
  unfold ofModel
  rw [has.costs, has.rows, has.bounds]
  simp only [Outcome.ok_bind]
  cases found : rows.members? with
  | none =>
      cases given : (optional model "senses").isGiven <;>
        simp [givenSenses, given, Json.sized_none found, bind, Except.bind, pure, Except.pure]
  | some rowItems =>
      have chosen : givenSenses model rows = .ok (relations model rowItems) := by
        cases given : (optional model "senses").isGiven <;>
          simp [givenSenses, relations, given, Json.sized_some found, bind, Except.bind, pure, Except.pure]
      have named (β : Type) (rest : List Json → Except ModelError β) :
          (if (optional model "variables").isGiven then (optional model "variables").members >>= rest
            else pure [] >>= rest) = ((givenNames model).members >>= rest) := by
        cases given : (optional model "variables").isGiven with
        | false => simp [givenNames, given, Json.members, Json.members?, bind, Except.bind, pure, Except.pure]
        | true => simp [givenNames, given]
      rw [chosen, Outcome.ok_bind, Json.sized_some found, Outcome.ok_bind]
      cases reached : bounds.members? with
      | none => rw [Json.sized_none reached]; rfl
      | some boundItems =>
          rw [Json.sized_some reached, Outcome.ok_bind]
          by_cases counts : rowItems.length ≠ boundItems.length
          · simp [counts]
            rfl
          · simp only [counts, if_false]
            cases listed : (relations model rowItems).members? with
            | none => rw [Json.sized_none listed]; rfl
            | some senseItems =>
                rw [Json.sized_some listed, Outcome.ok_bind]
                by_cases many : rowItems.length ≠ senseItems.length
                · simp [many]
                  rfl
                · simp only [many, if_false, named]
                  rfl

inductive Lined (model costs : Json) : List (Json × Json × Json) → Prop
  | intro {a b : Json} {rows senses bounds : List Json} : Fields model costs a b → a.members? = some rows →
      b.members? = some bounds → (relations model rows).members? = some senses → rows.length = bounds.length →
      rows.length = senses.length → Lined model costs (rows.zip (senses.zip bounds))

theorem of_model_lined {model costs : Json} {lines : List (Json × Json × Json)} (lined : Lined model costs lines)
    (maximize : Option Bool) : ofModel model maximize = readLines model costs lines maximize := by
  cases lined with
  | intro has found reached listed boundCount senseCount =>
      rw [of_model_fields has]
      simp [found, reached, listed, boundCount, ← senseCount]

def Legible (line : Json × Json × Json) : Prop := ∃ c : Constraint Float, c.Reads line.1 line.2.1 line.2.2

theorem read_line_ok_iff (line : Json × Json × Json) (c : Constraint Float) :
    readLine line = .ok c ↔ c.Reads line.1 line.2.1 line.2.2 := by
  rw [readLine, Outcome.mapError_ok_iff, Constraint.read_ok_iff]

theorem legible_iff (line : Json × Json × Json) : (∃ c, readLine line = .ok c) ↔ Legible line := by
  simp only [read_line_ok_iff, Legible]

theorem read_lines_legible_iff (lines : List (Json × Json × Json)) :
    (∃ constraints, lines.mapM readLine = .ok constraints) ↔ ∀ line ∈ lines, Legible line := by
  simp only [Outcome.mapM_succeeds_iff, legible_iff]

theorem read_line_escapes_iff (line : Json × Json × Json) (fault : ModelError) :
    (readLine line = .error fault ∧ fault.failureKind ≠ .invalidModel) ↔
      Constraint.Overflows line.1 line.2.1 line.2.2 ∧ fault = .number .tooLarge := by
  rw [readLine, Outcome.mapError_error_iff, ← Constraint.read_overflow_iff]
  constructor
  · rintro ⟨⟨cause, failed, rfl⟩, other⟩
    have large := (ModelError.in_constraint_kind cause).mp other
    subst large
    exact ⟨failed, rfl⟩
  · rintro ⟨failed, rfl⟩
    exact ⟨⟨_, failed, rfl⟩, by simp [ModelError.failureKind, NumberError.failureKind]⟩

theorem read_lines_ok_iff (model costs : Json) (lines : List (Json × Json × Json)) (maximize : Option Bool)
    (p : Problem Float) : readLines model costs lines maximize = .ok p ↔ ∃ constraints items names xs,
      List.Forall₂ (fun line c => c.Reads line.1 line.2.1 line.2.2) lines constraints ∧ costs.members? = some items ∧
      (givenNames model).members? = some names ∧ Json.Numbers items xs ∧
      ofData xs constraints names (direction model maximize) = .ok p := by
  simp only [readLines, Outcome.bind_ok_iff, Json.members_ok_iff, Json.numbers_ok_iff, exists_and_left]
  simp only [Outcome.mapM_ok_iff, read_line_ok_iff]

theorem forall₂_zip_iff {α β γ : Type} {R : α → γ → Prop} {S : β → γ → Prop} {xs : List α} {ys : List β} (zs : List γ)
    (count : xs.length = ys.length) : List.Forall₂ (fun pair z => R pair.1 z ∧ S pair.2 z) (xs.zip ys) zs ↔
      List.Forall₂ R xs zs ∧ List.Forall₂ S ys zs := by
  induction xs generalizing ys zs with
  | nil => simp [List.eq_nil_of_length_eq_zero count.symm]
  | cons x xs ih =>
      obtain ⟨y, ys, rfl⟩ := List.exists_cons_of_length_eq_add_one count.symm
      cases zs with
      | nil => simp
      | cons z zs =>
          rw [List.zip_cons_cons, List.forall₂_cons, List.forall₂_cons, List.forall₂_cons, ih zs (Nat.succ.inj count)]
          exact and_and_and_comm

structure Lists (model : Json) (costs rows senses bounds names : List Json) : Prop where
  cost : ∃ value, required model "c" = .ok value ∧ value.members? = some costs
  row : ∃ value, required model "A" = .ok value ∧ value.members? = some rows
  bound : ∃ value, required model "b" = .ok value ∧ value.members? = some bounds
  sense : (relations model rows).members? = some senses
  name : (givenNames model).members? = some names

structure Reads (p : Problem Float) (costs rows senses bounds names : List Json) : Prop where
  objective : Json.Numbers costs p.objective
  rows : List.Forall₂ Json.Row rows p.rows
  senses : List.Forall₂ Json.Relates senses (p.constraints.map (·.sense))
  rhs : Json.Numbers bounds p.rhs
  single : ∀ v ∈ names, v.Single
  names : p.names = if names.isEmpty then defaultNames p.objective.length else names.map Label.mk

section Lists

variable {model : Json} {costs rows senses bounds names : List Json}

theorem Lists.members {c a b : Json} (lists : Lists model costs rows senses bounds names) (has : Fields model c a b) :
    c.members? = some costs ∧ a.members? = some rows ∧ b.members? = some bounds := by
  obtain ⟨_, hasCosts, costed⟩ := lists.cost
  obtain ⟨_, hasRows, found⟩ := lists.row
  obtain ⟨_, hasBounds, reached⟩ := lists.bound
  cases hasCosts.symm.trans has.costs
  cases hasRows.symm.trans has.rows
  cases hasBounds.symm.trans has.bounds
  exact ⟨costed, found, reached⟩

theorem Lists.lines {c : Json} {lines : List (Json × Json × Json)} (lists : Lists model costs rows senses bounds names)
    (lined : Lined model c lines) : c.members? = some costs ∧ lines = rows.zip (senses.zip bounds) := by
  cases lined with
  | intro has found reached listed boundCount senseCount =>
      obtain ⟨costed, rowsListed, boundsListed⟩ := lists.members has
      cases found.symm.trans rowsListed
      cases reached.symm.trans boundsListed
      cases listed.symm.trans lists.sense
      exact ⟨costed, rfl⟩

theorem lines_read_iff (constraints : List (Constraint Float)) (boundCount : rows.length = bounds.length)
    (senseCount : rows.length = senses.length) :
    List.Forall₂ (fun line c => c.Reads line.1 line.2.1 line.2.2) (rows.zip (senses.zip bounds)) constraints ↔
      List.Forall₂ Json.Row rows (constraints.map (·.coefficients)) ∧
      List.Forall₂ Json.Relates senses (constraints.map (·.sense)) ∧ Json.Numbers bounds (constraints.map (·.rhs)) := by
  have even : senses.length = bounds.length := senseCount.symm.trans boundCount
  have pairs := forall₂_zip_iff (R := fun sense (c : Constraint Float) => Json.Relates sense c.sense)
    (S := fun bound c => bound.number = .ok c.rhs) constraints even
  have lines := forall₂_zip_iff (R := fun row (c : Constraint Float) => Json.Row row c.coefficients)
    (S := fun pair c => Json.Relates pair.1 c.sense ∧ pair.2.number = .ok c.rhs) constraints
    (show rows.length = (senses.zip bounds).length by simp [← even, senseCount])
  simp only [Constraint.reads_iff, Json.Numbers, List.forall₂_map_right_iff]
  exact lines.trans (and_congr_right' pairs)

theorem of_model_ok_iff (lists : Lists model costs rows senses bounds names) (maximize : Option Bool) (p : Problem Float) :
    ofModel model maximize = .ok p ↔ p.Reads costs rows senses bounds names ∧ p.maximize = direction model maximize := by
  obtain ⟨c, hasCosts, costed⟩ := lists.cost
  obtain ⟨a, hasRows, found⟩ := lists.row
  obtain ⟨b, hasBounds, reached⟩ := lists.bound
  have has : Fields model c a b := ⟨hasCosts, hasRows, hasBounds⟩
  constructor
  · intro read
    by_cases boundCount : rows.length = bounds.length
    · by_cases senseCount : rows.length = senses.length
      · rw [of_model_lined (.intro has found reached lists.sense boundCount senseCount), read_lines_ok_iff] at read
        obtain ⟨constraints, items, given, xs, lines, members, named, numbers, made⟩ := read
        cases costed.symm.trans members
        cases lists.name.symm.trans named
        obtain ⟨single, made⟩ := (of_data_ok_iff p).mp made
        obtain ⟨rfl, rfl, labels, direction⟩ := (make_ok_iff p).mp made
        obtain ⟨row, sense, rhs⟩ := (lines_read_iff _ boundCount senseCount).mp lines
        exact ⟨⟨numbers, row, sense, rhs, single, by simpa using labels⟩, direction⟩
      · rw [of_model_fields has] at read
        simp [found, reached, lists.sense, boundCount, boundCount ▸ senseCount] at read
    · rw [of_model_fields has] at read
      simp [found, reached, boundCount] at read
  · rintro ⟨reads, direction⟩
    have count : rows.length = p.constraints.length := by simpa [Problem.rows] using reads.rows.length_eq
    have boundCount : rows.length = bounds.length := count.trans (by simpa [Problem.rhs] using reads.rhs.length_eq.symm)
    have senseCount : rows.length = senses.length := count.trans (by simpa using reads.senses.length_eq.symm)
    rw [of_model_lined (.intro has found reached lists.sense boundCount senseCount), read_lines_ok_iff]
    refine ⟨p.constraints, costs, names, p.objective, ?_, costed, lists.name, reads.objective, ?_⟩
    · exact (lines_read_iff _ boundCount senseCount).mpr ⟨reads.rows, reads.senses, reads.rhs⟩
    · rw [of_data_ok_iff, make_ok_iff]
      exact ⟨reads.single, rfl, rfl, by simpa using reads.names, direction⟩

end Lists

end Problem

end LinProg
