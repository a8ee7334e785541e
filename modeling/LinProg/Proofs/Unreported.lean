import LinProg.Proofs.Reading

set_option autoImplicit false

namespace LinProg.Problem

-- Failures of reading that go by another kind, in the order in which they are met.
inductive Escapes (model : Json) : ModelError → Prop
  | noFields : (∀ fields, model ≠ .object fields) → Escapes model (.notFields model.kind)
  | noRows {costs a b : Json} : Fields model costs a b → a.members? = none → Escapes model (.notSized a.kind)
  | noBounds {costs a b : Json} {rows : List Json} : Fields model costs a b → a.members? = some rows →
      b.members? = none → Escapes model (.notSized b.kind)
  | noRelations {costs a b : Json} {rows bounds : List Json} : Fields model costs a b → a.members? = some rows →
      b.members? = some bounds → rows.length = bounds.length → (relations model rows).members? = none →
      Escapes model (.notSized (relations model rows).kind)
  | overflow {costs : Json} {before after : List (Json × Json × Json)} {line : Json × Json × Json} :
      Lined model costs (before ++ line :: after) → (∀ d ∈ before, Legible d) →
      Constraint.Overflows line.1 line.2.1 line.2.2 → Escapes model (.number .tooLarge)
  | noCosts {costs : Json} {lines : List (Json × Json × Json)} : Lined model costs lines →
      (∀ line ∈ lines, Legible line) → costs.members? = none → Escapes model (.notMembers costs.kind)
  | noNames {costs : Json} {lines : List (Json × Json × Json)} {items : List Json} : Lined model costs lines →
      (∀ line ∈ lines, Legible line) → costs.members? = some items → (givenNames model).members? = none →
      Escapes model (.notMembers (givenNames model).kind)
  | cost {costs value : Json} {lines : List (Json × Json × Json)} {before after names : List Json}
      {cause : NumberError} : Lined model costs lines → (∀ line ∈ lines, Legible line) →
      costs.members? = some (before ++ value :: after) → (givenNames model).members? = some names →
      (∀ v ∈ before, v.Numeric) → value.number = .error cause → Escapes model (.number cause)
  | name {costs value : Json} {lines : List (Json × Json × Json)} {items before after : List Json} :
      Lined model costs lines → (∀ line ∈ lines, Legible line) → lines ≠ [] → costs.members? = some items →
      (∀ v ∈ items, v.Numeric) → (givenNames model).members? = some (before ++ value :: after) →
      (∀ v ∈ before, v.Single) → ¬ value.Single → Escapes model (.unusableName value.kind)

variable {model costs : Json} {lines : List (Json × Json × Json)} {fault : ModelError}

theorem Escapes.kind (escapes : Escapes model fault) :
    fault.failureKind = .badType ∨ fault.failureKind = .badValue ∨ fault.failureKind = .overflow := by
  cases escapes with
  | cost =>
      rename_i cause _ _ _ _ _ _
      cases cause <;> simp [ModelError.failureKind, NumberError.failureKind]
  | _ => simp [ModelError.failureKind, NumberError.failureKind]

theorem read_lines_error_iff (maximize : Option Bool) : readLines model costs lines maximize = .error fault ↔
    lines.mapM readLine = .error fault ∨ ∃ constraints, lines.mapM readLine = .ok constraints ∧
      (costs.members = .error fault ∨ ∃ items, costs.members = .ok items ∧
        ((givenNames model).members = .error fault ∨ ∃ names, (givenNames model).members = .ok names ∧
          (items.mapM Json.readNumber = .error fault ∨ ∃ xs, items.mapM Json.readNumber = .ok xs ∧
            ofData xs constraints names (direction model maximize) = .error fault))) := by
  simp only [readLines, Outcome.bind_error_iff]

theorem Escapes.fails (escapes : Escapes model fault) (maximize : Option Bool) : ofModel model maximize = .error fault := by
  cases escapes with
  | noFields shapeless =>
      cases model with
      | object fields => exact absurd rfl (shapeless fields)
      | _ => rfl
  | noRows has missing => simp [of_model_fields has, missing]
  | noBounds has found missing => simp [of_model_fields has, found, missing]
  | noRelations has found reached counts missing => simp [of_model_fields has, found, reached, counts, missing]
  | overflow lined fine large =>
      rw [of_model_lined lined, read_lines_error_iff, Outcome.mapM_error_iff]
      refine .inl ⟨_, _, _, rfl, ?_, ((read_line_escapes_iff _ _).mpr ⟨large, rfl⟩).1⟩
      simpa only [legible_iff] using fine
  | noCosts lined legible missing =>
      obtain ⟨constraints, read⟩ := (read_lines_legible_iff _).mpr legible
      rw [of_model_lined lined, read_lines_error_iff, Json.members_error_iff]
      exact .inr ⟨constraints, read, .inl ⟨missing, rfl⟩⟩
  | noNames lined legible found missing =>
      obtain ⟨constraints, read⟩ := (read_lines_legible_iff _).mpr legible
      rw [of_model_lined lined, read_lines_error_iff]
      exact .inr ⟨constraints, read, .inr ⟨_, (Json.members_ok_iff _ _).mpr found,
        .inl ((Json.members_error_iff _ _).mpr ⟨missing, rfl⟩)⟩⟩
  | cost lined legible found named fine failed =>
      obtain ⟨constraints, read⟩ := (read_lines_legible_iff _).mpr legible
      rw [of_model_lined lined, read_lines_error_iff]
      exact .inr ⟨constraints, read, .inr ⟨_, (Json.members_ok_iff _ _).mpr found,
        .inr ⟨_, (Json.members_ok_iff _ _).mpr named,
          .inl ((Json.numbers_error_iff _ _).mpr ⟨_, _, _, _, rfl, fine, failed, rfl⟩)⟩⟩⟩
  | name lined legible given found numeric named fine compound =>
      obtain ⟨constraints, read⟩ := (read_lines_legible_iff _).mpr legible
      obtain ⟨xs, numbers⟩ := Json.exists_numbers numeric
      have filled : constraints ≠ [] := by
        rintro rfl
        exact given (List.forall₂_nil_right_iff.mp ((Outcome.mapM_ok_iff _ _ _).mp read))
      rw [of_model_lined lined, read_lines_error_iff]
      exact .inr ⟨constraints, read, .inr ⟨_, (Json.members_ok_iff _ _).mpr found, .inr ⟨_, (Json.members_ok_iff _ _).mpr named,
        .inr ⟨xs, (Json.numbers_ok_iff _ _).mpr numbers,
          ((of_data_escapes_iff _).mpr ⟨filled, _, _, _, rfl, fine, compound, rfl⟩).1⟩⟩⟩⟩

theorem escapes_of_lined (lined : Lined model costs lines) {maximize : Option Bool}
    (failed : readLines model costs lines maximize = .error fault) (other : fault.failureKind ≠ .invalidModel) :
    Escapes model fault := by
  rcases (read_lines_error_iff _).mp failed with unread | ⟨constraints, read, later⟩
  · obtain ⟨before, line, after, rfl, fine, failed⟩ := (Outcome.mapM_error_iff _ _ _).mp unread
    obtain ⟨large, rfl⟩ := (read_line_escapes_iff _ _).mp ⟨failed, other⟩
    simp only [legible_iff] at fine
    exact .overflow lined fine large
  · have legible := (read_lines_legible_iff _).mp ⟨constraints, read⟩
    rcases later with unlisted | ⟨items, found, later⟩
    · obtain ⟨missing, rfl⟩ := (Json.members_error_iff _ _).mp unlisted
      exact .noCosts lined legible missing
    · have found := (Json.members_ok_iff _ _).mp found
      rcases later with unnamed | ⟨names, named, later⟩
      · obtain ⟨missing, rfl⟩ := (Json.members_error_iff _ _).mp unnamed
        exact .noNames lined legible found missing
      · have named := (Json.members_ok_iff _ _).mp named
        rcases later with unread | ⟨xs, numbers, unmade⟩
        · obtain ⟨before, value, after, cause, rfl, fine, wrong, rfl⟩ := (Json.numbers_error_iff _ _).mp unread
          exact .cost lined legible found named fine wrong
        · obtain ⟨nonempty, before, value, after, rfl, fine, compound, rfl⟩ := (of_data_escapes_iff _).mp ⟨unmade, other⟩
          have filled : lines ≠ [] := by
            rintro rfl
            exact nonempty (List.forall₂_nil_left_iff.mp ((Outcome.mapM_ok_iff _ _ _).mp read))
          exact .name lined legible filled found ((Json.numbers_ok_iff _ _).mp numbers).numeric named fine compound

theorem lined_or_fails {a b : Json} (has : Fields model costs a b) (maximize : Option Bool) :
    (∃ lines, Lined model costs lines) ∨
      ∃ fault, ofModel model maximize = .error fault ∧ (fault.failureKind = .invalidModel ∨ Escapes model fault) := by
  cases found : a.members? with
  | none => exact .inr ⟨_, by simp [of_model_fields has, found], .inr (.noRows has found)⟩
  | some rows =>
      cases reached : b.members? with
      | none => exact .inr ⟨_, by simp [of_model_fields has, found, reached], .inr (.noBounds has found reached)⟩
      | some bounds =>
          by_cases boundCount : rows.length = bounds.length
          · cases listed : (relations model rows).members? with
            | none =>
                have escapes : Escapes model _ := .noRelations has found reached boundCount listed
                exact .inr ⟨_, escapes.fails maximize, .inr escapes⟩
            | some senses =>
                by_cases senseCount : rows.length = senses.length
                · exact .inl ⟨_, .intro has found reached listed boundCount senseCount⟩
                · refine .inr ⟨.rowCounts, ?_, .inl rfl⟩
                  simp [of_model_fields has, found, reached, listed, boundCount, boundCount ▸ senseCount]
          · exact .inr ⟨.rowCounts, by simp [of_model_fields has, found, reached, boundCount], .inl rfl⟩

theorem escapes_of_fails {maximize : Option Bool} (failed : ofModel model maximize = .error fault)
    (other : fault.failureKind ≠ .invalidModel) : Escapes model fault := by
  rcases fields_or_fails model maximize with ⟨costs, a, b, has⟩ | ⟨shapeless, shown⟩ | ⟨name, shown⟩
  · rcases lined_or_fails has maximize with ⟨lines, lined⟩ | ⟨_, shown, reported | escapes⟩
    · rw [of_model_lined lined] at failed
      exact escapes_of_lined lined failed other
    · cases failed.symm.trans shown
      exact absurd reported other
    · cases failed.symm.trans shown
      exact escapes
  · cases failed.symm.trans shown
    exact .noFields shapeless
  · cases failed.symm.trans shown
    exact absurd rfl other

theorem escapes_iff (model : Json) (maximize : Option Bool) (fault : ModelError) :
    Escapes model fault ↔ ofModel model maximize = .error fault ∧ fault.failureKind ≠ .invalidModel := by
  constructor
  · intro escapes
    refine ⟨escapes.fails maximize, ?_⟩
    rcases escapes.kind with type | value | overflow
    all_goals simp [*]
  · rintro ⟨failed, other⟩
    exact escapes_of_fails failed other

theorem Lists.escapes {costs rows senses bounds names : List Json} (lists : Lists model costs rows senses bounds names)
    (escapes : Escapes model fault) :
    (∃ line ∈ rows.zip (senses.zip bounds), Constraint.Overflows line.1 line.2.1 line.2.2) ∨
      (∃ v ∈ costs, ¬ v.Numeric) ∨ ∃ v ∈ names, ¬ v.Single := by
  cases escapes with
  | noFields shapeless =>
      obtain ⟨value, has, _⟩ := lists.cost
      cases model with
      | object fields => exact absurd rfl (shapeless fields)
      | _ => cases has
  | noRows has missing => cases missing.symm.trans (lists.members has).2.1
  | noBounds has found missing => cases missing.symm.trans (lists.members has).2.2
  | noRelations has found reached counts missing =>
      cases found.symm.trans (lists.members has).2.1
      cases missing.symm.trans lists.sense
  | overflow lined fine large => exact .inl ⟨_, (lists.lines lined).2 ▸ List.mem_append_right _ List.mem_cons_self, large⟩
  | noCosts lined legible missing => cases missing.symm.trans (lists.lines lined).1
  | noNames lined legible found missing => cases missing.symm.trans lists.name
  | cost lined legible found named fine failed =>
      cases found.symm.trans (lists.lines lined).1
      refine .inr (.inl ⟨_, List.mem_append_right _ List.mem_cons_self, ?_⟩)
      rintro ⟨x, number⟩
      cases failed.symm.trans number
  | name lined legible given found numeric named fine compound =>
      cases named.symm.trans lists.name
      exact .inr (.inr ⟨_, List.mem_append_right _ List.mem_cons_self, compound⟩)

theorem unreported_failures (model : Json) (maximize : Option Bool) :
    (∀ fault, Escapes model fault ↔ ofModel model maximize = .error fault ∧ fault.failureKind ≠ .invalidModel) ∧
    (∀ fault, Escapes model fault →
      fault.failureKind = .badType ∨ fault.failureKind = .badValue ∨ fault.failureKind = .overflow) ∧
    (((∃ p, ofModel model maximize = .ok p) ∨
        ∃ fault, ofModel model maximize = .error fault ∧ fault.failureKind = .invalidModel) ↔
      ∀ fault, ¬ Escapes model fault) := by
  refine ⟨escapes_iff model maximize, fun _ => Escapes.kind, ?_⟩
  simp only [escapes_iff model maximize, not_and, not_not]
  constructor
  · rintro (⟨p, read⟩ | ⟨_, reported, kind⟩) fault failed
    · cases read.symm.trans failed
    · cases reported.symm.trans failed
      exact kind
  · intro reported
    cases read : ofModel model maximize with
    | ok p => exact .inl ⟨p, rfl⟩
    | error fault => exact .inr ⟨fault, rfl, reported fault read⟩

def scant (cost coefficient : Json) : Json :=
  .object [("c", .array [cost]), ("A", .array [.array [coefficient]]), ("b", .array [.real 1])]

-- A text that is no number is reported as a coefficient, but not as a cost.
theorem text_cost_unreported :
    ofModel (scant (.real 1) (.text "x")) none = .error (.constraintData (.number (.unreadable "x"))) ∧
    (ModelError.constraintData (.number (.unreadable "x"))).failureKind = .invalidModel ∧
    ofModel (scant (.text "x") (.real 1)) none = .error (.number (.unreadable "x")) ∧
    (ModelError.number (.unreadable "x")).failureKind = .badValue ∧
    ofModel .null none = .error (.notFields .null) ∧ (ModelError.notFields .null).failureKind = .badType :=
  ⟨rfl, rfl, rfl, rfl, rfl, rfl⟩

end LinProg.Problem
