import LinProg.Page
import LinProg.Proofs.Effects

set_option autoImplicit false

namespace LinProg.Page

def main (content : Shown) : Output := ⟨.main, content⟩

theorem main_inj (a b : Shown) : main a = main b ↔ a = b := by
  simp [main]

inductive AnalysisShown (choices : Choices) (s : Solution Float) : List Output → Prop
  | absent (unasked : ¬ (choices.sensitivity = true ∧ s.isOptimal = true)) : AnalysisShown choices s []
  | tables {report : Sensitivity Float} (asked : choices.sensitivity = true ∧ s.isOptimal = true)
      (analyzed : Sensitivity.ofSolution s = .ok report) : AnalysisShown choices s [
        main (.subheader "Sensitivity"),
        ⟨.firstColumn, .table (List.zipWith shadowRow report.shadowPrices report.rhsRanges)⟩,
        ⟨.secondColumn, .table (report.reducedCosts.map costRow)⟩]

def alternatesShown (names : List Label) : List Output :=
  if names.isEmpty then []
  else [main (.info "Infinite many optimal solutions along an edge (alternate optimal).")]

inductive SolutionShown (choices : Choices) (s : Solution Float) : List Output → Prop
  | parts {steps : Text} {names : List Label} {analysis : List Output} (told : Report.steps s.steps = .ok steps)
      (alternates : s.alternateOptima = .ok names) (analyzed : AnalysisShown choices s analysis) :
      SolutionShown choices s ([main (.subheader "Iterations / Tableaux"), main (.code steps),
        main (.subheader "Result"), main (.summary (summaryOf s))] ++ alternatesShown names ++ analysis)

inductive TableauxShown (choices : Choices) (p : Problem Float) : List Output → Prop
  | solved {s : Solution Float} {outputs : List Output} (solved : p.solve (.count choices.limit) = .ok s)
      (shown : SolutionShown choices s outputs) : TableauxShown choices p outputs
  | notApplicable {cause : SolveError} (failed : p.solve (.count choices.limit) = .error cause)
      (reported : cause.failureKind = .invalidModel) :
      TableauxShown choices p [main (.warning ("Tableau method not applicable: " ++ cause.message))]

inductive DrawingShown (p : Problem Float) : Option (Graph Float) → List Output → Prop
  | missing : DrawingShown p none [main (.info "Graph available only for 2 variables.")]
  | empty {g : Graph Float} (infeasible : g.optimum = none) :
      DrawingShown p (some g) [main (.info "No feasible region to plot.")]
  | drawn {g : Graph Float} {best : Plane.Point Float} {value : Float} {figure : Option (Figure Float)}
      (optimum : g.optimum = some (best, value)) (drew : p.figure g = .ok figure) :
      DrawingShown p (some g)
        (main (.write (vertexLine p.names best value)) :: figure.toList.map fun f => main (.figure f))

def Choices.direction (choices : Choices) : Option Bool := if choices.minimize then some false else none

inductive ModelShown (choices : Choices) : List Output → Prop
  | flawed {flaw : Json.Flaw} {place : Json.Place} (flawed : Json.parse choices.text = .error (.flaw flaw place)) :
      ModelShown choices [main (.error ("Invalid JSON: " ++ (Json.ReadError.flaw flaw place).message))]
  | unfit {model : Json} {cause : ModelError} (parsed : Json.parse choices.text = .ok model)
      (unfit : Problem.ofModel model choices.direction = .error cause) (reported : cause.failureKind = .invalidModel) :
      ModelShown choices [main (.error ("Invalid LP fields: " ++ cause.message))]
  | problem {model : Json} {p : Problem Float} {tableaux drawing : List Output}
      (parsed : Json.parse choices.text = .ok model) (fits : Problem.ofModel model choices.direction = .ok p)
      (solved : TableauxShown choices p tableaux)
      (drawn : DrawingShown p (if choices.graph then p.graph? else none) drawing) :
      ModelShown choices (tableaux ++ main (.subheader "Graph") :: drawing)

section Builds

variable {t u : List Output} {α : Type} {choices : Choices} {p : Problem Float} {s : Solution Float}

theorem put_at_iff (place : Place) (content : Shown) (r : Except Failure Unit) :
    Ends (putAt place content) t r u ↔ r = .ok () ∧ u = t ++ [⟨place, content⟩] := Ends.modify_iff _ _

theorem put_iff (content : Shown) (r : Except Failure Unit) :
    Ends (put content) t r u ↔ r = .ok () ∧ u = t ++ [main content] := Ends.modify_iff _ _

theorem or_fail_ok_iff (x : Except Failure α) (a : α) : Ends (orFail x) t (.ok a) u ↔ x = .ok a ∧ u = t := by
  cases x with
  | ok value => exact (Ends.pure_iff _ _).trans (and_congr_left fun _ => eq_comm)
  | error cause => exact (Ends.throw_iff _ _).trans (and_congr_left fun _ => eq_comm)

theorem analysis_ok (ends : Ends (if choices.sensitivity = true ∧ s.isOptimal = true then showSensitivity s else pure ())
    t (.ok ()) u) : ∃ outputs, AnalysisShown choices s outputs ∧ u = t ++ outputs := by
  split at ends
  · rename_i asked
    simp only [showSensitivity, Ends.bind_ok_iff, put_iff, put_at_iff, or_fail_ok_iff, Failure.lift_tableau,
      Outcome.mapError_ok_iff] at ends
    obtain ⟨report, _, ⟨analyzed, rfl⟩, _, _, ⟨_, rfl⟩, _, _, ⟨_, rfl⟩, _, rfl⟩ := ends
    exact ⟨_, .tables asked analyzed, by simp⟩
  · rename_i unasked
    obtain ⟨_, rfl⟩ := (Ends.pure_iff _ _).mp ends
    exact ⟨[], .absent unasked, (List.append_nil _).symm⟩

theorem show_solution_ok (ends : Ends (showSolution choices s) t (.ok ()) u) :
    ∃ outputs, SolutionShown choices s outputs ∧ u = t ++ outputs := by
  simp only [showSolution, Ends.bind_ok_iff, put_iff, or_fail_ok_iff, Failure.lift_report, Failure.lift_tableau,
    Outcome.mapError_ok_iff] at ends
  obtain ⟨_, _, ⟨_, rfl⟩, steps, _, ⟨told, rfl⟩, _, _, ⟨_, rfl⟩, _, _, ⟨_, rfl⟩, _, _, ⟨_, rfl⟩, names, _,
    ⟨alternates, rfl⟩, rest⟩ := ends
  cases listed : names.isEmpty with
  | true =>
      rw [listed] at rest
      obtain ⟨analysis, analyzed, rfl⟩ := analysis_ok rest
      refine ⟨_, .parts told alternates analyzed, ?_⟩
      simp [alternatesShown, listed]
  | false =>
      rw [listed] at rest
      obtain ⟨_, _, noted, rest⟩ := (Ends.bind_ok_iff _ _ _).mp rest
      obtain ⟨_, rfl⟩ := (put_iff _ _).mp noted
      obtain ⟨analysis, analyzed, rfl⟩ := analysis_ok rest
      refine ⟨_, .parts told alternates analyzed, ?_⟩
      simp [alternatesShown, listed]

theorem show_tableaux_ok (ends : Ends (showTableaux choices p) t (.ok ()) u) :
    ∃ outputs, TableauxShown choices p outputs ∧ u = t ++ outputs := by
  unfold showTableaux at ends
  split at ends
  · rename_i s solved
    obtain ⟨outputs, shown, rfl⟩ := show_solution_ok ends
    exact ⟨outputs, .solved solved shown, rfl⟩
  · rename_i cause failed
    split at ends
    · rename_i reported
      obtain ⟨_, rfl⟩ := (put_iff _ _).mp ends
      exact ⟨_, .notApplicable failed reported, rfl⟩
    · cases ((Ends.throw_iff _ _).mp ends).1

theorem show_graph_ok (ends : Ends (showGraph choices p) t (.ok ()) u) :
    ∃ outputs, DrawingShown p (if choices.graph then p.graph? else none) outputs ∧
      u = t ++ main (.subheader "Graph") :: outputs := by
  obtain ⟨_, _, heading, rest⟩ := (Ends.bind_ok_iff _ _ _).mp ends
  obtain ⟨_, rfl⟩ := (put_iff _ _).mp heading
  split at rest
  · rename_i missing
    obtain ⟨_, rfl⟩ := (put_iff _ _).mp rest
    rw [missing]
    exact ⟨_, .missing, by simp⟩
  · rename_i g found
    rw [found]
    split at rest
    · rename_i infeasible
      obtain ⟨_, rfl⟩ := (put_iff _ _).mp rest
      exact ⟨_, .empty infeasible, by simp⟩
    · rename_i best value optimum
      simp only [Ends.bind_ok_iff, put_iff, or_fail_ok_iff, Failure.lift_figure, Outcome.mapError_ok_iff] at rest
      obtain ⟨_, _, ⟨_, rfl⟩, figure, _, ⟨drew, rfl⟩, rest⟩ := rest
      refine ⟨_, .drawn optimum drew, ?_⟩
      cases figure with
      | none =>
          obtain ⟨_, rfl⟩ := (Ends.pure_iff _ _).mp rest
          simp
      | some f =>
          obtain ⟨_, rfl⟩ := (put_iff _ _).mp rest
          simp

theorem show_model_ok (ends : Ends (showModel choices) t (.ok ()) u) :
    ∃ outputs, ModelShown choices outputs ∧ u = t ++ outputs := by
  unfold showModel at ends
  split at ends
  · rename_i flaw place flawed
    obtain ⟨_, rfl⟩ := (put_iff _ _).mp ends
    exact ⟨_, .flawed flawed, rfl⟩
  · cases ((Ends.throw_iff _ _).mp ends).1
  · rename_i model parsed
    split at ends
    · rename_i p fits
      obtain ⟨_, _, solved, rest⟩ := (Ends.bind_ok_iff _ _ _).mp ends
      obtain ⟨tableaux, tableauxShown, rfl⟩ := show_tableaux_ok solved
      obtain ⟨drawing, drawn, rfl⟩ := show_graph_ok rest
      exact ⟨_, .problem parsed fits tableauxShown drawn, by simp⟩
    · rename_i cause unfit
      split at ends
      · rename_i reported
        obtain ⟨_, rfl⟩ := (put_iff _ _).mp ends
        exact ⟨_, .unfit parsed unfit reported, rfl⟩
      · cases ((Ends.throw_iff _ _).mp ends).1

end Builds

def opening : List Output := [
  main .settings, main (.title "Simplex (Tableau) — Solve & Visualize"), main (.header "Options"),
  main (.subheader "Model JSON")]

theorem shown_model {choices : Choices} (pressed : choices.solve = true) (kept : choices.reset = false)
    (whole : (shown choices).2 = none) :
    ∃ outputs, ModelShown choices outputs ∧ (shown choices).1 = opening ++ outputs := by
  obtain ⟨result, u, ends⟩ := Ends.exists_end (build choices) []
  have told : shown choices = match (result, u) with
      | (.ok (), outputs) => (outputs, none)
      | (.error cause, outputs) => (outputs, some cause) := by
    rw [shown, show (build choices).run [] = _ from ends]
    rfl
  cases result with
  | error cause =>
      rw [told] at whole
      cases whole
  | ok =>
      simp only [build, pressed, kept, Ends.bind_ok_iff, put_iff] at ends
      obtain ⟨_, _, ⟨_, rfl⟩, _, _, ⟨_, rfl⟩, _, _, ⟨_, rfl⟩, _, _, ⟨_, rfl⟩, rest⟩ := ends
      obtain ⟨outputs, modelShown, rfl⟩ := show_model_ok rest
      exact ⟨outputs, modelShown, by rw [told]; rfl⟩

section Membership

variable {choices : Choices} {p : Problem Float} {s : Solution Float} {outputs : List Output} {x : Output}

theorem mem_alternates_shown (names : List Label) : x ∈ alternatesShown names ↔
    names ≠ [] ∧ x = main (.info "Infinite many optimal solutions along an edge (alternate optimal).") := by
  cases names <;> simp [alternatesShown]

theorem AnalysisShown.mem_iff (shown : AnalysisShown choices s outputs) : x ∈ outputs ↔
    ∃ report, (choices.sensitivity = true ∧ s.isOptimal = true) ∧ Sensitivity.ofSolution s = .ok report ∧
      (x = main (.subheader "Sensitivity") ∨
        x = ⟨.firstColumn, .table (List.zipWith shadowRow report.shadowPrices report.rhsRanges)⟩ ∨
        x = ⟨.secondColumn, .table (report.reducedCosts.map costRow)⟩) := by
  cases shown with
  | absent unasked => simp [unasked]
  | tables asked analyzed => simp [asked, analyzed]

theorem AnalysisShown.some_iff (shown : AnalysisShown choices s outputs) :
    (∃ rows, ⟨.firstColumn, .table rows⟩ ∈ outputs) ↔ choices.sensitivity = true ∧ s.isOptimal = true := by
  cases shown with
  | absent unasked => simpa using unasked
  | tables asked _ => simpa [main] using asked

theorem DrawingShown.mem_iff {graph : Option (Graph Float)} (shown : DrawingShown p graph outputs) : x ∈ outputs ↔
    (graph = none ∧ x = main (.info "Graph available only for 2 variables.")) ∨
      (∃ g, graph = some g ∧ g.optimum = none ∧ x = main (.info "No feasible region to plot.")) ∨
      ∃ g best value figure, graph = some g ∧ g.optimum = some (best, value) ∧ p.figure g = .ok figure ∧
        (x = main (.write (vertexLine p.names best value)) ∨ ∃ f, figure = some f ∧ x = main (.figure f)) := by
  cases shown with
  | missing => simp
  | empty infeasible => simp [infeasible]
  | drawn optimum drew => simp [optimum, drew, eq_comm]

end Membership

end LinProg.Page
