import LinProg.Proofs.Loading

set_option autoImplicit false

namespace LinProg.CommandLine

inductive Section where
  | steps (text : Text)
  | result (text : Text)
  | notApplicable (cause : SolveError)
  | sensitivity (text : Text)
  | graph (lines : List Text)

namespace Section

def lines : Section → List Text
  | .steps text => [text]
  | .result text => ["\n=== Result ===", text]
  | .notApplicable cause => ["Tableau method not applicable: " ++ cause.message]
  | .sensitivity text => ["\n=== Sensitivity ===", text]
  | .graph lines => "\n=== Graphical method ===" :: lines

def isOutcome : Section → Bool
  | .result _ | .notApplicable _ => true
  | _ => false

end Section

def graphLines (graph : Option (Graph Float)) : List Text :=
  match graph with
  | none => ["Graph only supports 2 variables."]
  | some g => match g.optimum with
    | none => ["No feasible region."]
    | some (best, value) => [
        s!"Optimal vertex: {vertex best}  Z = {Report.number value}",
        "Feasible region: " ++ " ".intercalate (g.region.map vertex)]

def graphFigures (p : Problem Float) (graph : Option (Graph Float)) : Except FigureError (List (Figure Float)) :=
  match graph with
  | none => .ok []
  | some g => match g.optimum with
    | none => .ok []
    | some _ => (p.figure g).map Option.toList

inductive StepsTold (o : Options) (s : Solution Float) : List Section → Prop
  | hidden (silent : o.verbose = false) : StepsTold o s []
  | shown {text : Text} (verbose : o.verbose = true) (told : Report.steps s.steps = .ok text) :
      StepsTold o s [.steps text]

inductive AnalysisTold (o : Options) (s : Solution Float) : List Section → Prop
  | absent (unasked : ¬ (o.sensitivity = true ∧ s.isOptimal = true)) : AnalysisTold o s []
  | shown {report : Sensitivity Float} {text : Text} (asked : o.sensitivity = true ∧ s.isOptimal = true)
      (analyzed : Sensitivity.ofSolution s = .ok report) (told : Report.sensitivity report = .ok text) :
      AnalysisTold o s [.sensitivity text]

inductive SolutionTold (o : Options) (s : Solution Float) : List Section → Prop
  | parts {steps analysis : List Section} {result : Text} (stepped : StepsTold o s steps)
      (told : Report.solution s = .ok result) (analyzed : AnalysisTold o s analysis) :
      SolutionTold o s (steps ++ .result result :: analysis)

inductive TableauxTold (o : Options) (limit : Int) (p : Problem Float) : List Section → Prop
  | solved {s : Solution Float} {sections : List Section} (solved : p.solve (.count limit) = .ok s)
      (told : SolutionTold o s sections) : TableauxTold o limit p sections
  | notApplicable {cause : SolveError} (failed : p.solve (.count limit) = .error cause)
      (reported : cause.failureKind = .invalidModel) : TableauxTold o limit p [.notApplicable cause]

inductive GraphTold (o : Options) (p : Problem Float) : List Section → List (Figure Float) → Prop
  | absent (unasked : o.graph = false) : GraphTold o p [] []
  | shown {figures : List (Figure Float)} (asked : o.graph = true) (drawn : graphFigures p p.graph? = .ok figures) :
      GraphTold o p [.graph (graphLines p.graph?)] figures

def endedLines (lines : List Text) : Text := lines.flatMap (· ++ Text.ofString "\n")

def printed (sections : List Section) : Text := endedLines (sections.flatMap Section.lines)

def Transcript.say (t : Transcript) (lines : List Text) : Transcript := { t with out := t.out ++ endedLines lines }

theorem Transcript.say_say (t : Transcript) (lines others : List Text) :
    (t.say lines).say others = t.say (lines ++ others) := by
  simp [say, endedLines]

def Transcript.display (t : Transcript) (figures : List (Figure Float)) : Transcript :=
  { t with figures := t.figures ++ figures }

theorem Transcript.display_nil (t : Transcript) : t.display [] = t := by
  simp [display]

section Runs

variable {t u : Transcript} {α β : Type}

theorem print_line_iff (line : Text) (r : Except Stop Unit) :
    Ends (printLine line) t r u ↔ r = .ok () ∧ u = t.say [line] := by
  unfold Transcript.say endedLines
  rw [List.flatMap_singleton]
  exact Ends.modify_iff _ _

def printOutcome (o : Options) (s : Solution Float) : Run Unit := do
  printLine "\n=== Result ==="
  printLine (← orFail (liftM (Report.solution s)))
  if o.sensitivity ∧ s.isOptimal then
    printLine "\n=== Sensitivity ==="
    let analysis ← orFail (liftM (Sensitivity.ofSolution s))
    printLine (← orFail (liftM (Report.sensitivity analysis)))

theorem print_solution_eq (o : Options) (s : Solution Float) : printSolution o s =
    if o.verbose then do
      let text ← orFail (liftM (Report.steps s.steps))
      printLine text
      printOutcome o s
    else printOutcome o s := rfl

theorem print_outcome_ok {o : Options} {s : Solution Float} (ends : Ends (printOutcome o s) t (.ok ()) u) :
    ∃ result analysis, Report.solution s = .ok result ∧ AnalysisTold o s analysis ∧
      u = t.say ((Section.result result :: analysis).flatMap Section.lines) := by
  simp only [printOutcome, Ends.bind_ok_iff, print_line_iff, or_fail_ok_iff, Failure.lift_report,
    Outcome.mapError_ok_iff] at ends
  obtain ⟨_, _, ⟨_, rfl⟩, result, _, ⟨told, rfl⟩, _, _, ⟨_, rfl⟩, rest⟩ := ends
  split at rest
  · rename_i asked
    simp only [Ends.bind_ok_iff, print_line_iff, or_fail_ok_iff, Failure.lift_tableau, Outcome.mapError_ok_iff] at rest
    obtain ⟨_, _, ⟨_, rfl⟩, report, _, ⟨analyzed, rfl⟩, text, _, ⟨shown, rfl⟩, _, rfl⟩ := rest
    refine ⟨result, _, told, .shown asked analyzed shown, ?_⟩
    simp only [Transcript.say_say]
    rfl
  · rename_i unasked
    obtain ⟨_, rfl⟩ := (Ends.pure_iff _ _).mp rest
    refine ⟨result, _, told, .absent unasked, ?_⟩
    simp only [Transcript.say_say]
    rfl

theorem print_solution_ok {o : Options} {s : Solution Float} (ends : Ends (printSolution o s) t (.ok ()) u) :
    ∃ sections, SolutionTold o s sections ∧ u = t.say (sections.flatMap Section.lines) := by
  rw [print_solution_eq] at ends
  split at ends
  · rename_i verbose
    simp only [Ends.bind_ok_iff, print_line_iff, or_fail_ok_iff, Failure.lift_report, Outcome.mapError_ok_iff] at ends
    obtain ⟨text, _, ⟨shown, rfl⟩, _, _, ⟨_, rfl⟩, rest⟩ := ends
    obtain ⟨result, analysis, told, analyzed, rfl⟩ := print_outcome_ok rest
    exact ⟨_, .parts (.shown verbose shown) told analyzed, Transcript.say_say ..⟩
  · rename_i silent
    obtain ⟨result, analysis, told, analyzed, rfl⟩ := print_outcome_ok ends
    exact ⟨_, .parts (.hidden (Bool.not_eq_true _ ▸ silent)) told analyzed, rfl⟩

theorem print_graph_ok {p : Problem Float} {graph : Option (Graph Float)}
    (ends : Ends (printGraph p graph) t (.ok ()) u) :
    ∃ figures, graphFigures p graph = .ok figures ∧
      u = (t.say (Section.graph (graphLines graph)).lines).display figures := by
  obtain ⟨_, _, heading, rest⟩ := (Ends.bind_ok_iff _ _ _).mp ends
  obtain ⟨_, rfl⟩ := (print_line_iff _ _).mp heading
  cases graph with
  | none =>
      obtain ⟨_, rfl⟩ := (print_line_iff _ _).mp rest
      exact ⟨[], rfl, by rw [Transcript.display_nil, Transcript.say_say]; rfl⟩
  | some g =>
      unfold graphFigures graphLines
      dsimp only at rest ⊢
      cases best : g.optimum with
      | none =>
          rw [best] at rest
          obtain ⟨_, rfl⟩ := (print_line_iff _ _).mp rest
          exact ⟨[], rfl, by rw [Transcript.display_nil, Transcript.say_say]; rfl⟩
      | some found =>
          rw [best] at rest
          simp only [Ends.bind_ok_iff, print_line_iff, or_fail_ok_iff, Failure.lift_figure,
            Outcome.mapError_ok_iff] at rest
          obtain ⟨_, _, ⟨_, rfl⟩, _, _, ⟨_, rfl⟩, drawn, _, ⟨drew, rfl⟩, rest⟩ := rest
          refine ⟨drawn.toList, by rw [drew]; rfl, ?_⟩
          rw [Transcript.say_say, Transcript.say_say] at rest
          cases drawn with
          | none =>
              obtain ⟨_, rfl⟩ := (Ends.pure_iff _ _).mp rest
              exact (Transcript.display_nil _).symm
          | some figure =>
              obtain ⟨_, rfl⟩ := (Ends.modify_iff _ _).mp rest
              rfl

theorem print_tableaux_ok {o : Options} {limit : Int} {p : Problem Float} {graph : Option (Graph Float)}
    (ends : Ends (printTableaux o limit p graph) t (.ok ()) u) :
    ∃ sections, TableauxTold o limit p sections ∧ u = t.say (sections.flatMap Section.lines) := by
  unfold printTableaux at ends
  split at ends
  · rename_i s solved
    obtain ⟨sections, told, rfl⟩ := print_solution_ok ends
    exact ⟨sections, .solved solved told, rfl⟩
  · rename_i cause failed
    split at ends
    · cases ((Ends.throw_iff _ _).mp ends).1
    · rename_i reported
      split at ends
      · cases ((refuse_iff _ _).mp ends).1
      · obtain ⟨_, rfl⟩ := (print_line_iff _ _).mp ends
        exact ⟨[.notApplicable cause], .notApplicable failed (not_not.mp reported), rfl⟩

theorem execute_ok {o : Options} {files : Files} (ends : Ends (execute o files) t (.ok ()) u) :
    ∃ limit p sections drawn figures, o.limit = some limit ∧ o.Loads files p ∧ TableauxTold o limit p sections ∧
      GraphTold o p drawn figures ∧ u = (t.say ((sections ++ drawn).flatMap Section.lines)).display figures := by
  unfold execute at ends
  split at ends
  · rename_i limit limited
    obtain ⟨p, _, loaded, rest⟩ := (Ends.bind_ok_iff _ _ _).mp ends
    obtain ⟨rfl, loads⟩ := (load_problem_ok_iff o files p).mp loaded
    obtain ⟨_, _, printed, rest⟩ := (Ends.bind_ok_iff _ _ _).mp rest
    obtain ⟨sections, told, rfl⟩ := print_tableaux_ok printed
    split at rest
    · rename_i asked
      obtain ⟨figures, shown, rfl⟩ := print_graph_ok rest
      refine ⟨limit, p, sections, _, figures, limited, loads, told, .shown asked shown, ?_⟩
      rw [Transcript.say_say, List.flatMap_append]
      simp
    · rename_i unasked
      obtain ⟨_, rfl⟩ := (Ends.pure_iff _ _).mp rest
      refine ⟨limit, p, sections, [], [], limited, loads, told, .absent (Bool.not_eq_true _ ▸ unasked), ?_⟩
      rw [Transcript.display_nil, List.append_nil]
  · cases ((Ends.throw_iff _ _).mp ends).1

def Willing (x : Run α) : Prop := ∀ t u cause, ¬ Ends x t (.error (.refusal cause)) u

theorem Willing.bind {x : Run α} {f : α → Run β} (first : Willing x) (rest : ∀ a, Willing (f a)) : Willing (x >>= f) := by
  intro t u cause ends
  rcases (Ends.bind_error_iff _ _ _).mp ends with failed | ⟨a, v, _, failed⟩
  · exact first t u cause failed
  · exact rest a v u cause failed

theorem willing_pure (a : α) : Willing (pure a) := by
  intro t u cause ends
  cases ((Ends.pure_iff _ _).mp ends).1

theorem willing_print_line (line : Text) : Willing (printLine line) := by
  intro t u cause ends
  cases ((print_line_iff _ _).mp ends).1

theorem willing_show_figure (figure : Figure Float) : Willing (showFigure figure) := by
  intro t u cause ends
  cases ((Ends.modify_iff _ _).mp ends).1

theorem willing_or_fail (x : Except Failure α) : Willing (orFail x) := fun _ _ cause => or_fail_never_refuses x cause

theorem willing_print_solution (o : Options) (s : Solution Float) : Willing (printSolution o s) := by
  have outcome : Willing (printOutcome o s) := by
    refine (willing_print_line _).bind fun _ => (willing_or_fail _).bind fun _ => (willing_print_line _).bind fun _ => ?_
    split
    · exact (willing_print_line _).bind fun _ => (willing_or_fail _).bind fun _ => (willing_or_fail _).bind fun _ =>
        willing_print_line _
    · exact willing_pure _
  rw [print_solution_eq]
  split
  · exact (willing_or_fail _).bind fun _ => (willing_print_line _).bind fun _ => outcome
  · exact outcome

theorem willing_print_graph (p : Problem Float) (graph : Option (Graph Float)) : Willing (printGraph p graph) := by
  refine (willing_print_line _).bind fun _ => ?_
  split
  · exact willing_print_line _
  · split
    · exact willing_print_line _
    · refine (willing_print_line _).bind fun _ => (willing_print_line _).bind fun _ => (willing_or_fail _).bind fun _ => ?_
      split
      · exact willing_show_figure _
      · exact willing_pure _

theorem print_tableaux_refusal_iff (o : Options) (limit : Int) (p : Problem Float) (graph : Option (Graph Float))
    (cause : Refusal) : Ends (printTableaux o limit p graph) t (.error (.refusal cause)) u ↔
      u = t ∧ ∃ fault, p.solve (.count limit) = .error fault ∧ fault.failureKind = .invalidModel ∧ graph = none ∧
        cause = .problem fault := by
  unfold printTableaux
  cases solved : p.solve (.count limit) with
  | ok s => simpa using willing_print_solution o s t u cause
  | error fault =>
      by_cases reported : fault.failureKind = .invalidModel
      · cases graph with
        | none => simp [reported, refuse_iff, and_comm, eq_comm]
        | some g => simp [reported, print_line_iff]
      · simp [reported, Ends.throw_iff]

theorem execute_refusal_iff (o : Options) (files : Files) (cause : Refusal) :
    Ends (execute o files) t (.error (.refusal cause)) u ↔ u = t ∧ ∃ limit, o.limit = some limit ∧
      (o.Unloaded files cause ∨ ∃ p fault, o.Loads files p ∧ p.solve (.count limit) = .error fault ∧
        fault.failureKind = .invalidModel ∧ (if o.graph then p.graph? else none) = none ∧ cause = .problem fault) := by
  unfold execute
  cases limited : o.limit with
  | none => simp [Ends.throw_iff]
  | some limit =>
      dsimp only
      rw [Ends.bind_error_iff, load_problem_refusal_iff]
      constructor
      · rintro (⟨rfl, unloaded⟩ | ⟨p, _, loaded, rest⟩)
        · exact ⟨rfl, limit, rfl, .inl unloaded⟩
        · obtain ⟨rfl, loads⟩ := (load_problem_ok_iff o files p).mp loaded
          rcases (Ends.bind_error_iff _ _ _).mp rest with refused | ⟨_, _, _, later⟩
          · obtain ⟨rfl, fault, failed⟩ := (print_tableaux_refusal_iff o limit p _ cause).mp refused
            exact ⟨rfl, limit, rfl, .inr ⟨p, fault, loads, failed⟩⟩
          · split at later
            · exact absurd later (willing_print_graph _ _ _ _ _)
            · exact absurd later (willing_pure _ _ _ _)
      · rintro ⟨rfl, _, ⟨⟩, unloaded | ⟨p, fault, loads, failed⟩⟩
        · exact .inl ⟨rfl, unloaded⟩
        · refine .inr ⟨p, u, (load_problem_ok_iff o files p).mpr ⟨rfl, loads⟩, ?_⟩
          exact (Ends.bind_error_iff _ _ _).mpr
            (.inl ((print_tableaux_refusal_iff o limit p _ cause).mpr ⟨rfl, fault, failed⟩))

end Runs

end LinProg.CommandLine
