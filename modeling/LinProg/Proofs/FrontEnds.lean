import LinProg.Proofs.Arguments
import LinProg.Proofs.Bytes
import LinProg.Proofs.Display
import LinProg.Proofs.Ending

set_option autoImplicit false

namespace LinProg

namespace Page.Summary

def entries (summary : Summary) : Text :=
  Text.joined ", " (summary.point.map fun (name, x) => name.plain ++ Text.ofString s!" = {x}")

def lines (summary : Summary) (notes : List Text) : List Text :=
  match summary.status with
  | .optimal =>
    Text.ofString ("Optimal value: " ++ summary.value.getD "") :: ("Solution: " ++ summary.entries) :: notes
  | .unbounded => ["The objective is unbounded on the feasible region."]
  | .nonConvergent => [
      "No optimum after " ++ Text.ofString (toString summary.pivots) ++ " pivots; last basic solution: " ++ summary.entries]

def report (summary : Summary) (notes : List Text) : Text :=
  Text.joined "\n" (Text.ofString s!"Status: {summary.status.name}" :: summary.lines notes ++
    ["Iterations: " ++ Text.ofString (toString summary.pivots)])

end Page.Summary

theorem summary_entries (s : Solution Float) : (Page.summaryOf s).entries = Report.assignment s.point := by
  rw [Page.Summary.entries, Report.assignment, Page.summaryOf, List.map_map]
  rfl

theorem solution_report {s : Solution Float} {text : Text} (told : Report.solution s = .ok text) :
    ∃ notes, text = (Page.summaryOf s).report notes := by
  obtain ⟨names, _, said⟩ := (Outcome.bind_ok_iff _ _ _).mp told
  cases said
  have lines : ∃ notes, Report.outcomeLines s names (Text.ofString (toString s.pivots)) = (Page.summaryOf s).lines notes := by
    have entries := summary_entries s
    unfold Report.outcomeLines Page.Summary.lines
    rw [entries, show (Page.summaryOf s).status = s.status from rfl]
    cases status : s.status with
    | optimal =>
        have value : (Page.summaryOf s).value = some (Report.number s.value) := if_pos (by simp [Solution.isOptimal, status])
        rw [value]
        exact ⟨_, rfl⟩
    | unbounded => exact ⟨[], rfl⟩
    | nonConvergent => exact ⟨[], rfl⟩
  obtain ⟨notes, same⟩ := lines
  refine ⟨notes, ?_⟩
  rw [Report.outcome, same]
  rfl

section Analysis

def priceCells (row : Label × String × String) : String × Label × List (String × String) :=
  ("constraint", row.1, [("shadow price", row.2.1), ("RHS range", row.2.2)])

def costCells (row : Label × String) : String × Label × List (String × String) :=
  ("variable", row.1, [("reduced cost", row.2)])

def PriceLine (row : Label × String × String) (line : Text) : Prop :=
  ∃ (column : Text) (rhs : String), Report.nameColumn row.1 = .ok column ∧
    line = "  " ++ column ++ "  " ++ Text.padLeft 10 row.2.1 ++ Text.ofString s!"   RHS {rhs} valid in {row.2.2}"

def CostLine (row : Label × String) (line : Text) : Prop :=
  ∃ column, Report.nameColumn row.1 = .ok column ∧ line = "  " ++ column ++ "  " ++ Text.padLeft 10 row.2

variable {report : Sensitivity Float}

def pricesOf (report : Sensitivity Float) : List (Label × String × String) :=
  (report.shadowPrices.zip report.rhsRanges).map fun (price, r) => (price.1, Report.number price.2, Report.interval r)

def costsOf (report : Sensitivity Float) : List (Label × String) :=
  report.reducedCosts.map fun (name, x) => (name, Report.number x)

theorem price_rows : List.zipWith Page.shadowRow report.shadowPrices report.rhsRanges = (pricesOf report).map priceCells := by
  rw [pricesOf, List.map_map, List.zip, List.map_zipWith]
  rfl

theorem cost_rows : report.reducedCosts.map Page.costRow = (costsOf report).map costCells := by
  rw [costsOf, List.map_map]
  rfl

theorem sensitivity_report {text : Text} (told : Report.sensitivity report = .ok text) :
    ∃ priceLines costLines, List.Forall₂ PriceLine (pricesOf report) priceLines ∧
      List.Forall₂ CostLine (costsOf report) costLines ∧
      text = Text.joined "\n"
        (Text.ofString "Shadow prices:" :: priceLines ++ Text.ofString "Reduced costs:" :: costLines) := by
  obtain ⟨priceLines, prices, rest⟩ := (Outcome.bind_ok_iff _ _ _).mp told
  obtain ⟨costLines, costs, said⟩ := (Outcome.bind_ok_iff _ _ _).mp rest
  cases said
  rw [Outcome.mapM_ok_iff] at prices costs
  refine ⟨priceLines, costLines, ?_, ?_, rfl⟩
  · rw [pricesOf, List.forall₂_map_left_iff]
    refine prices.imp fun (price, r) line said => ?_
    obtain ⟨column, named, told⟩ := (Outcome.bind_ok_iff _ _ _).mp said
    cases told
    exact ⟨column, _, named, rfl⟩
  · rw [costsOf, List.forall₂_map_left_iff]
    refine costs.imp fun (name, x) line said => ?_
    obtain ⟨column, named, told⟩ := (Outcome.bind_ok_iff _ _ _).mp said
    cases told
    exact ⟨column, named, rfl⟩

end Analysis

open CommandLine

structure SameSolution (outputs : List Page.Output) (sections : List Section) : Prop where
  steps : ∃ text, (∀ other, Page.main (.code other) ∈ outputs ↔ other = text) ∧
    ∀ other, Section.steps other ∈ sections ↔ other = text
  result : ∃ summary notes, (∀ other, Page.main (.summary other) ∈ outputs ↔ other = summary) ∧
    ∀ other, Section.result other ∈ sections ↔ other = summary.report notes
  sensitivity : (∃ rows, ⟨.firstColumn, .table rows⟩ ∈ outputs) ↔ ∃ text, Section.sensitivity text ∈ sections
  analysis : ∀ text, Section.sensitivity text ∈ sections → ∃ prices costs priceLines costLines,
    (∀ rows, ⟨.firstColumn, .table rows⟩ ∈ outputs ↔ rows = prices.map priceCells) ∧
      (∀ rows, ⟨.secondColumn, .table rows⟩ ∈ outputs ↔ rows = costs.map costCells) ∧
      List.Forall₂ PriceLine prices priceLines ∧ List.Forall₂ CostLine costs costLines ∧
      text = Text.joined "\n"
        (Text.ofString "Shadow prices:" :: priceLines ++ Text.ofString "Reduced costs:" :: costLines)

inductive SameGraph (p : Problem Float) (outputs : List Page.Output) (sections : List Section)
    (figures : List (Figure Float)) : Prop
  | optimum (first second : Label) (x y z : String) (region : Text) (figure : Figure Float)
      (names : p.names = [first, second])
      (shown : ∀ text, Page.main (.write text) ∈ outputs ↔ text = "Optimal vertex: " ++ first.plain ++
        Text.ofString s!" = {x}, " ++ second.plain ++ Text.ofString s!" = {y}, Z = {z}")
      (told : ∀ lines, Section.graph lines ∈ sections ↔
        lines = [Text.ofString s!"Optimal vertex: ({x}, {y})  Z = {z}", region])
      (drawn : ∀ f, Page.main (.figure f) ∈ outputs ↔ f = figure) (displayed : figures = [figure])
  | empty (shown : Page.main (.info "No feasible region to plot.") ∈ outputs)
      (told : ∀ lines, Section.graph lines ∈ sections ↔ lines = [Text.ofString "No feasible region."])
      (undrawn : ∀ f, Page.main (.figure f) ∉ outputs) (undisplayed : figures = [])

section Comparison

variable {o : Options} {choices : Page.Choices} {p : Problem Float} {s : Solution Float} {limit : Int}
  {sections drawn : List Section} {figures : List (Figure Float)} {outputs drawing : List Page.Output}
  {graph : Option (Graph Float)}

theorem same_solution (verbose : o.verbose = true) (asked : o.sensitivity = choices.sensitivity)
    (told : SolutionTold o s sections) (graphTold : GraphTold o p drawn figures)
    (shown : Page.SolutionShown choices s outputs) (graphShown : Page.DrawingShown p graph drawing) :
    SameSolution (Page.opening ++ (outputs ++ Page.main (.subheader "Graph") :: drawing)) (sections ++ drawn) := by
  cases told with
  | @parts _ _ result stepped resulted analyzed =>
      cases shown with
      | @parts text names _ written alternates tables =>
          obtain ⟨notes, rendered⟩ := solution_report resulted
          refine ⟨⟨text, fun other => ?_, fun other => ?_⟩, ⟨Page.summaryOf s, notes, fun other => ?_, fun other => ?_⟩,
            ?_, ?_⟩
          · simp [Page.opening, Page.main, Page.mem_alternates_shown, tables.mem_iff, graphShown.mem_iff]
          · simpa [stepped.mem_iff, analyzed.mem_iff, graphTold.mem_iff, verbose, written] using eq_comm
          · simp [Page.opening, Page.main, Page.mem_alternates_shown, tables.mem_iff, graphShown.mem_iff]
          · simp [stepped.mem_iff, analyzed.mem_iff, graphTold.mem_iff, rendered]
          · have page := tables.some_iff
            have command := analyzed.some_iff
            rw [asked] at command
            simpa [Page.opening, Page.main, Page.mem_alternates_shown, graphShown.mem_iff, stepped.mem_iff,
              graphTold.mem_iff] using page.trans command.symm
          · intro other member
            obtain ⟨wanted, report, read, reported⟩ : (o.sensitivity = true ∧ s.isOptimal = true) ∧ ∃ report,
                Sensitivity.ofSolution s = .ok report ∧ Report.sensitivity report = .ok other := by
              simpa [stepped.mem_iff, analyzed.mem_iff, graphTold.mem_iff] using member
            obtain ⟨priceLines, costLines, prices, costs, same⟩ := sensitivity_report reported
            rw [asked] at wanted
            refine ⟨pricesOf report, costsOf report, priceLines, costLines, fun rows => ?_, fun rows => ?_, prices, costs,
              same⟩
            · rw [← price_rows]
              simp [Page.opening, Page.main, Page.mem_alternates_shown, tables.mem_iff, graphShown.mem_iff, wanted, read]
            · rw [← cost_rows]
              simp [Page.opening, Page.main, Page.mem_alternates_shown, tables.mem_iff, graphShown.mem_iff, wanted, read]

theorem tableaux_clean (shown : Page.TableauxShown choices p outputs) :
    (∀ text, Page.main (.error text) ∉ outputs) ∧ (∀ text, Page.main (.write text) ∉ outputs) ∧
      ∀ f, Page.main (.figure f) ∉ outputs := by
  cases shown with
  | solved _ shown =>
      cases shown with
      | parts _ _ tables => simp [Page.main, Page.mem_alternates_shown, tables.mem_iff]
  | notApplicable _ _ => simp [Page.main]

theorem figure_of_two (two : p.size = 2) {g : Graph Float} {drew : Option (Figure Float)}
    (drawn : p.figure g = .ok drew) : ∃ f, drew = some f := by
  obtain ⟨first, second, names⟩ := List.length_eq_two.mp two
  obtain ⟨c1, c2, costs⟩ := List.length_eq_two.mp (p.objective_length.trans two)
  have lines : (p.constraints.mapM fun c => (Plane.Line.ofConstraint c).toOption.map fun l => (c.sense, l)) =
      some (p.constraints.map fun c => (c.sense, ⟨c.coefficients.getD 0 0, c.coefficients.getD 1 0, c.rhs⟩)) := by
    refine Outcome.mapM_pure_of _ _ _ fun c member => ?_
    rw [Problem.line_of_two two member]
    rfl
  unfold Problem.figure Problem.figureOn at drawn
  dsimp only at drawn
  rw [names, costs, lines] at drawn
  obtain ⟨_, _, same⟩ := (Outcome.bind_ok_iff _ _ _).mp drawn
  exact ⟨_, (Except.ok.inj same).symm⟩

theorem optimum_line (best : Plane.Point Float) (value : Float) :
    s!"Optimal vertex: {vertex best}  Z = {Report.number value}" =
      s!"Optimal vertex: ({Report.number best.x}, {Report.number best.y})  Z = {Report.number value}" := by
  have opened : "Optimal vertex: (" = "Optimal vertex: " ++ "(" := by decide
  have closed : ")  Z = " = ")" ++ "  Z = " := by decide
  simp only [vertex, toString, opened, closed, String.append_assoc]

theorem same_graph (two : p.size = 2) (asked : o.graph = true) (told : TableauxTold o limit p sections)
    (graphTold : GraphTold o p drawn figures) (shown : Page.TableauxShown choices p outputs)
    (graphShown : Page.DrawingShown p p.graph? drawing) :
    SameGraph p (Page.opening ++ (outputs ++ Page.main (.subheader "Graph") :: drawing)) (sections ++ drawn) figures := by
  obtain ⟨g, found⟩ := Problem.graph_of_two two
  obtain ⟨_, noText, noFigure⟩ := tableaux_clean shown
  obtain ⟨first, second, names⟩ := List.length_eq_two.mp two
  rw [found] at graphShown
  cases graphTold with
  | absent unasked => cases asked.symm.trans unasked
  | shown _ drawnFigures =>
      rw [found] at drawnFigures
      cases graphShown with
      | empty infeasible =>
          have none : figures = [] := by
            simpa [graphFigures, infeasible, eq_comm] using drawnFigures
          refine .empty ?_ ?_ ?_ none
          · simp
          · simp [told.no_graph, graphLines, found, infeasible]
          · simp [Page.opening, Page.main_inj, noFigure]
      | @drawn _ best value drew optimum drawn =>
          obtain ⟨f, rfl⟩ := figure_of_two two drawn
          have one : figures = [f] := by
            simpa [graphFigures, optimum, drawn, Except.map, eq_comm] using drawnFigures
          refine .optimum first second (Report.number best.x) (Report.number best.y) (Report.number value)
            ("Feasible region: " ++ Text.ofString (" ".intercalate (g.region.map vertex))) f names
            (fun text => ?_) (fun lines => ?_) (fun other => ?_) one
          · simp [Page.opening, Page.main_inj, noText, Page.vertexLine, names]
          · rw [← optimum_line]
            simp [told.no_graph, graphLines, found, optimum]
          · simp [Page.opening, Page.main_inj, noFigure]

end Comparison

def complaint (text : Text) : Text := usage ++ "simplex-tutor: error: " ++ text ++ "\n"

structure SameReport (o : Options) (files : Files) (limit : Int) (outputs : List Page.Output) (outcome : Outcome) :
    Prop where
  stopped : (∃ text, Page.main (.error text) ∈ outputs) ↔
    ∃ cause, o.Unloaded files cause ∧ outcome = { ending := .ok 2, err := refused cause }
  message : ∀ text, Page.main (.error text) ∈ outputs → ∃ said : Text,
    (text = "Invalid JSON: " ++ said ∧ outcome.err = complaint ("invalid JSON: " ++ said)) ∨
      (text = "Invalid LP fields: " ++ said ∧ outcome.err = complaint ("invalid LP: " ++ said))
  solved : ∀ p s, o.Loads files p → p.solve (.count limit) = .ok s →
    outcome.ending = .ok 0 ∧ ∃ sections, outcome.out = printed sections ∧ Printout o limit p sections ∧
      SameSolution outputs sections
  graphed : ∀ p, o.Loads files p → p.size = 2 →
    outcome.ending = .ok 0 ∧ ∃ sections, outcome.out = printed sections ∧ Printout o limit p sections ∧
      SameGraph p outputs sections outcome.figures

def Page.pressed (text : Text) (limit : Nat) (minimize : Bool) : Choices := { text, minimize, limit }

section Runs

variable {path : Text} {limit : Nat} {minimize : Bool} {files : Files} {content : String} {status : Nat}

theorem parse_showing_all (bare : Bare path) (small : limit ≤ 1000) (minimize : Bool) :
    parse (showingAll path limit minimize) = .ok (.run (Options.showingAll path limit minimize)) := by
  refine (parse_run_iff _ _).mpr ⟨read_showing_all bare small minimize, ?_⟩
  rintro _ ⟨⟩
  exact Int.natCast_nonneg limit

theorem usable_of_ended (bare : Bare path) (small : limit ≤ 1000)
    (ended : (run (showingAll path limit minimize) files).ending = .ok status) : pathError? path = none := by
  cases unusable : pathError? path with
  | none => rfl
  | some cause =>
      have unread : Ends (loadProblem (Options.showingAll path limit minimize) files) {}
          (.error (.failure (.path cause))) {} :=
        (Ends.bind_error_iff _ _ _).mpr (.inl (read_model_unusable files unusable))
      have ends : Ends (execute (Options.showingAll path limit minimize) files) {} (.error (.failure (.path cause))) {} :=
        (Ends.bind_error_iff _ _ _).mpr (.inl unread)
      rw [run_executed (parse_showing_all bare small minimize) ends] at ended
      cases ended

theorem same_refusal {o : Options} {limit : Int} {cause : Refusal} {shown said : Text} {outcome : Outcome}
    (unloaded : o.Unloaded files cause) (stopped : outcome = { ending := .ok 2, err := refused cause })
    (alike : (shown = "Invalid JSON: " ++ said ∧ cause.message = "invalid JSON: " ++ said) ∨
      (shown = "Invalid LP fields: " ++ said ∧ cause.message = "invalid LP: " ++ said)) :
    SameReport o files limit (Page.opening ++ [Page.main (.error shown)]) outcome := by
  have only (text : Text) : Page.main (.error text) ∈ Page.opening ++ [Page.main (.error shown)] ↔ text = shown := by
    simp [Page.opening, Page.main_inj]
  have unsaid (p : Problem Float) : ¬ o.Loads files p := fun loads => loads.not_unloaded unloaded
  refine ⟨⟨fun _ => ⟨cause, unloaded, stopped⟩, fun _ => ⟨shown, (only shown).mpr rfl⟩⟩, ?_,
    fun p _ loads => absurd loads (unsaid p), fun p loads => absurd loads (unsaid p)⟩
  intro text member
  rw [stopped, (only text).mp member]
  refine ⟨said, alike.imp ?_ ?_⟩
  · rintro ⟨same, told⟩
    exact ⟨same, congrArg complaint told⟩
  · rintro ⟨same, told⟩
    exact ⟨same, congrArg complaint told⟩

theorem same_problem {p : Problem Float} {tableaux drawing : List Page.Output} (bare : Bare path) (small : limit ≤ 1000)
    (loads : (Options.showingAll path limit minimize).Loads files p)
    (shown : Page.TableauxShown (Page.pressed (Text.ofString content) limit minimize) p tableaux)
    (drawn : Page.DrawingShown p p.graph? drawing)
    (ended : (run (showingAll path limit minimize) files).ending = .ok status) :
    SameReport (Options.showingAll path limit minimize) files limit
      (Page.opening ++ (tableaux ++ Page.main (.subheader "Graph") :: drawing))
      (run (showingAll path limit minimize) files) := by
  have silent (text : Text) :
      Page.main (.error text) ∉ Page.opening ++ (tableaux ++ Page.main (.subheader "Graph") :: drawing) := by
    simp [Page.opening, Page.main_inj, (tableaux_clean shown).1, drawn.mem_iff]
  have through := fun kept => ran_through (parse_showing_all bare small minimize) rfl loads kept ended
  refine ⟨⟨?_, ?_⟩, fun text member => absurd member (silent text), ?_, ?_⟩
  · rintro ⟨text, member⟩
    exact absurd member (silent text)
  · rintro ⟨cause, unloaded, _⟩
    exact absurd unloaded loads.not_unloaded
  · intro q s reloads solved
    cases loads.unique reloads
    obtain ⟨zero, sections, drawnSections, told, graphTold, out⟩ := through fun fault failed => by
      cases solved.symm.trans failed
    refine ⟨zero, _, out, told.printout graphTold, ?_⟩
    cases shown with
    | notApplicable failed _ => cases solved.symm.trans failed
    | solved resolved shown =>
        cases solved.symm.trans resolved
        cases told with
        | notApplicable failed _ => cases solved.symm.trans failed
        | solved again told =>
            cases solved.symm.trans again
            exact same_solution rfl rfl told graphTold shown drawn
  · intro q reloads two
    cases loads.unique reloads
    obtain ⟨g, found⟩ := Problem.graph_of_two two
    obtain ⟨zero, sections, drawnSections, told, graphTold, out⟩ := through fun _ _ missing => by
      cases found.symm.trans missing
    exact ⟨zero, _, out, told.printout graphTold, same_graph two rfl told graphTold shown drawn⟩

theorem front_ends_agree (content : String) (single : '\r' ∉ content.toList) (minimize : Bool) (limit : Nat)
    (small : limit ≤ 1000) (path : Text) (bare : Bare path) (files : Files)
    (held : files path = .ok (Text.utf8 content.toList))
    (whole : (Page.shown (Page.pressed (Text.ofString content) limit minimize)).2 = none) (status : Nat)
    (ended : (run (showingAll path limit minimize) files).ending = .ok status) :
    SameReport (Options.showingAll path limit minimize) files limit
      (Page.shown (Page.pressed (Text.ofString content) limit minimize)).1 (run (showingAll path limit minimize) files) := by
  obtain ⟨outputs, shown, onPage⟩ := Page.shown_model rfl rfl whole
  rw [onPage]
  have asked := read_showing_all bare small minimize
  have holds : (Options.showingAll path limit minimize).Holds files (Text.ofString content) :=
    ⟨usable_of_ended bare small ended, _, held, Text.of_bytes_utf8 single⟩
  have nonneg : 0 ≤ (limit : Int) := Int.natCast_nonneg limit
  cases shown with
  | flawed flawed =>
      have unloaded : (Options.showingAll path limit minimize).Unloaded files _ := .text holds flawed
      exact same_refusal unloaded (run_refused (.file asked rfl nonneg unloaded)) (.inl ⟨rfl, rfl⟩)
  | unfit parsed unfit reported =>
      have unloaded : (Options.showingAll path limit minimize).Unloaded files _ := .model holds parsed unfit reported
      exact same_refusal unloaded (run_refused (.file asked rfl nonneg unloaded)) (.inr ⟨rfl, rfl⟩)
  | problem parsed fits solved drawn =>
      exact same_problem bare small ⟨_, _, holds, parsed, fits⟩ solved drawn ended

end Runs

-- A bound for each of two variables, the second one zero: both enter, and the best vertex is (4, 0).
def shelf : String := "\x7b\"c\": [3, 2], \"A\": [[1, 0], [0, 1]], \"b\": [4, 0]\x7d"

def shelfSteps : List Text := [
  "[0] Convert to standard form: Maximization; slack variables s1, s2 added.",
  "",
  "[0] Initial tableau: Slack variables form the initial basis: s1, s2.",
  "",
  "Iteration 0",
  "      Z      x1      x2      s1      s2     RHS      BV   Ratio",
  "----------------------------------------------------------------",
  "      Z      -3      -2       0       0       0       Z        ",
  "            [1]       0       1       0       4      s1       4",
  "              0       1       0       1       0      s2        ",
  "Entering: x1   Leaving: s1",
  "",
  "[1] Select entering variable: Entering variable: x1 (column 1), most negative objective-row coefficient -3.",
  "",
  "[1] Select leaving variable: Leaving variable: s1 (row 1), minimum ratio 4.",
  "",
  "[1] Pivot: Pivot on element (1, 1): s1 leaves, x1 enters.",
  "",
  "Iteration 1",
  "      Z      x1      x2      s1      s2     RHS      BV   Ratio",
  "----------------------------------------------------------------",
  "      Z       0      -2       3       0      12       Z        ",
  "              1       0       1       0       4      x1        ",
  "              0     [1]       0       1       0      s2       0",
  "Entering: x2   Leaving: s2",
  "",
  "[2] Select entering variable: Entering variable: x2 (column 2), most negative objective-row coefficient -2.",
  "",
  "[2] Select leaving variable: Leaving variable: s2 (row 2), minimum ratio 0.",
  "",
  "[2] Pivot: Pivot on element (2, 2): s2 leaves, x2 enters.",
  "",
  "Iteration 2",
  "      Z      x1      x2      s1      s2     RHS      BV   Ratio",
  "----------------------------------------------------------------",
  "      Z       0       0       3       2      12       Z        ",
  "              1       0       1       0       4      x1        ",
  "              0       1       0       1       0      x2        ",
  "",
  "[2] Optimal solution found: All objective-row coefficients are non-negative."]

def shelfFindings : List Text := [
  "", "=== Result ===", "Status: optimal", "Optimal value: 12", "Solution: x1 = 4, x2 = 0", "Iterations: 2",
  "", "=== Sensitivity ===", "Shadow prices:", "      s1           3   RHS 4 valid in [0, inf]",
  "      s2           2   RHS 0 valid in [0, inf]", "Reduced costs:", "      x1           0", "      x2           0",
  "", "=== Graphical method ===", "Optimal vertex: (4, 0)  Z = 12", "Feasible region: (0, 0) (4, 0)"]

def Page.Shown.text? : Page.Shown → Option Text
  | .code text | .write text => some text
  | _ => none

def shelfRun : CommandLine.Outcome := run (showingAll "shelf.json" 1000 false) (onlyFile "shelf.json" shelf)

def shelfPage : List Page.Output × Option Failure := Page.shown (Page.pressed (Text.ofString shelf) 1000 false)

theorem shelf_run_ends :
    shelfRun.ending.toOption = some 0 ∧ shelfRun.out = endedLines (shelfSteps ++ shelfFindings) := by
  decide +kernel

theorem shelf_page_ends :
    shelfPage.2.isNone ∧ shelfPage.1.filterMap (·.content.text?) =
      [Text.joined "\n" shelfSteps, "Optimal vertex: x1 = 4, x2 = 0, Z = 12"] := by
  decide +kernel

theorem shelf_loads : ∃ p s, (Options.showingAll "shelf.json" 1000 false).Loads (onlyFile "shelf.json" shelf) p ∧
    p.size = 2 ∧ p.solve (.count 1000) = .ok s ∧ s.status = .optimal ∧ s.pivots = 2 := by
  obtain ⟨loaded, after, ends⟩ := Ends.exists_end
    (loadProblem (Options.showingAll "shelf.json" 1000 false) (onlyFile "shelf.json" shelf)) {}
  have solvable : ((loadProblem (Options.showingAll "shelf.json" 1000 false) (onlyFile "shelf.json" shelf)).run
      {}).1.toOption.any (fun p => p.size = 2 ∧ (p.solve (.count 1000)).toOption.any fun s =>
        s.status = .optimal ∧ s.pivots = 2) = true := by decide +kernel
  rw [show (loadProblem _ _).run {} = _ from ends] at solvable
  obtain ⟨p, read, facts⟩ := (Option.any_eq_true _ _).mp solvable
  obtain ⟨two, solvable⟩ := of_decide_eq_true facts
  obtain ⟨s, solved, ending⟩ := (Option.any_eq_true _ _).mp solvable
  obtain ⟨status, pivots⟩ := of_decide_eq_true ending
  cases (Outcome.to_option_some_iff _ _).mp read
  exact ⟨p, s, ((load_problem_ok_iff _ _ _).mp ends).2, two, (Outcome.to_option_some_iff _ _).mp solved, status, pivots⟩

theorem shelf_agrees :
    (∃ p s, (Options.showingAll "shelf.json" 1000 false).Loads (onlyFile "shelf.json" shelf) p ∧ p.size = 2 ∧
      p.solve (.count 1000) = .ok s ∧ s.status = .optimal ∧ s.pivots = 2) ∧
    shelfRun.out = endedLines (shelfSteps ++ shelfFindings) ∧
    shelfPage.1.filterMap (·.content.text?) =
      [Text.joined "\n" shelfSteps, "Optimal vertex: x1 = 4, x2 = 0, Z = 12"] ∧
    SameReport (Options.showingAll "shelf.json" 1000 false) (onlyFile "shelf.json" shelf) 1000 shelfPage.1 shelfRun := by
  obtain ⟨ended, out⟩ := shelf_run_ends
  obtain ⟨whole, texts⟩ := shelf_page_ends
  have held : onlyFile "shelf.json" shelf "shelf.json" = .ok (Text.utf8 shelf.toList) :=
    (Outcome.to_option_some_iff _ _).mp (by decide +kernel)
  have zero : shelfRun.ending = .ok 0 := (Outcome.to_option_some_iff _ _).mp ended
  have unfailed : shelfPage.2 = none := Option.isNone_iff_eq_none.mp whole
  exact ⟨shelf_loads, out, texts, front_ends_agree shelf (by decide +kernel) false 1000 (by decide) "shelf.json"
    (by decide +kernel) _ held unfailed 0 zero⟩

end LinProg
