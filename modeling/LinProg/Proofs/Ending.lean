import LinProg.Proofs.Printout

set_option autoImplicit false

namespace LinProg

section Graphs

variable {K : Type} [Scalar K] {p : Problem K}

theorem Problem.line_of_two (two : p.size = 2) {c : Constraint K} (member : c ∈ p.constraints) :
    Plane.Line.ofConstraint c = .ok ⟨c.coefficients.getD 0 0, c.coefficients.getD 1 0, c.rhs⟩ := by
  obtain ⟨a, b, row⟩ := List.length_eq_two.mp ((p.row_length c member).trans two)
  rw [Plane.Line.ofConstraint, row]
  rfl

variable [Plane.Angular K]

theorem Problem.graph_of_two (two : p.size = 2) : ∃ g, p.graph? = some g := by
  obtain ⟨c1, c2, costs⟩ := List.length_eq_two.mp (p.objective_length.trans two)
  have lines : (p.constraints.mapM fun c => (Plane.Line.ofConstraint c).toOption) =
      some (p.constraints.map fun c => ⟨c.coefficients.getD 0 0, c.coefficients.getD 1 0, c.rhs⟩) := by
    refine Outcome.mapM_pure_of _ _ _ fun c member => ?_
    rw [line_of_two two member]
    rfl
  exact ⟨_, by rw [graph?, costs, lines]⟩

theorem Problem.graph_none_iff (p : Problem K) : p.graph? = none ↔ p.size ≠ 2 := by
  constructor
  · intro missing two
    obtain ⟨g, found⟩ := graph_of_two two
    cases missing.symm.trans found
  · intro other
    unfold graph?
    split
    · rename_i costs _
      exact absurd (p.objective_length.symm.trans (congrArg List.length costs)) other
    · rfl

end Graphs

namespace CommandLine

inductive Refused (arguments : List Text) (files : Files) : Refusal → Prop
  | arguments {cause : UsageError} (misread : read arguments = .error cause) : Refused arguments files (.usage cause)
  | limit {o : Options} {limit : Int} (asked : read arguments = .ok (.run o)) (limited : o.limit = some limit)
      (negative : limit < 0) : Refused arguments files (.usage .negativeLimit)
  | file {o : Options} {limit : Int} {cause : Refusal} (asked : read arguments = .ok (.run o))
      (limited : o.limit = some limit) (nonneg : 0 ≤ limit) (unloaded : o.Unloaded files cause) :
      Refused arguments files cause
  | problem {o : Options} {limit : Int} {p : Problem Float} {cause : SolveError} (asked : read arguments = .ok (.run o))
      (limited : o.limit = some limit) (nonneg : 0 ≤ limit) (loads : o.Loads files p)
      (failed : p.solve (.count limit) = .error cause) (reported : cause.failureKind = .invalidModel)
      (ungraphed : o.graph = false ∨ p.size ≠ 2) : Refused arguments files (.problem cause)

variable {arguments : List Text} {files : Files}

theorem no_graph_iff (o : Options) (p : Problem Float) :
    (if o.graph then p.graph? else none) = none ↔ o.graph = false ∨ p.size ≠ 2 := by
  cases o.graph <;> simp [p.graph_none_iff]

theorem refused_iff (cause : Refusal) : Refused arguments files cause ↔
    (∃ fault, parse arguments = .error fault ∧ cause = .usage fault) ∨
      ∃ o t, parse arguments = .ok (.run o) ∧ Ends (execute o files) {} (.error (.refusal cause)) t := by
  constructor
  · intro refused
    cases refused with
    | arguments misread => exact .inl ⟨_, (parse_error_iff _ _).mpr (.inl misread), rfl⟩
    | limit asked limited negative =>
        exact .inl ⟨_, (parse_error_iff _ _).mpr (.inr ⟨rfl, _, _, asked, limited, negative⟩), rfl⟩
    | @file o limit _ asked limited nonneg unloaded =>
        refine .inr ⟨o, {}, (parse_run_iff _ _).mpr ⟨asked, ?_⟩, ?_⟩
        · simpa [limited] using nonneg
        · exact (execute_refusal_iff _ _ _).mpr ⟨rfl, limit, limited, .inl unloaded⟩
    | @problem o limit p cause asked limited nonneg loads failed reported ungraphed =>
        refine .inr ⟨o, {}, (parse_run_iff _ _).mpr ⟨asked, ?_⟩, ?_⟩
        · simpa [limited] using nonneg
        · exact (execute_refusal_iff _ _ _).mpr
            ⟨rfl, limit, limited, .inr ⟨p, cause, loads, failed, reported, (no_graph_iff o p).mpr ungraphed, rfl⟩⟩
  · rintro (⟨fault, misread, rfl⟩ | ⟨o, t, asked, ends⟩)
    · rcases (parse_error_iff _ _).mp misread with misread | ⟨rfl, o, limit, asked, limited, negative⟩
      · exact .arguments misread
      · exact .limit asked limited negative
    · obtain ⟨asked, nonneg⟩ := (parse_run_iff _ _).mp asked
      obtain ⟨_, limit, limited, unloaded | ⟨p, fault, loads, failed, reported, ungraphed, rfl⟩⟩ :=
        (execute_refusal_iff _ _ _).mp ends
      · exact .file asked limited (nonneg limit limited) unloaded
      · exact .problem asked limited (nonneg limit limited) loads failed reported ((no_graph_iff o p).mp ungraphed)

def outcomeOf (result : Except Stop Unit) (t : Transcript) : Outcome :=
  match result with
  | .ok () => { ending := .ok 0, out := t.out, figures := t.figures }
  | .error (.refusal cause) => { ending := .ok 2, out := t.out, err := refused cause, figures := t.figures }
  | .error (.failure cause) => { ending := .error cause, out := t.out, figures := t.figures }

theorem run_executed {o : Options} {result : Except Stop Unit} {t : Transcript} (asked : parse arguments = .ok (.run o))
    (ends : Ends (execute o files) {} result t) : run arguments files = outcomeOf result t := by
  rw [run, asked]
  dsimp only
  rw [show (execute o files).run {} = (result, t) from ends]
  unfold outcomeOf
  cases result with
  | ok => rfl
  | error stop => cases stop <;> rfl

theorem run_refused {cause : Refusal} (refused : Refused arguments files cause) :
    run arguments files = { ending := .ok 2, err := CommandLine.refused cause } := by
  rcases (refused_iff cause).mp refused with ⟨fault, misread, rfl⟩ | ⟨o, t, asked, ends⟩
  · rw [run, misread]
  · obtain ⟨rfl, _⟩ := (execute_refusal_iff _ _ _).mp ends
    exact run_executed asked ends

theorem refused_of_two (two : (run arguments files).ending = .ok 2) : ∃ cause, Refused arguments files cause := by
  cases asked : parse arguments with
  | error fault => exact ⟨_, (refused_iff _).mpr (.inl ⟨fault, asked, rfl⟩)⟩
  | ok request =>
      cases request with
      | help =>
          rw [run, asked] at two
          cases two
      | run o =>
          obtain ⟨result, t, ends⟩ := Ends.exists_end (execute o files) {}
          rw [run_executed asked ends] at two
          rcases result with (cause | fault) | _
          · exact ⟨cause, (refused_iff _).mpr (.inr ⟨o, t, asked, ends⟩)⟩
          · cases two
          · cases two

theorem execute_of_zero {o : Options} (asked : read arguments = .ok (.run o))
    (zero : (run arguments files).ending = .ok 0) : ∃ t, Ends (execute o files) {} (.ok ()) t ∧
      (run arguments files).out = t.out ∧ (run arguments files).figures = t.figures := by
  have accepted : parse arguments = .ok (.run o) := by
    have parsed := parse_eq arguments
    rw [asked, Outcome.ok_bind, checkLimit] at parsed
    split at parsed
    · rw [run, parsed] at zero
      cases zero
    · exact parsed
  obtain ⟨result, t, ends⟩ := Ends.exists_end (execute o files) {}
  rw [run_executed accepted ends] at zero ⊢
  rcases result with (cause | fault) | _
  · cases zero
  · cases zero
  · exact ⟨t, ends, rfl, rfl⟩

-- Once a problem is read, a run that does not fail goes through, if there is a solution or a graph to tell of.
theorem ran_through {o : Options} {limit : Int} {p : Problem Float} {status : Nat}
    (asked : parse arguments = .ok (.run o)) (limited : o.limit = some limit) (loads : o.Loads files p)
    (kept : ∀ fault, p.solve (.count limit) = .error fault → (if o.graph then p.graph? else none) ≠ none)
    (ended : (run arguments files).ending = .ok status) :
    (run arguments files).ending = .ok 0 ∧ ∃ sections drawn, TableauxTold o limit p sections ∧
      GraphTold o p drawn (run arguments files).figures ∧ (run arguments files).out = printed (sections ++ drawn) := by
  obtain ⟨result, t, ends⟩ := Ends.exists_end (execute o files) {}
  rw [run_executed asked ends] at ended ⊢
  rcases result with (cause | fault) | _
  · obtain ⟨_, other, given, unloaded | ⟨q, fault, reloads, failed, _, missing, _⟩⟩ :=
      (execute_refusal_iff _ _ _).mp ends
    · exact absurd unloaded loads.not_unloaded
    · cases loads.unique reloads
      cases limited.symm.trans given
      exact absurd missing (kept fault failed)
  · cases ended
  · obtain ⟨other, q, sections, drawn, figures, given, reloads, told, shown, rfl⟩ := execute_ok ends
    cases loads.unique reloads
    cases limited.symm.trans given
    exact ⟨rfl, sections, drawn, told, shown, rfl⟩

structure Printout (o : Options) (limit : Int) (p : Problem Float) (sections : List Section) : Prop where
  one_outcome : (sections.filter Section.isOutcome).length = 1
  result : ∀ text, .result text ∈ sections ↔
    ∃ s, p.solve (.count limit) = .ok s ∧ Report.solution s = .ok text
  not_applicable : ∀ cause, .notApplicable cause ∈ sections ↔ p.solve (.count limit) = .error cause
  steps : ∀ text, .steps text ∈ sections ↔
    o.verbose = true ∧ ∃ s, p.solve (.count limit) = .ok s ∧ Report.steps s.steps = .ok text
  sensitivity : (∃ text, .sensitivity text ∈ sections) ↔
    o.sensitivity = true ∧ ∃ s, p.solve (.count limit) = .ok s ∧ s.status = .optimal
  analysis : ∀ text, .sensitivity text ∈ sections → ∃ s report, p.solve (.count limit) = .ok s ∧
    Sensitivity.ofSolution s = .ok report ∧ Report.sensitivity report = .ok text
  graph : (∃ lines, .graph lines ∈ sections) ↔ o.graph = true
  graph_last : ∀ before lines after, sections = before ++ .graph lines :: after →
    after = [] ∧ lines = graphLines p.graph?

section Membership

variable {o : Options} {s : Solution Float} {p : Problem Float} {limit : Int} {sections drawn : List Section}
  {figures : List (Figure Float)} {x : Section}

theorem StepsTold.mem_iff (told : StepsTold o s sections) : x ∈ sections ↔
    ∃ text, x = .steps text ∧ o.verbose = true ∧ Report.steps s.steps = .ok text := by
  cases told with
  | hidden silent => simp [silent]
  | shown verbose told => simp [verbose, told]

theorem AnalysisTold.mem_iff (told : AnalysisTold o s sections) : x ∈ sections ↔
    ∃ text report, x = .sensitivity text ∧ (o.sensitivity = true ∧ s.isOptimal = true) ∧
      Sensitivity.ofSolution s = .ok report ∧ Report.sensitivity report = .ok text := by
  cases told with
  | absent unasked => simp [unasked]
  | shown asked analyzed told => simp [asked, analyzed, told]

theorem AnalysisTold.some_iff (told : AnalysisTold o s sections) :
    (∃ text, .sensitivity text ∈ sections) ↔ o.sensitivity = true ∧ s.isOptimal = true := by
  cases told with
  | absent unasked => simpa using unasked
  | shown asked _ _ => simpa using asked

theorem GraphTold.mem_iff (told : GraphTold o p drawn figures) :
    x ∈ drawn ↔ o.graph = true ∧ x = .graph (graphLines p.graph?) := by
  cases told with
  | absent unasked => simp [unasked]
  | shown asked _ => simp [asked]

theorem SolutionTold.no_graph (told : SolutionTold o s sections) (lines : List Text) : .graph lines ∉ sections := by
  cases told with
  | parts stepped _ analyzed => simp [stepped.mem_iff, analyzed.mem_iff]

theorem TableauxTold.no_graph (told : TableauxTold o limit p sections) (lines : List Text) : .graph lines ∉ sections := by
  cases told with
  | solved _ told => exact told.no_graph lines
  | notApplicable _ _ => simp

theorem TableauxTold.graph_last (told : TableauxTold o limit p sections) (shown : GraphTold o p drawn figures)
    {before after : List Section} {lines : List Text} (split : sections ++ drawn = before ++ .graph lines :: after) :
    after = [] ∧ lines = graphLines p.graph? := by
  cases shown with
  | absent unasked =>
      rw [List.append_nil] at split
      exact absurd (split ▸ List.mem_append_right _ List.mem_cons_self) (told.no_graph lines)
  | shown asked _ =>
      rcases List.eq_nil_or_concat after with rfl | ⟨others, last, rfl⟩
      · obtain ⟨_, same⟩ := List.append_inj' split rfl
        cases same
        exact ⟨rfl, rfl⟩
      · -- Another section behind would put this one among those of the tableaux.
        have longer : sections ++ [.graph (graphLines p.graph?)] = (before ++ .graph lines :: others) ++ [last] := by
          simpa using split
        obtain ⟨same, _⟩ := List.append_inj' longer rfl
        exact absurd (same ▸ List.mem_append_right _ List.mem_cons_self) (told.no_graph lines)

theorem TableauxTold.one_outcome (told : TableauxTold o limit p sections) (shown : GraphTold o p drawn figures) :
    ((sections ++ drawn).filter Section.isOutcome).length = 1 := by
  cases told with
  | solved _ told =>
      cases told with
      | parts stepped _ analyzed => cases stepped <;> cases analyzed <;> cases shown <;> rfl
  | notApplicable _ _ => cases shown <;> rfl

theorem TableauxTold.printout (told : TableauxTold o limit p sections) (shown : GraphTold o p drawn figures) :
    Printout o limit p (sections ++ drawn) := by
  have graph : (∃ lines, .graph lines ∈ sections ++ drawn) ↔ o.graph = true := by
    simp [told.no_graph, shown.mem_iff]
  have one := told.one_outcome shown
  have last : ∀ before lines after, sections ++ drawn = before ++ .graph lines :: after →
      after = [] ∧ lines = graphLines p.graph? := fun _ _ _ split => told.graph_last shown split
  cases told with
  | @solved s _ solved told =>
      cases told with
      | parts stepped told analyzed =>
          have optimal : s.isOptimal = true ↔ s.status = .optimal := by simp [Solution.isOptimal]
          have shownAnalysis := analyzed.some_iff
          refine ⟨one, ?_, ?_, ?_, ?_, ?_, graph, last⟩
          · intro text
            simpa [stepped.mem_iff, analyzed.mem_iff, shown.mem_iff, solved, told] using eq_comm
          · intro cause
            simp [stepped.mem_iff, analyzed.mem_iff, shown.mem_iff, solved]
          · intro text
            simp [stepped.mem_iff, analyzed.mem_iff, shown.mem_iff, solved]
          · simp [stepped.mem_iff, shown.mem_iff, solved, shownAnalysis, optimal]
          · intro text member
            obtain ⟨_, report, analyzed, told⟩ : (o.sensitivity = true ∧ s.isOptimal = true) ∧ ∃ report,
                Sensitivity.ofSolution s = .ok report ∧ Report.sensitivity report = .ok text := by
              simpa [stepped.mem_iff, analyzed.mem_iff, shown.mem_iff] using member
            exact ⟨s, report, solved, analyzed, told⟩
  | notApplicable failed reported =>
      refine ⟨one, ?_, ?_, ?_, ?_, ?_, graph, last⟩
      · simp [shown.mem_iff, failed]
      · intro cause
        simpa [shown.mem_iff, failed] using eq_comm
      · simp [shown.mem_iff, failed]
      · simp [shown.mem_iff, failed]
      · simp [shown.mem_iff]

end Membership

theorem run_ends (arguments : List Text) (files : Files) :
    ((run arguments files).ending = .ok 2 ↔ ∃ cause, Refused arguments files cause) ∧
      ((run arguments files).ending = .ok 2 → (run arguments files).out = [] ∧ (run arguments files).figures = []) ∧
      ∀ o, read arguments = .ok (.run o) → (run arguments files).ending = .ok 0 →
        ∃ limit p sections, o.limit = some limit ∧ o.Loads files p ∧ Printout o limit p sections ∧
          (run arguments files).out = printed sections := by
  refine ⟨⟨refused_of_two, ?_⟩, ?_, ?_⟩
  · rintro ⟨cause, refused⟩
    rw [run_refused refused]
  · intro two
    obtain ⟨cause, refused⟩ := refused_of_two two
    rw [run_refused refused]
    exact ⟨rfl, rfl⟩
  · intro o asked zero
    obtain ⟨t, ends, out, _⟩ := execute_of_zero asked zero
    obtain ⟨limit, p, sections, drawn, figures, limited, loads, told, shown, rfl⟩ := execute_ok ends
    exact ⟨limit, p, sections ++ drawn, limited, loads, told.printout shown, out⟩

def onlyFile (name content : String) : Files := fun path =>
  if path = Text.ofString name then .ok (content.toList.map fun c => c.toNat.toUInt8) else .error .missing

-- One bound, below zero: tableaux do not apply, and no point is feasible.
def sunken : Files :=
  onlyFile "sunken.json" "\x7b\"c\": [1, 1], \"A\": [[1, 0]], \"b\": [-1], \"senses\": [\"<=\"]\x7d"

theorem sunken_ends :
    (run ["sunken.json"] sunken).ending = .ok 2 ∧ (run ["sunken.json"] sunken).out = [] ∧
      (∃ cause, Refused ["sunken.json"] sunken cause) ∧
      ∃ o limit p sections, read ["sunken.json", "--graph"] = .ok (.run o) ∧ o.graph = true ∧
        (run ["sunken.json", "--graph"] sunken).ending = .ok 0 ∧ Printout o limit p sections ∧
        printed sections = endedLines [
          "Tableau method not applicable: constraint 1 has negative right-hand side -1; the origin must be feasible",
          "\n=== Graphical method ===", "No feasible region."] := by
  have two : (run ["sunken.json"] sunken).ending = .ok 2 := (Outcome.to_option_some_iff _ _).mp (by decide +kernel)
  have zero : (run ["sunken.json", "--graph"] sunken).ending = .ok 0 :=
    (Outcome.to_option_some_iff _ _).mp (by decide +kernel)
  have asked : read ["sunken.json", "--graph"] =
      .ok (.run { path := some (Text.ofString "sunken.json"), graph := true }) := by cbv
  obtain ⟨refused, silent, _⟩ := run_ends ["sunken.json"] sunken
  obtain ⟨_, _, through⟩ := run_ends ["sunken.json", "--graph"] sunken
  obtain ⟨limit, p, sections, _, _, printout, out⟩ := through _ asked zero
  refine ⟨two, (silent two).1, refused.mp two, _, limit, p, sections, asked, rfl, zero, printout, ?_⟩
  rw [← out]
  decide +kernel

end CommandLine

end LinProg
