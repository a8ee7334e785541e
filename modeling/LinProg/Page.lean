import LinProg.Failure

set_option autoImplicit false

namespace LinProg.Page

def template : String := "\x7b
  \"c\": [
    3,
    5
  ],
  \"A\": [
    [
      1,
      0
    ],
    [
      0,
      2
    ],
    [
      3,
      2
    ]
  ],
  \"b\": [
    4,
    12,
    18
  ],
  \"senses\": [
    \"<=\",
    \"<=\",
    \"<=\"
  ],
  \"maximize\": true,
  \"variables\": [
    \"x1\",
    \"x2\"
  ]
\x7d"

def minimizeBox : String := "Minimize (default: Maximize)"

def sensitivityBox : String := "Show sensitivity analysis"

def graphBox : String := "Show graph (2 variables only)"

def solveButton : String := "Solve"

def resetButton : String := "Reset to template"

structure Choices where
  text : Text := template
  minimize : Bool := false
  limit : Int := 50
  sensitivity : Bool := true
  graph : Bool := true
  solve : Bool := true
  reset : Bool := false

inductive Place where
  | main
  | firstColumn
  | secondColumn
deriving DecidableEq

structure Summary where
  status : Status
  value : Option String
  point : List (Label × String)
  pivots : Int

inductive Shown where
  | settings
  | title (text : String)
  | header (text : String)
  | subheader (text : String)
  | code (text : Text)
  | summary (summary : Summary)
  | warning (text : Text)
  | info (text : String)
  | error (text : Text)
  | write (text : Text)
  | table (rows : List (String × Label × List (String × String)))
  | figure (figure : Figure Float)
  | restart

structure Output where
  place : Place
  content : Shown

abbrev Build := ExceptT Failure (StateM (List Output))

def putAt (place : Place) (content : Shown) : Build Unit := modify (· ++ [⟨place, content⟩])

def put (content : Shown) : Build Unit := putAt .main content

def orFail {α : Type} (x : Except Failure α) : Build α := match x with
  | .ok value => return value
  | .error cause => throw cause

def summaryOf (s : Solution Float) : Summary where
  status := s.status
  value := if s.isOptimal then some (Report.number s.value) else none
  point := s.point.map fun (name, x) => (name, Report.number x)
  pivots := s.pivots

def shadowRow (price : Label × Float) (r : RhsRange Float) : String × Label × List (String × String) :=
  ("constraint", price.1, [("shadow price", Report.number price.2), ("RHS range", Report.interval r)])

def costRow (cost : Label × Float) : String × Label × List (String × String) :=
  ("variable", cost.1, [("reduced cost", Report.number cost.2)])

def showSensitivity (s : Solution Float) : Build Unit := do
  let analysis ← orFail (liftM (Sensitivity.ofSolution s))
  put (.subheader "Sensitivity")
  putAt .firstColumn (.table (List.zipWith shadowRow analysis.shadowPrices analysis.rhsRanges))
  putAt .secondColumn (.table (analysis.reducedCosts.map costRow))

def showSolution (choices : Choices) (s : Solution Float) : Build Unit := do
  put (.subheader "Iterations / Tableaux")
  put (.code (← orFail (liftM (Report.steps s.steps))))
  put (.subheader "Result")
  put (.summary (summaryOf s))
  let alternates ← orFail (liftM s.alternateOptima)
  if !alternates.isEmpty then put (.info "Infinite many optimal solutions along an edge (alternate optimal).")
  if choices.sensitivity ∧ s.isOptimal then showSensitivity s

def showTableaux (choices : Choices) (p : Problem Float) : Build Unit := do
  match p.solve (.count choices.limit) with
  | .ok s => showSolution choices s
  | .error cause =>
    if cause.failureKind = .invalidModel then put (.warning ("Tableau method not applicable: " ++ cause.message))
    else throw (.solve cause)

def vertexLine (names : List Label) (best : Plane.Point Float) (value : Float) : Text :=
  match names with
  | [x, y] =>
    "Optimal vertex: " ++ x.plain ++ s!" = {Report.number best.x}, " ++ y.plain
      ++ s!" = {Report.number best.y}, Z = {Report.number value}"
  | _ => []

def showGraph (choices : Choices) (p : Problem Float) : Build Unit := do
  put (.subheader "Graph")
  match if choices.graph then p.graph? else none with
  | none => put (.info "Graph available only for 2 variables.")
  | some g => match g.optimum with
    | none => put (.info "No feasible region to plot.")
    | some (best, value) =>
      put (.write (vertexLine p.names best value))
      match ← orFail (liftM (p.figure g)) with
      | some figure => put (.figure figure)
      | none => pure ()

def showModel (choices : Choices) : Build Unit := do
  match Json.parse choices.text with
  | .error (.flaw cause place) => put (.error ("Invalid JSON: " ++ (Json.ReadError.flaw cause place).message))
  | .error cause => throw (.reading cause)
  | .ok model =>
    match Problem.ofModel model (if choices.minimize then some false else none) with
    | .ok p => do
      showTableaux choices p
      showGraph choices p
    | .error cause =>
      if cause.failureKind = .invalidModel then put (.error ("Invalid LP fields: " ++ cause.message))
      else throw (.model cause)

def build (choices : Choices) : Build Unit := do
  put .settings
  put (.title "Simplex (Tableau) — Solve & Visualize")
  put (.header "Options")
  put (.subheader "Model JSON")
  if choices.reset then put .restart
  else if choices.solve then showModel choices

def shown (choices : Choices) : List Output × Option Failure :=
  match (build choices).run [] with
  | (.ok (), outputs) => (outputs, none)
  | (.error cause, outputs) => (outputs, some cause)

end LinProg.Page
