import LinProg.CommandLine.Options
import LinProg.Failure

set_option autoImplicit false

namespace LinProg.CommandLine

structure FileError where
  code : Nat
  reason : String
deriving DecidableEq

def FileError.missing : FileError := ⟨2, "No such file or directory"⟩

def FileError.directory : FileError := ⟨21, "Is a directory"⟩

def FileError.notDirectory : FileError := ⟨20, "Not a directory"⟩

def FileError.denied : FileError := ⟨13, "Permission denied"⟩

abbrev Files := Text → Except FileError (List UInt8)

inductive Refusal where
  | usage (cause : UsageError)
  | file (path : Text) (cause : FileError)
  | text (cause : Json.ReadError)
  | model (cause : ModelError)
  | problem (cause : SolveError)

def Refusal.message : Refusal → Text
  | .usage cause => cause.message
  | .file path cause => "cannot read " ++ path ++ s!": [Errno {cause.code}] {cause.reason}: {Text.quoted path}"
  | .text cause => "invalid JSON: " ++ cause.message
  | .model cause => "invalid LP: " ++ cause.message
  | .problem cause => "invalid LP: " ++ cause.message

inductive Stop where
  | refusal (cause : Refusal)
  | failure (cause : Failure)

def usage : String := "usage: simplex-tutor [-h] [--sense \x7bmax,min\x7d] [--min] [--max-iter MAX_ITER]
                     [--no-verbose] [--sensitivity] [--graph]
                     json
"

def help : String := usage ++ "
Tableau simplex for <= problems (shows every iteration), with sensitivity
analysis and the graphical method for 2 variables

positional arguments:
  json                 Path to JSON file describing the LP

options:
  -h, --help           show this help message and exit
  --sense \x7bmax,min\x7d    Objective sense (default: use JSON or max)
  --min                Same as --sense min
  --max-iter MAX_ITER  Pivot limit before giving up (default: 50)
  --no-verbose         Hide iteration printouts
  --sensitivity        Print shadow prices and reduced costs
  --graph              Solve graphically and plot (2 variables only)
"

structure Transcript where
  out : Text := []
  figures : List (Figure Float) := []

abbrev Run := ExceptT Stop (StateM Transcript)

-- The output takes any text, lone surrogates too.
def print (text : Text) : Run Unit := modify fun t => { t with out := t.out ++ text }

def printLine (line : Text) : Run Unit := print (line ++ "\n")

def showFigure (figure : Figure Float) : Run Unit := modify fun t => { t with figures := t.figures ++ [figure] }

def refuse {α : Type} (cause : Refusal) : Run α := throw (.refusal cause)

def orFail {α : Type} (x : Except Failure α) : Run α := match x with
  | .ok value => return value
  | .error cause => throw (.failure cause)

def readModel (path : Text) (files : Files) : Run Json := do
  if let some cause := pathError? path then throw (.failure (.path cause))
  match files path with
  | .error cause => refuse (.file path cause)
  | .ok bytes =>
    match Json.parse (← orFail (liftM (Text.ofBytes bytes))) with
    | .ok model => return model
    | .error (.flaw cause place) => refuse (.text (.flaw cause place))
    | .error cause => throw (.failure (.reading cause))

def Options.direction (o : Options) : Option Bool := if o.min then some false else o.maximize

def loadProblem (o : Options) (files : Files) : Run (Problem Float) := do
  let model ← readModel (o.path.getD []) files
  match Problem.ofModel model o.direction with
  | .ok p => return p
  | .error cause => if cause.failureKind = .invalidModel then refuse (.model cause) else throw (.failure (.model cause))

def printSolution (o : Options) (s : Solution Float) : Run Unit := do
  if o.verbose then printLine (← orFail (liftM (Report.steps s.steps)))
  printLine "\n=== Result ==="
  printLine (← orFail (liftM (Report.solution s)))
  if o.sensitivity ∧ s.isOptimal then
    printLine "\n=== Sensitivity ==="
    let analysis ← orFail (liftM (Sensitivity.ofSolution s))
    printLine (← orFail (liftM (Report.sensitivity analysis)))

-- A problem that the tableau method does not take is refused, unless there is a graph to show.
def printTableaux (o : Options) (limit : Int) (p : Problem Float) (graph : Option (Graph Float)) : Run Unit := do
  match p.solve (.count limit) with
  | .ok s => printSolution o s
  | .error cause =>
    if cause.failureKind ≠ .invalidModel then throw (.failure (.solve cause))
    else if graph.isNone then refuse (.problem cause)
    else printLine ("Tableau method not applicable: " ++ cause.message)

def vertex (p : Plane.Point Float) : String := s!"({Report.number p.x}, {Report.number p.y})"

def printGraph (p : Problem Float) (graph : Option (Graph Float)) : Run Unit := do
  printLine "\n=== Graphical method ==="
  match graph with
  | none => printLine "Graph only supports 2 variables."
  | some g => match g.optimum with
    | none => printLine "No feasible region."
    | some (best, value) =>
      printLine s!"Optimal vertex: {vertex best}  Z = {Report.number value}"
      printLine ("Feasible region: " ++ " ".intercalate (g.region.map vertex))
      match ← orFail (liftM (p.figure g)) with
      | some figure => showFigure figure
      | none => pure ()

def execute (o : Options) (files : Files) : Run Unit := do
  let some limit := o.limit | throw (.failure (.solve (.unorderedLimit .array)))
  let p ← loadProblem o files
  let graph := if o.graph then p.graph? else none
  printTableaux o limit p graph
  if o.graph then printGraph p graph

structure Outcome where
  ending : Except Failure Nat
  out : Text := []
  err : Text := []
  figures : List (Figure Float) := []

def refused (cause : Refusal) : Text := usage ++ "simplex-tutor: error: " ++ cause.message ++ "\n"

def run (arguments : List Text) (files : Files) : Outcome :=
  match parse arguments with
  | .error cause => { ending := .ok 2, err := refused (.usage cause) }
  | .ok .help => { ending := .ok 0, out := help }
  | .ok (.run o) =>
    match (execute o files).run {} with
    | (.ok (), t) => { ending := .ok 0, out := t.out, figures := t.figures }
    | (.error (.refusal cause), t) => { ending := .ok 2, out := t.out, err := refused cause, figures := t.figures }
    | (.error (.failure cause), t) => { ending := .error cause, out := t.out, figures := t.figures }

end LinProg.CommandLine
