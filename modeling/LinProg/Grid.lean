import LinProg.StandardForm
import LinProg.Problem.Reader

set_option autoImplicit false

namespace LinProg

inductive GridError where
  | ragged (shape : List Nat)
  | tooDeep
  | number (cause : NumberError)
  | notSized (kind : Json.Kind)
  | notMembers (kind : Json.Kind)
  | unusableName (kind : Json.Kind)
  | reshape (size rows columns : Nat)
  | noDimension
  | noMembers
  | dimensions (first : Nat)
  | clash (names : SlackClash)

def Grid.maxDepth : Nat := 64

namespace GridError

def shapeText : List Nat → String
  | [size] => s!"({size},)"
  | shape => "(" ++ ", ".intercalate (shape.map toString) ++ ")"

def message : GridError → String
  | .ragged shape =>
    "setting an array element with a sequence. The requested array has an inhomogeneous shape after "
      ++ s!"{shape.length} dimensions. The detected shape was {shapeText shape} + inhomogeneous part."
  | .tooDeep =>
    "setting an array element with a sequence. The requested array would exceed the maximum number of "
      ++ s!"dimension of {Grid.maxDepth}."
  | .number cause => cause.message
  | .notSized kind => s!"object of type '{kind.name}' has no len()"
  | .notMembers kind => s!"'{kind.name}' object is not iterable"
  | .unusableName kind => s!"unhashable type: '{kind.name}'"
  | .reshape size rows columns => s!"cannot reshape array of size {size} into shape ({rows},{columns})"
  | .noMembers => "iteration over a 0-d array"
  | .noDimension => "zero-dimensional arrays cannot be concatenated"
  | .dimensions first =>
    "all the input arrays must have same number of dimensions, but the array at index 0 has "
      ++ s!"{first} dimension(s) and the array at index 1 has 1 dimension(s)"
  | .clash names => names.message

def failureKind : GridError → FailureKind
  | .number cause => cause.failureKind
  | .notSized _ | .notMembers _ | .unusableName _ | .noMembers => .badType
  | .clash _ => .invalidModel
  | _ => .badValue

end GridError

inductive Grid where
  | number (x : Float)
  | nest (grids : List Grid)

namespace Grid

-- What is known of the shape on the way through nested lists: the extents of the dimensions met so far,
-- how many of them hold for all entries, whether an entry has settled that, and whether one broke it.
structure Survey where
  extents : List Nat := []
  depth : Nat := maxDepth
  settled : Bool := false
  ragged : Bool := false

namespace Survey

def entry (s : Survey) (level : Nat) : Survey :=
  if !s.settled then { s with depth := level, settled := true }
  else if level < s.depth then { s with depth := level, ragged := true }
  else if s.depth < level then { s with ragged := true }
  else s

def list (s : Survey) (level size : Nat) : Survey × Bool :=
  if s.depth ≤ level then ({ s.entry level with ragged := true }, false)
  else if !s.settled then
    ({ s with
      extents := s.extents.take level ++ [size]
      settled := size = 0
      depth := if size = 0 then level + 1 else s.depth }, true)
  else if s.extents.getD level 0 = size then (s, true)
  else ({ s with depth := level, ragged := true }, false)

def shape (s : Survey) : List Nat := s.extents.take s.depth

end Survey

mutual

def survey (s : Survey) (level : Nat) : Json → Survey
  | .array items =>
    let (next, counts) := s.list level items.length
    if counts then surveyAll next (level + 1) items else next
  | _ => s.entry level

def surveyAll (s : Survey) (level : Nat) : List Json → Survey
  | [] => s
  | value :: rest => surveyAll (survey s level value) level rest

end

mutual

def fill : Json → Except NumberError Grid
  | .array items => (fillAll items).map .nest
  | .null => .ok (.number (Float.ofBits 0x7ff8000000000000))
  | value => value.number.map .number

def fillAll : List Json → Except NumberError (List Grid)
  | [] => .ok []
  | value :: rest => do return (← fill value) :: (← fillAll rest)

end

def shapeOf (value : Json) : Except GridError (List Nat) :=
  let found := survey {} 0 value
  if found.ragged then .error (if found.depth = maxDepth then .tooDeep else .ragged found.shape) else .ok found.shape

def ofJson (value : Json) : Except GridError (Grid × List Nat) := do
  let shape ← shapeOf value
  return (← (fill value).mapError .number, shape)

def members : Grid → Except GridError (List Grid)
  | .number _ => .error .noMembers
  | .nest grids => .ok grids

def shape : Grid → List Nat
  | .number _ => []
  | .nest [] => [0]
  | .nest (first :: rest) => (rest.length + 1) :: first.shape

mutual

def numbers : Grid → List Float
  | .number x => [x]
  | .nest grids => numbersAll grids

def numbersAll : List Grid → List Float
  | [] => []
  | grid :: rest => grid.numbers ++ numbersAll rest

end

def cut (rows columns : Nat) (xs : List Float) : List (List Float) :=
  (List.range rows).map fun i => (xs.drop (i * columns)).take columns

def sizeOf (value : Json) : Except GridError Nat :=
  match value.members? with
  | some items => .ok items.length
  | none => .error (.notSized value.kind)

def namesOf (value : Json) : Except GridError (List Label) :=
  match value.members? with
  | none => .error (.notMembers value.kind)
  | some items => items.mapM fun item => match Label.single? item with
    | some label => .ok label
    | none => .error (.unusableName item.kind)

def standardForm (costs rows rhs : Json) (maximize : Bool) (names : Json) :
    Except GridError (Extended Float × Grid) := do
  let m ← sizeOf rows
  let n ← sizeOf costs
  let (costGrid, costShape) ← ofJson costs
  let (rowGrid, _) ← ofJson rows
  let entries := rowGrid.numbers
  if entries.length ≠ m * n then throw (.reshape entries.length m n)
  match costShape with
  | [] => throw .noDimension
  | [_] => pure ()
  | shape => throw (.dimensions shape.length)
  let labels ← namesOf names
  if Extended.clashes labels m ≠ [] then throw (.clash ⟨Extended.clashes labels m⟩)
  return (.ofParts costGrid.numbers (cut m n entries) maximize labels, (← ofJson rhs).1)

end Grid

end LinProg
