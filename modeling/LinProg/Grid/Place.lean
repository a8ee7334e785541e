import LinProg.Grid
import LinProg.Tableau

set_option autoImplicit false

namespace LinProg

inductive PlaceError where
  | unusable
  | unusableList
  | shape (cause : GridError)
  | tooLarge
  | outside (index : Int) (axis size : Nat)
  | flagCount (axis size count : Nat)
  | tooMany (dimensions places : Nat)
  | noEntry
  | manyEntries

namespace PlaceError

def message : PlaceError → String
  | .unusable =>
    "only integers, slices (`:`), ellipsis (`...`), numpy.newaxis (`None`) "
      ++ "and integer or boolean arrays are valid indices"
  | .unusableList => "arrays used as indices must be of integer (or boolean) type"
  | .shape cause => cause.message
  | .tooLarge => "Python int too large to convert to C long"
  | .outside index axis size => s!"index {index} is out of bounds for axis {axis} with size {size}"
  | .flagCount axis size count =>
    s!"boolean index did not match indexed array along axis {axis}; size of axis is {size} "
      ++ s!"but size of corresponding boolean axis is {count}"
  | .tooMany dimensions places =>
    s!"too many indices for array: array is {dimensions}-dimensional, but {places} were indexed"
  | .noEntry =>
    "The truth value of an empty array is ambiguous. Use `array.size > 0` to check that an array is not empty."
  | .manyEntries =>
    "The truth value of an array with more than one element is ambiguous. Use a.any() or a.all()"

def failureKind : PlaceError → FailureKind
  | .unusable | .unusableList | .outside .. | .flagCount .. | .tooMany .. => .outOfRange
  | .shape cause => cause.failureKind
  | .tooLarge => .overflow
  | .noEntry | .manyEntries => .badValue

end PlaceError

namespace Grid

inductive Place where
  | index (i : Int)
  -- A dimension of its own, of one or, if not filled, of none; no dimension of the grid is used.
  | added (filled : Bool)
  | indices (list : List Int) (shape : List Nat)
  -- Members by flags, which use as many dimensions as they have themselves.
  | flags (list : List Bool) (shape : List Nat)

namespace Place

-- Indices are below this bound, and their opposites do not exceed it.
def bound : Int := 9223372036854775808

def isIndex (n : Int) : Bool := -bound ≤ n ∧ n < bound

def ofInt (n : Int) : Except PlaceError Place :=
  if isIndex n then .ok (.index n)
  else if 0 ≤ n ∧ n < 2 * bound then .error .tooLarge
  else .error .unusable

mutual

def leaves : Json → List Json
  | .array items => leavesAll items
  | value => [value]

def leavesAll : List Json → List Json
  | [] => []
  | value :: rest => leaves value ++ leavesAll rest

end

def flag? : Json → Option Bool
  | .bool flag => some flag
  | _ => none

def index? : Json → Option Int
  | .bool flag => some (if flag then 1 else 0)
  | .int n => if isIndex n then some n else none
  | _ => none

def ofList (list : Json) : Except PlaceError Place := do
  let shape ← (shapeOf list).mapError .shape
  let values := leaves list
  match values.mapM flag?, values.mapM index? with
  | some (flag :: rest), _ => return .flags (flag :: rest) shape
  | _, some found => return .indices found shape
  | _, none => throw .unusableList

def ofJson : Json → Except PlaceError Place
  | .int n => ofInt n
  | .null => .ok (.added true)
  | .bool flag => .ok (.added flag)
  | .array items => ofList (.array items)
  | _ => .error .unusable

def uses : Place → Nat
  | .index _ => 1
  | .added _ => 0
  | .indices .. => 1
  | .flags _ shape => shape.length

end Place

def member (grid : Grid) (i : Int) (axis : Nat) : Except PlaceError Grid :=
  match grid with
  | .number _ => .error (.outside i axis 0)
  | .nest grids => match (place? grids.length i).bind (grids[·]?) with
    | some found => .ok found
    | none => .error (.outside i axis grids.length)

def layers (grid : Grid) (axis : Nat) : List Nat → Except PlaceError (List Grid)
  | [] => .ok [grid]
  | count :: rest => match grid with
    | .number _ => .error (.flagCount axis 0 count)
    | .nest grids => do
      if grids.length ≠ count then throw (.flagCount axis grids.length count)
      return (← grids.mapM fun inner => inner.layers (axis + 1) rest).flatten

def pick (grid : Grid) (axis : Nat) : List Place → Except PlaceError (List Float)
  | [] => .ok grid.numbers
  | .index i :: rest => do (← grid.member i axis).pick (axis + 1) rest
  | .added _ :: rest => grid.pick axis rest
  | .indices list _ :: rest => do
    let found ← list.mapM fun i => grid.member i axis
    return (← found.mapM fun inner => inner.pick (axis + 1) rest).flatten
  | .flags list shape :: rest => do
    let found ← grid.layers axis shape
    let chosen := (found.zip list).filterMap fun (inner, flag) => if flag then some inner else none
    return (← chosen.mapM fun inner => inner.pick (axis + shape.length) rest).flatten

-- The numbers at places. Where a dimension of none is added there are none, and indices are not looked at.
def numbersAt (grid : Grid) (places : List Place) : Except PlaceError (List Float) := do
  let used := places.foldl (fun count place => count + place.uses) 0
  if grid.shape.length < used then throw (.tooMany grid.shape.length used)
  if places.any fun | .added filled => !filled | _ => false then return []
  grid.pick 0 places

def entryAt (grid : Grid) (places : List Place) : Except PlaceError Float := do
  match ← grid.numbersAt places with
  | [] => throw .noEntry
  | [x] => return x
  | _ => throw .manyEntries

end Grid

end LinProg
