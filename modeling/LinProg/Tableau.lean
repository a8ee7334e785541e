import LinProg.StandardForm
import LinProg.Label

set_option autoImplicit false

namespace LinProg

structure Row (K : Type) where
  coefficients : List K
  rhs : K

namespace Row

variable {K : Type}

variable [Scalar K]

def ofEntries (entries : List K) : Row K := ⟨entries.dropLast, entries.getLastD 0⟩

def entry (r : Row K) (j : Nat) : K := r.coefficients.getD j r.rhs

def entries (r : Row K) : List K := r.coefficients ++ [r.rhs]

def width (r : Row K) : Nat := r.coefficients.length + 1

def divide (r : Row K) (x : K) : Row K := ⟨r.coefficients.map (· / x), r.rhs / x⟩

def eliminate (r pivot : Row K) (j : Nat) : Row K :=
  let factor := r.entry j
  if factor == 0 then r
  else ⟨List.zipWith (fun x y => x - factor * y) r.coefficients pivot.coefficients, r.rhs - factor * pivot.rhs⟩

theorem length_divide (r : Row K) (x : K) : (r.divide x).coefficients.length = r.coefficients.length :=
  List.length_map ..

theorem length_eliminate (r pivot : Row K) (j : Nat)
    (same : pivot.coefficients.length = r.coefficients.length) :
    (r.eliminate pivot j).coefficients.length = r.coefficients.length := by
  unfold eliminate
  dsimp only
  split
  · rfl
  · simp [same]

end Row

inductive TableauError where
  | basisSize
  | unknownName
  | nameIndex
  | historyIndex
  | entryIndex (index : Int) (axis size : Nat)
  | alreadyBasic (name : Label)
  | zeroPivot
deriving Inhabited

namespace TableauError

def message : TableauError → Text
  | .basisSize => "one basic variable per constraint row is required"
  | .unknownName => "tuple.index(x): x not in tuple"
  | .nameIndex => "tuple index out of range"
  | .historyIndex => "list index out of range"
  | .entryIndex index axis size => s!"index {index} is out of bounds for axis {axis} with size {size}"
  | .alreadyBasic name => "pivot column " ++ name.plain ++ " is already basic"
  | .zeroPivot => "Zero pivot encountered"

def failureKind : TableauError → FailureKind
  | .basisSize | .unknownName | .alreadyBasic _ => .badValue
  | .nameIndex | .historyIndex | .entryIndex .. => .outOfRange
  | .zeroPivot => .zeroPivot

end TableauError

-- The place in a list of the given size that an index means, counted from the end if negative.
def place? (size : Nat) (index : Int) : Option Nat :=
  if 0 ≤ index then (if index < size then some index.toNat else none)
  else if -size ≤ index then some (index + size).toNat else none

def insertPlace (j : Nat) : List Nat → List Nat
  | [] => [j]
  | k :: rest => if j ≤ k then j :: k :: rest else k :: insertPlace j rest

-- By insertion, which evaluates inside proofs too.
def rising : List Nat → List Nat
  | [] => []
  | j :: rest => insertPlace j (rising rest)

theorem insert_place_perm (j : Nat) (places : List Nat) : (insertPlace j places).Perm (j :: places) := by
  induction places with
  | nil => exact .refl _
  | cons k rest ih =>
      by_cases below : j ≤ k
      · rw [insertPlace, if_pos below]
      · rw [insertPlace, if_neg below]
        exact (ih.cons k).trans (.swap j k rest)

theorem rising_perm (places : List Nat) : (rising places).Perm places := by
  induction places with
  | nil => exact .refl _
  | cons j rest ih => exact (insert_place_perm j _).trans (ih.cons j)

theorem insert_place_sorted (j : Nat) {places : List Nat} (sorted : places.Pairwise (· ≤ ·)) :
    (insertPlace j places).Pairwise (· ≤ ·) := by
  induction places with
  | nil => exact List.pairwise_singleton _ _
  | cons k rest ih =>
      obtain ⟨least, later⟩ := List.pairwise_cons.mp sorted
      by_cases below : j ≤ k
      · rw [insertPlace, if_pos below]
        refine List.pairwise_cons.mpr ⟨?_, sorted⟩
        intro i member
        rcases List.mem_cons.mp member with rfl | member
        · exact below
        · exact Nat.le_trans below (least i member)
      · rw [insertPlace, if_neg below]
        refine List.pairwise_cons.mpr ⟨?_, ih later⟩
        intro i member
        rcases List.mem_cons.mp ((insert_place_perm j rest).mem_iff.mp member) with rfl | member
        · exact Nat.le_of_not_le below
        · exact least i member

theorem rising_sorted (places : List Nat) : (rising places).Pairwise (· ≤ ·) := by
  induction places with
  | nil => exact .nil
  | cons j rest ih => exact insert_place_sorted j ih

namespace Label

def placeIn (name : Label) (columns : List Label) : Except TableauError Nat :=
  if columns.contains name then .ok (columns.idxOf name) else .error .unknownName

def entering (columns nonbasic : List Label) (col : Int) : Except TableauError Label := do
  let some place := place? columns.length col | throw .nameIndex
  let name := columns.getD place default
  if !nonbasic.contains name then throw (.alreadyBasic name)
  return name

end Label

structure Tableau (K : Type) where
  rows : List (Row K)
  objective : Row K
  columns : List Label
  basic : List Label
  nonbasic : List Label
  iteration : Nat := 0
  isOptimal : Bool := false
  isUnbounded : Bool := false
  pivotRow : Option Nat := none
  pivotColumn : Option Nat := none
  entering : Option Label := none
  leaving : Option Label := none
  basic_length : basic.length = rows.length
  rectangular : ∀ r ∈ rows, r.coefficients.length = objective.coefficients.length

namespace Tableau

variable {K : Type} [Scalar K]

def height (t : Tableau K) : Nat := t.rows.length

def numVars (t : Tableau K) : Nat := t.objective.coefficients.length

def width (t : Tableau K) : Nat := t.objective.width

def matrix (t : Tableau K) : List (Row K) := t.rows ++ [t.objective]

def entries (t : Tableau K) : List (List K) := t.matrix.map Row.entries

def rhs (t : Tableau K) : List K := t.matrix.map (·.rhs)

def value (t : Tableau K) : K := t.objective.rhs

def columnOf (t : Tableau K) (name : Label) : Except TableauError Nat := name.placeIn t.columns

def column (t : Tableau K) (index : Int) (axis : Nat) : Except TableauError Nat :=
  match place? t.width index with
  | some j => .ok j
  | none => .error (.entryIndex index axis t.width)

def ratios (t : Tableau K) (col : Int) : Except TableauError (List (Option K)) := do
  if t.rows.isEmpty then return []
  let j ← t.column col 1
  return t.rows.map fun r => if 0 < r.entry j then some (r.rhs / r.entry j) else none

def mostNegative (t : Tableau K) (bound : K) (places : List Nat) : Except TableauError (Option Nat × K) :=
  places.foldlM (fun (best, least) j =>
    if j < t.width then
      if t.objective.entry j < least then .ok (some j, t.objective.entry j) else .ok (best, least)
    else .error (.entryIndex j 0 t.width)) (none, bound)

def tolerance : K := 1e-10

-- The column whose objective entry is most negative, beyond the tolerance, among those not basic; of
-- several the first.
def chooseEntering (t : Tableau K) (tol : K) : Except TableauError (Option Nat) := do
  let places ← t.nonbasic.mapM t.columnOf
  return (← t.mostNegative (-tol) (rising places)).1

def leastRatio (ratios : List (Option K)) : Option Nat :=
  (ratios.zipIdx.foldl (fun best (ratio, i) => match ratio, best with
    | none, best => best
    | some x, none => some (i, x)
    | some x, some (k, least) => if x < least then some (i, x) else some (k, least)) none).map (·.1)

def chooseLeaving (t : Tableau K) (col : Int) : Except TableauError (Option Nat) := do
  return leastRatio (← t.ratios col)

def checkOptimal (t : Tableau K) (tol : K) : Bool := t.objective.coefficients.all fun x => -tol ≤ x

def basicValues (t : Tableau K) : Assignment K := .ofPairs (t.basic.zip (t.rows.map (·.rhs)))

-- The values of the named variables: those of the basic ones among them, zero for all others.
def valuesOf (t : Tableau K) (names : List Label) : Assignment K :=
  t.basicValues.foldl (fun values (name, x) => if values.has name then values.put name x else values)
    (.ofPairs (names.map fun name => (name, 0)))

def reportedValue (t : Tableau K) (maximize : Bool) : K := if maximize then t.value else -t.value

def initial (form : StandardForm K) : Tableau K where
  rows := List.zipWith Row.mk form.rows form.rhs
  objective := ⟨form.costs.map fun c => -c, 0⟩
  columns := form.columns
  basic := form.slacks
  nonbasic := form.decisions
  basic_length := by simp [form.slacks_length, form.rhs_length]
  rectangular := by
    intro r member
    obtain ⟨i, h, rfl⟩ := List.mem_iff_getElem.mp member
    simp [form.rectangular]

structure Names where
  columns : List Label := []
  basic : List Label := []
  nonbasic : List Label := []

def names (t : Tableau K) : Names := ⟨t.columns, t.basic, t.nonbasic⟩

def ofEntries? (entries : List (List K)) (names : Names) : Option (Tableau K) :=
  let matrix := entries.map Row.ofEntries
  match matrix.getLast? with
  | none => none
  | some objective =>
    if sized : names.basic.length = matrix.dropLast.length then
      if even : ∀ r ∈ matrix.dropLast, r.coefficients.length = objective.coefficients.length then some {
        rows := matrix.dropLast
        objective := objective
        columns := names.columns
        basic := names.basic
        nonbasic := names.nonbasic
        basic_length := sized
        rectangular := even }
      else none
    else none

end Tableau

end LinProg
