import LinProg.Solution

set_option autoImplicit false

namespace LinProg

structure RhsRange (K : Type) where
  constraint : Label
  rhs : K
  decrease : Option K
  increase : Option K

namespace RhsRange

variable {K : Type} [Scalar K]

def bound (limit : Option K) : Option K := limit.or Scalar.top?

def lower (r : RhsRange K) : Option K := (bound r.decrease).map fun x => r.rhs - x

def upper (r : RhsRange K) : Option K := (bound r.increase).map fun x => r.rhs + x

end RhsRange

structure Sensitivity (K : Type) where
  shadowPrices : List (Label × K)
  reducedCosts : List (Label × K)
  rhsRanges : List (RhsRange K)

namespace Sensitivity

variable {K : Type} [Scalar K]

def tolerance : K := 1e-10

def tighten (limit : Option K) (x : K) : Option K :=
  match limit with
  | none => if Scalar.isBounded x then some x else none
  | some y => if x < y then some x else some y

def tightenBy (limits : Option K × Option K) (value entry : K) : Option K × Option K :=
  if tolerance < entry then (tighten limits.1 (value / entry), limits.2)
  else if entry < -tolerance then (limits.1, tighten limits.2 (value / -entry))
  else limits

def cost (t : Tableau K) (j : Nat) : Except TableauError K :=
  if j < t.width then .ok (t.objective.entry j) else .error (.entryIndex j 0 t.width)

def slackEntries (t : Tableau K) (m j : Nat) : Except TableauError (List (K × K)) :=
  if j < t.width then .ok ((t.matrix.take m).map fun r => (r.rhs, r.entry j))
  else .error (.entryIndex j 1 t.width)

def range (final : Tableau K) (m column : Nat) (constraint : Label) (rhs : K) :
    Except TableauError (RhsRange K) := do
  let entries ← slackEntries final m column
  if entries.length < m then throw (.entryIndex entries.length 0 entries.length)
  let (decrease, increase) := entries.foldl (fun limits (value, entry) => tightenBy limits value entry) (none, none)
  return { constraint, rhs, decrease, increase }

def constraintName (label : Label) (i : Nat) : Label :=
  if label.isGiven then label else Extended.slackName i

def constraintNames (basic : List Label) : List Label := basic.mapIdx fun i label => constraintName label i

def prices (final : Tableau K) (n : Nat) (names : List Label) (maximize : Bool) :
    Except TableauError (List (Label × K)) :=
  names.zipIdx.mapM fun (name, i) => return (name, (if maximize then 1 else -1) * (← cost final (n + i)))

def costs (final : Tableau K) (nonbasic : List Label) : Except TableauError (List (Label × K)) :=
  nonbasic.zipIdx.mapM fun (name, j) => return (name, ← cost final j)

def between (first final : Tableau K) (maximize : Bool) : Except TableauError (Sensitivity K) := do
  let n := first.nonbasic.length
  let m := first.basic.length
  let names := constraintNames first.basic
  let shadowPrices ← prices final n names maximize
  let reducedCosts ← costs final first.nonbasic
  let rhsRanges ← (names.zip (first.rows.map (·.rhs))).zipIdx.mapM fun ((name, rhs), i) =>
    range final m (n + i) name rhs
  return { shadowPrices, reducedCosts, rhsRanges }

def ofSolution (s : Solution K) : Except TableauError (Sensitivity K) := do
  match s.history.head?, s.history.getLast? with
  | some first, some final => between first final s.maximize
  | _, _ => throw .historyIndex

end Sensitivity

end LinProg
