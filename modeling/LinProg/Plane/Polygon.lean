import LinProg.Plane.Line
import LinProg.Sort.Runs

set_option autoImplicit false

namespace LinProg.Plane

class Angular (K : Type) where
  hasAngle : Point K → Bool
  -- Whether one direction comes before another on the way around from straight left, excluded, through
  -- below, right and above to straight left.
  before : Point K → Point K → Bool

-- Below, right, above and left, in the order of angles.
def quarter (p : Point Rat) : Nat :=
  if p.y < 0 then 0 else if 0 < p.y then 2 else if p.x < 0 then 3 else 1

instance : Angular Rat where
  hasAngle _ := true
  before p q := quarter p < quarter q ∨ (quarter p = quarter q ∧ 0 < p.x * q.y - p.y * q.x)

instance : Angular Float where
  hasAngle p := !(Float.atan2 p.y p.x).isNaN
  before p q := Float.atan2 p.y p.x < Float.atan2 q.y q.x

variable {K : Type} [Scalar K]

def mergeTolerance : K := 1e-6

def near (p q : Point K) : Bool :=
  Scalar.abs (p.x - q.x) < mergeTolerance ∧ Scalar.abs (p.y - q.y) < mergeTolerance

def merge (points : List (Point K)) : List (Point K) :=
  points.foldl (fun kept p => if kept.any (near p) then kept else kept ++ [p]) []

def centroid (points : List (Point K)) : Point K :=
  let count : K := Scalar.ofNat points.length
  ⟨Scalar.sum (points.map (·.x)) / count, Scalar.sum (points.map (·.y)) / count⟩

-- Items by the angles of their directions, those of one angle as they came. Directions without an angle leave
-- no order; the items are then where sorting by runs puts them.
def byAngle {α : Type} [Angular K] (direction : α → Point K) (items : List α) : List α :=
  let before (p q : α) : Bool := Angular.before (direction p) (direction q)
  if items.all fun p => Angular.hasAngle (direction p) then items.mergeSort fun p q => !before q p
  else Sort.byRuns before items

def polygon [Angular K] (points : List (Point K)) : List (Point K) :=
  if points.length < 3 then points
  else
    let center := centroid points
    byAngle (fun p => ⟨p.x - center.x, p.y - center.y⟩) points

end LinProg.Plane
