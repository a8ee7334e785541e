import LinProg.Problem

set_option autoImplicit false

namespace LinProg

structure SlackClash where
  names : List String

def SlackClash.message (clash : SlackClash) : String :=
  let names := clash.names.map fun name => Text.quoted (Text.ofString name)
  "variable names clash with slack names: [" ++ ", ".intercalate names ++ "]"

structure Extended (K : Type) where
  costs : List K
  rows : List (List K)
  decisions : List Label
  slacks : List Label
  maximize : Bool

structure StandardForm (K : Type) extends Extended K where
  rhs : List K
  rhs_length : rhs.length = rows.length
  slacks_length : slacks.length = rows.length
  rectangular : ∀ row ∈ rows, row.length = costs.length

namespace Extended

variable {K : Type} [Scalar K]

def columns (form : Extended K) : List Label := form.decisions ++ form.slacks

def slackText (i : Nat) : String := Label.numberedText "s" i

def slackName (i : Nat) : Label := ⟨.text (Text.ofString (slackText i))⟩

def slackNames (m : Nat) : List Label := (List.range m).map slackName

def unitRow (m i : Nat) : List K := (List.range m).map fun j => if i = j then 1 else 0

def clashes (names : List Label) (m : Nat) : List String :=
  (((List.range m).filter fun i => names.contains (slackName i)).map slackText).mergeSort fun a b => decide (a ≤ b)

-- Minimizing is maximizing the opposite costs.
def ofParts (costs : List K) (rows : List (List K)) (maximize : Bool) (names : List Label) : Extended K where
  costs := (if maximize then costs else costs.map fun c => -c) ++ List.replicate rows.length 0
  rows := rows.mapIdx fun i row => row ++ unitRow rows.length i
  decisions := names
  slacks := slackNames rows.length
  maximize := maximize

theorem length_costs_of_parts (costs : List K) (rows : List (List K)) (maximize : Bool) (names : List Label) :
    (ofParts costs rows maximize names).costs.length = costs.length + rows.length := by
  cases maximize <;> simp [ofParts]

theorem length_row_of_parts (costs : List K) (rows : List (List K)) (maximize : Bool) (names : List Label)
    (even : ∀ row ∈ rows, row.length = costs.length) :
    ∀ row ∈ (ofParts costs rows maximize names).rows, row.length = costs.length + rows.length := by
  intro row member
  obtain ⟨i, h, rfl⟩ := List.mem_mapIdx.mp member
  simp [unitRow, even _ (List.getElem_mem h)]

end Extended

namespace StandardForm

variable {K : Type} [Scalar K]

def ofProblem (p : Problem K) : Except SlackClash (StandardForm K) :=
  if Extended.clashes p.names p.rows.length = [] then .ok {
    toExtended := .ofParts p.objective p.rows p.maximize p.names
    rhs := p.rhs
    rhs_length := by simp [Extended.ofParts, Problem.rhs, Problem.rows]
    slacks_length := by simp [Extended.ofParts, Extended.slackNames]
    rectangular := by
      rw [Extended.length_costs_of_parts]
      apply Extended.length_row_of_parts
      intro row member
      obtain ⟨c, inside, rfl⟩ := List.mem_map.mp member
      rw [p.row_length c inside, p.objective_length] }
  else .error ⟨Extended.clashes p.names p.rows.length⟩

end StandardForm

end LinProg
