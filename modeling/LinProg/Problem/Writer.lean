import LinProg.Problem.Reader

set_option autoImplicit false

namespace LinProg

theorem Sense.of_text_symbol (s : Sense) : ofText? s.symbol = some s := by
  cases s <;> decide

namespace Json

def ofNumbers (xs : List Float) : Json := .array (xs.map .real)

end Json

namespace Problem

def toModel (p : Problem Float) : Json := .object [
  ("c", .ofNumbers p.objective),
  ("A", .array (p.rows.map .ofNumbers)),
  ("b", .ofNumbers p.rhs),
  ("senses", .array (p.constraints.map fun c => .text c.sense.symbol)),
  ("maximize", .bool p.maximize),
  ("variables", .array (p.names.map Label.value))]

theorem senses_given (p : Problem Float) : (optional p.toModel "senses").isGiven = true := by
  change (!(p.constraints.map fun c => Json.text c.sense.symbol).isEmpty) = true
  simpa using p.has_constraints

theorem variables_given (p : Problem Float) : (optional p.toModel "variables").isGiven = true := by
  change (!(p.names.map Label.value).isEmpty) = true
  simpa using p.has_names

end Problem

namespace Constraint

variable {K : Type} [Scalar K]

def agrees (c d : Constraint K) : Bool :=
  Scalar.agreeAll c.coefficients d.coefficients && c.sense == d.sense && Scalar.agree c.rhs d.rhs

end Constraint

namespace Problem

variable {K : Type} [Scalar K]

-- Whether two problems are one: undefined numbers at the same place count as equal.
def agrees (p q : Problem K) : Bool :=
  Scalar.agreeAll p.objective q.objective
    && (p.constraints.length == q.constraints.length && (p.constraints.zip q.constraints).all fun (c, d) => c.agrees d)
    && p.names == q.names && p.maximize == q.maximize

end Problem

end LinProg
