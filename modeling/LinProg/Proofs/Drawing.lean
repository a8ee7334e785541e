import LinProg.Figure
import LinProg.Proofs.Extent
import LinProg.Proofs.Shown

set_option autoImplicit false

namespace LinProg

open Plane

namespace Canvas

-- What is relied on: samples reach from zero to the limit, and limits above zero are taken.
structure Lawful (canvas : Canvas Rat) : Prop where
  starts : ∀ {maxX}, 0 < maxX → 0 ∈ canvas.abscissas maxX
  ends : ∀ {maxX}, 0 < maxX → maxX ∈ canvas.abscissas maxX
  takes : ∀ {maxX maxY}, 0 < maxX → 0 < maxY → canvas.check maxX maxY = .ok ()

theorem check_axes_rational (maxX maxY : Rat) : checkAxes maxX maxY = .ok () := by
  have finite (x : Rat) : isFinite x = true := rfl
  have ticks (limit : Rat) : hasTicks limit = true := by
    unfold hasTicks
    cases closingTick? limit <;> rfl
  simp [checkAxes, finite, ticks]

theorem of_nat_zero : (Scalar.ofNat 0 : Rat) = 0 := by
  norm_num [Scalar.ofNat]

theorem standard_lawful : (standard : Canvas Rat).Lawful where
  starts _ := by
    apply List.mem_append_left
    exact List.mem_map.mpr ⟨0, by decide, by rw [of_nat_zero, zero_mul]⟩
  ends _ := List.mem_append_right _ (List.mem_singleton_self _)
  takes _ _ := check_axes_rational _ _

end Canvas

namespace Figure

-- Zero, or too large to be taken for it.
def Sharp (a : Rat) : Prop := a = 0 ∨ 1 / 10 ^ 12 < |a|

-- A curve on a line: upright where the line is, else from one side of the figure to the other.
structure Traces (maxX : Rat) (l : Line Rat) (curve : Curve Rat) : Prop where
  on : ∀ z ∈ curve.points, l.a * z.x + l.b * z.y = l.rhs
  upright : l.b = 0 → curve.upright = true ∧ curve.points ≠ [] ∧ ∀ z ∈ curve.points, z.x = l.rhs / l.a
  across : l.b ≠ 0 → curve.upright = false ∧ (∃ z ∈ curve.points, z.x = 0) ∧ ∃ z ∈ curve.points, z.x = maxX

theorem flat_tolerance_rational : (flatTolerance : Rat) = 1 / 10 ^ 12 := by
  norm_num [flatTolerance]

theorem Sharp.flat_iff {a : Rat} (sharp : Sharp a) : Scalar.abs a < flatTolerance ↔ a = 0 := by
  rw [Scalar.abs_rational, flat_tolerance_rational]
  constructor
  · intro small
    exact sharp.resolve_right (not_lt.mpr (le_of_lt small))
  · intro zero
    rw [zero, abs_zero]
    norm_num

theorem Sharp.beyond_iff {a : Rat} (sharp : Sharp a) : flatTolerance < Scalar.abs a ↔ a ≠ 0 := by
  rw [Scalar.abs_rational, flat_tolerance_rational]
  constructor
  · intro large zero
    rw [zero, abs_zero] at large
    norm_num at large
  · exact sharp.resolve_left

section Curves

variable {label uprightLabel : Text} {color : String} {stroke : Stroke} {faint : Bool} {xs : List Rat} {maxX : Rat}
  {l : Line Rat} {drawsUpright : Rat → Bool}

theorem sampled_traces (curve : Curve Rat) (starts : 0 ∈ xs) (ends : maxX ∈ xs) (across : l.b ≠ 0)
    (points : curve.points = sampled xs l) (sideways : curve.upright = false) : Traces maxX l curve := by
  have passes (x : Rat) (listed : x ∈ xs) : ∃ z ∈ curve.points, z.x = x := by
    rw [points]
    exact ⟨_, List.mem_map_of_mem listed, rfl⟩
  refine ⟨?_, fun flat => absurd flat across, fun _ => ⟨sideways, passes 0 starts, passes maxX ends⟩⟩
  intro z member
  rw [points] at member
  obtain ⟨x, _, rfl⟩ := List.mem_map.mp member
  rw [mul_div_cancel₀ _ across]
  ring

theorem upright_traces (curve : Curve Rat) (flat : l.b = 0) (slanted : l.a ≠ 0)
    (points : curve.points = uprightAt (l.rhs / l.a)) (standing : curve.upright = true) : Traces maxX l curve := by
  have place : ∀ z ∈ curve.points, z.x = l.rhs / l.a := by
    rw [points]
    simp [uprightAt]
  refine ⟨?_, fun _ => ⟨standing, by simp [points, uprightAt], place⟩, fun across => absurd flat across⟩
  intro z member
  rw [place z member, flat, zero_mul, add_zero, mul_div_cancel₀ _ slanted]

theorem curve_of_traces (starts : 0 ∈ xs) (ends : maxX ∈ xs) (sharp : Sharp l.b)
    (draws : l.a ≠ 0 → drawsUpright (Scalar.abs l.a) = true) (line : l.a ≠ 0 ∨ l.b ≠ 0) : ∃ curve,
      curveOf? label uprightLabel color stroke faint xs l drawsUpright = some curve ∧ curve.stroke = stroke ∧
      Traces maxX l curve := by
  by_cases flat : l.b = 0
  · have slanted : l.a ≠ 0 := line.resolve_right (not_not.mpr flat)
    rw [curveOf?, if_pos (sharp.flat_iff.mpr flat), if_pos (draws slanted)]
    exact ⟨_, rfl, rfl, upright_traces _ flat slanted rfl rfl⟩
  · rw [curveOf?, if_neg (mt sharp.flat_iff.mp flat)]
    exact ⟨_, rfl, rfl, sampled_traces _ starts ends flat rfl rfl⟩

theorem curve_of_none (flat : l.b = 0) (leaves : drawsUpright (Scalar.abs l.a) = false) :
    curveOf? label uprightLabel color stroke faint xs l drawsUpright = none := by
  have small : Scalar.abs l.b < flatTolerance := (Sharp.flat_iff (.inl flat)).mpr flat
  rw [curveOf?, if_pos small, if_neg (by rw [leaves]; decide)]

end Curves

section Constraints

variable {canvas : Canvas Rat} {names : Label × Label} {maxX : Rat} {i : Nat} {sense : Sense} {l : Line Rat}

theorem constraint_curve_traces (lawful : canvas.Lawful) (wide : 0 < maxX) (first : Sharp l.a) (second : Sharp l.b)
    (line : l.a ≠ 0 ∨ l.b ≠ 0) :
    ∃ curve, constraintCurve? canvas names maxX i sense l = some curve ∧ curve.stroke = .solid ∧ Traces maxX l curve := by
  unfold constraintCurve?
  apply curve_of_traces (lawful.starts wide) (lawful.ends wide) second _ line
  intro slanted
  simp [first.flat_iff, slanted]

theorem constraint_curve_none (level : l.a = 0) (flat : l.b = 0) :
    constraintCurve? canvas names maxX i sense l = none := by
  unfold constraintCurve?
  apply curve_of_none flat
  have small : Scalar.abs l.a < flatTolerance := (Sharp.flat_iff (.inl level)).mpr level
  simp [small]

end Constraints

end Figure

theorem Graph.exists_top (xs : List Rat) :
    ∃ top, 1 ≤ top ∧ (∀ v ∈ xs, v ≤ top) ∧ extent xs = top * (11 / 10) := by
  obtain ⟨top, ⟨_, above⟩, reach⟩ := extent_greatest xs
  have wider : (margin : Rat) = 11 / 10 := by norm_num [margin]
  rw [wider] at reach
  exact ⟨top, above (.inr rfl), fun v member => above (.inl member), reach⟩

theorem Graph.extent_pos (xs : List Rat) : 0 < extent xs := by
  obtain ⟨top, least, _, reach⟩ := exists_top xs
  rw [reach]
  linarith

theorem Graph.le_extent {xs : List Rat} {v : Rat} (member : v ∈ xs) : v ≤ extent xs := by
  obtain ⟨top, least, above, reach⟩ := exists_top xs
  have below : v ≤ top := above v member
  rw [reach]
  linarith

namespace Constraint

def isSlanted (c : Constraint Rat) : Bool := c.coefficients.any fun a => a != 0

variable {c : Constraint Rat}

theorem slanted_iff (planar : c.coefficients.length = 2) : c.isSlanted = true ↔ c.line.a ≠ 0 ∨ c.line.b ≠ 0 := by
  obtain ⟨a, b, row⟩ := List.length_eq_two.mp planar
  simp [isSlanted, line, row]

theorem sharp_line (planar : c.coefficients.length = 2) (sharp : ∀ a ∈ c.coefficients, Figure.Sharp a) :
    Figure.Sharp c.line.a ∧ Figure.Sharp c.line.b := by
  obtain ⟨a, b, row⟩ := List.length_eq_two.mp planar
  simpa [line, row] using sharp

end Constraint

namespace Figure

variable {canvas : Canvas Rat} {maxX c1 c2 : Rat} {q : Point Rat} {curve : Curve Rat}

theorem curves_trace (lawful : canvas.Lawful) (names : Label × Label) (wide : 0 < maxX)
    (constraints : List (Constraint Rat)) (n : Nat)
    (planar : ∀ c ∈ constraints, c.coefficients.length = 2) (sharp : ∀ c ∈ constraints, ∀ a ∈ c.coefficients, Sharp a) :
    List.Forall₂ (fun c curve => curve.stroke = .solid ∧ Traces maxX c.line curve) (constraints.filter (·.isSlanted))
      (((constraints.map fun c => (c.sense, c.line)).zipIdx n).filterMap
        fun ((sense, l), i) => constraintCurve? canvas names maxX i sense l) := by
  induction constraints generalizing n with
  | nil => exact .nil
  | cons c rest ih =>
      have width := planar c List.mem_cons_self
      obtain ⟨first, second⟩ := Constraint.sharp_line width (sharp c List.mem_cons_self)
      have later := ih (n + 1) (fun d member => planar d (List.mem_cons_of_mem c member))
        fun d member => sharp d (List.mem_cons_of_mem c member)
      rw [List.map_cons, List.zipIdx_cons]
      by_cases slanted : c.isSlanted = true
      · have line := (Constraint.slanted_iff width).mp slanted
        obtain ⟨curve, drawn, traces⟩ : ∃ curve, constraintCurve? canvas names maxX n c.sense c.line = some curve ∧
          curve.stroke = .solid ∧ Traces maxX c.line curve := constraint_curve_traces lawful wide first second line
        simp only [List.filter_cons_of_pos slanted, List.filterMap_cons, drawn]
        exact .cons traces later
      · obtain ⟨level, flat⟩ := not_or.mp (mt (Constraint.slanted_iff width).mpr slanted)
        have undrawn : constraintCurve? canvas names maxX n c.sense c.line = none :=
          constraint_curve_none (not_not.mp level) (not_not.mp flat)
        simp only [List.filter_cons_of_neg slanted, List.filterMap_cons, undrawn]
        exact later

theorem equal_objective_traces (lawful : canvas.Lawful) (wide : 0 < maxX) (first : Sharp c1) (second : Sharp c2)
    (value : Rat) (sloped : c1 ≠ 0 ∨ c2 ≠ 0) :
    ∃ curve, equalObjective? canvas maxX c1 c2 value = some curve ∧ curve.stroke = .dashed ∧
      Traces maxX ⟨c1, c2, value⟩ curve := by
  unfold equalObjective?
  apply curve_of_traces (lawful.starts wide) (lawful.ends wide) second _ sloped
  intro slanted
  simp [first.beyond_iff, slanted]

theorem equal_objective_none (value : Rat) : equalObjective? canvas maxX 0 0 value = none := by
  have sharp : Sharp 0 := .inl rfl
  unfold equalObjective?
  apply curve_of_none rfl
  simp [sharp.beyond_iff]

theorem Traces.stands (traces : Traces maxX ⟨c1, c2, c1 * q.x + c2 * q.y⟩ curve) (flat : c2 = 0) (sloped : c1 ≠ 0) :
    ∀ z ∈ curve.points, z.x = q.x := by
  intro z member
  rw [(traces.upright flat).2.2 z member, flat]
  simp [sloped]

-- What is drawn at an optimum: the line of its value, unless the objective is zero everywhere, and a mark.
structure Optimal (maxX c1 c2 : Rat) (q : Point Rat) (top : Rat) (equal : List (Curve Rat)) (mark : Curve Rat) : Prop where
  mark : mark.stroke = .marker ∧ mark.points = [q]
  worth : c1 * q.x + c2 * q.y = top
  level : c1 = 0 ∧ c2 = 0 → equal = []
  sloped : c1 ≠ 0 ∨ c2 ≠ 0 → ∃ curve, equal = [curve] ∧ curve.stroke = .dashed ∧
    Traces maxX ⟨c1, c2, top⟩ curve ∧ (c2 = 0 → ∀ z ∈ curve.points, z.x = q.x)

theorem optimum_drawn (lawful : canvas.Lawful) (wide : 0 < maxX) (q : Point Rat) (first : Sharp c1) (second : Sharp c2) :
    Optimal maxX c1 c2 q (c1 * q.x + c2 * q.y) (equalObjective? canvas maxX c1 c2 (c1 * q.x + c2 * q.y)).toList
      (optimumCurve q) := by
  refine ⟨⟨rfl, rfl⟩, rfl, ?_, ?_⟩
  · intro ⟨level, flat⟩
    rw [level, flat, equal_objective_none]
    rfl
  · intro sloped
    obtain ⟨curve, given, dashed, traces⟩ := equal_objective_traces lawful wide first second (c1 * q.x + c2 * q.y) sloped
    refine ⟨curve, by rw [given]; rfl, dashed, traces, ?_⟩
    intro flat
    exact traces.stands flat (sloped.resolve_right (not_not.mpr flat))

theorem polygon_drawn (canvas : Canvas Rat) (graph : Graph Rat) (names : Label × Label)
    (constraints : List (Sense × Line Rat)) :
    ((draw canvas graph names c1 c2 constraints).polygon ≠ [] ↔ 3 ≤ graph.region.length) ∧
      (3 ≤ graph.region.length → (draw canvas graph names c1 c2 constraints).polygon = graph.region) := by
  by_cases few : graph.region.length < 3
  · simp [draw, few]
  · have enough : 3 ≤ graph.region.length := Nat.le_of_not_lt few
    have some : graph.region ≠ [] := List.ne_nil_of_length_pos (by omega)
    simp [draw, few, enough, some]

end Figure

namespace Problem

variable {p : Problem Rat}

theorem figure_planar {canvas : Canvas Rat} {graph : Graph Rat} (takes : canvas.check graph.maxX graph.maxY = .ok ())
    (planar : p.size = 2) {c1 c2 : Rat} (costs : p.objective = [c1, c2]) :
    ∃ names, p.figureOn canvas graph =
      .ok (some (.draw canvas graph names c1 c2 (p.constraints.map fun c => (c.sense, c.line)))) := by
  obtain ⟨x, y, names⟩ := List.length_eq_two.mp planar
  have lines : (p.constraints.mapM fun c => (Line.ofConstraint c).toOption.map fun l => (c.sense, l)) =
      some (p.constraints.map fun c => (c.sense, c.line)) := by
    apply Outcome.mapM_pure_of
    intro c member
    rw [Constraint.line_ok (row_planar planar member)]
    rfl
  refine ⟨(x, y), ?_⟩
  unfold figureOn
  dsimp only
  rw [names, costs, lines]
  dsimp only
  rw [takes]
  rfl

theorem region_within {c1 c2 : Rat} {z : Point Rat} (shown : z ∈ (p.graphOf c1 c2 p.lines).region) :
    0 ≤ z.x ∧ z.x ≤ (p.graphOf c1 c2 p.lines).maxX ∧ 0 ≤ z.y ∧ z.y ≤ (p.graphOf c1 c2 p.lines).maxY := by
  have corner := corner_of_mem ((mem_region z).mp shown)
  have drawn : z ∈ (p.lines.map Line.intercepts).flatten ++ (p.graphOf c1 c2 p.lines).region :=
    List.mem_append_right _ shown
  exact ⟨corner.x, Graph.le_extent (List.mem_map_of_mem drawn), corner.y, Graph.le_extent (List.mem_map_of_mem drawn)⟩

theorem figure_shows_problem (canvas : Canvas Rat) (lawful : canvas.Lawful) (p : Problem Rat) (planar : p.size = 2)
    (costs : ∀ a ∈ p.objective, Figure.Sharp a)
    (sharp : ∀ c ∈ p.constraints, ∀ a ∈ c.coefficients, Figure.Sharp a) :
    ∃ c1 c2 graph fig lines rest, p.objective = [c1, c2] ∧ p.graph? = some graph ∧ p.figureOn canvas graph = .ok (some fig) ∧
      fig.curves = lines ++ rest ∧
      List.Forall₂ (fun c curve => curve.stroke = .solid ∧ Figure.Traces fig.maxX c.line curve)
        (p.constraints.filter (·.isSlanted)) lines ∧
      (graph.optimum = none → rest = []) ∧
      (∀ q top, graph.optimum = some (q, top) → q ∈ graph.region ∧
        ∃ equal mark, rest = equal ++ [mark] ∧ Figure.Optimal fig.maxX c1 c2 q top equal mark) ∧
      (fig.polygon ≠ [] ↔ 3 ≤ graph.region.length) ∧ (3 ≤ graph.region.length → fig.polygon = graph.region) ∧
      ∀ z ∈ graph.region, 0 ≤ z.x ∧ z.x ≤ fig.maxX ∧ 0 ≤ z.y ∧ z.y ≤ fig.maxY := by
  obtain ⟨c1, c2, objective, found⟩ := graph_planar planar
  have wide : 0 < (p.graphOf c1 c2 p.lines).maxX := Graph.extent_pos _
  have high : 0 < (p.graphOf c1 c2 p.lines).maxY := Graph.extent_pos _
  obtain ⟨names, drawn⟩ := figure_planar (lawful.takes wide high) planar objective
  have traced := Figure.curves_trace lawful names wide p.constraints 0 (fun c member => row_planar planar member) sharp
  obtain ⟨shown, whole⟩ := Figure.polygon_drawn canvas (p.graphOf c1 c2 p.lines) names
    (p.constraints.map fun c => (c.sense, c.line))
  refine ⟨c1, c2, _, _, _, _, objective, found, drawn, rfl, traced, ?_, ?_, shown, whole, fun z => region_within⟩
  · intro none
    rw [none]
  · intro q top chosen
    obtain ⟨listed, worth, _⟩ := optimum_best chosen
    rw [chosen, worth]
    exact ⟨listed, _, _, rfl,
      Figure.optimum_drawn lawful wide q (costs c1 (by simp [objective])) (costs c2 (by simp [objective]))⟩

-- One constraint without a line, one with an upright one, and an objective that takes no account of the second variable.
def alcove : Problem Rat := Problem.planar (2, 0) [(1, 0, 4), (0, 0, 5), (0, 2, 12), (3, 2, 18)] (List.cons_ne_nil _ _)

theorem alcove_shown : (Canvas.standard : Canvas Rat).Lawful ∧ alcove.size = 2 ∧ (∀ a ∈ alcove.objective, Figure.Sharp a) ∧
    (∀ c ∈ alcove.constraints, ∀ a ∈ c.coefficients, Figure.Sharp a) ∧
    ∃ graph fig lines equal mark, alcove.graph? = some graph ∧ alcove.figure graph = .ok (some fig) ∧
      fig.curves = lines ++ [equal, mark] ∧ lines.length = 3 ∧ graph.optimum = some (⟨4, 0⟩, 8) ∧
      (∀ z ∈ equal.points, z.x = 4) ∧ mark.points = [⟨4, 0⟩] ∧ fig.polygon = graph.region ∧ graph.region.length = 5 ∧
      ∀ z ∈ fig.polygon, z.x ≤ fig.maxX ∧ z.y ≤ fig.maxY := by
  have costs : ∀ a ∈ alcove.objective, Figure.Sharp a := by
    norm_num [alcove, planar, Figure.Sharp]
  have sharp : ∀ c ∈ alcove.constraints, ∀ a ∈ c.coefficients, Figure.Sharp a := by
    norm_num [alcove, planar, Figure.Sharp]
  obtain ⟨c1, c2, graph, fig, lines, rest, objective, found, drawn, curves, traced, _, marked, _, whole, within⟩ :=
    figure_shows_problem .standard Canvas.standard_lawful alcove rfl costs sharp
  have ran : alcove.graph?.map (fun g => (g.optimum, g.region.length)) = some (some (⟨4, 0⟩, 8), 5) := by cbv
  rw [found] at ran
  obtain ⟨optimum, size⟩ := Prod.mk.inj (Option.some.inj ran)
  obtain ⟨_, equal, mark, rfl, optimal⟩ := marked _ _ optimum
  obtain ⟨rfl, rfl⟩ : 2 = c1 ∧ 0 = c2 := by simpa [alcove, planar] using objective
  obtain ⟨curve, rfl, _, _, stands⟩ := optimal.sloped (.inl two_ne_zero)
  have region : fig.polygon = graph.region := whole (by omega)
  refine ⟨Canvas.standard_lawful, rfl, costs, sharp, graph, fig, lines, curve, mark, found, drawn, curves, ?_, optimum,
    stands rfl, optimal.mark.2, region, size, ?_⟩
  · rw [← traced.length_eq]
    decide +kernel
  · intro z shown
    rw [region] at shown
    exact ⟨(within z shown).2.1, (within z shown).2.2.2⟩

end Problem

end LinProg
