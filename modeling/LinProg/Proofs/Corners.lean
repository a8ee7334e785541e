import LinProg.Proofs.Lines

set_option autoImplicit false

/-!
Corners of regions that lines bound: points from which no direction stays on all the sides they are on. A region that
holds no whole line has a corner, for a point that can still slide along its sides meets another one.
-/
namespace LinProg.Plane

open Line

def Inside (sides : List (Line Rat)) (p : Point Rat) : Prop := ∀ l ∈ sides, 0 ≤ l.room p

def Stays (sides : List (Line Rat)) (p d : Point Rat) : Prop := ∀ l ∈ sides, l.room p = 0 → l.slope d = 0

def Pinned (sides : List (Line Rat)) (p : Point Rat) : Prop := ∀ d, Stays sides p d → d = ⟨0, 0⟩

def cleared (sides : List (Line Rat)) (p : Point Rat) : Set (Line Rat) := {l | l ∈ sides ∧ l.room p ≠ 0}

theorem cleared_finite (sides : List (Line Rat)) (p : Point Rat) : (cleared sides p).Finite :=
  (List.finite_toSet sides).subset fun _ member => member.1

section Moves

variable {sides : List (Line Rat)} {p d : Point Rat}

theorem exists_leeway (inside : Inside sides p) (stays : Stays sides p d) :
    ∃ t, 0 < t ∧ ∀ l ∈ sides, t * |l.slope d| ≤ l.room p := by
  induction sides with
  | nil => exact ⟨1, one_pos, by simp⟩
  | cons l rest ih =>
      obtain ⟨room, others⟩ := List.forall_mem_cons.mp inside
      obtain ⟨here, behind⟩ := List.forall_mem_cons.mp stays
      obtain ⟨t, positive, enough⟩ := ih others behind
      by_cases flat : l.slope d = 0
      · refine ⟨t, positive, List.forall_mem_cons.mpr ⟨?_, enough⟩⟩
        simpa [flat] using room
      · have steep : 0 < |l.slope d| := abs_pos.mpr flat
        have clear : 0 < l.room p := lt_of_le_of_ne room fun on => flat (here on.symm)
        refine ⟨min t (l.room p / |l.slope d|), lt_min positive (div_pos clear steep), ?_⟩
        refine List.forall_mem_cons.mpr ⟨?_, ?_⟩
        · exact (le_div_iff₀ steep).mp (min_le_right _ _)
        · intro m member
          exact le_trans (mul_le_mul_of_nonneg_right (min_le_left _ _) (abs_nonneg _)) (enough m member)

theorem slides_both_ways (inside : Inside sides p) (stays : Stays sides p d) :
    ∃ t, 0 < t ∧ Inside sides (p.along d t) ∧ Inside sides (p.along d (-t)) := by
  obtain ⟨t, positive, enough⟩ := exists_leeway inside stays
  have bounds (l : Line Rat) (member : l ∈ sides) : |t * l.slope d| ≤ l.room p := by
    rw [abs_mul, abs_of_pos positive]
    exact enough l member
  refine ⟨t, positive, ?_, ?_⟩
  · intro l member
    rw [room_along]
    linarith [(abs_le.mp (bounds l member)).2]
  · intro l member
    rw [room_along]
    linarith [(abs_le.mp (bounds l member)).1]

-- Of the sides ahead there is a first one, and up to it a point stays inside.
theorem exists_first_side (inside : Inside sides p) (ahead : ∃ l ∈ sides, 0 < l.slope d) :
    ∃ l ∈ sides, 0 < l.slope d ∧ Inside sides (p.along d (l.room p / l.slope d)) := by
  have finite : {l | l ∈ sides ∧ 0 < l.slope d}.Finite := (List.finite_toSet sides).subset fun _ member => member.1
  obtain ⟨l, ⟨member, rising⟩, first⟩ := Set.exists_min_image _ (fun l => l.room p / l.slope d) finite ahead
  refine ⟨l, member, rising, ?_⟩
  intro m other
  rw [room_along, sub_nonneg]
  have forward : 0 ≤ l.room p / l.slope d := div_nonneg (inside l member) (le_of_lt rising)
  rcases le_or_gt (m.slope d) 0 with falling | up
  · exact le_trans (mul_nonpos_of_nonneg_of_nonpos forward falling) (inside m other)
  · exact (le_div_iff₀ up).mp (first m ⟨other, up⟩)

theorem slides_to_side (inside : Inside sides p) (stays : Stays sides p d) (ahead : ∃ l ∈ sides, 0 < l.slope d) :
    ∃ q, Inside sides q ∧ cleared sides q ⊂ cleared sides p := by
  obtain ⟨l, member, rising, within⟩ := exists_first_side inside ahead
  refine ⟨_, within, ?_⟩
  have left : l ∈ cleared sides p := ⟨member, fun on => ne_of_gt rising (stays l member on)⟩
  have met : l ∉ cleared sides (p.along d (l.room p / l.slope d)) := by
    intro clear
    refine clear.2 ?_
    rw [room_along, div_mul_cancel₀ _ (ne_of_gt rising), sub_self]
  refine ssubset_of_subset_of_ne ?_ fun same => met (same ▸ left)
  intro m clear
  refine ⟨clear.1, ?_⟩
  intro on
  refine clear.2 ?_
  rw [room_along, on, stays m clear.1 on, mul_zero, sub_zero]

-- A direction that takes from no side on its way takes from one on the way back.
theorem exists_ahead (stays : Stays sides p d) (sloped : ∃ l ∈ sides, l.slope d ≠ 0) :
    ∃ e, Stays sides p e ∧ ∃ l ∈ sides, 0 < l.slope e := by
  obtain ⟨l, member, nonzero⟩ := sloped
  rcases lt_or_gt_of_ne nonzero with falling | rising
  · have turned (m : Line Rat) : m.slope ⟨-d.x, -d.y⟩ = -m.slope d := by
      simp only [Line.slope]
      ring
    refine ⟨⟨-d.x, -d.y⟩, ?_, l, member, ?_⟩
    · intro m other on
      rw [turned, stays m other on, neg_zero]
    · rw [turned]
      exact neg_pos.mpr falling
  · exact ⟨d, stays, l, member, rising⟩

end Moves

-- Each slide meets a side more, so the sides that a point is not on run out.
theorem exists_corner {sides : List (Line Rat)} (lineless : ∀ d, (∀ l ∈ sides, l.slope d = 0) → d = ⟨0, 0⟩)
    {p : Point Rat} (inside : Inside sides p) : ∃ q, Inside sides q ∧ Pinned sides q := by
  induction count : (cleared sides p).ncard using Nat.strong_induction_on generalizing p with
  | _ n ih =>
      by_cases pinned : Pinned sides p
      · exact ⟨p, inside, pinned⟩
      · rw [Pinned] at pinned
        push Not at pinned
        obtain ⟨d, stays, nonzero⟩ := pinned
        have sloped : ∃ l ∈ sides, l.slope d ≠ 0 := by
          by_contra flat
          push Not at flat
          exact nonzero (lineless d flat)
        obtain ⟨e, still, ahead⟩ := exists_ahead stays sloped
        obtain ⟨q, within, fewer⟩ := slides_to_side inside still ahead
        refine ih _ ?_ within rfl
        rw [← count]
        exact Set.ncard_lt_ncard fewer (cleared_finite sides p)

def axes : List (Line Rat) := [⟨-1, 0, 0⟩, ⟨0, -1, 0⟩]

theorem lineless_axes {sides : List (Line Rat)} (d : Point Rat) (flat : ∀ l ∈ axes ++ sides, l.slope d = 0) :
    d = ⟨0, 0⟩ := by
  have wall := flat ⟨-1, 0, 0⟩ (by simp [axes])
  have ground := flat ⟨0, -1, 0⟩ (by simp [axes])
  cases d
  simp_all [Line.slope]

section Candidates

variable {lines : List (Line Rat)} {p : Point Rat}

theorem Pinned.exists_leaving (pinned : Pinned (axes ++ lines) p) (d : Point Rat) (moves : d ≠ ⟨0, 0⟩)
    (wall : p.x = 0 → d.x = 0) (ground : p.y = 0 → d.y = 0) : ∃ l ∈ lines, l.room p = 0 ∧ l.slope d ≠ 0 := by
  by_contra kept
  push Not at kept
  refine moves (pinned d ?_)
  intro l member on
  rcases List.mem_append.mp member with axis | line
  · simp only [axes, List.mem_cons, List.not_mem_nil, or_false] at axis
    rcases axis with rfl | rfl
    · simpa [Line.slope] using wall (by simpa [room] using on)
    · simpa [Line.slope] using ground (by simpa [room] using on)
  · exact kept l line on

theorem Pinned.candidate (pinned : Pinned (axes ++ lines) p) (separated : lines.Pairwise Apart) :
    p ∈ candidates lines := by
  rw [mem_candidates_iff]
  by_cases wall : p.x = 0
  · by_cases ground : p.y = 0
    · left
      cases p
      simp_all
    · right; left
      obtain ⟨l, member, on, sloped⟩ := pinned.exists_leaving ⟨0, 1⟩ (by simp) (by simp) (by simp [ground])
      have tilted : l.b ≠ 0 := by simpa [Line.slope] using sloped
      exact ⟨l, member, .inr (y_intercept_eq tilted wall on)⟩
  · obtain ⟨l, member, on, sloped⟩ := pinned.exists_leaving ⟨1, 0⟩ (by simp) (by simp [wall]) (by simp)
    have tilted : l.a ≠ 0 := by simpa [Line.slope] using sloped
    right
    by_cases ground : p.y = 0
    · exact .inl ⟨l, member, .inl (x_intercept_eq tilted ground on)⟩
    · -- On no axis, the point is on a second line, which the direction of the first one leaves.
      obtain ⟨m, other, onBoth, crossed⟩ :=
        pinned.exists_leaving ⟨-l.b, l.a⟩ (by simp [tilted]) (by simp [wall]) (by simp [ground])
      have crossing : determinant l m ≠ 0 := by
        intro parallel
        refine crossed ?_
        rw [← parallel, Line.slope, determinant]
        ring
      exact .inr (crossing_listed separated p member other crossing on onBoth)

end Candidates

end LinProg.Plane
