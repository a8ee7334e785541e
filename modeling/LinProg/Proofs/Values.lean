import LinProg.Proofs.Names

set_option autoImplicit false

namespace LinProg.Assignment

variable {K : Type}

def written (names : List Label) (f : Label → K) : Assignment K := names.map fun name => (name, f name)

theorem written_names (names : List Label) (f : Label → K) : (written names f).map (·.1) = names := by
  unfold written
  rw [List.map_map]
  exact List.map_id names

theorem written_congr {names : List Label} {f g : Label → K} (same : ∀ name ∈ names, f name = g name) :
    written names f = written names g := by
  unfold written
  refine List.map_congr_left ?_
  intro name member
  rw [same name member]

theorem put_fresh (name : Label) (x : K) (values : Assignment K) (fresh : ∀ pair ∈ values, (pair.1 == name) = false) :
    put name x values = values ++ [(name, x)] := by
  induction values with
  | nil => rfl
  | cons pair rest ih =>
      have apart := fresh pair List.mem_cons_self
      rw [put, apart, ih fun other member => fresh other (List.mem_cons_of_mem pair member)]
      rfl

theorem of_pairs_distinct (pairs : List (Label × K)) (distinct : Label.Distinct (pairs.map (·.1))) :
    ofPairs pairs = pairs := by
  have grown (seen rest : List (Label × K)) (apart : Label.Distinct ((seen ++ rest).map (·.1))) :
      rest.foldl (fun values pair => put pair.1 pair.2 values) seen = seen ++ rest := by
    induction rest generalizing seen with
    | nil => simp
    | cons pair rest ih =>
        have fresh : ∀ other ∈ seen, (other.1 == pair.1) = false := by
          intro other member
          rw [List.map_append] at apart
          exact (List.pairwise_append.mp apart).2.2 other.1 (List.mem_map_of_mem member) pair.1 (by simp)
        rw [List.foldl_cons, put_fresh _ _ _ fresh, ih (seen ++ [pair]) (by simpa using apart)]
        simp
  exact grown [] pairs distinct

theorem put_written {names : List Label} (distinct : Label.Distinct names) (f : Label → K) (name : Label) (x : K)
    (known : (written names f).has name = true) :
    (written names f).put name x = written names fun other => if other == name then x else f other := by
  induction names with
  | nil => cases known
  | cons first rest ih =>
      obtain ⟨apart, others⟩ := List.pairwise_cons.mp distinct
      change (if first == name then (first, x) :: written rest f else (first, f first) :: put name x (written rest f)) =
        (first, if first == name then x else f first) :: written rest _
      cases here : first == name with
      | true =>
          -- The name is met here and, being met once, nowhere behind.
          have behind : ∀ other ∈ rest, (other == name) = false := by
            intro other member
            rw [← BEq.congr_right here, BEq.comm]
            exact apart other member
          refine congrArg (List.cons _) (written_congr ?_)
          intro other member
          rw [behind other member]
          rfl
      | false =>
          have later : (written rest f).has name = true := by
            simpa [has, written, here] using known
          exact congrArg (List.cons _) (ih others later)

theorem store_written {names : List Label} (distinct : Label.Distinct names) (f : Label → K) (name : Label) (x : K) :
    (if (written names f).has name then (written names f).put name x else written names f) =
      written names fun other => if other == name then x else f other := by
  cases known : (written names f).has name with
  | true => exact put_written distinct f name x known
  | false =>
      refine written_congr ?_
      intro other member
      have apart := List.any_eq_false.mp known (other, f other) (List.mem_map_of_mem member)
      rw [if_neg apart]

theorem get_none {values : Assignment K} {name : Label} (absent : ∀ pair ∈ values, (pair.1 == name) = false) :
    values.get? name = none := by
  unfold get?
  rw [Option.map_eq_none_iff, List.find?_eq_none]
  intro pair member
  change ¬(pair.1 == name) = true
  rw [absent pair member]
  exact Bool.false_ne_true

theorem get_cons (name other : Label) (x : K) (values : Assignment K) :
    get? name ((other, x) :: values) = if other == name then some x else values.get? name := by
  unfold get?
  rw [List.find?_cons]
  dsimp only
  cases other == name <;> rfl

theorem store_all_written {names : List Label} (distinct : Label.Distinct names) (f : Label → K)
    (pairs : List (Label × K)) (once : Label.Distinct (pairs.map (·.1))) :
    pairs.foldl (fun values pair => if values.has pair.1 then values.put pair.1 pair.2 else values) (written names f) =
      written names fun name => (get? name pairs).getD (f name) := by
  induction pairs generalizing f with
  | nil => rfl
  | cons pair rest ih =>
      obtain ⟨apart, others⟩ := List.pairwise_cons.mp once
      rw [List.foldl_cons, store_written distinct f pair.1 pair.2, ih _ others]
      refine written_congr ?_
      intro name _
      rw [get_cons, BEq.comm]
      cases here : pair.1 == name with
      | false => rfl
      | true =>
          have absent : get? name rest = none := by
            refine get_none ?_
            intro other member
            rw [← BEq.congr_right here, BEq.comm]
            exact apart other.1 (List.mem_map_of_mem member)
          rw [absent]
          rfl

theorem get_zip (name : Label) (names : List Label) (xs : List K) (even : names.length = xs.length) :
    get? name (names.zip xs) = (names.findIdx? fun other => other == name).bind fun i => xs[i]? := by
  induction names generalizing xs with
  | nil => rfl
  | cons first rest ih =>
      cases xs with
      | nil => cases even
      | cons x xs =>
          rw [List.zip_cons_cons, get_cons, ih xs (by simpa using even), List.findIdx?_cons]
          cases first == name with
          | true => rfl
          | false => cases rest.findIdx? fun other => other == name <;> rfl

end LinProg.Assignment
