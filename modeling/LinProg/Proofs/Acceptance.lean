import LinProg.Proofs.Spelling
import LinProg.Proofs.Start
import LinProg.Proofs.Unreported

set_option autoImplicit false

namespace LinProg

namespace Json

def Texts (value : Json) (texts : List Text) : Prop :=
  value = .array (texts.map .text) ∨ value.isGiven = false ∧ texts = []

theorem Texts.chosen {value : Json} {texts : List Text} (listed : value.Texts texts) (other : Json) :
    (if value.isGiven then value else other) = if texts.isEmpty then other else .array (texts.map .text) := by
  rcases listed with rfl | ⟨absent, rfl⟩
  · cases texts <;> simp [isGiven]
  · simp [absent]

theorem row_array_iff (items : List Json) (xs : List Float) : (Json.array items).Row xs ↔ Numbers items xs := by
  simp [Row, members?]

theorem relates_text_iff (text : Text) (relation : Sense) : (Json.text text).Relates relation ↔ relation.Written text :=
  Sense.of_text_some_iff text relation

theorem at_most_relates (relation : Sense) : (Json.text (Sense.symbol .atMost)).Relates relation ↔ relation = .atMost := by
  have known : Sense.ofText? (Sense.symbol .atMost) = some .atMost := by decide
  rw [Relates, plain, known, Option.some.injEq, eq_comm]

theorem number_unique : Relator.RightUnique fun (value : Json) x => value.number = .ok x :=
  fun _ _ _ first second => Except.ok.inj (first.symm.trans second)

theorem numbers_unique : Relator.RightUnique Numbers := number_unique.forall₂

end Json

theorem forall₂_eq_iff {α β : Type} {R : α → β → Prop} (unique : Relator.RightUnique R) {xs : List α} {ys : List β}
    (paired : List.Forall₂ R xs ys) (zs : List β) : List.Forall₂ R xs zs ↔ zs = ys :=
  ⟨fun other => List.right_unique_forall₂' unique other paired, fun same => same ▸ paired⟩

theorem forall₂_right_iff {α β : Type} {property : β → Prop} (xs : List α) (ys : List β) :
    List.Forall₂ (fun _ y => property y) xs ys ↔ xs.length = ys.length ∧ ∀ y ∈ ys, property y := by
  induction xs generalizing ys with
  | nil => cases ys <;> simp
  | cons x xs ih => cases ys <;> simp [ih, and_left_comm]

namespace Label

theorem text_apart_iff (s t : Text) : ((Label.mk (.text s)) == ⟨.text t⟩) = false ↔ s ≠ t := by
  have keys : ((Label.mk (.text s)) == ⟨.text t⟩) = ([Json.Trait.text s] == [Json.Trait.text t]) := by
    simp [BEq.beq, key, Json.traits]
  simp [keys]

theorem texts_distinct_iff (texts : List Text) : Distinct (texts.map fun s => ⟨.text s⟩) ↔ texts.Nodup := by
  rw [Distinct, List.pairwise_map]
  simp only [text_apart_iff]
  rfl

theorem default_names_distinct (n : Nat) : Distinct (Problem.defaultNames n) := by
  refine List.pairwise_map.mpr (List.Pairwise.imp ?_ List.nodup_range)
  intro i k different
  exact numbered_apart "x" different

end Label

namespace Problem

structure Content where
  costs : List Float
  rows : List (List Float)
  bounds : List Float
  relations : List Text
  names : List Text
  maximize : Option Bool

namespace Content

def size (d : Content) : Nat := if d.names.isEmpty then d.costs.length else d.names.length

def labels (d : Content) : List Label :=
  if d.names.isEmpty then defaultNames d.costs.length else d.names.map fun s => ⟨.text s⟩

structure Stated (d : Content) (fields : List (Text × Json)) : Prop where
  costs : ∃ items, Json.field? "c" fields = some (.array items) ∧ Json.Numbers items d.costs
  rows : ∃ lists, Json.field? "A" fields = some (.array (lists.map .array)) ∧ List.Forall₂ Json.Numbers lists d.rows
  bounds : ∃ items, Json.field? "b" fields = some (.array items) ∧ Json.Numbers items d.bounds
  relations : (optional (.object fields) "senses").Texts d.relations
  names : (optional (.object fields) "variables").Texts d.names
  maximize : Json.field? "maximize" fields = d.maximize.map .bool

structure WellShaped (d : Content) : Prop where
  has_rows : d.rows ≠ []
  bounds : d.rows.length = d.bounds.length
  relations : d.relations ≠ [] → d.relations.length = d.rows.length
  known : ∀ text ∈ d.relations, ∃ s : Sense, s.Written text
  has_names : 1 ≤ d.size
  distinct : d.names.Nodup
  costs : d.costs.length = d.size
  rows : ∀ row ∈ d.rows, row.length = d.size

-- The relations of the rows in order, each at most where none are given.
def Related (d : Content) (senses : List Sense) : Prop :=
  if d.relations.isEmpty then ∀ s ∈ senses, s = .atMost else List.Forall₂ (fun text s => s.Written text) d.relations senses

structure Describes (d : Content) (maximize : Option Bool) (p : Problem Float) : Prop where
  objective : p.objective = d.costs
  rows : p.rows = d.rows
  rhs : p.rhs = d.bounds
  relations : d.Related (p.constraints.map (·.sense))
  names : p.names = d.labels
  maximize : p.maximize = maximize.getD (d.maximize.getD true)

variable {d : Content} {fields : List (Text × Json)}

def senseItems (d : Content) (rows : List Json) : List Json :=
  if d.relations.isEmpty then rows.map fun _ => .text Sense.atMost.symbol else d.relations.map .text

theorem Stated.lists (stated : d.Stated fields) : ∃ costs lists bounds,
    Json.Numbers costs d.costs ∧ List.Forall₂ Json.Numbers lists d.rows ∧ Json.Numbers bounds d.bounds ∧
      Lists (.object fields) costs (lists.map .array) (d.senseItems (lists.map .array)) bounds (d.names.map .text) := by
  obtain ⟨costs, foundCosts, costNumbers⟩ := stated.costs
  obtain ⟨lists, foundRows, rowNumbers⟩ := stated.rows
  obtain ⟨bounds, foundBounds, boundNumbers⟩ := stated.bounds
  refine ⟨costs, lists, bounds, costNumbers, rowNumbers, boundNumbers, ⟨_, required_field foundCosts, rfl⟩,
    ⟨_, required_field foundRows, rfl⟩, ⟨_, required_field foundBounds, rfl⟩, ?_, ?_⟩
  · rw [Problem.relations, stated.relations.chosen, senseItems]
    cases d.relations <;> rfl
  · rw [givenNames, stated.names.chosen]
    cases d.names <;> rfl

theorem senses_read_iff {rows : List Json} {senses : List Sense} (count : rows.length = senses.length) :
    List.Forall₂ Json.Relates (d.senseItems rows) senses ↔ d.Related senses := by
  cases empty : d.relations.isEmpty with
  | true => simp only [senseItems, Related, empty, if_true, List.forall₂_map_left_iff, Json.at_most_relates, forall₂_right_iff,
      count, true_and]
  | false => simp only [senseItems, Related, empty, Bool.false_eq_true, if_false, List.forall₂_map_left_iff,
      Json.relates_text_iff]

theorem Stated.of_model_iff (stated : d.Stated fields) (maximize : Option Bool) (p : Problem Float) :
    ofModel (.object fields) maximize = .ok p ↔ d.Describes maximize p := by
  obtain ⟨costs, lists, bounds, costNumbers, rowNumbers, boundNumbers, listed⟩ := stated.lists
  have objective := forall₂_eq_iff Json.number_unique costNumbers p.objective
  have rhs := forall₂_eq_iff Json.number_unique boundNumbers p.rhs
  have rows := forall₂_eq_iff Json.numbers_unique rowNumbers p.rows
  have direction : direction (.object fields) maximize = maximize.getD (d.maximize.getD true) := by
    rw [Problem.direction, stated.maximize]
    cases d.maximize <;> rfl
  rw [of_model_ok_iff listed, direction]
  constructor
  · rintro ⟨reads, chosen⟩
    have count : (lists.map Json.array).length = (p.constraints.map (·.sense)).length := by
      simpa [Problem.rows] using reads.rows.length_eq
    have same := objective.mp reads.objective
    refine ⟨same, ?_, rhs.mp reads.rhs, (senses_read_iff count).mp reads.senses, ?_, chosen⟩
    · refine rows.mp ?_
      simpa only [List.forall₂_map_left_iff, Json.row_array_iff] using reads.rows
    · simpa [labels, same, Function.comp_def] using reads.names
  · intro describes
    have rowsRead := rows.mpr describes.rows
    have count : (lists.map Json.array).length = (p.constraints.map (·.sense)).length := by
      simpa [Problem.rows] using rowsRead.length_eq
    refine ⟨⟨objective.mpr describes.objective, ?_, (senses_read_iff count).mpr describes.relations,
      rhs.mpr describes.rhs, ?_, ?_⟩, describes.maximize⟩
    · simpa only [List.forall₂_map_left_iff, Json.row_array_iff] using rowsRead
    · simp [Json.Single, Label.isSingle]
    · simpa [labels, describes.objective, Function.comp_def] using describes.names

theorem length_labels (d : Content) : d.labels.length = d.size := by
  rw [labels, size]
  cases d.names.isEmpty <;> simp [defaultNames]

theorem labels_distinct_iff (d : Content) : Label.Distinct d.labels ↔ d.names.Nodup := by
  rw [labels]
  cases empty : d.names.isEmpty with
  | true => simpa [List.isEmpty_iff.mp empty] using Label.default_names_distinct d.costs.length
  | false => exact Label.texts_distinct_iff d.names

theorem Describes.well_shaped {maximize : Option Bool} {p : Problem Float} (describes : d.Describes maximize p) :
    d.WellShaped := by
  have count : d.rows.length = p.constraints.length := by simp [← describes.rows, Problem.rows]
  have size : p.names.length = d.size := describes.names ▸ d.length_labels
  have related (given : d.relations ≠ []) : List.Forall₂ (fun text s => s.Written text) d.relations
      (p.constraints.map (·.sense)) := by
    simpa [Related, given] using describes.relations
  exact {
    has_rows := by
      rw [← describes.rows, Problem.rows]
      simpa using p.has_constraints
    bounds := by simp [← describes.rhs, Problem.rhs, count]
    relations := by
      intro given
      simpa [count] using (related given).length_eq
    known := by
      intro text member
      have paired := related (List.ne_nil_of_mem member)
      obtain ⟨i, inside, rfl⟩ := List.mem_iff_getElem.mp member
      exact ⟨_, paired.get inside (paired.length_eq ▸ inside)⟩
    has_names := size ▸ List.length_pos_iff.mpr p.has_names
    distinct := (labels_distinct_iff d).mp (describes.names ▸ p.distinct)
    costs := by rw [← describes.objective, p.objective_length, size]
    rows := by
      intro row member
      obtain ⟨c, listed, rfl⟩ := List.mem_map.mp (describes.rows ▸ member)
      rw [p.row_length c listed, size] }

theorem exists_constraints (rows : List (List Float)) (senses : List Sense) (bounds : List Float)
    (senseCount : rows.length = senses.length) (boundCount : rows.length = bounds.length) :
    ∃ constraints : List (Constraint Float), constraints.map (·.coefficients) = rows ∧
      constraints.map (·.sense) = senses ∧ constraints.map (·.rhs) = bounds := by
  have even : senses.length = bounds.length := senseCount.symm.trans boundCount
  have lines : rows.length = (senses.zip bounds).length := by simp [← even, senseCount]
  have right : (rows.zip (senses.zip bounds)).map Prod.snd = senses.zip bounds := List.map_snd_zip lines.ge
  refine ⟨(rows.zip (senses.zip bounds)).map fun line => ⟨line.1, line.2.1, line.2.2⟩, ?_, ?_, ?_⟩
  · rw [List.map_map]
    exact List.map_fst_zip lines.le
  · calc _ = ((rows.zip (senses.zip bounds)).map Prod.snd).map Prod.fst := by simp only [List.map_map, Function.comp_def]
      _ = senses := by rw [right, List.map_fst_zip even.le]
  · calc _ = ((rows.zip (senses.zip bounds)).map Prod.snd).map Prod.snd := by simp only [List.map_map, Function.comp_def]
      _ = bounds := by rw [right, List.map_snd_zip even.ge]

theorem WellShaped.exists_senses (shaped : d.WellShaped) : ∃ senses, d.rows.length = senses.length ∧ d.Related senses := by
  cases empty : d.relations.isEmpty with
  | true => exact ⟨List.replicate d.rows.length .atMost, by simp, by simp [Related, empty]⟩
  | false =>
      have : Nonempty Sense := ⟨.atMost⟩
      choose! meaning written using shaped.known
      refine ⟨d.relations.map meaning, ?_, ?_⟩
      · rw [List.length_map, shaped.relations (by simpa using empty)]
      · simpa [Related, empty, List.forall₂_same] using written

theorem WellShaped.exists_describes (shaped : d.WellShaped) (maximize : Option Bool) : ∃ p, d.Describes maximize p := by
  obtain ⟨senses, count, related⟩ := shaped.exists_senses
  obtain ⟨constraints, rows, relations, rhs⟩ := exists_constraints d.rows senses d.bounds count shaped.bounds
  have length : d.labels.length = d.size := d.length_labels
  have filled : constraints ≠ [] := by
    rintro rfl
    exact shaped.has_rows rows.symm
  have fitting : ∀ c ∈ constraints, c.coefficients.length = d.labels.length := by
    intro c member
    rw [length]
    exact shaped.rows _ (rows ▸ List.mem_map_of_mem member)
  exact ⟨{
    objective := d.costs
    constraints := constraints
    names := d.labels
    maximize := maximize.getD (d.maximize.getD true)
    has_names := List.length_pos_iff.mp (length ▸ shaped.has_names)
    has_constraints := filled
    distinct := (labels_distinct_iff d).mpr shaped.distinct
    objective_length := shaped.costs.trans length.symm
    row_length := fitting }, rfl, rows, rhs, relations ▸ related, rfl, rfl⟩

theorem exists_describes_iff (maximize : Option Bool) : (∃ p, d.Describes maximize p) ↔ d.WellShaped :=
  ⟨fun ⟨_, describes⟩ => describes.well_shaped, fun shaped => shaped.exists_describes maximize⟩

theorem Stated.reported (stated : d.Stated fields) (fault : ModelError) : ¬ Escapes (.object fields) fault := by
  obtain ⟨costs, lists, bounds, costNumbers, rowNumbers, boundNumbers, listed⟩ := stated.lists
  intro escapes
  rcases listed.escapes escapes with ⟨line, member, overflows⟩ | ⟨v, member, unread⟩ | ⟨v, member, compound⟩
  · obtain ⟨row, within⟩ := List.of_mem_zip member
    obtain ⟨_, bound⟩ := List.of_mem_zip within
    cases overflows with
    | coefficient found fine large =>
        obtain ⟨items, inside, same⟩ := List.mem_map.mp row
        rw [← same, Json.members?, Option.some.injEq] at found
        obtain ⟨i, place, rfl⟩ := List.mem_iff_getElem.mp inside
        have numbers : Json.Numbers lists[i] _ := rowNumbers.get place (rowNumbers.length_eq ▸ place)
        obtain ⟨x, number⟩ := numbers.numeric _ (found ▸ List.mem_append_right _ List.mem_cons_self)
        cases large.symm.trans number
    | rhs found fine known large =>
        obtain ⟨x, number⟩ := boundNumbers.numeric _ bound
        cases large.symm.trans number
  · exact unread (costNumbers.numeric v member)
  · obtain ⟨text, _, rfl⟩ := List.mem_map.mp member
    exact compound rfl

end Content

theorem accepts_well_shaped {d : Content} {fields : List (Text × Json)} (stated : d.Stated fields) (maximize : Option Bool) :
    ((∃ p, ofModel (.object fields) maximize = .ok p) ↔ d.WellShaped) ∧
    (¬ d.WellShaped → ∃ fault, ofModel (.object fields) maximize = .error fault ∧ fault.failureKind = .invalidModel) ∧
    ∀ p, ofModel (.object fields) maximize = .ok p → d.Describes maximize p := by
  have accepted : (∃ p, ofModel (.object fields) maximize = .ok p) ↔ d.WellShaped := by
    simp only [stated.of_model_iff maximize, Content.exists_describes_iff]
  refine ⟨accepted, ?_, fun p => (stated.of_model_iff maximize p).mp⟩
  intro misshapen
  cases read : ofModel (.object fields) maximize with
  | ok p => exact absurd (accepted.mp ⟨p, read⟩) misshapen
  | error fault =>
      refine ⟨fault, rfl, ?_⟩
      by_contra other
      exact stated.reported fault ((escapes_iff _ maximize fault).mpr ⟨read, other⟩)

-- A least amount of two things together, written with blanks around the sign, and a most by which one exceeds the other.
def leastAmount : Content :=
  ⟨[2, 3], [[1, 1], [1, -1]], [4, 1], [Text.ofString " => ", Text.ofString "≤"], [Text.ofString "y", Text.ofString "z"],
    some false⟩

def leastAmountFields : List (Text × Json) := [
  ("c", .array [.real 2, .real 3]), ("A", .array [.array [.real 1, .real 1], .array [.real 1, .real (-1)]]),
  ("b", .array [.real 4, .real 1]), ("senses", .array [.text (Text.ofString " => "), .text (Text.ofString "≤")]),
  ("variables", .array [.text (Text.ofString "y"), .text (Text.ofString "z")]), ("maximize", .bool false)]

theorem least_amount_accepted : leastAmount.Stated leastAmountFields ∧
    ∃ p, ofModel (.object leastAmountFields) none = .ok p ∧ leastAmount.Describes none p := by
  have stated : leastAmount.Stated leastAmountFields := {
    costs := ⟨[.real 2, .real 3], rfl, .cons rfl (.cons rfl .nil)⟩
    rows := ⟨[[.real 1, .real 1], [.real 1, .real (-1)]], rfl,
      .cons (.cons rfl (.cons rfl .nil)) (.cons (.cons rfl (.cons rfl .nil)) .nil)⟩
    bounds := ⟨[.real 4, .real 1], rfl, .cons rfl (.cons rfl .nil)⟩
    relations := .inl rfl
    names := .inl rfl
    maximize := rfl }
  have least : Sense.Written .atLeast (Text.ofString " => ") := (Sense.of_text_some_iff _ _).mp (by decide)
  have most : Sense.Written .atMost (Text.ofString "≤") := (Sense.of_text_some_iff _ _).mp (by decide)
  have shaped : leastAmount.WellShaped := {
    has_rows := by simp [leastAmount]
    bounds := rfl
    relations := fun _ => rfl
    known := by
      intro text member
      rcases List.mem_pair.mp member with rfl | rfl
      · exact ⟨.atLeast, least⟩
      · exact ⟨.atMost, most⟩
    has_names := by decide
    distinct := by decide
    costs := rfl
    rows := by simp [leastAmount, Content.size] }
  obtain ⟨accepted, _, described⟩ := accepts_well_shaped stated none
  obtain ⟨p, read⟩ := accepted.mpr shaped
  exact ⟨stated, p, read, described p read⟩

end Problem

end LinProg
