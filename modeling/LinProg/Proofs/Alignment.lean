import LinProg.Report.Draft
import LinProg.Proofs.Characters
import LinProg.Proofs.Choice
import LinProg.Proofs.Gridlines

set_option autoImplicit false

namespace LinProg

def Json.Inline : Json → Prop
  | .null => True
  | .text s => s.Inline
  | _ => False

def Label.Inline (name : Label) : Prop := ∃ s, name.value = .text s ∧ s.Inline

theorem Label.Inline.plain {name : Label} (inline : name.Inline) : Text.Inline name.plain := by
  obtain ⟨s, text, whole⟩ := inline
  rw [Label.plain, text]
  exact whole

namespace Report

structure Marks where
  iteration : Int
  row : Option Int
  column : Option Nat
  entering : Option Text
  leaving : Option Text

structure Marks.Fit (marks : Marks) (width : Nat) : Prop where
  column : ∀ j ∈ marks.column, j < width
  entering : ∀ name ∈ marks.entering, name.Inline
  leaving : ∀ name ∈ marks.leaving, name.Inline

end Report

open Report

variable {K : Type}

namespace Tableau

structure Legible (t : Tableau K) : Prop where
  named : t.columns.length = t.numVars
  inline : ∀ name ∈ t.columns ++ t.basic, name.Inline

theorem Legible.columns {t : Tableau K} (legible : t.Legible) : ∀ name ∈ t.columns, name.Inline :=
  fun name member => legible.inline name (List.mem_append_left _ member)

theorem Legible.basic {t : Tableau K} (legible : t.Legible) : ∀ name ∈ t.basic, name.Inline :=
  fun name member => legible.inline name (List.mem_append_right _ member)

theorem Legible.of_row {t : Tableau K} (legible : t.Legible) {i : Nat} (inside : i < t.height) :
    (t.basic.getD i default).Inline := by
  rw [List.getD_eq_getElem _ _ (t.basic_length ▸ inside)]
  exact legible.basic _ (List.getElem_mem _)

structure Marked (t : Tableau K) (marks : Marks) : Prop where
  iteration : (t.iteration : Int) = marks.iteration
  row : t.pivotRow.map Int.ofNat = marks.row
  column : t.pivotColumn = marks.column
  entering : t.entering.map Label.value = marks.entering.map .text
  leaving : t.leaving.map Label.value = marks.leaving.map .text

end Tableau

structure Sheet.Marked (s : Sheet) (marks : Marks) : Prop where
  iteration : s.notes.iteration = .int marks.iteration
  row : s.notes.pivotRow = (marks.row.map Json.int).getD .null
  column : s.notes.pivotColumn = (marks.column.map fun j => Json.int j).getD .null
  entering : s.notes.entering = (marks.entering.map Json.text).getD .null
  leaving : s.notes.leaving = (marks.leaving.map Json.text).getD .null

namespace Report

open Text

variable {t : Tableau K} {marks : Marks}

def headingTexts (t : Tableau K) : List Text :=
  ofString "Z" :: t.columns.map Label.plain ++ ["RHS", "BV", "Ratio"].map ofString

theorem name_cell_eq {name : Label} (inline : name.Inline) : nameCell name = .ok name.plain := by
  obtain ⟨s, text, _⟩ := inline
  rw [nameCell, Label.plain, text]
  rfl

theorem measure_ok {names : List Label} (inline : ∀ name ∈ names, name.Inline) : names.forM measure = .ok () := by
  induction names with
  | nil => rfl
  | cons name rest ih =>
      obtain ⟨⟨s, text, _⟩, others⟩ := List.forall_mem_cons.mp inline
      have first : measure name = .ok () := by rw [measure, text]; rfl
      rw [List.forM_eq_forM, List.forM_cons, first, Outcome.ok_bind]
      exact ih others

theorem headings_eq (legible : t.Legible) : headings t = .ok (headingTexts t) := by
  have named : t.columns.mapM nameCell = .ok (t.columns.map Label.plain) :=
    Outcome.mapM_ok nameCell Label.plain t.columns fun name member =>
      name_cell_eq (legible.columns name member)
  rw [headings, named]
  rfl

variable [Scalar K]

def caption (header : Json) (iteration : Int) : Text :=
  if header.isGiven then header.plain else "Iteration " ++ ofString (toString iteration)

def entryText (t : Tableau K) (marks : Marks) (i j : Nat) : Text :=
  if marks.row = some (i : Int) ∧ marks.column = some j then "[" ++ ofString (number (t.entryAt i j)) ++ "]"
  else number (t.entryAt i j)

def ratioOf (t : Tableau K) (marks : Marks) (i : Nat) : Option K := marks.column.bind fun j => t.ratioAt j i

def rowTexts (t : Tableau K) (marks : Marks) (i : Nat) : List Text :=
  [] :: (List.range t.numVars).map (entryText t marks i) ++
    [ofString (number (t.entryAt i t.numVars)), (t.basic.getD i default).plain, ratioCell (ratioOf t marks i)]

-- The cells of a constraint's row: in brackets just at the pivot, with a ratio just where the column that enters is positive.
structure RowShown (t : Tableau K) (marks : Marks) (i : Nat) (cells : List Text) : Prop where
  entry : ∀ j < t.numVars, cells[j + 1]? = some (entryText t marks i j)
  bracketed : ∀ j < t.numVars, ∀ cell ∈ cells[j + 1]?,
    Symbol.char '[' ∈ cell ↔ marks.row = some (i : Int) ∧ marks.column = some j
  rhs : cells[t.numVars + 1]? = some (ofString (number (t.entryAt i t.numVars)))
  name : ∀ name ∈ t.basic[i]?, cells[t.numVars + 2]? = some name.plain
  ratio : cells[t.numVars + 3]? = some (ratioCell (ratioOf t marks i))
  rated : ∀ cell ∈ cells[t.numVars + 3]?, cell ≠ [] ↔ ∃ j, marks.column = some j ∧ 0 < t.entryAt i j

theorem row_texts_length (i : Nat) : (rowTexts t marks i).length = t.numVars + 4 := by
  simp [rowTexts]

theorem entry_bracketed (i j : Nat) : Symbol.char '[' ∈ entryText t marks i j ↔
    marks.row = some (i : Int) ∧ marks.column = some j := by
  have plain : Symbol.char '[' ∉ ofString (number (t.entryAt i j)) := number_lacks _ (by simp [Decimal.signs])
  have opening : Symbol.char '[' ∈ ofString "[" := by decide
  by_cases pivot : marks.row = some (i : Int) ∧ marks.column = some j
  · simp [entryText, pivot, opening]
  · simp [entryText, pivot, plain]

theorem ratio_present (i : Nat) : ratioCell (ratioOf t marks i) ≠ [] ↔
    ∃ j, marks.column = some j ∧ 0 < t.entryAt i j := by
  cases column : marks.column with
  | none => simp [ratioOf, column, ratioCell]
  | some j =>
      by_cases positive : 0 < t.entryAt i j
      · simp [ratioOf, column, Tableau.ratioAt, positive, ratioCell, number_present]
      · simp [ratioOf, column, Tableau.ratioAt, positive, ratioCell]

theorem row_texts_shown (i : Nat) : RowShown t marks i (rowTexts t marks i) := by
  have entry (j : Nat) (inside : j < t.numVars) : (rowTexts t marks i)[j + 1]? = some (entryText t marks i j) := by
    rw [rowTexts, List.cons_append, List.getElem?_cons_succ, List.getElem?_append_left (by simpa using inside)]
    simp [inside]
  have ratio : (rowTexts t marks i)[t.numVars + 3]? = some (ratioCell (ratioOf t marks i)) := by
    simp [rowTexts]
  refine ⟨entry, ?_, by simp [rowTexts], ?_, ratio, ?_⟩
  · intro j inside cell found
    cases (entry j inside).symm.trans found
    exact entry_bracketed i j
  · intro name found
    have same : t.basic[i]? = some name := found
    simp [rowTexts, same]
  · intro cell found
    cases ratio.symm.trans found
    exact ratio_present i

structure Frames (t : Tableau K) (marks : Marks) (frame : Frame K) : Prop where
  pivot : ∀ i j, frame.isPivot i j = true ↔ marks.row = some (i : Int) ∧ marks.column = some j
  ratios : frame.ratios = (List.range t.height).map (ratioOf t marks)
  notes : frame.notes = pivotNotes marks.entering marks.leaving

variable {frame : Frame K}

theorem row_cells_eq (legible : t.Legible) (frames : Frames t marks frame) {i : Nat} (inside : i < t.height) :
    rowCells frame i (t.rowAt i) (t.basic.getD i default) (ratioOf t marks i) = .ok (rowTexts t marks i) := by
  have entries : (t.rowAt i).coefficients.mapIdx (fun j x => entryCell (frame.isPivot i j) x) =
      (List.range t.numVars).map (entryText t marks i) := by
    refine List.ext_getElem (by simpa [Tableau.numVars] using t.length_row_at i) ?_
    intro j here there
    have within : j < (t.rowAt i).coefficients.length := by simpa using here
    have same : t.entryAt i j = (t.rowAt i).coefficients[j] := List.getD_eq_getElem _ _ within
    simp [entryText, entryCell, frames.pivot, same]
  unfold rowCells
  rw [name_cell_eq (legible.of_row inside), entries, ← Tableau.entry_rhs]
  rfl

def bodyTexts (t : Tableau K) (marks : Marks) : List (List Text) :=
  objectiveCells t :: (List.range t.height).map (rowTexts t marks)

def gridWidth (t : Tableau K) (marks : Marks) : Nat := cellWidth (headingTexts t ++ (bodyTexts t marks).flatten)

def ruler (t : Tableau K) (marks : Marks) : Text :=
  List.replicate ((headingTexts t).length * (gridWidth t marks + 1)) (.char '-')

theorem table_lines_eq (legible : t.Legible) (frames : Frames t marks frame) :
    tableLines t frame = .ok (gridLine (gridWidth t marks) (headingTexts t) :: ruler t marks ::
      (bodyTexts t marks).map (gridLine (gridWidth t marks)) ++ pivotNotes marks.entering marks.leaving) := by
  have rows : (t.rows.zip (t.basic.zip frame.ratios)).zipIdx =
      (List.range t.height).map fun i => ((t.rowAt i, t.basic.getD i default, ratioOf t marks i), i) := by
    have basic := t.basic_length
    refine List.ext_getElem (by simp [frames.ratios, basic, Tableau.height]) ?_
    intro i here there
    have inside : i < t.rows.length := by simpa [Tableau.height] using there
    have within : i < t.basic.length := basic ▸ inside
    simp [frames.ratios, Tableau.rowAt, inside, within]
  unfold tableLines
  rw [measure_ok legible.columns, measure_ok legible.basic, headings_eq legible, frames.notes,
    Outcome.mapM_ok _ (fun place => rowTexts t marks place.2), rows, List.map_map]
  · rfl
  · intro place member
    rw [rows] at member
    obtain ⟨i, listed, rfl⟩ := List.mem_map.mp member
    exact row_cells_eq legible frames (List.mem_range.mp listed)

theorem number_inline (x : K) : (ofString (number x)).Inline := number_lacks x (by simp [Decimal.signs])

omit [Scalar K] in
theorem heading_texts_inline (legible : t.Legible) : ∀ cell ∈ headingTexts t, cell.Inline := by
  intro cell member
  simp only [headingTexts, List.cons_append, List.mem_cons, List.mem_append, List.mem_map, List.not_mem_nil, or_false] at member
  rcases member with rfl | ⟨name, listed, rfl⟩ | ⟨word, rfl | rfl | rfl, rfl⟩
  · decide
  · exact (legible.columns name listed).plain
  · decide
  · decide
  · decide

theorem objective_cells_inline : ∀ cell ∈ objectiveCells t, cell.Inline := by
  intro cell member
  obtain ⟨word, listed, rfl⟩ := List.mem_map.mp member
  simp only [List.cons_append, List.mem_cons, List.mem_append, List.mem_map, List.not_mem_nil, or_false] at listed
  rcases listed with rfl | ⟨x, _, rfl⟩ | rfl | rfl | rfl
  · decide
  · exact number_inline x
  · exact number_inline _
  · decide
  · decide

theorem row_texts_inline (legible : t.Legible) {i : Nat} (inside : i < t.height) :
    ∀ cell ∈ rowTexts t marks i, cell.Inline := by
  intro cell member
  simp only [rowTexts, List.cons_append, List.mem_cons, List.mem_append, List.mem_map, List.not_mem_nil, or_false] at member
  rcases member with rfl | ⟨j, _, rfl⟩ | rfl | rfl | rfl
  · decide
  · by_cases pivot : marks.row = some (i : Int) ∧ marks.column = some j
    · rw [entryText, if_pos pivot]
      exact (Inline.append (by decide) (number_inline _)).append (by decide)
    · rw [entryText, if_neg pivot]
      exact number_inline _
  · exact number_inline _
  · exact (legible.of_row inside).plain
  · cases ratioOf t marks i with
    | none => simp [ratioCell, Inline]
    | some x => exact number_inline x

theorem pivot_notes_inline {width : Nat} (fit : marks.Fit width) :
    ∀ line ∈ pivotNotes marks.entering marks.leaving, line.Inline := by
  have entering := fit.entering
  have leaving := fit.leaving
  intro line member
  cases first : marks.entering with
  | none => simp [first, pivotNotes] at member
  | some name =>
      have enters : Inline ("Entering: " ++ name : Text) := Inline.append (by decide) (entering name first)
      cases second : marks.leaving with
      | none =>
          simp only [first, second, pivotNotes, List.mem_singleton] at member
          rwa [member]
      | some other =>
          simp only [first, second, pivotNotes, List.mem_singleton] at member
          rw [member]
          exact (enters.append (by decide)).append (leaving other second)

structure Printout where
  width : Nat
  title : Text
  header : Text
  dashes : Text
  objective : Text
  rows : List Text
  notes : List Text

def Printout.lines (p : Printout) : List Text := [p.title, p.header, p.dashes, p.objective] ++ p.rows ++ p.notes

structure Printout.Shows (p : Printout) (t : Tableau K) (marks : Marks) : Prop where
  dashes : p.dashes ≠ [] ∧ ∀ s ∈ p.dashes, s = .char '-'
  header : Aligned (t.numVars + 4) p.width (headingTexts t) p.header
  objective : Aligned (t.numVars + 4) p.width (objectiveCells t) p.objective
  height : p.rows.length = t.height
  row : ∀ i, ∀ row ∈ p.rows[i]?, ∃ cells, RowShown t marks i cells ∧ Aligned (t.numVars + 4) p.width cells row
  notes : p.notes.length = if marks.entering.isSome then 1 else 0

def printout (t : Tableau K) (marks : Marks) (title : Text) : Printout where
  width := gridWidth t marks
  title := title
  header := gridLine (gridWidth t marks) (headingTexts t)
  dashes := ruler t marks
  objective := gridLine (gridWidth t marks) (objectiveCells t)
  rows := (List.range t.height).map fun i => gridLine (gridWidth t marks) (rowTexts t marks i)
  notes := pivotNotes marks.entering marks.leaving

theorem printout_shows (legible : t.Legible) (title : Text) : (printout t marks title).Shows t marks := by
  have heading : (headingTexts t).length = t.numVars + 4 := by simp [headingTexts, legible.named]
  have objective : (objectiveCells t).length = t.numVars + 4 := by simp [objectiveCells, Tableau.numVars]
  have aligned {cells : List Text} (size : cells.length = t.numVars + 4)
      (member : cells = headingTexts t ∨ cells ∈ bodyTexts t marks) :
      Aligned (t.numVars + 4) (gridWidth t marks) cells (gridLine (gridWidth t marks) cells) := by
    rw [← size]
    apply grid_line_aligned
    intro cell listed
    apply cell_width_roomy
    rcases member with rfl | body
    · exact List.mem_append_left _ listed
    · exact List.mem_append_right _ (List.mem_flatten_of_mem body listed)
  have present : ruler t marks ≠ [] := by simp [ruler, heading]
  refine ⟨⟨present, fun s => List.eq_of_mem_replicate⟩, aligned heading (.inl rfl),
    aligned objective (.inr List.mem_cons_self), ?_, ?_, ?_⟩
  · simp [printout]
  · intro i row found
    obtain ⟨inside, rfl⟩ := List.getElem?_eq_some_iff.mp found
    have within : i < t.height := by simpa [printout] using inside
    refine ⟨rowTexts t marks i, row_texts_shown i, ?_⟩
    simp only [printout, List.getElem_map, List.getElem_range]
    apply aligned (row_texts_length i)
    exact .inr (List.mem_cons_of_mem _ (List.mem_map_of_mem (List.mem_range.mpr within)))
  · cases first : marks.entering <;> cases second : marks.leaving <;> simp [printout, first, second, pivotNotes]

theorem printout_inline (legible : t.Legible) (fit : marks.Fit t.numVars) {title : Text} (whole : title.Inline) :
    ∀ line ∈ (printout t marks title).lines, line.Inline := by
  intro line member
  simp only [Printout.lines, printout, List.cons_append, List.nil_append, List.mem_cons, List.mem_append, List.mem_map] at member
  rcases member with rfl | rfl | rfl | rfl | ⟨i, listed, rfl⟩ | note
  · exact whole
  · exact grid_line_inline (heading_texts_inline legible)
  · intro broken
    exact absurd (List.eq_of_mem_replicate broken) (by decide)
  · exact grid_line_inline objective_cells_inline
  · exact grid_line_inline (row_texts_inline legible (List.mem_range.mp listed))
  · exact pivot_notes_inline fit line note

theorem framed_shows (legible : t.Legible) (fit : marks.Fit t.numVars) (frames : Frames t marks frame) {title : Text}
    (headed : frame.title = .text title) (whole : title.Inline) :
    ∃ text, framed t frame = .ok text ∧ text.splitOn (.char '\n') = (printout t marks title).lines := by
  have lines : (printout t marks title).lines = title :: (gridLine (gridWidth t marks) (headingTexts t) :: ruler t marks ::
      (bodyTexts t marks).map (gridLine (gridWidth t marks)) ++ pivotNotes marks.entering marks.leaving) := by
    simp [Printout.lines, printout, bodyTexts]
  refine ⟨joined "\n" (printout t marks title).lines, ?_, ?_⟩
  · rw [framed, table_lines_eq legible frames, Outcome.ok_bind, headed, lines]
    rfl
  · have present : (printout t marks title).lines ≠ [] := by simp [Printout.lines]
    exact List.splitOn_intercalate (Symbol.char '\n') (printout_inline legible fit whole) present

theorem title_eq {header : Json} (inline : header.Inline) (iteration : Int) :
    title header (toString iteration) = .text (caption header iteration) ∧ (caption header iteration).Inline := by
  have numbered : (("Iteration " : Text) ++ ofString (toString iteration)).Inline := by
    apply Inline.append (by decide)
    rw [Inline, mem_of_string_iff]
    exact (Decimal.int_spelled iteration).numeric.lacks (by simp [Decimal.signs])
  rw [title, caption]
  cases given : header.isGiven with
  | false => exact ⟨rfl, numbered⟩
  | true =>
      cases header with
      | text s => exact ⟨rfl, inline⟩
      | null => cases given
      | _ => cases inline

theorem plain_of_text {names : Option Label} {words : Option Text} (same : names.map Label.value = words.map .text) :
    names.map Label.plain = words := by
  cases words with
  | none => simpa using same
  | some word =>
      obtain ⟨name, rfl, text⟩ := Option.map_eq_some_iff.mp same
      rw [Option.map_some, Label.plain, text]
      rfl

theorem ratio_column_eq (marked : t.Marked marks) (fit : marks.Fit t.numVars) :
    ratioColumn t = .ok ((List.range t.height).map (ratioOf t marks)) := by
  have noted := marked.column
  unfold ratioColumn ratioOf
  cases column : marks.column with
  | none => simp [noted.trans column, Tableau.height]
  | some j =>
      rw [noted.trans column]
      dsimp only
      rw [t.ratios_eq j (fit.column j column)]
      rfl

theorem table_shows (legible : t.Legible) (marked : t.Marked marks) (fit : marks.Fit t.numVars) {header : Json}
    (inline : header.Inline) : ∃ text, table t header = .ok text ∧
      text.splitOn (.char '\n') = (printout t marks (caption header marks.iteration)).lines := by
  obtain ⟨headed, whole⟩ := title_eq inline marks.iteration
  unfold table
  rw [ratio_column_eq marked fit, Outcome.ok_bind]
  refine framed_shows legible fit ⟨?_, rfl, ?_⟩ ?_ whole
  · intro i j
    rw [← marked.row, ← marked.column]
    simp
  · show pivotNotes _ _ = _
    rw [plain_of_text marked.entering, plain_of_text marked.leaving]
  · rw [← headed, ← marked.iteration]
    rfl

theorem note_eq (word : Option Text) : note? ((word.map Json.text).getD .null) = word := by
  cases word <;> rfl

theorem equals_noted (place : Option Int) (i : Int) :
    ((place.map Json.int).getD .null).equals (.int i) = true ↔ place = some i := by
  cases place with
  | none => simp [Json.equals, Json.traits]
  | some n =>
      have same : Decimal.Value.ofRat (n : Rat) = Decimal.Value.ofRat (i : Rat) ↔ n = i := by
        constructor
        · intro alike
          have values := congrArg Decimal.Value.rational? alike
          simpa [Decimal.rational_of_rat] using values
        · rintro rfl
          rfl
      simp [Json.equals, Json.traits, same]

theorem equals_column (column : Option Nat) (j : Nat) :
    ((column.map fun j => Json.int j).getD .null).equals (.int j) = true ↔ column = some j := by
  have same := equals_noted (column.map Int.ofNat) j
  cases column with
  | none => simpa using same
  | some k => simpa using same

theorem sheet_ratios_eq (s : Sheet) {j : Nat} (wide : j < s.tableau.numVars) (indexed : Grid.Place.isIndex j) :
    s.ratios (.int j) = .ok ((List.range s.tableau.height).map (s.tableau.ratioAt j)) := by
  have place : Grid.Place.ofJson (.int j) = .ok (.index j) := by
    rw [Grid.Place.ofJson, Grid.Place.ofInt, if_pos indexed]
  unfold Sheet.ratios
  cases empty : s.tableau.rows.isEmpty with
  | true =>
      rw [Tableau.height, List.isEmpty_iff.mp empty]
      rfl
  | false =>
      rw [place]
      exact congrArg (Except.mapError SheetError.tableau) (s.tableau.ratios_eq j wide)

theorem noted_ratios_eq {s : Sheet} (marked : s.Marked marks) (fit : marks.Fit s.tableau.numVars)
    (indexed : ∀ j ∈ marks.column, Grid.Place.isIndex j) :
    notedRatios (.sheet s) = .ok ((List.range s.tableau.height).map (ratioOf s.tableau marks)) := by
  have noted := marked.column
  unfold notedRatios Draft.notes
  dsimp only
  rw [noted]
  unfold ratioOf
  cases column : marks.column with
  | none =>
      simp [Draft.names, Tableau.names, s.tableau.basic_length, Tableau.height]
  | some j =>
      exact sheet_ratios_eq s (fit.column j column) (indexed j column)

theorem draft_shows {s : Sheet} (legible : s.tableau.Legible) (marked : s.Marked marks) (fit : marks.Fit s.tableau.numVars)
    (indexed : ∀ j ∈ marks.column, Grid.Place.isIndex j) {header : Json} (inline : header.Inline) :
    ∃ text, draft (.sheet s) header = .ok text ∧
      text.splitOn (.char '\n') = (printout s.tableau marks (caption header marks.iteration)).lines := by
  obtain ⟨headed, whole⟩ := title_eq inline marks.iteration
  have frames : Frames s.tableau marks {
      title := title header s.notes.iteration.plain
      isPivot := fun i j => s.notes.pivotRow.equals (.int i) && s.notes.pivotColumn.equals (.int j)
      ratios := (List.range s.tableau.height).map (ratioOf s.tableau marks)
      notes := pivotNotes (note? s.notes.entering) (note? s.notes.leaving) } := by
    refine ⟨?_, rfl, ?_⟩
    · intro i j
      rw [Bool.and_eq_true, marked.row, marked.column, equals_noted, equals_column]
    · dsimp only
      rw [marked.entering, marked.leaving, note_eq, note_eq]
  have titled : title header s.notes.iteration.plain = .text (caption header marks.iteration) := by
    rw [← headed, marked.iteration]
    rfl
  obtain ⟨text, done, lines⟩ := framed_shows legible fit frames titled whole
  refine ⟨text, ?_, lines⟩
  unfold draft
  rw [noted_ratios_eq marked fit indexed]
  exact congrArg (Except.mapError Failure.report) done

def Presents (t : Tableau K) (marks : Marks) (title text : Text) : Prop :=
  ∃ p : Printout, text.splitOn (.char '\n') = p.lines ∧ p.title = title ∧ p.Shows t marks

theorem printout_presents (legible : t.Legible) {title text : Text}
    (lines : text.splitOn (.char '\n') = (printout t marks title).lines) : Presents t marks title text :=
  ⟨printout t marks title, lines, rfl, printout_shows legible title⟩

-- Every tableau is printed as a grid, whether it comes from a solve or is written down by hand. In a sheet a column is looked
-- up by an index of 64 bits, which no list that fits into memory goes beyond.
theorem tableau_printed_aligned :
    (∀ (t : Tableau K) (marks : Marks) (header : Json),
      t.Legible → t.Marked marks → marks.Fit t.numVars → header.Inline →
      ∃ text, table t header = .ok text ∧ Presents t marks (caption header marks.iteration) text) ∧
    (∀ (s : Sheet) (marks : Marks) (header : Json),
      s.tableau.Legible → s.Marked marks → marks.Fit s.tableau.numVars → (∀ j ∈ marks.column, Grid.Place.isIndex j) →
      header.Inline →
      ∃ text, draft (.sheet s) header = .ok text ∧ Presents s.tableau marks (caption header marks.iteration) text) := by
  constructor
  · intro t marks header legible marked fit inline
    obtain ⟨text, done, lines⟩ := table_shows legible marked fit inline
    exact ⟨text, done, printout_presents legible lines⟩
  · intro s marks header legible marked fit indexed inline
    obtain ⟨text, done, lines⟩ := draft_shows legible marked fit indexed inline
    exact ⟨text, done, printout_presents legible lines⟩

def ledger : Tableau Rat where
  rows := [⟨[2, 1/3, 1, 0], 8⟩, ⟨[-1, 2, 0, 1], 5/2⟩]
  objective := ⟨[-3, -2, 0, 0], 0⟩
  columns := [⟨.text "x"⟩, ⟨.text "y"⟩, ⟨.text "s1"⟩, ⟨.text "s2"⟩]
  basic := [⟨.text "s1"⟩, ⟨.text "s2"⟩]
  nonbasic := [⟨.text "x"⟩, ⟨.text "y"⟩]
  pivotRow := some 0
  pivotColumn := some 0
  entering := some ⟨.text "x"⟩
  leaving := some ⟨.text "s1"⟩
  basic_length := rfl
  rectangular := by decide

def ledgerSheet : Sheet where
  tableau := {
    rows := [⟨[2, 1, 1, 0], 8⟩, ⟨[-1, 2, 0, 1], 2.5⟩]
    objective := ⟨[-3, -2, 0, 0], 0⟩
    columns := ledger.columns
    basic := ledger.basic
    nonbasic := ledger.nonbasic
    basic_length := rfl
    rectangular := by simp }
  notes := { iteration := .int 4, pivotRow := .int (-1), pivotColumn := .int 1, entering := .text "y" }

theorem ledger_legible : ∀ name ∈ ledger.columns ++ ledger.basic, name.Inline := by
  intro name member
  simp only [ledger, List.cons_append, List.nil_append, List.mem_cons, List.not_mem_nil, or_false] at member
  rcases member with rfl | rfl | rfl | rfl | rfl | rfl <;> exact ⟨_, rfl, by decide⟩

theorem ledger_printed :
    (∃ text, table ledger .null = .ok text ∧
      Presents ledger ⟨0, some 0, some 0, some "x", some "s1"⟩ "Iteration 0" text ∧ text = joined "\n" [
        "Iteration 0",
        "      Z       x       y      s1      s2     RHS      BV   Ratio",
        "----------------------------------------------------------------",
        "      Z      -3      -2       0       0       0       Z        ",
        "            [2]     1/3       1       0       8      s1       4",
        "             -1       2       0       1     5/2      s2        ",
        "Entering: x   Leaving: s1"]) ∧
    (∃ text, draft (.sheet ledgerSheet) (.text "By hand") = .ok text ∧
      Presents ledgerSheet.tableau ⟨4, some (-1), some 1, some "y", none⟩ "By hand" text) := by
  have fits : (Marks.mk 0 (some 0) (some 0) (some "x") (some "s1")).Fit ledger.numVars :=
    ⟨by rintro _ ⟨⟩; decide, by rintro _ ⟨⟩; decide, by rintro _ ⟨⟩; decide⟩
  have fitting : (Marks.mk 4 (some (-1)) (some 1) (some "y") none).Fit ledgerSheet.tableau.numVars :=
    ⟨by rintro _ ⟨⟩; decide, by rintro _ ⟨⟩; decide, by rintro _ ⟨⟩⟩
  have written : ("By hand" : Text).Inline := by decide
  constructor
  · obtain ⟨text, done, shown⟩ := tableau_printed_aligned.1 ledger _ .null ⟨rfl, ledger_legible⟩
      ⟨rfl, rfl, rfl, rfl, rfl⟩ fits trivial
    refine ⟨text, done, shown, ?_⟩
    apply Except.ok.inj
    rw [← done]
    cbv
  · exact (tableau_printed_aligned (K := Rat)).2 ledgerSheet _ _ ⟨rfl, ledger_legible⟩ ⟨rfl, rfl, rfl, rfl, rfl⟩ fitting
      (by rintro _ ⟨⟩; decide) written

end Report

end LinProg
