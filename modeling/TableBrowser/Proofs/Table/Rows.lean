import Mathlib.Data.List.GetD
import TableBrowser.Table.Basic
/-!
# Rows and columns of tables

The rows of a table are as many as it says and as long as it is wide, and its
columns are found in them again.
-/

namespace TableBrowser.Table

theorem length_rowsOf (count : Nat) (columns : List (List Datum)) :
    (rowsOf count columns).length = count := by
  induction count generalizing columns with
  | zero => rfl
  | succ count induction => rw [rowsOf, List.length_cons, induction]

theorem length_of_mem_rowsOf {count : Nat} {columns : List (List Datum)} {row : List Datum}
    (member : row ∈ rowsOf count columns) : row.length = columns.length := by
  induction count generalizing columns with
  | zero => cases member
  | succ count induction =>
      rcases List.mem_cons.mp member with rfl | later
      · exact List.length_map _
      · rw [induction later, List.length_map]

theorem length_tails {count : Nat} {columns : List (List Datum)}
    (aligned : ∀ column ∈ columns, column.length = count + 1) :
    ∀ column ∈ columns.map List.tail, column.length = count := by
  intro tail member
  rcases List.mem_map.mp member with ⟨column, isColumn, rfl⟩
  rw [List.length_tail, aligned column isColumn, Nat.add_sub_cancel]

/-- The columns of changed rows are the columns with their cells changed. -/
theorem columnOfRows_rowsOf {count : Nat} {columns : List (List Datum)}
    (change : Datum → Datum) (aligned : ∀ column ∈ columns, column.length = count) {index : Nat}
    (inBounds : index < columns.length) :
    columnOfRows ((rowsOf count columns).map (·.map change)) index = columns[index].map change := by
  induction count generalizing columns with
  | zero =>
      have isEmpty := aligned columns[index] (List.getElem_mem inBounds)
      rw [List.length_eq_zero_iff.mp isEmpty]
      rfl
  | succ count induction =>
      have notEmpty := aligned columns[index] (List.getElem_mem inBounds)
      rcases List.exists_cons_of_length_eq_add_one notEmpty with ⟨first, others, isColumn⟩
      have later := induction (length_tails aligned) (by rwa [List.length_map])
      rw [List.getElem_map, isColumn, List.tail_cons] at later
      have firstCell : ((columns.map (·.headD .null)).map change).getD index .null =
          change first := by
        rw [List.getD_eq_getElem _ _ (by simpa using inBounds), List.getElem_map, List.getElem_map,
          isColumn]
        rfl
      rw [rowsOf, List.map_cons, columnOfRows, List.map_cons, firstCell, isColumn, List.map_cons]
      exact congrArg (change first :: ·) later

variable {table : Table}

theorem length_rows : table.rows.length = table.rowCount := length_rowsOf _ _

theorem length_of_mem_rows {row : List Datum} (member : row ∈ table.rows) :
    row.length = table.header.length := by
  rw [length_of_mem_rowsOf member, header, List.length_map, List.length_map]

theorem length_values :
    ∀ values ∈ table.columns.map (·.values), values.length = table.rowCount := by
  intro values member
  rcases List.mem_map.mp member with ⟨column, isColumn, rfl⟩
  exact table.aligned column isColumn

theorem columnOfRows_rows (change : Datum → Datum) {index : Nat}
    (inBounds : index < table.columns.length) :
    columnOfRows (table.rows.map (·.map change)) index =
      table.columns[index].values.map change := by
  rw [rows, columnOfRows_rowsOf change length_values (by rwa [List.length_map]), List.getElem_map]

/-- The cells of rows are the cells of columns. -/
theorem mem_values_of_mem_rowsOf {count : Nat} {columns : List (List Datum)}
    (aligned : ∀ column ∈ columns, column.length = count) {row : List Datum}
    (isRow : row ∈ rowsOf count columns) {cell : Datum} (isCell : cell ∈ row) :
    ∃ column ∈ columns, cell ∈ column := by
  induction count generalizing columns with
  | zero => cases isRow
  | succ count induction =>
      rcases List.mem_cons.mp isRow with rfl | later
      · rcases List.mem_map.mp isCell with ⟨column, isColumn, rfl⟩
        rcases List.exists_cons_of_length_eq_add_one (aligned column isColumn) with
          ⟨first, others, rfl⟩
        exact ⟨_, isColumn, List.mem_cons_self⟩
      · rcases induction (length_tails aligned) later with ⟨tail, isTail, isCell⟩
        rcases List.mem_map.mp isTail with ⟨column, isColumn, rfl⟩
        exact ⟨column, isColumn, List.mem_of_mem_tail isCell⟩

theorem mem_values_of_mem_rows {row : List Datum} (isRow : row ∈ table.rows) {cell : Datum}
    (isCell : cell ∈ row) : ∃ column ∈ table.columns, cell ∈ column.values := by
  rcases mem_values_of_mem_rowsOf length_values isRow isCell with ⟨values, isValues, isCell⟩
  rcases List.mem_map.mp isValues with ⟨column, isColumn, rfl⟩
  exact ⟨column, isColumn, isCell⟩

theorem rowsOf_eq_map (count : Nat) (columns : List (List Datum)) :
    rowsOf count columns = (List.range count).map fun row => columns.map (·.getD row .null) := by
  induction count generalizing columns with
  | zero => rfl
  | succ count induction =>
      rw [rowsOf, induction, List.range_succ_eq_map, List.map_cons, List.map_map]
      congr 1
      · exact List.map_congr_left fun column _ => by cases column <;> rfl
      · refine List.map_congr_left fun row _ => ?_
        rw [List.map_map]
        exact List.map_congr_left fun column _ => by cases column <;> rfl

theorem ofColumns_columns : ofColumns table.columns = .ok table := by
  rw [ofColumns, dif_pos table.aligned, dif_pos table.distinct]

theorem columns_of_ofColumns {columns : List Column} (made : ofColumns columns = .ok table) :
    table.columns = columns := by
  unfold ofColumns at made
  split at made
  · split at made
    · cases made
      rfl
    · cases made
  · cases made

/-! ## Picked rows

Rows of a table are picked by their places. Main statements: the rows of the result
are those that were picked, and to pick among them is to pick from the table.
-/

theorem map_getD_range (places : List Nat) :
    (List.range places.length).map (fun index => places.getD index 0) = places :=
  List.ext_getElem (by simp) fun index _ inBounds => by simp [inBounds]

/-- The cells of a row; there are none when there is no such row. -/
def rowAt (table : Table) (place : Nat) : List Datum := table.rows.getD place []

theorem rowAt_eq_map {place : Nat} (inside : place < table.rowCount) :
    table.rowAt place = table.columns.map fun column => column.values[place]?.getD .null := by
  simp [rowAt, rows, rowsOf_eq_map, inside, Function.comp_def]

theorem zipIdx_rows (table : Table) : table.rows.zipIdx =
    (List.range table.rowCount).map fun place => (table.rowAt place, place) := by
  refine List.ext_getElem (by simp [length_rows]) fun place inBounds _ => ?_
  have inside : place < table.rows.length := by simpa using inBounds
  simp [rowAt, inside]

theorem eq_of_columns {left right : Table} (same : left.columns = right.columns) : left = right := by
  cases left
  cases right
  cases same
  rfl

variable {table : Table} {places : List Nat}

@[simp] theorem header_pick (table : Table) (places : List Nat) :
    (table.pick places).header = table.header := by
  simp [header, pick]

theorem column?_pick {name : String} {column : Column} (found : table.column? name = some column) :
    (table.pick places).column? name = some { column with
      values := places.map fun place => column.values[place]?.getD .null } := by
  unfold column? at found ⊢
  simp only [pick, List.find?_map, Function.comp_def, found]
  simp

theorem values_pick (table : Table) (places : List Nat) :
    (table.pick places).columns.map (·.values) =
      table.columns.map fun column => places.map fun place => column.values[place]?.getD .null := by
  simp [pick]

section Within

variable (within : ∀ place ∈ places, place < table.rowCount)

include within

/-- A table without columns has no rows that could be picked. -/
theorem rowCount_pick : (table.pick places).rowCount = places.length := by
  cases isColumns : table.columns with
  | cons first others => simp [rowCount, rowCountOf, pick, isColumns]
  | nil =>
      have none : places = [] := by
        refine List.eq_nil_iff_forall_not_mem.mpr fun place member => ?_
        have inside := within place member
        simp [rowCount, rowCountOf, isColumns] at inside
      simp [none, rowCount, rowCountOf, pick, isColumns]

theorem rows_pick : (table.pick places).rows = places.map table.rowAt := by
  rw [List.map_congr_left fun place member => rowAt_eq_map (within place member), rows,
    rowCount_pick within, values_pick, rowsOf_eq_map]
  refine List.ext_getElem (by simp) fun index inBounds _ => ?_
  have inside : index < places.length := by simpa using inBounds
  simp [inside, Function.comp_def]

theorem rowAt_pick {index : Nat} (inside : index < places.length) :
    (table.pick places).rowAt index = table.rowAt places[index] := by
  rw [rowAt, rows_pick within, List.getD_eq_getElem _ _ (by simpa using inside),
    List.getElem_map]

omit within

/-- Places among picked rows are places of the table. -/
theorem pick_pick {later : List Nat} (within : ∀ index ∈ later, index < places.length) :
    (table.pick places).pick later = table.pick (later.map fun index => places.getD index 0) := by
  apply eq_of_columns
  simp only [pick, List.map_map]
  refine List.map_congr_left fun column _ => ?_
  simp only [Function.comp_apply, Column.mk.injEq, true_and]
  refine List.map_congr_left fun index member => ?_
  simp [within index member]

end Within

end TableBrowser.Table
