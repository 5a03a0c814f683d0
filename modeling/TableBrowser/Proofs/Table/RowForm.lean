import TableBrowser.Proofs.Table.Rows
/-!
# Tables from rows

A table of rows has a column for each name of the header. Main statement: its rows
are these rows again, each as long as the header, and every table is made again of its
rows below the names of its columns.
-/

namespace TableBrowser.Table

/-! ## Columns of rows -/

/-- A row cut to a width or padded with nulls to it. -/
def fitted (width : Nat) (row : List Datum) : List Datum :=
  row.take width ++ List.replicate (width - row.length) .null

theorem fitted_eq_map (width : Nat) (row : List Datum) :
    fitted width row = (List.range width).map fun index => row.getD index .null := by
  refine List.ext_getElem (by simp [fitted]; omega) fun index inFitted inRange => ?_
  have inWidth : index < width := by simpa using inRange
  rcases Nat.lt_or_ge index row.length with inside | beyond
  · have shared : index < min width row.length := Nat.lt_min.mpr ⟨inWidth, inside⟩
    simp [fitted, inside, shared]
  · have padded : ¬ index < min width row.length := by omega
    simp [fitted, List.getElem_append, Nat.not_lt.mpr beyond, padded]

/-- The columns that rows have under a header. -/
def columnsOfRows (header : List String) (rows : List (List Datum))
    (types : List (Option ColumnType)) : List Column :=
  header.mapIdx fun index name =>
    { name
      type := ((types[index]?).join).getD (ColumnType.ofData (columnOfRows rows index))
      values := columnOfRows rows index }

variable {header : List String} {rows : List (List Datum)} {types : List (Option ColumnType)}

theorem ofRows_eq : ofRows header rows types = ofColumns (columnsOfRows header rows types) := rfl

theorem names_columnsOfRows : (columnsOfRows header rows types).map (·.name) = header := by
  exact List.ext_getElem (by simp [columnsOfRows]) fun index _ _ => by simp [columnsOfRows]

theorem values_columnsOfRows :
    (columnsOfRows header rows types).map (·.values) =
      (List.range header.length).map (columnOfRows rows) := by
  refine List.ext_getElem (by simp [columnsOfRows]) fun index _ _ => ?_
  simp [columnsOfRows]

theorem length_of_mem_columnsOfRows :
    ∀ column ∈ columnsOfRows header rows types, column.values.length = rows.length := by
  intro column member
  rcases List.mem_mapIdx.mp member with ⟨index, inside, rfl⟩
  simp [columnOfRows]

theorem exists_ofRows (distinct : header.Nodup) :
    ∃ table, ofRows header rows types = .ok table ∧
      table.columns = columnsOfRows header rows types := by
  have aligned : Aligned (columnsOfRows header rows types) :=
    aligned_of_length rows.length length_of_mem_columnsOfRows
  have named : ((columnsOfRows header rows types).map (·.name)).Nodup := by
    rwa [names_columnsOfRows]
  exact ⟨⟨_, aligned, named⟩, by rw [ofRows_eq, ofColumns, dif_pos aligned, dif_pos named], rfl⟩

/-- Where there is a column, its cells count the rows. -/
theorem rows_of_columns {table : Table} (notEmpty : header ≠ [])
    (areColumns : table.columns = columnsOfRows header rows types) :
    table.rows = rows.map (fitted header.length) := by
  have sameCount : table.rowCount = rows.length := by
    rcases List.exists_cons_of_ne_nil notEmpty with ⟨first, others, rfl⟩
    rw [rowCount, areColumns]
    simp [columnsOfRows, rowCountOf, columnOfRows]
  rw [Table.rows, rowsOf_eq_map, sameCount, areColumns, values_columnsOfRows]
  refine List.ext_getElem (by simp) fun place _ inRows => ?_
  have inside : place < rows.length := by simpa using inRows
  simp [fitted_eq_map, columnOfRows, inside]

/-! ## Rows of columns -/

variable {table : Table}

theorem lookup_of_mem {columns : List Column} (distinct : (columns.map (·.name)).Nodup)
    {column : Column} (member : column ∈ columns) :
    (columns.map fun column => (column.name, column.type)).lookup column.name = some column.type := by
  induction columns with
  | nil => cases member
  | cons first columns induction =>
      rcases List.nodup_cons.mp distinct with ⟨isNew, distinct⟩
      rcases List.mem_cons.mp member with rfl | later
      · exact List.lookup_cons_self
      · have other : column.name ≠ first.name :=
          fun same => isNew (List.mem_map.mpr ⟨column, later, same⟩)
        rw [List.map_cons, List.lookup_cons, beq_false_of_ne other]
        exact induction distinct later

theorem lookup_types {index : Nat} (inBounds : index < table.columns.length) :
    table.types.lookup table.columns[index].name = some table.columns[index].type :=
  lookup_of_mem table.distinct (List.getElem_mem inBounds)

theorem columnsOfRows_rows (table : Table) :
    columnsOfRows table.header table.rows (table.header.map fun name => table.types.lookup name) =
      table.columns := by
  refine List.ext_getElem (by simp [columnsOfRows, header]) fun index _ inBounds => ?_
  have values : columnOfRows table.rows index = table.columns[index].values := by
    simpa using columnOfRows_rows id inBounds
  simp [columnsOfRows, header, inBounds, lookup_types, values]

theorem ofRecords_toRecords (table : Table) : ofRecords table.types table.toRecords = .ok table := by
  have names : (table.header.map Datum.text).map (Datum.plainIn Datum.openStyle) = table.header := by
    rw [List.map_map]
    exact List.map_id _
  rw [toRecords, ofRecords, names, ofRows_eq, columnsOfRows_rows, ofColumns_columns]

/--
A table is made again of its rows below the names of its columns, with its types by
name. Rows of any lengths and a header of distinct names, of which there are some, make a
table with this header whose rows they are in order, each cut or padded with nulls.
-/
theorem rows_columns_inverse :
    (∀ table : Table, ofRecords table.types table.toRecords = .ok table) ∧
      ∀ (header : List String) (rows : List (List Datum)) (types : List (Option ColumnType)),
        header.Nodup → header ≠ [] →
          ∃ table, ofRows header rows types = .ok table ∧ table.header = header ∧
            table.rows = rows.map (fitted header.length) := by
  refine ⟨ofRecords_toRecords, fun header rows types distinct notEmpty => ?_⟩
  rcases exists_ofRows distinct with ⟨table, made, areColumns⟩
  exact ⟨table, made, by rw [Table.header, areColumns, names_columnsOfRows],
    rows_of_columns notEmpty areColumns⟩

/-- A row that is too short, one that is too long and one without cells. -/
def unevenRows : List (List Datum) := [[.integer 1], [.integer 2, .text "Bo", .boolean true], []]

theorem rows_columns_uneven :
    ["id", "name"].Nodup ∧ ["id", "name"] ≠ [] ∧
      ∃ table, ofRows ["id", "name"] unevenRows [] = .ok table ∧ table.header = ["id", "name"] ∧
        table.rows = [[.integer 1, .null], [.integer 2, .text "Bo"], [.null, .null]] :=
  ⟨by decide, by decide,
    rows_columns_inverse.2 ["id", "name"] unevenRows [] (by decide) (by decide)⟩

end TableBrowser.Table
