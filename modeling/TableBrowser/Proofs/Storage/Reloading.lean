import TableBrowser.Proofs.Delimited.RoundTrip
import TableBrowser.Proofs.Json.Layout
import TableBrowser.Proofs.Storage.Encoding
import TableBrowser.Proofs.Storage.Loading
import TableBrowser.Proofs.Table.Rows
/-!
# Tables that are written and loaded again

A table that comes from a file is written to another of the same format and
loaded from there as it was, which is the main statement.
-/

namespace TableBrowser

open Destination (jsonValue)

/-! ## Tables of rows -/

theorem Table.mem_columnOfRows {rows : List (List Datum)} {index : Nat} {cell : Datum}
    (member : cell ∈ columnOfRows rows index) : cell = .null ∨ ∃ row ∈ rows, cell ∈ row := by
  rcases List.mem_map.mp member with ⟨row, isRow, rfl⟩
  by_cases inBounds : index < row.length
  · rw [List.getD_eq_getElem row .null inBounds]
    exact .inr ⟨row, isRow, List.getElem_mem inBounds⟩
  · exact .inl (List.getD_eq_default row .null (Nat.not_lt.mp inBounds))

namespace Source

variable {source : Source} {table : Table}

theorem length_typed (format : Format) (cells : List Datum) :
    (typed format cells).2.length = cells.length := by
  have datums : (if ColumnType.ofData cells = .string then Inference.column cells
      else (ColumnType.ofData cells, cells)).2.length = cells.length := by
    split
    · exact Inference.length_column cells
    · rfl
  cases format with
  | csv | tsv => exact Inference.length_column cells
  | json | sqlite => exact datums

theorem columns_of_tableOfRows {header : List Datum} {rows : List (List Datum)}
    (made : source.tableOfRows (header :: rows) = .ok table) :
    table.columns = columnsOf source.format header rows := by
  rw [tableOfRows] at made
  split at made
  · next isTable =>
    cases made
    exact Table.columns_of_ofColumns isTable
  · cases made

/-- What a table from a file has, so that another file of the format gives it back. -/
structure Portable (format : Format) (table : Table) : Prop where
  settled : ∀ column ∈ table.columns,
    typed format (column.values.map format.reread) = (column.type, column.values)
  carried : ∀ column ∈ table.columns, ∀ cell ∈ column.values, format.Carries cell
  names : ∀ name ∈ table.header, format.Carries (.text name)
  /-- Records without rows would leave no names. -/
  noNames : format = .json → table.rows = [] → table.header = []

theorem portable_empty (format : Format) : Portable format .empty :=
  ⟨nofun, nofun, nofun, fun _ _ => rfl⟩

theorem portable_of_tableOfRows {header : List Datum} {rows : List (List Datum)}
    (cells : ∀ row ∈ rows, ∀ cell ∈ row, source.format.Holds cell ∧ source.format.Carries cell)
    (names : ∀ name ∈ header, source.format.Carries (.text (name.plainIn Datum.openStyle)))
    (noNames : source.format = .json → rows = [] → header = [])
    (made : source.tableOfRows (header :: rows) = .ok table) : Portable source.format table := by
  have columns := columns_of_tableOfRows made
  have inColumn (index : Nat) (cell : Datum) (member : cell ∈ Table.columnOfRows rows index) :
      source.format.Holds cell ∧ source.format.Carries cell := by
    rcases Table.mem_columnOfRows member with rfl | ⟨row, isRow, isCell⟩
    · exact ⟨source.format.holds_null, source.format.carries_null⟩
    · exact cells row isRow cell isCell
  refine ⟨fun column member => ?_, fun column member => ?_, fun name member => ?_, fun isJson none => ?_⟩
  · rw [columns, columnsOf] at member
    rcases List.mem_mapIdx.mp member with ⟨index, inBounds, rfl⟩
    exact typed_reread (fun cell isCell => (inColumn index cell isCell).1) rfl
  · rw [columns, columnsOf] at member
    rcases List.mem_mapIdx.mp member with ⟨index, inBounds, rfl⟩
    exact carries_of_mem_typed fun cell isCell => (inColumn index cell isCell).2
  · rw [Table.header, columns, columnsOf] at member
    rcases List.mem_map.mp member with ⟨column, isColumn, rfl⟩
    rcases List.mem_mapIdx.mp isColumn with ⟨index, inBounds, rfl⟩
    exact names _ (List.getElem_mem inBounds)
  · rw [Table.header, List.map_eq_nil_iff, columns, columnsOf, List.mapIdx_eq_nil_iff]
    by_contra someNames
    have notEmpty : rows.length ≠ 0 := fun isEmpty =>
      someNames (noNames isJson (List.length_eq_zero_iff.mp isEmpty))
    rcases List.exists_cons_of_ne_nil someNames with ⟨name, others, rfl⟩
    have isCount : table.rowCount = rows.length := by
      rw [Table.rowCount, columns, columnsOf, List.mapIdx_cons, rowCountOf]
      exact (length_typed _ _).trans (List.length_map _)
    rw [← isCount, ← Table.length_rows, none] at notEmpty
    exact notEmpty rfl

/-! ## Tables from files -/

theorem portable_of_delimitedRows (isText : source.format = .csv ∨ source.format = .tsv)
    {rows : List (List Datum)} (short : ∀ row ∈ rows, ∀ cell ∈ row, Delimited.IsShort cell)
    (made : source.tableOfRows rows = .ok table) : Portable source.format table := by
  have cells {cell : Datum} (isShort : Delimited.IsShort cell) :
      source.format.Holds cell ∧ source.format.Carries cell := by
    rcases isShort with ⟨text, rfl, isShort⟩
    rcases isText with isFormat | isFormat <;> rw [isFormat] <;> exact ⟨rfl, isShort⟩
  cases rows with
  | nil =>
      cases made
      exact portable_empty _
  | cons header rows =>
      refine portable_of_tableOfRows ?_ ?_ ?_ made
      · exact fun row isRow cell isCell => cells (short row (List.mem_cons_of_mem _ isRow) cell isCell)
      · intro name isName
        rcases short header List.mem_cons_self name isName with ⟨text, rfl, isShort⟩
        exact (cells ⟨text, rfl, isShort⟩).2
      · rcases isText with isFormat | isFormat <;> simp [isFormat]

theorem jsonValue_of_readable {datum : Datum} (readable : Json.Readable datum) :
    jsonValue datum = datum := by
  cases readable <;> rfl

theorem portable_of_jsonRows (isJson : source.format = .json) {header : List Datum}
    {rows : List (List Datum)} (valued : Records.Valued header rows)
    (made : source.tableOfRows (header :: rows) = .ok table) : Portable source.format table := by
  refine portable_of_tableOfRows ?_ ?_ (fun _ => valued.noNames) made
  · intro row isRow cell isCell
    have readable := valued.cells row isRow cell isCell
    have same := jsonValue_of_readable readable
    rw [isJson]
    refine ⟨same, ?_⟩
    rw [Format.Carries, same]
    exact readable
  · intro name _
    rw [isJson]
    exact .text _

theorem portable_of_load {tree : FileTree} (leaves : source.LeavesCells)
    (notDatabase : source.format ≠ .sqlite) (loaded : source.load tree = .ok table) :
    Portable source.format table := by
  rcases bind_eq_ok.mp loaded with ⟨_, _, loaded⟩
  rcases bind_eq_ok.mp loaded with ⟨rows, areRows, made⟩
  unfold Source.rows at areRows
  split at areRows
  · next isFormat =>
    exact portable_of_delimitedRows (.inl isFormat)
      (isShort_of_delimitedRows leaves (by decide) areRows) made
  · next isFormat =>
    exact portable_of_delimitedRows (.inr isFormat)
      (isShort_of_delimitedRows leaves (by decide) areRows) made
  · next isFormat =>
    rcases valued_of_jsonRows leaves areRows with ⟨header, body, rfl, valued⟩
    exact portable_of_jsonRows isFormat valued made
  · next isFormat => exact absurd isFormat notDatabase

/-! ## Tables that are loaded again -/

theorem columnsOf_reread {format : Format} (portable : Portable format table) :
    columnsOf format (table.header.map .text) (table.rows.map (·.map format.reread)) =
      table.columns := by
  refine List.ext_getElem (by simp [columnsOf, Table.header]) fun index _ inBounds => ?_
  have isTyped := portable.settled _ (List.getElem_mem inBounds)
  simp only [columnsOf, List.getElem_mapIdx, List.getElem_map,
    Table.columnOfRows_rows format.reread inBounds, isTyped, Table.header]
  rfl

theorem tableOfRows_reread (portable : Portable source.format table) :
    source.tableOfRows (table.header.map .text :: table.rows.map (·.map source.format.reread)) =
      .ok table := by
  rw [tableOfRows, columnsOf_reread portable, Table.ofColumns_columns]
  rfl

end Source

/-! ## Delimited text -/

namespace Destination

open Delimited (Parts records writtenRecord)
open Encoding (formsOf encode_utf8)

theorem recordsBytes_of_written {dialect : Delimited.Dialect} {rows : List (List String)}
    {written : List (List Char)} (areWritten : rows.mapM (writtenRecord dialect) = .ok written) :
    recordsBytes (recordBytes .utf8 .strict dialect) rows = (formsOf written.flatten, none) := by
  replace areWritten := mapM_eq_ok.mp areWritten
  induction areWritten with
  | nil => rfl
  | cons first _ induction =>
      simp only [recordsBytes, recordBytes, first, encode_utf8, induction]
      rw [List.flatten_cons, formsOf, formsOf, formsOf, List.flatMap_append]

theorem delimited_written {delimiter : Char} (parts : Parts delimiter) {table : Table}
    (settings : delimitedSettings [] { delimiter } = .ok (.utf8, .strict, { delimiter }))
    (short : ∀ fields ∈ textRows table true, ∀ field ∈ fields,
      field.toList.length ≤ Delimited.fieldLimit) :
    ∃ chars, delimited [] { delimiter } table = (formsOf chars, none) ∧
      records { delimiter } chars = .ok ((textRows table true).map (·.map Datum.text)) := by
  rcases Delimited.records_written parts short with ⟨written, areWritten, areRead⟩
  refine ⟨written.flatten, ?_, areRead⟩
  have bytes := recordsBytes_of_written areWritten
  have withHeader :
      ((([] : Options).lookup "write_header").getD (.boolean true)).isTruthy = true := rfl
  simp only [delimited, settings, withHeader, bytes]
  rfl

/-! ## JSON -/

/-- The entries of a record have the names of its table. -/
theorem map_fst_record {header : List String} {row : List Datum} (aligned : row.length = header.length) :
    ((header.zip row).map fun (name, value) => (Datum.text name, jsonValue value)).map (·.1) =
      header.map .text := by
  rw [List.map_map]
  change (header.zip row).map (Datum.text ∘ Prod.fst) = _
  rw [← List.map_map, List.map_fst_zip (by omega)]

theorem readable_record {header : List String} {row : List Datum} (distinct : header.Nodup)
    (aligned : row.length = header.length)
    (carried : ∀ cell ∈ row, Json.Readable (jsonValue cell)) :
    Json.Readable (record header row) := by
  refine .mapping ?_ ?_ ?_
  · intro entry member
    rcases List.mem_map.mp member with ⟨⟨name, _⟩, _, rfl⟩
    exact ⟨name, rfl⟩
  · rw [map_fst_record aligned]
    exact List.Pairwise.map _ (fun _ _ different same => different (Datum.text.inj same)) distinct
  · intro entry member
    rcases List.mem_map.mp member with ⟨⟨_, cell⟩, isPair, rfl⟩
    exact carried cell (List.of_mem_zip isPair).2

theorem find?_record {header : List String} {row : List Datum} (distinct : header.Nodup)
    {name : String} {cell : Datum} (isPair : (name, cell) ∈ header.zip row) :
    ((header.zip row).map fun (name, value) => (Datum.text name, jsonValue value)).find?
      (·.1 = .text name) = some (.text name, jsonValue cell) := by
  induction header generalizing row with
  | nil => cases isPair
  | cons first header induction =>
      rcases row with _ | ⟨value, row⟩
      · cases isPair
      · rcases List.nodup_cons.mp distinct with ⟨isNew, distinct⟩
        rw [List.zip_cons_cons] at isPair ⊢
        rcases List.mem_cons.mp isPair with same | later
        · cases same
          exact List.find?_cons_of_pos (by simp)
        · have different : first ≠ name := fun same =>
            isNew (same ▸ (List.of_mem_zip later).1)
          rw [List.map_cons, List.find?_cons_of_neg (by simpa using different)]
          exact induction distinct later

theorem row_record {header : List String} {row : List Datum} (distinct : header.Nodup)
    (aligned : row.length = header.length) (missing : Datum) :
    Records.row missing (header.map .text) (record header row) = .ok (row.map jsonValue) := by
  refine mapM_eq_ok.mpr (List.forall₂_map_left_iff.mpr (List.forall₂_map_right_iff.mpr ?_))
  refine List.forall₂_iff_zip.mpr ⟨aligned.symm, fun {name cell} isPair => ?_⟩
  simp only [record, Records.valueUnder, find?_record distinct isPair]
  rfl

/-- Records of the same names have no others. -/
theorem namesIn_records {names : List Datum} {data : List Datum} (notEmpty : data ≠ [])
    (each : ∀ datum ∈ data, ∃ entries, datum = .mapping entries ∧ entries.map (·.1) = names) :
    Records.namesIn data = names := by
  have noMore (names : List Datum) : names.filter (!names.contains ·) = [] :=
    List.filter_eq_nil_iff.mpr fun name member => by simp [member]
  rcases List.exists_cons_of_ne_nil notEmpty with ⟨datum, others, rfl⟩
  rcases each datum List.mem_cons_self with ⟨entries, rfl, areNames⟩
  have first : (entries.map (·.1)).filter (!([] : List Datum).contains ·) = names := by
    rw [areNames]
    exact List.filter_eq_self.mpr fun name _ => by simp
  rw [Records.namesIn, List.foldl_cons]
  simp only [List.nil_append, first]
  refine foldl_eq_of_stays fun other member => ?_
  rcases each other (List.mem_cons_of_mem _ member) with ⟨entries, rfl, areNames⟩
  simp only [areNames, noMore, List.append_nil]

theorem rowsOf_records {header : List String} {rows : List (List Datum)} (distinct : header.Nodup)
    (aligned : ∀ row ∈ rows, row.length = header.length) (noNames : rows = [] → header = [])
    (missing : Datum) :
    Records.rowsOf missing none Records.defaultSample (.list (rows.map (record header))) =
      .ok (header.map .text :: rows.map (·.map jsonValue)) := by
  have areRows : (rows.map (record header)).mapM (Records.row missing (header.map .text)) =
      .ok (rows.map (·.map jsonValue)) := by
    refine mapM_eq_ok.mpr (List.forall₂_map_left_iff.mpr (List.forall₂_map_right_iff.mpr ?_))
    exact List.forall₂_same.mpr fun row isRow => row_record distinct (aligned row isRow) missing
  have areNames :
      Records.namesIn ((rows.map (record header)).take Records.defaultSample) = header.map .text := by
    by_cases none : rows = []
    · rw [none, noNames none]
      rfl
    · refine namesIn_records (by simpa [Records.defaultSample] using none) fun datum member => ?_
      rcases List.mem_map.mp (List.mem_of_mem_take member) with ⟨row, isRow, rfl⟩
      exact ⟨_, rfl, map_fst_record (aligned row isRow)⟩
  refine bind_eq_ok.mpr ⟨_, rfl, ?_⟩
  simp only [Option.getD_none, areNames]
  exact bind_eq_ok.mpr ⟨_, areRows, rfl⟩

theorem json_written {table : Table}
    (carried : ∀ row ∈ table.rows, ∀ cell ∈ row, Json.Readable (jsonValue cell)) :
    ∃ text, json [] table = .ok (formsOf text.toList, none) ∧
      Json.read text = .ok (.list (table.rows.map (record table.header))) := by
  have readable : Json.Readable (.list (table.rows.map (record table.header))) := by
    refine .list fun item member => ?_
    rcases List.mem_map.mp member with ⟨row, isRow, rfl⟩
    exact readable_record table.distinct (Table.length_of_mem_rows isRow) (carried row isRow)
  rcases Json.joinPieces_pieces readable with ⟨text, joined, isRead⟩
  refine ⟨text, ?_, isRead⟩
  have written : json [] table = .ok
      ((Json.joinPieces (({} : Json.Layout).pieces 0 (.list (table.rows.map (record table.header))) ++
          [])).1.toUTF8.toList,
        (Json.joinPieces (({} : Json.Layout).pieces 0
          (.list (table.rows.map (record table.header))) ++ [])).2) := rfl
  rw [written, List.append_nil, joined, toList_toUTF8]

end Destination

/-! ## Files -/

theorem FileTree.fileExists_of_read {tree : FileTree} {text : String} {content : FileContent}
    (holds : tree.read text = .ok content) : tree.fileExists text = true := by
  rcases bind_eq_ok.mp holds with ⟨entry, isEntry, isContent⟩
  rw [fileExists, isEntry]
  cases entry with
  | file _ => rfl
  | directory => cases isContent
  | nothing => cases isContent

theorem FileTree.write_of_writable {tree : FileTree} {text : String} {place : List String}
    (isWritable : tree.writable text = .ok place) (bytes : List UInt8) :
    ∃ after, tree.write text bytes = .ok after :=
  ⟨_, bind_eq_ok.mpr ⟨place, isWritable, rfl⟩⟩

namespace Source

open Encoding (formsOf decode_formsOf)

variable {source : Source} {table : Table} {tree : FileTree}

theorem load_of_rows {content : FileContent} {rows : List (List Datum)}
    (holds : tree.read source.uri = .ok content) (areRows : source.rows tree = .ok rows)
    (made : source.tableOfRows rows = .ok table) : source.load tree = .ok table := by
  rw [load, checkExists, if_pos (FileTree.fileExists_of_read holds), areRows]
  exact made

theorem delimitedRows_of_read {usual : Delimited.Dialect} {chars : List Char}
    {rows : List (List Datum)} (noOptions : source.options = .mapping [])
    (isUsual : Delimited.dialectOf [] usual = .ok usual)
    (holds : tree.read source.uri = .ok (.bytes (formsOf chars)))
    (areRead : Delimited.records usual chars = .ok rows) :
    source.delimitedRows tree usual = .ok rows := by
  simp only [delimitedRows_of_noOptions noOptions isUsual, bytes_eq_ok.mpr holds,
    text_eq_ok.mpr (decode_formsOf .strict chars), areRead, bind, Except.bind, pure, Except.pure]

theorem jsonRows_of_read {text : String} {document : Datum} {rows : List (List Datum)}
    (noOptions : source.options = .mapping [])
    (holds : tree.read source.uri = .ok (.bytes (formsOf text.toList)))
    (isRead : Json.read text = .ok document)
    (areRows : Records.rowsOf .null none Records.defaultSample document = .ok rows) :
    source.jsonRows tree = .ok rows := by
  have isDocument : source.jsonDocument text.toList = .ok document := by
    rwa [jsonDocument_eq_ok, String.ofList_toList]
  simp only [jsonRows_of_noOptions noOptions, bytes_eq_ok.mpr holds,
    text_eq_ok.mpr (decode_formsOf .strict text.toList), isDocument, areRows, Except.mapError, bind,
    Except.bind]

/-! ## Tables -/

/-- The rows of a table as they are read from a file that it was written to. -/
def rowsAgain (format : Format) (table : Table) : List (List Datum) :=
  table.header.map .text :: table.rows.map (·.map format.reread)

theorem carried_of_mem_rows {format : Format} (portable : Portable format table) :
    ∀ row ∈ table.rows, ∀ cell ∈ row, format.Carries cell := by
  intro row isRow cell isCell
  rcases Table.mem_values_of_mem_rows isRow isCell with ⟨column, isColumn, isCell⟩
  exact portable.carried column isColumn cell isCell

theorem short_textRows (portable : Portable .csv table) :
    ∀ fields ∈ Destination.textRows table true, ∀ field ∈ fields,
      field.toList.length ≤ Delimited.fieldLimit := by
  intro fields isFields field isField
  rcases List.mem_cons.mp isFields with rfl | isRow
  · exact portable.names field isField
  · rcases List.mem_map.mp isRow with ⟨row, isGiven, rfl⟩
    rcases List.mem_map.mp isField with ⟨cell, isCell, rfl⟩
    exact carried_of_mem_rows portable row isGiven cell isCell

theorem delimitedRows_of_written {delimiter : Char} (parts : Delimited.Parts delimiter)
    (settings : Destination.delimitedSettings [] { delimiter } = .ok (.utf8, .strict, { delimiter }))
    (isUsual : Delimited.dialectOf [] { delimiter } = .ok { delimiter })
    (portable : Portable .csv table) :
    ∃ bytes, Destination.delimited [] { delimiter } table = (bytes, none) ∧
      ∀ {source : Source} {tree : FileTree}, source.options = .mapping [] →
        tree.read source.uri = .ok (.bytes bytes) →
          source.delimitedRows tree { delimiter } = .ok (rowsAgain .csv table) := by
  rcases Destination.delimited_written parts settings (short_textRows portable) with
    ⟨chars, areWritten, areRead⟩
  refine ⟨formsOf chars, areWritten, fun noOptions holds => ?_⟩
  have isAgain : (Destination.textRows table true).map (·.map Datum.text) = rowsAgain .csv table := by
    rw [Destination.textRows, rowsAgain, if_pos rfl, List.map_append, List.map_map]
    simp only [Function.comp_def, List.map_map]
    rfl
  rw [isAgain] at areRead
  exact delimitedRows_of_read noOptions isUsual holds areRead

theorem jsonRows_of_written (portable : Portable .json table) :
    ∃ bytes, Destination.json [] table = .ok (bytes, none) ∧
      ∀ {source : Source} {tree : FileTree}, source.options = .mapping [] →
        tree.read source.uri = .ok (.bytes bytes) →
          source.jsonRows tree = .ok (rowsAgain .json table) := by
  rcases Destination.json_written (carried_of_mem_rows portable) with ⟨text, isWritten, isRead⟩
  refine ⟨formsOf text.toList, isWritten, fun noOptions holds => ?_⟩
  exact jsonRows_of_read noOptions holds isRead (Destination.rowsOf_records table.distinct
    (fun _ => Table.length_of_mem_rows) (portable.noNames rfl) .null)

/-- Delimited text carries the same whatever parts its fields. -/
theorem Portable.csv_of_tsv (portable : Portable .tsv table) : Portable .csv table :=
  ⟨portable.settled, portable.carried, portable.names, nofun⟩

theorem parts_commas : Delimited.Parts ',' := ⟨by decide, by decide, by decide⟩

theorem parts_tabs : Delimited.Parts '\t' := ⟨by decide, by decide, by decide⟩

/-- What is written of a table, and what is read where it has been written. -/
theorem rows_of_content {destination : Destination} (noOptions : destination.options = .mapping [])
    (notDatabase : destination.format ≠ .sqlite) (portable : Portable destination.format table) :
    ∃ bytes, destination.content table = .ok (bytes, none) ∧
      ∀ {source : Source} {tree : FileTree}, source.format = destination.format →
        source.options = .mapping [] → tree.read source.uri = .ok (.bytes bytes) →
          source.rows tree = .ok (rowsAgain destination.format table) := by
  have options : Options.ofDatum destination.options = .ok [] := by
    rw [noOptions]
    rfl
  simp only [Destination.content, options, rows, bind, Except.bind]
  cases isFormat : destination.format with
  | csv =>
      rw [isFormat] at portable
      rcases delimitedRows_of_written parts_commas (by decide) (by decide) portable with
        ⟨bytes, isWritten, areRows⟩
      refine ⟨bytes, congrArg Except.ok isWritten, fun sameFormat plain holds => ?_⟩
      rw [sameFormat]
      exact areRows plain holds
  | tsv =>
      rw [isFormat] at portable
      rcases delimitedRows_of_written parts_tabs (by decide) (by decide) portable.csv_of_tsv with
        ⟨bytes, isWritten, areRows⟩
      refine ⟨bytes, congrArg Except.ok isWritten, fun sameFormat plain holds => ?_⟩
      rw [sameFormat]
      exact areRows plain holds
  | json =>
      rw [isFormat] at portable
      rcases jsonRows_of_written portable with ⟨bytes, isWritten, areRows⟩
      refine ⟨bytes, isWritten, fun sameFormat plain holds => ?_⟩
      rw [sameFormat]
      exact areRows plain holds
  | sqlite => exact absurd isFormat notDatabase

theorem load_of_write {destination : Destination} (noOptions : destination.options = .mapping [])
    (notDatabase : destination.format ≠ .sqlite) (portable : Portable destination.format table)
    {place : List String} (isWritable : tree.writable destination.uri = .ok place) :
    ∃ after, destination.write tree table = (after, .ok ()) ∧
      load after { uri := destination.uri, format := destination.format, options := .mapping [] } =
        .ok table := by
  rcases rows_of_content noOptions notDatabase portable with ⟨bytes, isContent, areRows⟩
  rcases FileTree.write_of_writable isWritable bytes with ⟨after, isWritten⟩
  have holds := (FileTree.read_of_write isWritten).1
  refine ⟨after, ?_, ?_⟩
  · simp only [Destination.write, isContent, isWritten]
    rfl
  · exact load_of_rows holds (areRows rfl rfl holds) (tableOfRows_reread portable)

/--
A table that is loaded from a file of text is written to a file of the same
format, from which the same table is loaded. The columns are equal in order,
name, type and cells, also where a cell is not a number.
-/
theorem load_of_write_of_load {before : FileTree} (leaves : source.LeavesCells)
    (notDatabase : source.format ≠ .sqlite) (loaded : source.load before = .ok table)
    {destination : Destination} (sameFormat : destination.format = source.format)
    (noOptions : destination.options = .mapping []) {place : List String}
    (isWritable : tree.writable destination.uri = .ok place) :
    ∃ after, destination.write tree table = (after, .ok ()) ∧
      load after { uri := destination.uri, format := source.format, options := .mapping [] } =
        .ok table := by
  have portable := portable_of_load leaves notDatabase loaded
  rw [← sameFormat] at notDatabase portable ⊢
  exact load_of_write noOptions notDatabase portable isWritable

/-- Two people, the second without a number; blanks around a text stay with it. -/
def paid : Table where
  columns := [
    ⟨"id", .integer, [.integer 1, .null]⟩,
    ⟨"name", .string, [.text " Ann", .text "Bo"]⟩,
    ⟨"paid", .boolean, [.boolean true, .boolean false]⟩]
  aligned := by decide
  distinct := by decide

def paidText : List Char := "id,name,paid\n1, Ann, Yes\n,Bo,no\n".toList

def paidTree : FileTree where
  surroundings := ⟨[], []⟩
  files := [(["paid.csv"], .bytes (formsOf paidText))]

theorem load_of_write_of_load_paid :
    load paidTree ⟨"paid.csv", .csv, .mapping []⟩ = .ok paid ∧
    paidTree.writable "copy.csv" = .ok ["copy.csv"] ∧
    ∃ after, Destination.write paidTree ⟨"copy.csv", .csv, .mapping []⟩ paid = (after, .ok ()) ∧
      load after ⟨"copy.csv", .csv, .mapping []⟩ = .ok paid := by
  have located : paidTree.locate "paid.csv" = .ok ["paid.csv"] :=
    FileTree.locate_of_follow ["paid.csv"] (by simp) (by decide) (by rfl)
  have holds : paidTree.read "paid.csv" = .ok (.bytes (formsOf paidText)) := by
    rw [FileTree.read, FileTree.entry, located]
    rfl
  have areRead : Delimited.records Delimited.commas paidText = .ok [
      [.text "id", .text "name", .text "paid"], [.text "1", .text " Ann", .text " Yes"],
      [.text "", .text "Bo", .text "no"]] := by decide +kernel
  have loaded : load paidTree ⟨"paid.csv", .csv, .mapping []⟩ = .ok paid :=
    load_of_rows holds (delimitedRows_of_read rfl (by decide) holds areRead) (by decide +kernel)
  have isWritable : paidTree.writable "copy.csv" = .ok ["copy.csv"] :=
    FileTree.writable_of_locate
      (FileTree.locate_of_follow ["copy.csv"] (by simp) (by decide) (by rfl)) (by decide)
  exact ⟨loaded, isWritable,
    load_of_write_of_load (leavesCells_of_noOptions rfl) (by decide) loaded rfl rfl isWritable⟩

end Source

end TableBrowser
