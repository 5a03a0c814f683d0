import Mathlib.Data.List.Forall2
import TableBrowser.Proofs.Datum.Quoted
import TableBrowser.Proofs.Table.Rows
import TableBrowser.Table.Fingerprint
/-!
# What a fingerprint tells

The text that the fingerprint of a table is computed from lists the columns, by
name and type, and then the rows; between the last column and the first row it
has no mark. Main statement: tables with one such text have the same types and
the same quoted cells, except that the rows of a table with two columns may read
as further columns of a table without rows.
-/

namespace TableBrowser

open Nesting

theorem ColumnType.name_injective {left right : ColumnType} (equal : left.name = right.name) :
    left = right := by
  have found (type : ColumnType) : ofName? type.name = some type := by
    cases type <;> decide
  exact Option.some.inj (by rw [← found left, ← found right, equal])

namespace Table

/-! ## Records -/

/-- The row of texts that is written like a column with its type. -/
def label (column : String × ColumnType) : List Datum := [.text column.1, .text column.2.name]

/-- The rows that the text for the fingerprint lists: one for each column, then those of the table. -/
def records (table : Table) : List (List Datum) := table.types.map label ++ table.rows

theorem fingerprintText_eq_join (table : Table) : table.fingerprintText =
    String.join (table.records.map fun record => Display.fixedList (record.map Datum.quoted)) := by
  rw [fingerprintText, records, types, List.map_append, List.map_map, List.map_map]
  rfl

theorem whole_quoted_record (record : List Datum) :
    ∀ shown ∈ record.map Datum.quoted, Whole shown.toList ∧ shown.toList ≠ [] := by
  intro shown member
  rcases List.mem_map.mp member with ⟨datum, _, rfl⟩
  exact ⟨datum.whole_quoted, datum.quoted_ne_nil⟩

/-- A row in a fixed list tells the quoted forms of its cells. -/
theorem quoted_of_fixedList {left right : List Datum}
    (equal : Display.fixedList (left.map Datum.quoted) = Display.fixedList (right.map Datum.quoted)) :
    left.map Datum.quoted = right.map Datum.quoted :=
  Display.fixedList_injective (whole_quoted_record left) (whole_quoted_record right) equal

/-- The text for the fingerprint tells the records, each by the quoted forms in it. -/
theorem fingerprintText_eq_iff {left right : Table} :
    left.fingerprintText = right.fingerprintText ↔
      left.records.map (·.map Datum.quoted) = right.records.map (·.map Datum.quoted) := by
  constructor
  · intro equal
    have groups (records : List (List Datum)) :
        ∀ group ∈ (records.map fun record => Display.fixedList (record.map Datum.quoted)).map
          String.toList, IsGroup group := by
      intro group member
      rcases List.mem_map.mp member with ⟨text, textMember, rfl⟩
      rcases List.mem_map.mp textMember with ⟨record, _, rfl⟩
      exact Display.isGroup_fixedList fun shown isShown => (whole_quoted_record record shown isShown).1
    rw [fingerprintText_eq_join, fingerprintText_eq_join] at equal
    have chars := congrArg String.toList equal
    rw [String.toList_join, String.toList_join, List.flatMap_def, List.flatMap_def] at chars
    have texts := (List.map_inj_right fun _ _ => String.toList_inj.mp).mp
      (flatten_groups_injective (groups left.records) (groups right.records) chars)
    rw [← List.forall₂_eq_eq_eq, List.forall₂_map_left_iff, List.forall₂_map_right_iff] at texts ⊢
    exact texts.imp fun _ _ => quoted_of_fixedList
  · intro equal
    rw [fingerprintText_eq_join, fingerprintText_eq_join]
    have texts := congrArg (List.map Display.fixedList) equal
    rw [List.map_map, List.map_map] at texts
    exact congrArg String.join texts

/-! ## Columns -/

theorem quoted_label (column : String × ColumnType) :
    (label column).map Datum.quoted =
      [Text.Quoted.encode column.1, Text.Quoted.encode column.2.name] := by
  simp [label, Datum.quoted, Datum.quotedIn]

/-- A row with the quoted form of the label of a column is that label. -/
theorem eq_label_of_quoted {record : List Datum} {column : String × ColumnType}
    (equal : record.map Datum.quoted = (label column).map Datum.quoted) : record = label column := by
  rw [quoted_label] at equal
  rcases List.map_eq_cons_iff.mp equal with ⟨first, others, rfl, isName, rest⟩
  rcases List.map_eq_singleton_iff.mp rest with ⟨second, rfl, isType⟩
  rw [label, Datum.eq_text_of_quoted isName, Datum.eq_text_of_quoted isType]

theorem label_injective {left right : String × ColumnType} (equal : label left = label right) :
    left = right := by
  simp only [label, List.cons.injEq, Datum.text.injEq, and_true] at equal
  exact Prod.ext equal.1 (ColumnType.name_injective equal.2)

/-- Rows with the quoted forms of labels are those labels. -/
theorem eq_labels_of_quoted {rows : List (List Datum)} {columns : List (String × ColumnType)}
    (equal : rows.map (·.map Datum.quoted) = (columns.map label).map (·.map Datum.quoted)) :
    rows = columns.map label := by
  rw [← List.forall₂_eq_eq_eq, List.forall₂_map_left_iff, List.forall₂_map_right_iff] at equal
  rw [← List.forall₂_eq_eq_eq]
  rw [List.forall₂_map_right_iff] at equal ⊢
  exact equal.imp fun _ _ => eq_label_of_quoted

/-! ## Tables with one text -/

/-- Columns with the same names and types in the same order, and cells with the same quoted forms. -/
structure SameQuoted (left right : Table) : Prop where
  types : left.types = right.types
  rowCount : left.rowCount = right.rowCount
  cells : left.rows.map (·.map Datum.quoted) = right.rows.map (·.map Datum.quoted)

/--
The rows of a table with two columns are the names and types of the further
columns of a table that begins with the same columns and has no rows.
-/
structure SpillsInto (narrow wide : Table) : Prop where
  twoColumns : narrow.types.length = 2
  furtherColumns : 2 < wide.types.length
  types : narrow.types = wide.types.take 2
  noRows : wide.rows = []
  rows : narrow.rows = (wide.types.drop 2).map label

theorem SameQuoted.records {left right : Table} (same : left.SameQuoted right) :
    left.records.map (·.map Datum.quoted) = right.records.map (·.map Datum.quoted) := by
  rw [Table.records, Table.records, List.map_append, List.map_append, same.types, same.cells]

theorem SpillsInto.records {narrow wide : Table} (spills : narrow.SpillsInto wide) :
    narrow.records = wide.records := by
  rw [Table.records, Table.records, spills.types, spills.rows, spills.noRows, List.append_nil,
    ← List.map_append, List.take_append_drop]

theorem length_types (table : Table) : table.types.length = table.header.length := by
  rw [types, header, List.length_map, List.length_map]

/-- Tables with as many columns are told apart by their records. -/
theorem sameQuoted_of_records {left right : Table} (asWide : left.types.length = right.types.length)
    (equal : left.records.map (·.map Datum.quoted) = right.records.map (·.map Datum.quoted)) :
    left.SameQuoted right := by
  rw [records, records, List.map_append, List.map_append] at equal
  rcases List.append_inj equal (by simpa using asWide) with ⟨labels, cells⟩
  refine ⟨?_, ?_, cells⟩
  · exact (List.map_inj_right fun _ _ => label_injective).mp (eq_labels_of_quoted labels)
  · simpa [length_rows] using congrArg List.length cells

/-- Of tables with one text, the narrower one has the further columns of the other as its rows. -/
theorem spillsInto_of_records {narrow wide : Table} (wider : narrow.types.length < wide.types.length)
    (equal : narrow.records.map (·.map Datum.quoted) = wide.records.map (·.map Datum.quoted)) :
    narrow.SpillsInto wide := by
  have split : wide.records = (wide.types.take narrow.types.length).map label ++
      ((wide.types.drop narrow.types.length).map label ++ wide.rows) := by
    rw [records, ← List.append_assoc, ← List.map_append, List.take_append_drop]
  rw [split, records, List.map_append, List.map_append] at equal
  rcases List.append_inj equal (by simp [wider.le]) with ⟨labels, cells⟩
  rw [List.map_append] at cells
  -- Rows are as long as their table is wide.
  have narrowLength {shown : List String} (isShown : shown ∈ narrow.rows.map (·.map Datum.quoted)) :
      shown.length = narrow.types.length := by
    rcases List.mem_map.mp isShown with ⟨row, isRow, rfl⟩
    rw [List.length_map, length_of_mem_rows isRow, length_types]
  have twoColumns : narrow.types.length = 2 := by
    have further : wide.types[narrow.types.length] ∈ wide.types.drop narrow.types.length := by
      rw [List.drop_eq_getElem_cons wider]
      exact List.mem_cons_self
    have isShown : (label wide.types[narrow.types.length]).map Datum.quoted ∈
        narrow.rows.map (·.map Datum.quoted) := by
      rw [cells]
      exact List.mem_append_left _ (List.mem_map_of_mem (List.mem_map_of_mem further))
    exact (narrowLength isShown).symm
  have noRows : wide.rows = [] := by
    apply List.eq_nil_iff_forall_not_mem.mpr
    intro row isRow
    have isShown : row.map Datum.quoted ∈ narrow.rows.map (·.map Datum.quoted) := by
      rw [cells]
      exact List.mem_append_right _ (List.mem_map_of_mem isRow)
    have length := narrowLength isShown
    rw [List.length_map, length_of_mem_rows isRow, ← length_types] at length
    omega
  rw [twoColumns] at labels cells wider
  rw [noRows, List.map_nil, List.append_nil] at cells
  refine ⟨twoColumns, wider, ?_, noRows, eq_labels_of_quoted cells⟩
  exact (List.map_inj_right fun _ _ => label_injective).mp (eq_labels_of_quoted labels)

/--
What is hashed for two tables is the same exactly when they have the same types
and the same quoted cells, or the rows of one read as further columns of the other.
-/
theorem fingerprint_bytes_eq_iff (left right : Table) :
    left.fingerprintText.toUTF8 = right.fingerprintText.toUTF8 ↔
      left.SameQuoted right ∨ left.SpillsInto right ∨ right.SpillsInto left := by
  rw [String.toUTF8_eq_toByteArray, String.toUTF8_eq_toByteArray, String.toByteArray_inj,
    fingerprintText_eq_iff]
  constructor
  · intro equal
    rcases Nat.lt_trichotomy left.types.length right.types.length with wider | asWide | narrower
    · exact .inr (.inl (spillsInto_of_records wider equal))
    · exact .inl (sameQuoted_of_records asWide equal)
    · exact .inr (.inr (spillsInto_of_records narrower equal.symm))
  · rintro (same | spills | spills)
    · exact same.records
    · rw [spills.records]
    · rw [spills.records]

/-- Two columns, and a row that names a third one and its type. -/
def namedInRow : Table where
  columns := [⟨"a", .string, [.text "x"]⟩, ⟨"b", .string, [.text "integer"]⟩]
  aligned := by decide
  distinct := by decide

/-- Three columns and no rows. -/
def namedInHeader : Table where
  columns := [⟨"a", .string, []⟩, ⟨"b", .string, []⟩, ⟨"x", .integer, []⟩]
  aligned := by decide
  distinct := by decide

/-- The same is hashed for tables of two and of three columns. -/
theorem fingerprint_bytes_namedInRow :
    namedInRow.fingerprintText.toUTF8 = namedInHeader.fingerprintText.toUTF8 ∧
      namedInRow.types ≠ namedInHeader.types ∧ namedInRow.rowCount ≠ namedInHeader.rowCount := by
  refine ⟨?_, by decide, by decide⟩
  have spills : namedInRow.SpillsInto namedInHeader :=
    ⟨by decide, by decide, by decide, by decide, by decide⟩
  rw [fingerprintText_eq_iff.mpr (congrArg (List.map (List.map Datum.quoted)) spills.records)]

end Table

end TableBrowser
