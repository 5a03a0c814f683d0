import TableBrowser.Proofs.Calendar.IsoText
import TableBrowser.Proofs.Outcome
import TableBrowser.Proofs.Table.Rows
import TableBrowser.Sql.Storage
/-!
# Tables that relations hold

A relation holds every table whose names it can tell apart and whose cells it has
a value for. Main statement: the rows of the relation are the rows of the table,
cell by cell.
-/

namespace TableBrowser

/-- The cells of a column that a relation holds without loss. -/
def ColumnType.Stores : ColumnType → Datum → Prop
  | _, .null => True
  | .integer, .integer value => Sql.Value.fits value = true
  | .number, .number value => value.isNaN = false
  | .boolean, .boolean _ => True
  | .datetime, .date _ => True
  | .datetime, .moment value => value.time.IsRegular
  | .datetime, .time value => value.IsRegular
  | .string, .text _ | .string, .bytes _ => True
  | _, _ => False

/-- A table with columns that can be told apart, and cells that a relation holds without loss. -/
structure Table.Storable (table : Table) : Prop where
  someColumn : table.columns ≠ []
  /-- No two names are the same but for the case of ASCII letters. -/
  apart : table.header.Pairwise fun left right => Sql.sameName left right = false
  cells : ∀ column ∈ table.columns, ∀ cell ∈ column.values, column.type.Stores cell

/-- A relation can have as many columns, and columns of these names. -/
structure Table.Relatable (table : Table) : Prop where
  withinLimit : table.columns.length ≤ Sql.columnLimit
  withoutNull : ∀ name ∈ table.header, '\x00' ∉ name.toList

namespace Sql

/-! ## Names -/

theorem sameName_comm (left right : String) : sameName left right = sameName right left :=
  BEq.comm

theorem repeatedName_eq_none {used names : List String}
    (fresh : ∀ name ∈ names, listed used name = false)
    (apart : names.Pairwise fun left right => sameName left right = false) :
    repeatedName used names = none := by
  induction names generalizing used with
  | nil => rfl
  | cons name names induction =>
      rcases List.pairwise_cons.mp apart with ⟨first, others⟩
      rw [repeatedName, fresh name List.mem_cons_self, if_neg (by decide)]
      refine induction (fun other member => ?_) others
      rw [listed, List.any_cons, sameName_comm, first other member, Bool.false_or]
      exact fresh other (List.mem_cons_of_mem name member)

section Names

variable {columns : List RelationColumn}
  (apart : (columns.map RelationColumn.name).Pairwise fun left right => sameName left right = false)

include apart

theorem checkNames_of_apart (withoutNull : ∀ name ∈ columns.map RelationColumn.name, '\x00' ∉ name.toList) :
    checkNames "df" columns =
      if columnLimit < columns.length then .error (.tooManyColumns "df") else .ok () := by
  have noNull : ("df" :: columns.map RelationColumn.name).any (·.toList.contains '\x00') = false := by
    rw [List.any_eq_false]
    intro name member
    rcases List.mem_cons.mp member with rfl | member
    · decide
    · simpa using withoutNull name member
  have notReserved : sameName (String.ofList ("df".toList.take reservedStart.length)) reservedStart =
      false := by decide
  have distinct : repeatedName [] ((columns.map RelationColumn.name).take columnLimit) = none :=
    repeatedName_eq_none (fun _ _ => rfl) (apart.sublist (List.take_sublist ..))
  unfold checkNames
  simp only [noNull, notReserved, distinct, Bool.false_eq_true, if_false, List.length_map]
  rfl

end Names

theorem checkNames_of_null {columns : List RelationColumn} {name : String}
    (member : name ∈ columns.map RelationColumn.name) (hasNull : '\x00' ∈ name.toList) :
    checkNames "df" columns = .error .nullCharacter := by
  have someNull : ("df" :: columns.map RelationColumn.name).any (·.toList.contains '\x00') = true :=
    List.any_eq_true.mpr ⟨name, List.mem_cons_of_mem _ member, by simpa using hasNull⟩
  unfold checkNames
  simp only [someNull, if_true]
  rfl

/-! ## Rows -/

/-- The value that a relation holds for a cell. -/
def held : Datum → Value
  | .boolean value => .integer (if value then 1 else 0)
  | .integer value => .integer value
  | .number value => .real (if value.isZero then .zero else value)
  | .text value => .text value
  | .date value => .text value.text
  | .moment value => .text value.text
  | .time value => .text value.text
  | .bytes value => .blob value
  | _ => .null

theorem exists_stored {type : ColumnType} {cell : Datum} (stores : type.Stores cell) :
    ∃ value, Value.ofStored (stored cell) = .ok value ∧
      (columnAffinity type).store value = held cell := by
  cases cell with
  | null => exact ⟨.null, rfl, by cases type <;> rfl⟩
  | integer value =>
      cases type with
      | integer => exact ⟨.integer value, if_pos stores, rfl⟩
      | _ => exact stores.elim
  | number value =>
      cases type with
      | number =>
          refine ⟨.real value, congrArg Except.ok (if_neg (Bool.eq_false_iff.mp stores)), ?_⟩
          change (if value.isZero then Value.real .zero else .real value) = _
          rw [held]
          split <;> rfl
      | _ => exact stores.elim
  | boolean value =>
      cases type with
      | boolean => cases value <;> exact ⟨_, rfl, rfl⟩
      | _ => exact stores.elim
  | text value =>
      cases type with
      | string => exact ⟨_, rfl, rfl⟩
      | _ => exact stores.elim
  | bytes value =>
      cases type with
      | string => exact ⟨_, rfl, rfl⟩
      | _ => exact stores.elim
  | date value =>
      cases type with
      | datetime => exact ⟨_, rfl, rfl⟩
      | _ => exact stores.elim
  | moment value =>
      cases type with
      | datetime => exact ⟨_, rfl, rfl⟩
      | _ => exact stores.elim
  | time value =>
      cases type with
      | datetime => exact ⟨_, rfl, rfl⟩
      | _ => exact stores.elim
  | list items => cases type <;> exact stores.elim
  | mapping entries => cases type <;> exact stores.elim

/-- The cells of a row stand in the columns that store them. -/
theorem stores_of_mem_rowsOf {columns : List Column} {count : Nat} {cells : List (List Datum)}
    (each : List.Forall₂ (fun column values => ∀ cell ∈ values, Column.type column |>.Stores cell)
      columns cells) :
    ∀ row ∈ Table.rowsOf count cells,
      List.Forall₂ (fun (column : Column) cell => column.type.Stores cell) columns row := by
  induction count generalizing cells with
  | zero => exact nofun
  | succ count induction =>
      intro row member
      rcases List.mem_cons.mp member with rfl | later
      · rw [List.forall₂_map_right_iff]
        refine each.imp fun column values stores => ?_
        cases values with
        | nil => cases column.type <;> trivial
        | cons first values => exact stores first List.mem_cons_self
      · refine induction ?_ row later
        rw [List.forall₂_map_right_iff]
        exact each.imp fun column values stores cell isCell =>
          stores cell (List.mem_of_mem_tail isCell)

def columnOf (column : Column) : RelationColumn := ⟨column.name, columnAffinity column.type⟩

theorem store_row {columns : List Column} {row : List Datum}
    (stores : List.Forall₂ (fun (column : Column) cell => column.type.Stores cell) columns row) :
    (row.zip (columns.map columnOf)).mapM (fun (cell, column) => do
      return column.affinity.store (← Value.ofStored (stored cell))) = .ok (row.map held) := by
  rw [mapM_eq_ok]
  induction stores with
  | nil => exact .nil
  | cons first _ induction =>
      rcases exists_stored first with ⟨value, isValue, isHeld⟩
      exact .cons (bind_eq_ok.mpr ⟨value, isValue, congrArg Except.ok isHeld⟩) induction

section Relation

variable {table : Table} (storable : table.Storable)

include storable

theorem relationColumns_storable : relationColumns table = table.columns.map columnOf :=
  if_neg (by simpa using storable.someColumn)

omit storable in
theorem names_columnOf : (table.columns.map columnOf).map RelationColumn.name = table.header := by
  rw [List.map_map]
  rfl

theorem relationOf_storable (relatable : table.Relatable) :
    relationOf "df" table =
      .ok ⟨"df", table.columns.map columnOf, table.rows.map (·.map held)⟩ := by
  have checked : checkNames "df" (table.columns.map columnOf) = .ok () := by
    rw [checkNames_of_apart (names_columnOf ▸ storable.apart) (names_columnOf ▸ relatable.withoutNull),
      List.length_map, if_neg (Nat.not_lt.mpr relatable.withinLimit)]
  unfold relationOf
  rw [relationColumns_storable storable]
  refine bind_eq_ok.mpr ⟨(), checked, bind_eq_ok.mpr ⟨table.rows.map (·.map held), ?_, rfl⟩⟩
  rw [mapM_eq_ok, List.forall₂_map_right_iff, List.forall₂_same]
  intro row member
  refine store_row (stores_of_mem_rowsOf ?_ row member)
  rw [List.forall₂_map_right_iff, List.forall₂_same]
  exact storable.cells

/-- A table that no relation can be made of is refused for its names or its width. -/
theorem relationOf_of_not_relatable (notRelatable : ¬ table.Relatable) :
    relationOf "df" table = .error .nullCharacter ∨
      relationOf "df" table = .error (.tooManyColumns "df") := by
  unfold relationOf
  rw [relationColumns_storable storable]
  by_cases withoutNull : ∀ name ∈ table.header, '\x00' ∉ name.toList
  · have tooMany : columnLimit < table.columns.length := by
      by_contra within
      exact notRelatable ⟨Nat.not_lt.mp within, withoutNull⟩
    have refused : checkNames "df" (table.columns.map columnOf) = .error (.tooManyColumns "df") := by
      rw [checkNames_of_apart (names_columnOf ▸ storable.apart) (names_columnOf ▸ withoutNull),
        List.length_map, if_pos tooMany]
    right
    simp only [refused]
    rfl
  · push Not at withoutNull
    rcases withoutNull with ⟨name, member, hasNull⟩
    have refused : checkNames "df" (table.columns.map columnOf) = .error .nullCharacter :=
      checkNames_of_null (names_columnOf ▸ member) hasNull
    left
    simp only [refused]
    rfl

end Relation

end Sql

end TableBrowser
