import TableBrowser.Datum.Order
import TableBrowser.Failure
import TableBrowser.Table.ColumnType
/-!
# Tables

A table is a list of columns of one length with distinct names. Tables are
values: every operation makes a new one. The same data can be seen as rows,
and a table is determined by its header, the types of its columns and its rows.
-/

namespace TableBrowser

structure Column where
  name : String
  type : ColumnType
  values : List Datum
deriving DecidableEq

namespace Column

/-- The column without a name and without cells. -/
def blank : Column := ⟨"", .null, []⟩

/-- A column whose type is given by name. -/
def named (name type : String) (values : List Datum) : Except TableProblem Column :=
  match ColumnType.ofName? type with
  | some type => .ok { name, type, values }
  | none => .error (.unsupportedType type name)

/-- The first of the data that no other one precedes. -/
def least (before : Datum → Datum → Except Clash Bool) : Datum → List Datum → Except Clash Datum
  | best, [] => .ok best
  | best, datum :: data => do
      if ← before datum best then least before datum data else least before best data

/-- Smallest and largest of the data that are not null, when there are any and they compare. -/
def bounds (column : Column) : Option (Datum × Datum) :=
  match column.values.filter (!·.isNull) with
  | [] => none
  | first :: rest =>
      match least Datum.less first rest, least (fun left right => right.less left) first rest with
      | .ok smallest, .ok largest => some (smallest, largest)
      | _, _ => none

def nullCount (column : Column) : Nat := column.values.countP (·.isNull)

/-- Columns with equal cells; numbers are equal when their values are. -/
def equal (left right : Column) : Bool :=
  left.name == right.name && left.type == right.type &&
    Datum.equalItems left.values right.values

end Column

/-- The length of the first column, which is that of all columns. -/
def rowCountOf (columns : List Column) : Nat :=
  (columns.head?.map (·.values.length)).getD 0

def Aligned (columns : List Column) : Prop :=
  ∀ column ∈ columns, column.values.length = rowCountOf columns

instance (columns : List Column) : Decidable (Aligned columns) :=
  inferInstanceAs (Decidable (∀ column ∈ columns, _))

theorem aligned_of_length {columns : List Column} (count : Nat)
    (same : ∀ column ∈ columns, column.values.length = count) : Aligned columns := by
  intro column member
  cases columns with
  | nil => cases member
  | cons first rest =>
      simp only [rowCountOf, List.head?_cons, Option.map_some, Option.getD_some]
      rw [same column member, same first List.mem_cons_self]

/-- The first text of a list that already occurred before its place. -/
def firstRepeated (seen : List String) : List String → Option String
  | [] => none
  | name :: names => if seen.contains name then some name else firstRepeated (name :: seen) names

structure Table where
  columns : List Column
  aligned : Aligned columns
  distinct : (columns.map (·.name)).Nodup
deriving DecidableEq

namespace Table

def empty : Table := ⟨[], by simp [Aligned], by simp⟩

instance : Inhabited Table := ⟨empty⟩

/-! ## Construction -/

def ofColumns (columns : List Column) : Except TableProblem Table :=
  if aligned : Aligned columns then
    if distinct : (columns.map (·.name)).Nodup then .ok ⟨columns, aligned, distinct⟩
    else .error (.duplicateColumn ((firstRepeated [] (columns.map (·.name))).getD ""))
  else .error (.unevenColumns (columns.map fun column => (column.name, column.values.length)))

/-- The cells of one column of rows; a row that is too short has nulls. -/
def columnOfRows (rows : List (List Datum)) (index : Nat) : List Datum :=
  rows.map fun row => row.getD index .null

/--
A table with the given header and rows. Cells beyond the header are dropped,
and a type that is not given is found from the cells.
-/
def ofRows (header : List String) (rows : List (List Datum))
    (types : List (Option ColumnType)) : Except TableProblem Table :=
  ofColumns (header.mapIdx fun index name =>
    let values := columnOfRows rows index
    { name, values, type := ((types[index]?).join).getD (ColumnType.ofData values) })

/-- The same with types given by name. -/
def ofNamedRows (header : List String) (rows : List (List Datum))
    (types : List (Option String)) : Except TableProblem Table := do
  let resolved ← (header.zip types).mapM fun (name, type) => match type with
    | none => .ok none
    | some type => do return some (← Column.named name type []).type
  ofRows header rows resolved

/-! ## Shape -/

def header (table : Table) : List String := table.columns.map (·.name)

def types (table : Table) : List (String × ColumnType) :=
  table.columns.map fun column => (column.name, column.type)

def rowCount (table : Table) : Nat := rowCountOf table.columns

def equal (left right : Table) : Bool :=
  left.columns.length == right.columns.length &&
    (left.columns.zip right.columns).all fun (left, right) => left.equal right

def columnCount (table : Table) : Nat := table.columns.length

def indexOf? (table : Table) (name : String) : Option Nat :=
  table.columns.findIdx? (·.name = name)

def column? (table : Table) (name : String) : Option Column :=
  table.columns.find? (·.name = name)

def hasColumn (table : Table) (name : String) : Bool := (table.column? name).isSome

/-! ## Rows -/

/-- The first `count` rows of columns of cells. -/
def rowsOf : (count : Nat) → List (List Datum) → List (List Datum)
  | 0, _ => []
  | count + 1, columns =>
      columns.map (·.headD .null) :: rowsOf count (columns.map List.tail)

def rows (table : Table) : List (List Datum) :=
  rowsOf table.rowCount (table.columns.map (·.values))

/-- The rows of a table below the names of its columns. -/
def toRecords (table : Table) : List (List Datum) := table.header.map .text :: table.rows

/--
The table of rows below the names of its columns. Types are known by name; one
that is not known is found from the cells.
-/
def ofRecords (types : List (String × ColumnType)) : List (List Datum) → Except TableProblem Table
  | [] => .ok empty
  | names :: rows =>
      let header := names.map (Datum.plainIn Datum.openStyle)
      ofRows header rows (header.map fun name => types.lookup name)

/-- The table that is made of the header, the rows and the types of a table. -/
def rebuilt (table : Table) : Except TableProblem Table := ofRecords table.types table.toRecords

/-- The rows from `start` on, before `stop` when it is given. -/
def rowsBetween (table : Table) (start : Int) (stop : Option Int) : List (List Datum) :=
  let first := start.toNat
  let last := match stop with
    | none => table.rowCount
    | some stop => (min stop table.rowCount).toNat
  (table.rows.take last).drop first

/-- A place in a sequence; negative numbers count from its end. -/
def resolveIndex (length : Nat) (index : Int) : Option Nat :=
  if 0 ≤ index then
    if index < length then some index.toNat else none
  else if index.natAbs ≤ length then some (length - index.natAbs)
  else none

/-- The cell of a row and a column that the table has. -/
def cellAt (table : Table) (row column : Nat) : Datum :=
  match table.columns[column]? with
  | some column => column.values.getD row .null
  | none => .null

def row (table : Table) (index : Int) : Except Fault (List Datum) :=
  if table.columns.isEmpty then .ok []
  else match resolveIndex table.rowCount index with
    | some index => .ok (table.columns.map (·.values.getD index .null))
    | none => .error (.indexOutOfRange .row)

def cell (table : Table) (row column : Int) : Except Fault Datum :=
  match resolveIndex table.columnCount column with
  | none => .error (.indexOutOfRange .row)
  | some column =>
      match resolveIndex table.rowCount row with
      | none => .error (.indexOutOfRange .row)
      | some row => .ok (table.cellAt row column)

/-! ## Derived tables -/

def pick (table : Table) (indices : List Nat) : Table where
  columns := table.columns.map fun column =>
    let cells := column.values.toArray
    { column with values := indices.map fun index => cells[index]?.getD .null }
  aligned := by
    apply aligned_of_length indices.length
    intro column member
    obtain ⟨given, _, rfl⟩ := List.mem_map.1 member
    simp
  distinct := by
    simpa [Function.comp_def] using table.distinct

def take (table : Table) (indices : List Int) : Except Fault Table :=
  if table.columns.isEmpty then .ok table
  else match indices.mapM (resolveIndex table.rowCount) with
    | some indices => .ok (table.pick indices)
    | none => .error (.indexOutOfRange .row)

def project (table : Table) (names : List String) : Outcome Table := do
  let columns ← names.mapM fun name => match table.column? name with
    | some column => pure column
    | none => Outcome.fault (.noSuchKey (.text name))
  match ofColumns columns with
  | .ok table => pure table
  | .error problem => Outcome.fail (.table problem)

/-! ## Descriptions -/

/-- What the identity of a table is computed from: names and types, then the rows. -/
def fingerprintText (table : Table) : String :=
  let columnTexts := table.columns.map fun column =>
    Display.fixedList [Text.Quoted.encode column.name, Text.Quoted.encode column.type.name]
  let rowTexts := table.rows.map fun row => Display.fixedList (row.map Datum.quoted)
  String.join (columnTexts ++ rowTexts)

/-- How many columns a short description names. -/
def describedColumns : Nat := 8

def describe (table : Table) : String :=
  let pairs := table.types.map fun (name, type) => name ++ ":" ++ type.name
  let shown := ", ".intercalate (pairs.take describedColumns)
  let more := if describedColumns < pairs.length then ", …" else ""
  "Table(" ++ Decimal.natText table.rowCount ++ " rows; " ++ shown ++ more ++ ")"

end Table

end TableBrowser
