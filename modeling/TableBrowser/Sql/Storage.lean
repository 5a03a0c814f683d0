import TableBrowser.Json.Writing
import TableBrowser.Sql.Evaluation
import TableBrowser.Table.Basic
/-!
# Tables as relations

A table becomes a relation before it is queried. Truth values are stored as 0
and 1, dates and times as their text, lists and mappings as JSON, and what is
not a number as null. Columns of numbers and truth values have an affinity.
-/

namespace TableBrowser.Sql

def stored : Datum → Datum
  | .boolean value => .integer (if value then 1 else 0)
  | .date value => .text value.text
  | .moment value => .text value.text
  | .time value => .text value.text
  | .list items => .text (Json.form .given (.list items))
  | .mapping entries => .text (Json.form .given (.mapping entries))
  | datum => datum

def Value.ofStored : Datum → Except Problem Value
  | .integer value => if fits value then .ok (.integer value) else .error .largeInteger
  | .number value => .ok (.ofBinary64 value)
  | .text value => .ok (.text value)
  | .bytes value => .ok (.blob value)
  | _ => .ok .null

def columnAffinity : ColumnType → Affinity
  | .integer | .boolean => .integer
  | .number => .real
  | .string | .datetime | .null => .none

def repeatedName (used : List String) : List String → Option String
  | [] => none
  | name :: names => if listed used name then some name else repeatedName (name :: used) names

/-- A relation without columns has one that is always empty. -/
def placeholder : RelationColumn := ⟨"_empty", .integer⟩

def relationColumns (table : Table) : List RelationColumn :=
  if table.columns.isEmpty then [placeholder]
  else table.columns.map fun column => ⟨column.name, columnAffinity column.type⟩

/-- Names that begin with this are not for relations. -/
def reservedStart : String := "sqlite_"

/-- How many columns a relation may have. -/
def columnLimit : Nat := 2000

def checkNames (relation : String) (columns : List RelationColumn) : Except Problem Unit := do
  let names := columns.map RelationColumn.name
  if (relation :: names).any (·.toList.contains '\x00') then throw .nullCharacter
  if sameName (String.ofList (relation.toList.take reservedStart.length)) reservedStart then
    throw (.reservedName relation)
  -- Columns are taken one after the other, so that a repeated name beyond the limit is not seen.
  match repeatedName [] (names.take columnLimit) with
  | some name => throw (.duplicateColumn name)
  | none => if columnLimit < names.length then throw (.tooManyColumns relation) else return ()

/-- The relation that holds the rows of a table. -/
def relationOf (name : String) (table : Table) : Except Problem Relation := do
  let columns := relationColumns table
  checkNames name columns
  let rows ← table.rows.mapM fun row =>
    (row.zip columns).mapM fun (cell, column) => do
      return column.affinity.store (← Value.ofStored (stored cell))
  return { name, columns, rows }

/-- The short name under which the queried relation can be read as well. -/
def shortName : String := "_"

/-- The relation of a table under its name, and under the short one. -/
def relationsOf (name : String) (table : Table) : Except Problem (List Relation) := do
  let relation ← relationOf name table
  return [relation, { relation with name := shortName }]

end TableBrowser.Sql
