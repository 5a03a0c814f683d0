import TableBrowser.Datum.Basic
/-!
# Types of columns

The type of a column says what its cells hold beside nulls. Data of mixed types
make a text column, except that whole numbers join numbers.
-/

namespace TableBrowser

inductive ColumnType where
  | integer
  | number
  | boolean
  | string
  | datetime
  | null
deriving DecidableEq, Repr, Inhabited

namespace ColumnType

def all : List ColumnType := [.integer, .number, .boolean, .string, .datetime, .null]

def name : ColumnType → String
  | .integer => "integer"
  | .number => "number"
  | .boolean => "boolean"
  | .string => "string"
  | .datetime => "datetime"
  | .null => "null"

def ofName? (name : String) : Option ColumnType := all.find? (·.name = name)

/-- The type of one cell; everything without a type of its own counts as text. -/
def ofDatum : Datum → ColumnType
  | .null => .null
  | .boolean _ => .boolean
  | .integer _ => .integer
  | .number _ => .number
  | .date _ | .moment _ | .time _ => .datetime
  | .text _ | .bytes _ | .list _ | .mapping _ => .string

/-- The type of a column that holds two types of cells. -/
def join : ColumnType → ColumnType → ColumnType
  | .null, right => right
  | left, .null => left
  | .integer, .number => .number
  | .number, .integer => .number
  | left, right => if left = right then left else .string

def ofData (data : List Datum) : ColumnType :=
  data.foldl (fun joined datum => joined.join (ofDatum datum)) .null

example : ofData [.integer 1, .null, .number .zero] = .number := by decide
example : ofData [.boolean true, .integer 1] = .string := by decide

end ColumnType

end TableBrowser
