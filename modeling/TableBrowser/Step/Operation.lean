import TableBrowser.Expression.Parser
import TableBrowser.Step.Basic
import TableBrowser.Text.Alphanumeric
import TableBrowser.Text.LetterCase
/-!
# Operations

Validating a step turns its parameters into an `Operation`: a filter with its
parsed condition, a selection of distinct columns, sort keys, or a query. The
columns that an operation names are checked against those of its input.
-/

namespace TableBrowser

inductive Direction where
  | ascending
  | descending
deriving DecidableEq, Repr

def Direction.word : Direction → String
  | .ascending => "asc"
  | .descending => "desc"

def Direction.ofWord? (word : String) : Option Direction :=
  if word = "asc" then some .ascending
  else if word = "desc" then some .descending
  else none

structure SortKey where
  column : String
  direction : Direction
deriving DecidableEq, Repr

inductive Operation where
  | filter (condition : Expression) (strict : Bool)
  | select (columns : List String)
  | order (keys : List SortKey)
  | sql (statement : String)

namespace Operation

/-! ## Parameters -/

def stepFails {α : Type} (problem : StepProblem) : Outcome α := Outcome.fail (.step problem)

def ofFilter (step : Step) : Outcome Operation :=
  match step.param "where" with
  | .text source =>
      if Text.isAllBlank source then stepFails .noExpression
      else match (step.param? "strict").getD (.boolean true) with
        | .boolean strict => do return .filter (← Expression.parse source) strict
        | _ => stepFails .strictNotBoolean
  | _ => stepFails .noExpression

/-- The names in a list of non-empty texts. -/
def columnNames? (datum : Datum) : Option (List String) :=
  match datum with
  | .list [] => none
  | .list items => items.mapM fun
      | .text name => if name.isEmpty then none else some name
      | _ => none
  | _ => none

/-- The names that occur more than once, each one time and in order. -/
def repeatedNames (names : List String) : List String :=
  (names.filter fun name => 1 < names.count name).eraseDups.mergeSort fun left right => left ≤ right

def ofSelect (step : Step) : Outcome Operation :=
  match columnNames? (step.param "columns") with
  | none => stepFails .noColumns
  | some names =>
      match repeatedNames names with
      | [] => return .select names
      | repeated => stepFails (.repeatedColumns repeated)

def sortKey (datum : Datum) : Outcome SortKey :=
  match datum with
  | .list [.text column, .text word] =>
      match Direction.ofWord? word with
      | some direction => return ⟨column, direction⟩
      | none => stepFails (.invalidKey datum)
  | _ => do
      datum.checkDigits.mapError .fault
      stepFails (.invalidKey datum)

def ofOrder (step : Step) : Outcome Operation :=
  match step.param "keys" with
  | .list (first :: rest) => do return .order (← (first :: rest).mapM sortKey)
  | _ => stepFails .noKeys

/-! A query starts with one of three words, perhaps after one parenthesis. -/

def queryWords : List (List Char) := ["select".toList, "with".toList, "values".toList]

/-- The letter of a keyword that a character stands for, whatever its case; a long s is an s, and an i may lack its dot. -/
def keywordLetter (char : Char) : Char :=
  if char = 'ſ' then 's' else if char = 'ı' then 'i' else Text.lowerChar char

def isWordPart (char : Char) : Bool := Text.isAlphanumeric char || char = '_'

/-- Whether the characters start with a keyword that ends there. -/
def startsWithWord (word chars : List Char) : Bool :=
  (chars.take word.length).map keywordLetter == word &&
    !((chars.drop word.length).head?.map isWordPart).getD false

def startsQuery (chars : List Char) : Bool :=
  let chars := chars.dropWhile Text.isBlank
  let chars := match chars with
    | '(' :: rest => rest.dropWhile Text.isBlank
    | chars => chars
  queryWords.any fun word => startsWithWord word chars

def ofSql (step : Step) : Outcome Operation :=
  match step.param "statement" with
  | .text statement =>
      if Text.isAllBlank statement then stepFails .noStatement
      else if startsQuery statement.toList then return .sql statement
      else
        let word := String.ofList (Text.splitFirstWord statement.toList).1
        stepFails (.notAQuery (Text.upper (Text.lower word)))
  | _ => stepFails .noStatement

/-- The operation of a step whose parameters are valid. -/
def ofStep (step : Step) : Outcome Operation :=
  if step.operation = "filter" then ofFilter step
  else if step.operation = "select" then ofSelect step
  else if step.operation = "order" then ofOrder step
  else if step.operation = "sql" then ofSql step
  else stepFails (.unsupported step.operation)

/-! ## Columns -/

/-- The columns that an operation names, and where it names them. -/
def namedColumns : Operation → NamedIn × List String
  | .filter condition _ => (.filterExpression, condition.columns)
  | .select columns => (.select, columns)
  | .order keys => (.order, keys.map (·.column))
  | .sql _ => (.select, [])

/-- Fails on the first named column that is not among the given ones. -/
def checkColumns (operation : Operation) (columns : List String) : Outcome Unit :=
  let (place, names) := operation.namedColumns
  match names.find? (!columns.contains ·) with
  | some name => stepFails (.unknownColumn name columns place)
  | none => return ()

end Operation

namespace Step

/-- Checks parameters, and columns when those of the input are known. -/
def validate (step : Step) (columns : Option (List String)) : Outcome Operation := do
  let operation ← Operation.ofStep step
  match columns with
  | some columns => operation.checkColumns columns
  | none => pure ()
  return operation

end Step

end TableBrowser
