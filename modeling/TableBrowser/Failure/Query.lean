import TableBrowser.Datum.Display
import TableBrowser.Datum.Order
import TableBrowser.Table.ColumnType
import TableBrowser.Text.Similarity
/-!
# Failures of tables, expressions and steps

What a user is told is a report: a code, a message, and a hint where there is advice to
give. The status line shows message and hint in one line.
-/

namespace TableBrowser

open Text.Quoted (encode)

/-! ## Reports -/

inductive Category where
  | general
  | load
  | parse
  | query
  | export
  | unknownCommand
deriving DecidableEq, Repr

structure Report where
  category : Category
  code : String
  message : String
  hint : Option String := none
deriving DecidableEq, Repr

namespace Report

def lineEnds : List Char :=
  ['\n', '\r', '\x0b', '\x0c', '\x1c', '\x1d', '\x1e', '\u0085', '\u2028', '\u2029']

def firstLine (text : String) : String :=
  String.ofList (text.toList.takeWhile (!lineEnds.contains ·))

/-- One line for the status bar. -/
def statusText (report : Report) : String :=
  match report.hint with
  | none => report.message
  | some hint => if hint.isEmpty then report.message else report.message ++ " (" ++ firstLine hint ++ ")"

/-- Everything, the hint on a line of its own. -/
def fullText (report : Report) : String :=
  let base := "[" ++ report.code ++ "] " ++ report.message
  match report.hint with
  | none => base
  | some hint => if hint.isEmpty then base else base ++ "\nHint: " ++ hint

end Report

/-! ## Tables -/

inductive TableProblem where
  | unsupportedType (type column : String)
  | unevenColumns (lengths : List (String × Nat))
  | duplicateColumn (name : String)
deriving DecidableEq, Repr

def TableProblem.report : TableProblem → Report
  | .unsupportedType type column => {
      category := .query
      code := "E_UNSUPPORTED_OPERATION"
      message := "Unsupported column type " ++ encode type ++ " for column " ++ encode column ++ "."
      hint := some ("Supported types: " ++ ", ".intercalate (ColumnType.all.map ColumnType.name)) }
  | .unevenColumns lengths => {
      category := .query
      code := "E_TABLE_SHAPE"
      message := "All columns of a table must have the same length."
      hint := some (", ".intercalate (lengths.map fun (name, length) =>
        name ++ "=" ++ Decimal.natText length)) }
  | .duplicateColumn name => {
      category := .query
      code := "E_DUPLICATE_COLUMN"
      message := "Column name " ++ encode name ++ " appears more than once."
      hint := some "Rename one of the columns, e.g. with 'sql SELECT a AS a2, ...'." }

/-! ## Expressions -/

inductive ExpressionProblem where
  | unterminatedText
  | unexpectedCharacter (char : Char)
  /-- Both are given as they are shown. -/
  | expected (wanted found : String)
  | unexpected (found : String)
deriving DecidableEq, Repr

def ExpressionProblem.message : ExpressionProblem → String
  | .unterminatedText => "Unterminated string literal in expression."
  | .unexpectedCharacter char =>
      "Unexpected character " ++ encode (String.singleton char) ++ " in expression."
  | .expected wanted found => "Expected " ++ wanted ++ " but found " ++ found ++ "."
  | .unexpected found => "Unexpected " ++ found ++ " in expression."

structure ExpressionError where
  problem : ExpressionProblem
  source : String
  position : Nat
deriving DecidableEq, Repr

namespace ExpressionError

/-- The source with a caret below the place. -/
def pointer (error : ExpressionError) : String :=
  "At position " ++ Decimal.natText error.position ++ ": " ++ error.source ++ "\n" ++
    String.ofList (List.replicate error.position ' ') ++ "^"

def report (error : ExpressionError) : Report where
  category := .parse
  code := "E_EXPR_PARSE"
  message := error.problem.message
  hint := some error.pointer

end ExpressionError

/-! ## Steps -/

inductive NamedIn where
  | filterExpression
  | select
  | order
deriving DecidableEq, Repr

def NamedIn.phrase : NamedIn → String
  | .filterExpression => "filter expression"
  | .select => "select"
  | .order => "order"

def operationNames : List String := ["filter", "order", "select", "sql"]

inductive StepProblem where
  | unsupported (operation : String)
  | unknownColumn (name : String) (columns : List String) (place : NamedIn)
  | noExpression
  | strictNotBoolean
  | comparison (operator : String) (left right : Datum)
  | arithmetic (operator : String) (left right : Datum)
  | negation (value : Datum)
  | noColumns
  | repeatedColumns (names : List String)
  | noKeys
  | invalidKey (key : Datum)
  | unorderable (column : String) (clash : Clash)
  | noStatement
  | notAQuery (word : String)
  | loadingRelation (detail : String)
  | unknownSqlColumn (name : String) (columns : List String)
  | sqlSyntax (detail : String)
  | sqlFailed (detail relation : String)
deriving DecidableEq

def afterLastPoint (name : String) : String :=
  String.ofList (name.toList.reverse.takeWhile (· ≠ '.')).reverse

def StepProblem.report : StepProblem → Report
  | .unsupported operation => {
      category := .query
      code := "E_UNSUPPORTED_OPERATION"
      message := "Transform op '" ++ operation ++ "' is not supported."
      hint := some ("Supported ops: " ++ ", ".intercalate operationNames) }
  | .unknownColumn name columns place => {
      category := .query
      code := "E_UNKNOWN_COLUMN"
      message := "Unknown column " ++ encode name ++ " in " ++ place.phrase ++ "."
      hint := some (Text.suggestColumn name columns) }
  | .noExpression => {
      category := .parse
      code := "E_COMMAND_ARGS"
      message := "filter requires a non-empty expression."
      hint := some "Example: filter age >= 30 and country == 'KE'" }
  | .strictNotBoolean => {
      category := .parse
      code := "E_COMMAND_ARGS"
      message := "filter params.strict must be a boolean." }
  | .comparison operator left right => {
      category := .query
      code := "E_TYPE_MISMATCH"
      message := "Type mismatch in comparison: " ++ left.quoted ++ " " ++ operator ++ " " ++
        right.quoted ++ "."
      hint := some
        "Compare numbers with numbers and text with quoted text, e.g. name == 'Jo'." }
  | .arithmetic operator left right => {
      category := .query
      code := "E_TYPE_MISMATCH"
      message := "Cannot apply " ++ encode operator ++ " to " ++ left.quoted ++ " and " ++
        right.quoted ++ "."
      hint := some "Arithmetic works on numeric columns; '+' also joins two strings." }
  | .negation value => {
      category := .query
      code := "E_TYPE_MISMATCH"
      message := "Cannot negate " ++ value.quoted ++ "." }
  | .noColumns => {
      category := .parse
      code := "E_COMMAND_ARGS"
      message := "select requires a non-empty list of column names."
      hint := some "Example: select id,name" }
  | .repeatedColumns names => {
      category := .query
      code := "E_DUPLICATE_COLUMN"
      message := "select lists column(s) more than once: " ++ ", ".intercalate names ++ "." }
  | .noKeys => {
      category := .parse
      code := "E_COMMAND_ARGS"
      message := "order requires at least one sort key."
      hint := some "Example: order score:desc,name" }
  | .invalidKey key => {
      category := .parse
      code := "E_COMMAND_ARGS"
      message := "Invalid sort key " ++ key.quotedFixed ++ "."
      hint := some "Each key is column[:asc|desc], e.g. order score:desc" }
  | .unorderable column clash => {
      category := .query
      code := "E_TYPE_MISMATCH"
      message := "Column " ++ encode column ++ " holds values that cannot be ordered together."
      hint := some clash.message }
  | .noStatement => {
      category := .parse
      code := "E_COMMAND_ARGS"
      message := "sql requires a statement."
      hint := some "Example: sql SELECT country, count(*) AS n FROM df GROUP BY country" }
  | .notAQuery word => {
      category := .query
      code := "E_UNSUPPORTED_OPERATION"
      message := "Only queries are supported, not " ++ word ++ " statements."
      hint := some "Start the statement with SELECT or WITH." }
  | .loadingRelation detail => {
      category := .query
      code := "E_SQL_FAILED"
      message := "Could not load the view into SQLite: " ++ detail ++ "."
      hint := some "Columns holding very large integers or mixed values cannot be queried." }
  | .unknownSqlColumn name columns => {
      category := .query
      code := "E_UNKNOWN_COLUMN"
      message := "Unknown column " ++ encode name ++ " in sql statement."
      hint := some (Text.suggestColumn (afterLastPoint name) columns) }
  | .sqlSyntax detail => {
      category := .parse
      code := "E_SQL_PARSE"
      message := "Invalid sql statement: " ++ detail ++ "." }
  | .sqlFailed detail relation => {
      category := .query
      code := "E_SQL_FAILED"
      message := "sql failed: " ++ detail ++ "."
      hint := some ("The current view is available as '" ++ relation ++ "' (or '_').") }

end TableBrowser
