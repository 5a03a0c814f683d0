import TableBrowser.Expression.Evaluation
import TableBrowser.Sql.Storage
import TableBrowser.Step.Operation
import TableBrowser.Table.Inference
/-!
# Query steps

A query step stores its input as a relation, runs its statement, and makes a
table of the answer. Columns whose types were lost on the way are given back the
type of the input's column of the same name.
-/

namespace TableBrowser.Querying

/-! ## Failures -/

/-- What follows the first occurrence of some characters whose rest a test accepts. -/
def afterMark {α : Type} (mark : List Char) (accept : List Char → Option α) :
    List Char → Option α
  | [] => if mark.isEmpty then accept [] else none
  | char :: chars =>
      let found := if mark.isPrefixOf (char :: chars) then
          accept ((char :: chars).drop mark.length)
        else none
      match found with
      | some result => some result
      | none => afterMark mark accept chars

/-- The rest of the last line, when it is not empty; one line end may follow it. -/
def restOfLastLine (chars : List Char) : Option (List Char) :=
  let line := chars.takeWhile (· ≠ '\n')
  let rest := chars.drop line.length
  if line.isEmpty || !(rest = [] || rest = ['\n']) then none else some line

def unknownColumnMark : String := "no such column: "

def syntaxMarks : List String := ["syntax error", "incomplete input", "unrecognized token"]

/-- The failure that a message of the query engine stands for. -/
def problemOf (message : String) (columns : List String) (relation : String) : StepProblem :=
  match afterMark unknownColumnMark.toList restOfLastLine message.toList with
  | some name => .unknownSqlColumn (Text.trim (String.ofList name)) columns
  | none =>
      if syntaxMarks.any fun mark => Text.occursIn mark.toList message.toList then
        .sqlSyntax message
      else .sqlFailed message relation

/-! ## Restoring types -/

def isZeroOneOrNull (datum : Datum) : Bool :=
  [Datum.null, .integer 0, .integer 1].any datum.equal

def asBoolean (datum : Datum) : Datum :=
  if datum.isNull then .null else .boolean (Expression.isTrue datum)

/-- A cell as the text that types are found from. -/
def asPlainText (datum : Datum) : Datum :=
  if datum.isNull then .null else .text (datum.plainIn Datum.openStyle)

/-- A column of an answer, given the type of the input's column of the same name. -/
def restoreColumn (wanted : ColumnType) (column : Column) : Column :=
  if column.type = .null then { column with type := wanted }
  else if wanted = .boolean ∧ column.type = .integer ∧ column.values.all isZeroOneOrNull then
    { column with type := .boolean, values := column.values.map asBoolean }
  else if wanted = .datetime ∧ column.type ≠ wanted then
    let (type, values) := Inference.column (column.values.map asPlainText)
    if type = wanted then { column with type, values } else column
  else column

theorem name_restoreColumn (wanted : ColumnType) (column : Column) :
    (restoreColumn wanted column).name = column.name := by
  unfold restoreColumn
  split
  · rfl
  · split
    · rfl
    · split
      · simp only
        split <;> rfl
      · rfl

theorem length_restoreColumn (wanted : ColumnType) (column : Column) :
    (restoreColumn wanted column).values.length = column.values.length := by
  unfold restoreColumn
  split
  · rfl
  · split
    · simp
    · split
      · simp only
        split
        · simp [Inference.length_column]
        · rfl
      · rfl

def restoreFrom (source : Table) (column : Column) : Column :=
  match source.column? column.name with
  | some known => restoreColumn known.type column
  | none => column

/-- An answer with the types that its columns have in the queried table. -/
def restoreTypes (answer source : Table) : Table where
  columns := answer.columns.map (restoreFrom source)
  aligned := by
    apply aligned_of_length answer.rowCount
    intro column member
    obtain ⟨given, givenMember, rfl⟩ := List.mem_map.1 member
    have length : (restoreFrom source given).values.length = given.values.length := by
      unfold restoreFrom
      split
      · exact length_restoreColumn ..
      · rfl
    rw [length]
    exact answer.aligned given givenMember
  distinct := by
    have names : (answer.columns.map (restoreFrom source)).map (·.name) =
        answer.columns.map (·.name) := by
      rw [List.map_map]
      apply List.map_congr_left
      intro column _
      unfold restoreFrom
      simp only [Function.comp_def]
      split
      · exact name_restoreColumn ..
      · rfl
    rw [names]
    exact answer.distinct

/-! ## Running a statement -/

/-- The table of an answer; its types are those of its cells. -/
def tableOf (answer : Sql.Answer) : Except TableProblem Table :=
  Table.ofRows (answer.columns.map (·.name)) (answer.rows.map fun row => row.map Sql.Value.toDatum) []

/-- The table that a statement makes of another one, which it reads under a name. -/
def run (relation statement : String) (table : Table) : Outcome Table :=
  match Sql.relationsOf relation table with
  | .error problem => Operation.stepFails (.loadingRelation problem.message)
  | .ok relations =>
      match Sql.run relations statement with
      | .error problem =>
          Operation.stepFails (problemOf problem.message table.header relation)
      | .ok answer =>
          match tableOf answer with
          | .error problem => Outcome.fail (.table problem)
          | .ok answer => return restoreTypes answer table

end TableBrowser.Querying
