import TableBrowser.Command.Line
import TableBrowser.Pipeline.Document
import TableBrowser.Storage.Destination
import TableBrowser.Text.Basic
import TableBrowser.Workspace.Basic
/-!
# Executing commands

Executing a line answers with a message. A failure becomes the message, and so
the session goes on; a fault does not.
-/

namespace TableBrowser

structure Reply where
  message : String := ""
  quit : Bool := false
  /-- The failure behind the message, with the position of a step at fault. -/
  error : Option (Failure × Option Nat) := none
deriving DecidableEq

namespace Execution

open Act

def commandFails {α : Type} (problem : CommandProblem) : Act α := fail (.command problem)

/-! ## Arguments -/

def missing {α : Type} (command : Command) (what : String) : Act α :=
  commandFails (.missing command.verb.name what command.verb.usage)

def requireRaw (command : Command) (what : String) : Act String :=
  if command.raw.isEmpty then missing command what else return command.raw

def checkArity (command : Command) (least most : Nat) : Act Unit := do
  let given := command.arguments.length
  if given < least || most < given then
    commandFails (.argumentCount command.verb.name least most given command.verb.usage)

def argument (command : Command) (index : Nat) : String := command.arguments.getD index ""

/-- The second argument, null when there is none. -/
def formatArgument (command : Command) : Datum :=
  (command.arguments[1]?).elim .null .text

def countText (count : Nat) (what : String) : String := Decimal.natText count ++ " " ++ what

/-! ## Steps -/

def filter (command : Command) : Act Reply := do
  let condition ← requireRaw command "an expression"
  pushStep (.ofParams "filter" [("where", .text condition)])
  return { message := "filter " ++ condition }

def select (command : Command) : Act Reply := do
  let columns := Command.columns command.arguments
  if columns.isEmpty then missing command "at least one column"
  pushStep (.ofParams "select" [("columns", .list (columns.map .text))])
  return { message := "select " ++ ",".intercalate columns }

def order (command : Command) : Act Reply := do
  let keys := Command.sortKeys command.arguments
  if keys.isEmpty then missing command "at least one sort key"
  pushStep (.ofParams "order" [("keys", .list (keys.map fun key =>
    .list [.text key.column, .text key.direction.word]))])
  let texts := keys.map fun key => key.column ++ ":" ++ key.direction.word
  return { message := "order " ++ ",".intercalate texts }

def sql (command : Command) : Act Reply := do
  let statement ← requireRaw command "a statement"
  pushStep (.ofParams "sql" [("statement", .text statement)])
  return { message := "sql " ++ statement }

def undoStep (command : Command) : Act Reply := do
  checkArity command 0 0
  undo
  let tab ← requireTab
  return { message := countText tab.pipeline.steps.length "step(s)" }

def resetSteps (command : Command) : Act Reply := do
  checkArity command 0 0
  reset
  return { message := "pipeline reset" }

/-! ## Searching -/

def findText (command : Command) : Act Reply := do
  let request ← ofOutcome (Command.findRequest (← requireRaw command "search text"))
  if request.text.isEmpty then missing command "search text"
  discard (find request.text request.mode request.caseSensitive)
  return { message := (← get).status }

def findAgain (backwards : Bool) : Act Reply := do
  discard (findNext backwards)
  return { message := (← get).status }

/-! ## Moving -/

/-- The place of a column that is given by its name or its number. -/
def columnPlace (text : String) : Act Nat := do
  let view := (← requireTab).view
  match view.indexOf? text with
  | some index => return index
  | none =>
      if !text.isEmpty && text.toList.all Text.isDigit then
        match Numeral.int? text with
        | some number =>
            if 1 ≤ number && number ≤ view.columnCount then return (number - 1).toNat
            else commandFails (.columnOutOfRange number view.columnCount)
        | none => throw (.fault (.notDecimal text))
      else commandFails (.unknownColumn text view.header)

def goTo (command : Command) : Act Reply := do
  checkArity command 1 2
  let text := argument command 0
  let some row := Numeral.int? text | commandFails (.rowNotANumber text)
  let column ← match command.arguments[1]? with
    | some name => do pure (some ((← columnPlace name : Nat) : Int))
    | none => pure none
  moveTo (row - 1) column
  let tab ← requireTab
  return { message := "row " ++ Decimal.natText (tab.cursor.row + 1) ++ "/" ++
    Decimal.natText tab.view.rowCount }

def motion (command : Command) (move : Act Unit) : Act Reply := do
  checkArity command 0 0
  move
  return {}

/-! ## Tabs -/

def switch (places : Int) : Act Reply := do
  switchTab places
  return { message := ((← get).activeTab?.map (·.name)).getD "" }

def newTab (command : Command) : Act Reply := do
  checkArity command 1 2
  let source ← ofOutcome (Source.ofName (← get).files.surroundings (argument command 0)
    (formatArgument command) (.mapping []))
  openSource source []
  return { message := "loading " ++ source.name }

def close : Act Reply := do
  closeTab
  return { quit := (← get).quitRequested }

def duplicate : Act Reply := do
  let tab ← requireTab
  duplicateTab
  return { message := "duplicated " ++ tab.name }

def record (command : Command) : Act Reply := do
  checkArity command 0 0
  openRecord
  return { message := "opened " ++ ((← get).activeTab?.map (·.name)).getD "" }

/-! ## Files -/

def exportView (command : Command) : Act Reply := do
  checkArity command 1 2
  let view := (← requireTab).view
  let destination ← ofOutcome (Destination.ofName (← get).files (argument command 0)
    (formatArgument command) (.mapping []))
  let (files, outcome) := destination.write (← get).files view
  modify fun workspace => { workspace with files }
  ofOutcome outcome
  return { message := "exported " ++ countText view.rowCount "row(s) to " ++ destination.uri }

def savePipeline (command : Command) : Act Reply := do
  checkArity command 1 1
  let tab ← requireTab
  let source ← match tab.source with
    | some source => do pure (some (← ofFaulty source.document))
    | none => pure none
  let path := argument command 0
  let files ← ofOutcome (Document.save (← get).files path tab.pipeline.steps source)
  modify fun workspace => { workspace with files }
  return { message := "saved " ++ countText tab.pipeline.steps.length "step(s) to " ++ path }

def sourceOf (surroundings : Surroundings) (document : Datum) : Outcome Source :=
  let uri := match document.get "uri" with
    | .text uri => uri
    | _ => ""
  let options := document.get "options"
  Source.ofName surroundings uri (document.get "type")
    (if options.isTruthy then options else .mapping [])

def loadPipeline (command : Command) : Act Reply := do
  checkArity command 1 1
  let (steps, document) ← ofOutcome (Document.load (← get).files (argument command 0))
  match (← get).activeTab?, document with
  | some _, _ =>
      replaceSteps steps
      return { message := "loaded " ++ countText steps.length "step(s)" }
  | none, none => commandFails .noSourceAndNoTab
  | none, some document =>
      let source ← ofOutcome (sourceOf (← get).files.surroundings document)
      openSource source steps
      return { message := "loading " ++ source.name ++ " with " ++
        countText steps.length "step(s)" }

/-! ## Information -/

/-- Types of columns whose range is told. -/
def hasRange : ColumnType → Bool
  | .integer | .number | .datetime => true
  | _ => false

/-- Name and type of a column, its nulls if it has some, and its range. -/
def columnText (column : Column) : String :=
  let nulls := if column.nullCount = 0 then "" else " (" ++ countText column.nullCount "null)"
  let range := match column.bounds with
    | some (least, greatest) =>
        if hasRange column.type then " [" ++ least.cellText ++ ".." ++ greatest.cellText ++ "]"
        else ""
    | none => ""
  column.name ++ ":" ++ column.type.name ++ nulls ++ range

def schema : Act Reply := do
  let view := (← requireTab).view
  return { message := countText view.rowCount "rows | " ++
    ", ".intercalate (view.columns.map columnText) }

def pipeline : Act Reply := do
  let steps := (← requireTab).pipeline.steps
  if steps.isEmpty then return { message := "no steps" }
  let texts ← steps.zipIdx.mapM fun (step, index) => do
    return Decimal.natText (index + 1) ++ ". " ++ (← ofFaulty step.describe)
  return { message := " | ".intercalate texts }

def recentCommands (history : List String) : List String :=
  let last := history.drop (history.length - 11)
  last.dropLast

def history : Act Reply := do
  let recent := recentCommands (← get).history
  return { message := if recent.isEmpty then "history is empty" else " | ".intercalate recent }

def cell : Act Reply := do
  let tab ← requireTab
  let view := tab.view
  if view.rowCount = 0 || view.columnCount = 0 then return { message := "empty view" }
  let some name := view.header[tab.cursor.column]? | throw (.fault (.indexOutOfRange .list))
  let cell ← ofFaulty (view.cell tab.cursor.row tab.cursor.column)
  return { message := name ++ ": " ++ cell.cellText }

/-! ## The session -/

def quit : Act Reply := do
  modify fun workspace => { workspace with quitRequested := true }
  return { quit := true }

def usualSuggestion : Suggestion where
  cutoff := Binary64.ofRatio false 6 10
  count := 3

def help (command : Command) : Act Reply := do
  checkArity command 0 1
  match command.arguments.head? with
  | none => return { message := "commands: " ++ " ".intercalate Verb.names }
  | some name =>
      let verb ← ofOutcome (Command.lookUp usualSuggestion name)
      let others := if verb.otherNames.isEmpty then ""
        else " (aliases: " ++ ", ".intercalate verb.otherNames ++ ")"
      return { message := verb.usage ++ ": " ++ verb.description ++ others }

/-! ## Commands -/

def perform (command : Command) : Act Reply :=
  match command.verb with
  | .filter => filter command
  | .select => select command
  | .order => order command
  | .sql => sql command
  | .undo => undoStep command
  | .reset => resetSteps command
  | .find => findText command
  | .findNext => findAgain false
  | .findPrevious => findAgain true
  | .goto => goTo command
  | .top => motion command top
  | .bottom => motion command bottom
  | .firstColumn => motion command firstColumn
  | .lastColumn => motion command lastColumn
  | .nextTab => switch 1
  | .previousTab => switch (-1)
  | .newTab => newTab command
  | .closeTab => close
  | .duplicateTab => duplicate
  | .export => exportView command
  | .savePipeline => savePipeline command
  | .loadPipeline => loadPipeline command
  | .schema => schema
  | .pipeline => pipeline
  | .history => history
  | .cell => cell
  | .record => record command
  | .quit => quit
  | .help => help command

def suggestion (settings : Settings) : Suggestion where
  cutoff := settings.suggestionCutoff
  count := settings.maxSuggestions

/-- The reply to a failure, which tells of it. -/
def failed : Problem → Act Reply
  | .failure cause stepIndex =>
      return { message := cause.statusText, error := some (cause, stepIndex) }
  | .fault fault => throw (.fault fault)

end Execution

/-- Executes a command line, which is recorded in the history if that is wanted. -/
def Act.execute (line : String) (isRecorded : Bool) : Act Reply := do
  if isRecorded then modify (·.record line)
  let suggestion := Execution.suggestion (← get).settings
  tryCatch (do Execution.perform (← Act.ofOutcome (Command.parse suggestion line))) Execution.failed

end TableBrowser
