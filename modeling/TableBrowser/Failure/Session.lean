import TableBrowser.Failure.Query
import TableBrowser.Pattern.Syntax
/-!
# Failures of searches, commands and tabs
-/

namespace TableBrowser

open Text.Quoted (encode)

/-! ## Searches -/

inductive SearchProblem where
  | badPattern (error : Pattern.Error) (pattern : String)
  | unknownMode (name : String)
  | noActiveSearch
deriving DecidableEq, Repr

def searchModeNames : List String := ["literal", "regex", "fuzzy"]

def SearchProblem.report : SearchProblem → Report
  | .badPattern error pattern => {
      category := .parse
      code := "E_REGEX"
      message := "Invalid regular expression: " ++ error.problem.message ++ "."
      hint := some (match error.place with
        | some place => "At position " ++ Decimal.natText place ++ ": " ++ pattern
        | none => pattern) }
  | .unknownMode name => {
      category := .parse
      code := "E_COMMAND_ARGS"
      message := "Unknown search mode " ++ encode name ++ "."
      hint := some ("Modes: " ++ ", ".intercalate searchModeNames) }
  | .noActiveSearch => {
      category := .query
      code := "E_NO_SEARCH"
      message := "No active search."
      hint := some "Search with: find <text>" }

/-! ## Commands -/

inductive WordProblem where
  | noClosingQuote
  | noEscapedCharacter
deriving DecidableEq, Repr

def WordProblem.phrase : WordProblem → String
  | .noClosingQuote => "No closing quotation"
  | .noEscapedCharacter => "No escaped character"

inductive CommandProblem where
  | words (problem : WordProblem)
  | empty
  | unknown (verb : String) (suggestions : List String)
  | missing (verb what usage : String)
  | argumentCount (verb : String) (least most given : Nat) (usage : String)
  | unknownFindOption (flag : String)
  | columnOutOfRange (number : Int) (columns : Nat)
  | unknownColumn (name : String) (columns : List String)
  | rowNotANumber (text : String)
  | noSourceAndNoTab
deriving DecidableEq, Repr

def helpHint : String := "Type 'help' to list the available commands."

def CommandProblem.report : CommandProblem → Report
  | .words problem => {
      category := .parse
      code := "E_UNTERMINATED_QUOTE"
      message := "Could not split command: " ++ problem.phrase ++ "."
      hint := some "Close the quote, or escape it with a backslash." }
  | .empty => {
      category := .parse
      code := "E_COMMAND_ARGS"
      message := "Empty command."
      hint := some helpHint }
  | .unknown verb suggestions => {
      category := .unknownCommand
      code := "E_UNKNOWN_COMMAND"
      message := "Unknown command " ++ encode verb ++ "."
      hint := some (if suggestions.isEmpty then helpHint
        else "Did you mean: " ++ ", ".intercalate suggestions ++ "?") }
  | .missing verb what usage => {
      category := .parse
      code := "E_COMMAND_ARGS"
      message := verb ++ " requires " ++ what ++ "."
      hint := some ("Usage: " ++ usage) }
  | .argumentCount verb least most given usage => {
      category := .parse
      code := "E_COMMAND_ARGS"
      message := verb ++ " takes " ++
        (if least = most then Decimal.natText least
          else Decimal.natText least ++ " to " ++ Decimal.natText most) ++
        " argument(s), got " ++ Decimal.natText given ++ "."
      hint := some ("Usage: " ++ usage) }
  | .unknownFindOption flag => {
      category := .parse
      code := "E_COMMAND_ARGS"
      message := "Unknown find option " ++ encode flag ++ "."
      hint := some ("Options: --literal/-l, --regex/-r, --fuzzy/-f, --case/-c, --ignore-case/-i; " ++
        "use -- before a query that starts with '-'.") }
  | .columnOutOfRange number columns => {
      category := .query
      code := "E_COMMAND_ARGS"
      message := "Column number " ++ Decimal.intText number ++ " is out of range."
      hint := some ("The view has " ++ Decimal.natText columns ++ " column(s).") }
  | .unknownColumn name columns => {
      category := .query
      code := "E_UNKNOWN_COLUMN"
      message := "Unknown column " ++ encode name ++ "."
      hint := some (Text.suggestColumn name columns) }
  | .rowNotANumber text => {
      category := .parse
      code := "E_COMMAND_ARGS"
      message := "Row must be a number, got " ++ encode text ++ "."
      hint := some "Usage: goto <row> [col]" }
  | .noSourceAndNoTab => {
      category := .query
      code := "E_IR_SOURCE"
      message := "The pipeline document names no source and no tab is open."
      hint := some "Open a file first, then pipe-load the steps onto it." }

/-! ## Tabs -/

/-- What a tab was wanted for while it was still loading. -/
inductive WantedFor where
  | duplicate
  | edit
deriving DecidableEq, Repr

inductive Work where
  | loading
  | evaluation
deriving DecidableEq, Repr

inductive TabProblem where
  | none
  | loading (name : String) (wanted : WantedFor)
  | emptyView
  | nothingToUndo
  | noResult (work : Work)
deriving DecidableEq, Repr

def TabProblem.report : TabProblem → Report
  | .none => {
      category := .query
      code := "E_NO_TAB"
      message := "No tab is open."
      hint := some "Open a file with: tabnew <path>" }
  | .loading name wanted => {
      category := .query
      code := "E_TAB_LOADING"
      message := "Tab '" ++ name ++ "' is still loading."
      hint := match wanted with
        | .duplicate => Option.none
        | .edit => some "Wait for the data to appear, then repeat the command." }
  | .emptyView => {
      category := .query
      code := "E_EMPTY_VIEW"
      message := "The view has no rows to show." }
  | .nothingToUndo => {
      category := .query
      code := "E_NOTHING_TO_UNDO"
      message := "There are no pipeline steps to undo." }
  | .noResult work => {
      category := .query
      code := "E_INTERNAL"
      message := match work with
        | .loading => "Loading produced no table."
        | .evaluation => "Evaluation produced no table." }

end TableBrowser
