/-!
# Verbs

The commands that can be typed, with the other names they answer to, how they
are used, and what they do.
-/

namespace TableBrowser

inductive Verb where
  | filter
  | select
  | order
  | sql
  | undo
  | reset
  | find
  | findNext
  | findPrevious
  | goto
  | top
  | bottom
  | firstColumn
  | lastColumn
  | nextTab
  | previousTab
  | newTab
  | closeTab
  | duplicateTab
  | export
  | savePipeline
  | loadPipeline
  | schema
  | pipeline
  | history
  | cell
  | record
  | quit
  | help
deriving DecidableEq, Repr

namespace Verb

def all : List Verb := [
  .filter, .select, .order, .sql, .undo, .reset, .find, .findNext, .findPrevious, .goto, .top,
  .bottom, .firstColumn, .lastColumn, .nextTab, .previousTab, .newTab, .closeTab, .duplicateTab,
  .export, .savePipeline, .loadPipeline, .schema, .pipeline, .history, .cell, .record, .quit, .help]

def name : Verb → String
  | .filter => "filter"
  | .select => "select"
  | .order => "order"
  | .sql => "sql"
  | .undo => "undo"
  | .reset => "reset"
  | .find => "find"
  | .findNext => "find-next"
  | .findPrevious => "find-prev"
  | .goto => "goto"
  | .top => "top"
  | .bottom => "bottom"
  | .firstColumn => "first-col"
  | .lastColumn => "last-col"
  | .nextTab => "tabnext"
  | .previousTab => "tabprev"
  | .newTab => "tabnew"
  | .closeTab => "tabclose"
  | .duplicateTab => "tabdup"
  | .export => "export"
  | .savePipeline => "pipe-save"
  | .loadPipeline => "pipe-load"
  | .schema => "schema"
  | .pipeline => "pipeline"
  | .history => "history"
  | .cell => "cell"
  | .record => "record"
  | .quit => "quit"
  | .help => "help"

def otherNames : Verb → List String
  | .select => ["project"]
  | .order => ["order-by", "sort"]
  | .nextTab => ["next-tab"]
  | .previousTab => ["prev-tab"]
  | .newTab => ["new-tab", "open"]
  | .closeTab => ["close-tab"]
  | .export => ["save"]
  | .record => ["sheet"]
  | .quit => ["q"]
  | _ => []

def usage : Verb → String
  | .filter => "filter <expr>"
  | .select => "select <col>[,<col>...]"
  | .order => "order <col>[:asc|desc][,...]"
  | .sql => "sql <statement>"
  | .find =>
      "find [--literal|-l] [--regex|-r] [--fuzzy|-f] [--case|-c] [--ignore-case|-i] <text>"
  | .goto => "goto <row> [col]"
  | .newTab => "tabnew <path> [format]"
  | .export => "export <path> [format]"
  | .savePipeline => "pipe-save <path>"
  | .loadPipeline => "pipe-load <path>"
  | .help => "help [command]"
  | verb => verb.name

def description : Verb → String
  | .filter => "Keep rows where the expression is true."
  | .select => "Keep (and reorder) the named columns."
  | .order => "Stable sort by one or more columns; nulls last."
  | .sql => "Run a SELECT against the view (relation df)."
  | .undo => "Remove the last pipeline step."
  | .reset => "Remove every pipeline step."
  | .find => "Search every cell of the view and jump to the first match."
  | .findNext => "Jump to the next match (wraps)."
  | .findPrevious => "Jump to the previous match (wraps)."
  | .goto => "Move to a 1-based row and, optionally, a column."
  | .top => "Move to the first row."
  | .bottom => "Move to the last row."
  | .firstColumn => "Move to the first column."
  | .lastColumn => "Move to the last column."
  | .nextTab => "Activate the next tab."
  | .previousTab => "Activate the previous tab."
  | .newTab => "Open a file in a new tab."
  | .closeTab => "Close the active tab; the last one quits."
  | .duplicateTab => "Duplicate the active tab with its pipeline."
  | .export => "Write the current view to a csv, tsv or json file."
  | .savePipeline => "Save the pipeline steps as a YAML document."
  | .loadPipeline =>
      "Replace the pipeline with steps from a YAML document (opens its source when no tab is open)."
  | .schema => "Show column names, types, null counts and value ranges of the view."
  | .pipeline => "List the pipeline steps of the active tab."
  | .history => "Show the most recent commands."
  | .cell => "Show the full text of the cell under the cursor."
  | .record => "Open the row under the cursor as a field/value tab."
  | .quit => "Leave the viewer."
  | .help => "List commands, or describe one."

/-- Whether a verb takes the rest of its line as it is written, and not as words. -/
def takesExpression : Verb → Bool
  | .filter | .sql | .find => true
  | _ => false

def ofName? (name : String) : Option Verb :=
  all.find? fun verb => verb.name = name || verb.otherNames.contains name

def sortedNames (names : List String) : List String :=
  names.mergeSort fun left right => left ≤ right

/-- The names of all verbs, without their other names. -/
def names : List String := sortedNames (all.map name)

def knownNames : List String :=
  sortedNames (all.map name ++ all.flatMap otherNames)

end Verb

end TableBrowser
