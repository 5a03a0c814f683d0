import TableBrowser.Pipeline.Document
/-!
# Settings

What a session can be tuned by. A file of settings gives any of them by name
and leaves the others as they are.
-/

namespace TableBrowser

structure Settings where
  historySize : Int := 500
  minColumnWidth : Int := 3
  maxColumnWidth : Int := 40
  widthSampleRows : Int := 200
  fuzzyThreshold : Binary64 := .ofRatio false 1 2
  suggestionCutoff : Binary64 := .ofRatio false 6 10
  maxSuggestions : Int := 3
  /-- How many workers evaluate in the background, when that is set. -/
  workers : Option Int := none
  cacheSize : Int := 16
  sqlTableName : String := "df"
  ellipsis : String := "…"
deriving DecidableEq

namespace Settings

def names : List String := [
  "cache_size", "ellipsis", "fuzzy_threshold", "history_size", "max_column_width",
  "max_suggestions", "min_column_width", "sql_table_name", "suggestion_cutoff",
  "width_sample_rows", "workers"]

def fails {α : Type} (problem : SettingsProblem) : Outcome α := Outcome.fail (.settings problem)

/-! ## Values by name -/

def wrongKind {α : Type} (name expected : String) (value : Datum) : Outcome α :=
  fails (.wrongKind (.text name) expected value.className)

def wholeValue (name : String) : Datum → Outcome Int
  | .integer value => return value
  | value => wrongKind name "int" value

/-- A number, also from a whole number, which must not be too large for one. -/
def numberValue (name : String) : Datum → Outcome Binary64
  | .number value => return value
  | .integer value =>
      if (Binary64.ofInt value).isFinite then return .ofInt value else Outcome.fault .largeInteger
  | value => wrongKind name "float" value

def textValue (name : String) : Datum → Outcome String
  | .text value => return value
  | value => wrongKind name "str" value

def workersValue (name : String) : Datum → Outcome (Option Int)
  | .null => return none
  | value => return some (← wholeValue name value)

/-- The settings with one of them given; a name that is none leaves them as they are. -/
def withValue (settings : Settings) (name : String) (value : Datum) : Outcome Settings := do
  match name with
  | "history_size" => return { settings with historySize := ← wholeValue name value }
  | "min_column_width" => return { settings with minColumnWidth := ← wholeValue name value }
  | "max_column_width" => return { settings with maxColumnWidth := ← wholeValue name value }
  | "width_sample_rows" => return { settings with widthSampleRows := ← wholeValue name value }
  | "fuzzy_threshold" => return { settings with fuzzyThreshold := ← numberValue name value }
  | "suggestion_cutoff" => return { settings with suggestionCutoff := ← numberValue name value }
  | "max_suggestions" => return { settings with maxSuggestions := ← wholeValue name value }
  | "workers" => return { settings with workers := ← workersValue name value }
  | "cache_size" => return { settings with cacheSize := ← wholeValue name value }
  | "sql_table_name" => return { settings with sqlTableName := ← textValue name value }
  | "ellipsis" => return { settings with ellipsis := ← textValue name value }
  | _ => return settings

/-! ## Limits -/

/-- Fails with a problem that tells some of the data, which must be short enough to be written. -/
def failsTelling {α : Type} (told : List Datum) (problem : SettingsProblem) : Outcome α :=
  if told.any Datum.hasLongInteger then Outcome.fault .longInteger else fails problem

/-- The settings, when widths, sizes and workers are within their limits. -/
def checked (settings : Settings) : Outcome Settings := do
  let narrowest := settings.minColumnWidth
  let widest := settings.maxColumnWidth
  if narrowest < 1 then failsTelling [.integer narrowest] (.narrowColumns narrowest)
  if widest < narrowest then
    failsTelling [.integer narrowest, .integer widest] (.crossedWidths narrowest widest)
  if settings.historySize < 1 || settings.cacheSize < 1 || settings.widthSampleRows < 1 then
    fails .notPositive
  if (settings.workers.map fun count => decide (count < 1)).getD false then fails .noWorkers
  return settings

/-! ## Documents -/

/-- Puts a key in front of the first that is greater. -/
def insertKey (key : Datum) : List Datum → Except Clash (List Datum)
  | [] => return [key]
  | first :: rest => do
      if ← key.less first then return key :: first :: rest
      return first :: (← insertKey key rest)

def sortedKeys (keys : List Datum) : Except Clash (List Datum) :=
  keys.foldlM (fun sorted key => insertKey key sorted) []

/-- The name that a key of a document is, when it is the name of a setting. -/
def nameOf? : Datum → Option String
  | .text name => if names.contains name then some name else none
  | _ => none

def ofDocument (document : Datum) : Outcome Settings := do
  let .mapping entries := document | fails .notAMapping
  let unknown := (entries.map (·.1)).filter fun key => (nameOf? key).isNone
  let unknown ← (sortedKeys unknown).mapError fun clash => .fault (.incomparable clash)
  if !unknown.isEmpty then
    failsTelling unknown (.unknownKeys (unknown.map (Datum.plainIn Datum.openStyle)) names)
  let settings ← entries.foldlM (fun settings (key, value) =>
    match nameOf? key with
    | some name => withValue settings name value
    | none => return settings) ({} : Settings)
  settings.checked

/-- The settings in a file; a file with nothing in it changes none. -/
def load (tree : FileTree) (path : String) : Outcome Settings := do
  let path := Path.ofText path
  let text ← tree.readText path fun problem => .settings (.unreadable path.text problem)
  let document ← Yaml.datumOf text (.settings .malformed)
  ofDocument (if document.isTruthy then document else .mapping [])

end Settings

end TableBrowser
