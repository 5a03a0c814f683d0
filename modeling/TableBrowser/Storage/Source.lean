import TableBrowser.Datum.Elements
import TableBrowser.Delimited.Reading
import TableBrowser.Json.Reading
import TableBrowser.Sql.Syntax
import TableBrowser.Storage.Format
import TableBrowser.Table.Basic
import TableBrowser.Table.Inference
/-!
# Sources

A source is a file that can be opened as a table. Its first row names the
columns. The types of the columns are found from their cells; columns of
delimited text are read as text, others only when they hold text.
-/

namespace TableBrowser.Records

/-! ## Records in JSON

A list of objects becomes rows under the names that the first objects have. A
name that an object lacks has a missing value there. What is not an object has
no names, and cannot be asked for a value.
-/

/-- How many objects are looked at for names. -/
def defaultSample : Nat := 1000

/-- The names that objects have, in the order in which they appear. -/
def namesIn (data : List Datum) : List Datum :=
  data.foldl (fun names datum =>
    match datum with
    | .mapping entries => names ++ (entries.map (·.1)).filter (!names.contains ·)
    | _ => names) []

def valueUnder (missing datum name : Datum) : Except Fault Datum :=
  match datum, name with
  | .mapping entries, .text _ =>
      .ok (((entries.find? (·.1 = name)).map (·.2)).getD missing)
  | .mapping _, .list _ => .error (.unhashable "list")
  | .mapping _, .mapping _ => .error (.unhashable "dict")
  | .mapping _, _ => .ok missing
  | datum, _ => .error (.noAttribute datum.kindName "get")

def row (missing : Datum) (header : List Datum) (datum : Datum) : Except Fault (List Datum) :=
  header.mapM (valueUnder missing datum)

def rowsUnder (missing : Datum) (header : List Datum) (data : List Datum) :
    Except Fault (List (List Datum)) := do
  return header :: (← data.mapM (row missing header))

/-- The header and the rows of the data that a whole document holds. -/
def rowsOf (missing : Datum) (header : Option (List Datum)) (sample : Nat) (document : Datum) :
    Except Fault (List (List Datum)) := do
  let data ← document.elements
  rowsUnder missing (header.getD (namesIn (data.take sample))) data

/-- The header and the rows of a document of its own in each line. -/
def rowsOfLines (missing : Datum) (header : Option (List Datum)) (data : List Datum) :
    Except Fault (List (List Datum)) :=
  match header, data with
  | some header, data => rowsUnder missing header data
  | none, first :: _ => rowsUnder missing (namesIn [first]) data
  | none, [] => .error .textEnded

end TableBrowser.Records

namespace TableBrowser

structure Source where
  uri : String
  format : Format
  options : Datum

namespace Source

def loadFails {α : Type} (problem : LoadProblem) : Outcome α := Outcome.fail (.load problem)

/-- A source whose format is given or found from its name. -/
def ofName (surroundings : Surroundings) (uri : String) (given options : Datum) :
    Outcome Source := do
  let uri ← (surroundings.normalize none uri).mapError .fault
  match Format.chosen given uri with
  | .null => loadFails (.unknownFormat uri)
  | .text name =>
      match Format.ofName? name with
      | some format => return { uri, format, options }
      | none => loadFails (.unsupportedFormat name)
  | other => loadFails (.unsupportedFormat (other.plainIn Datum.openStyle))

/-- What comes after the last slash of a name, or the name when that is nothing. -/
def name (source : Source) : String :=
  let last := source.uri.toList.reverse.takeWhile (· ≠ '/')
  if last.isEmpty then source.uri else String.ofList last.reverse

/-- The document of a source: where it is, its format, and options when it has some. -/
def document (source : Source) : Except Fault Datum := do
  let options ← if source.options.isTruthy then do
      pure [("options", .mapping (← source.options.entriesOf))]
    else pure []
  return Datum.ofFields
    ([("uri", .text source.uri), ("type", .text source.format.name)] ++ options)

def describe (source : Source) : String :=
  "Source(\"" ++ source.uri ++ "\")  kind=" ++ source.format.name

def checkExists (tree : FileTree) (source : Source) : Outcome Unit :=
  if tree.fileExists source.uri then return ()
  else loadFails (.notFound source.uri)

def unparsable {α : Type} (source : Source) (detail : String) : Outcome α :=
  loadFails (.unparsable source.uri detail source.format.name)

/-! ## Files -/

/-- The bytes of a file; a database has none that are text. -/
def bytes (tree : FileTree) (source : Source) : Outcome (List UInt8) :=
  match tree.read source.uri with
  | .ok (.bytes content) => return content
  | .ok (.database _) => loadFails (.undecodable source.uri Encoding.DecodeProblem.startByte.reason)
  | .error problem => loadFails (.inaccessible source.uri problem)

def text (source : Source) (encoding : Encoding) (leniency : Encoding.Leniency)
    (bytes : List UInt8) : Outcome (List Char) :=
  match encoding.decode leniency bytes, leniency with
  | .ok text, _ => return text
  | .error .noByteOrderMark, _ =>
      source.unparsable Encoding.DecodeProblem.noByteOrderMark.reason
  | .error _, .unknown name => Outcome.fault (.unknownLeniency name)
  | .error problem, _ => loadFails (.undecodable source.uri problem.reason)

def givenHeader (options : Options) : Except Fault (Option (List Datum)) :=
  match options.value "header" with
  | .null => .ok none
  | header => header.elements.map some

/-! ## Delimited text -/

def stopped {α : Type} (source : Source) : Delimited.Stop → Outcome α
  | .text problem => source.unparsable problem.message
  | .notANumber field =>
      source.unparsable ("could not convert string to float: " ++ Text.Quoted.encode field)
  | .option fault => Outcome.fault fault

def delimitedRows (tree : FileTree) (source : Source) (usual : Delimited.Dialect) :
    Outcome (List (List Datum)) := do
  let options ← (Options.ofDatum source.options).mapError .fault
  let header ← (givenHeader options).mapError .fault
  let bytes ← source.bytes tree
  let encoding ← options.encoding.mapError .fault
  let leniency ← options.leniency.mapError .fault
  let dialect ← match Delimited.dialectOf (options.without ["encoding", "errors", "header"]) usual with
    | .ok dialect => pure dialect
    | .error stop => source.stopped stop
  let text ← source.text encoding leniency bytes
  match Delimited.records dialect text with
  | .ok records => return header.toList ++ records
  | .error stop => source.stopped stop

/-! ## JSON -/

def jsonOptionNames : List String := ["header", "missing", "sample", "lines", "strict"]

/-- The number of objects that are looked at for names. -/
def sampleSize (options : Options) : Except Fault Nat :=
  match options.lookup "sample" with
  | none => .ok Records.defaultSample
  | some (.integer size) =>
      if 0 ≤ size then .ok size.toNat
      else .error (.badValue
        "Stop argument for islice() must be None or an integer: 0 <= x <= sys.maxsize.")
  | some _ => .error (.badValue
      "Stop argument for islice() must be None or an integer: 0 <= x <= sys.maxsize.")

def jsonDocument (source : Source) (text : List Char) : Outcome Datum :=
  match Json.read (String.ofList text) with
  | .ok document => return document
  | .error error => source.unparsable error.message

def jsonRows (tree : FileTree) (source : Source) : Outcome (List (List Datum)) := do
  let options ← (Options.ofDatum source.options).mapError .fault
  let bytes ← source.bytes tree
  let header ← (givenHeader options).mapError .fault
  let missing := options.value "missing"
  if (options.value "lines").isTruthy then
    let lines := Delimited.lines (← source.text .utf8 .strict bytes)
    let data ← lines.mapM (source.jsonDocument)
    (Records.rowsOfLines missing header data).mapError .fault
  else
    let text ← source.text .utf8 .strict bytes
    match options.find? fun (name, _) => !jsonOptionNames.contains name with
    | some (name, _) => Outcome.fault (.badArgument
        ("JSONDecoder.__init__() got an unexpected keyword argument '" ++ name ++ "'"))
    | none => pure ()
    let document ← source.jsonDocument text
    let sample ← (sampleSize options).mapError .fault
    (Records.rowsOf missing header sample document).mapError .fault

/-! ## Databases -/

/-- The name of a table; without an option it is the first in order. -/
def tableName (source : Source) (given : Datum) (tables : List StoredTable) : Outcome String :=
  match given with
  | .text name => if name.isEmpty then first else return name
  | given =>
      if given.isTruthy then Outcome.fault (.noAttribute given.kindName "replace") else first
where
  first : Outcome String :=
    match (tables.map (·.name)).mergeSort (· ≤ ·) with
    | name :: _ => return name
    | [] => loadFails (.noTables source.uri)

def storedRows (table : StoredTable) : List (List Datum) :=
  table.columns.map (Datum.text ·.1) :: table.rows.map (·.map Sql.Value.toDatum)

def databaseRows (tree : FileTree) (source : Source) : Outcome (List (List Datum)) := do
  let given ← match source.options with
    | .mapping _ => pure (source.options.get "table")
    | options => Outcome.fault (.noAttribute options.kindName "get")
  let tables ← match tree.read source.uri with
    | .ok (.database tables) => pure tables
    | .ok (.bytes []) => pure []
    | .ok (.bytes _) => source.unparsable "file is not a database"
    | .error _ => source.unparsable "unable to open database file"
  let name ← source.tableName given tables
  match tables.find? fun table => Sql.sameName table.name name with
  | some table => return storedRows table
  | none => source.unparsable ("no such table: " ++ name)

/-! ## Tables -/

/-- The type of a column and its cells; delimited text is read as other types. -/
def typed (format : Format) (cells : List Datum) : ColumnType × List Datum :=
  match format with
  | .csv | .tsv => Inference.column cells
  | .json | .sqlite =>
      let type := ColumnType.ofData cells
      if type = .string then Inference.column cells else (type, cells)

/-- The columns of rows under the names of the first row. -/
def columnsOf (format : Format) (header : List Datum) (rows : List (List Datum)) : List Column :=
  header.mapIdx fun index name =>
    let (type, values) := typed format (Table.columnOfRows rows index)
    { name := name.plainIn Datum.openStyle, type, values }

def tableOfRows (source : Source) : List (List Datum) → Outcome Table
  | [] => return .empty
  | header :: rows =>
      match Table.ofColumns (columnsOf source.format header rows) with
      | .ok table => return table
      | .error problem => loadFails (.noTable source.uri problem)

def rows (tree : FileTree) (source : Source) : Outcome (List (List Datum)) :=
  match source.format with
  | .csv => source.delimitedRows tree Delimited.commas
  | .tsv => source.delimitedRows tree Delimited.tabs
  | .json => source.jsonRows tree
  | .sqlite => source.databaseRows tree

def load (tree : FileTree) (source : Source) : Outcome Table := do
  source.checkExists tree
  source.tableOfRows (← source.rows tree)

end Source

end TableBrowser
