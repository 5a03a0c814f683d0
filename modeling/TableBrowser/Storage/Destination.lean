import TableBrowser.Delimited.Dialect
import TableBrowser.Json.Layout
import TableBrowser.Storage.Format
import TableBrowser.Table.Basic
/-!
# Destinations

A destination is a file that a table is written to. Delimited text holds what
the cells show; JSON holds their values, with dates and times as text. Writing
that fails midway leaves what was written before.
-/

namespace TableBrowser

structure Destination where
  uri : String
  format : Format
  options : Datum

namespace Destination

def exportFails {α : Type} (problem : ExportProblem) : Outcome α := Outcome.fail (.export problem)

def directoryOf (uri : String) : String :=
  let chars := uri.toList
  let head := (chars.reverse.dropWhile (· ≠ '/')).reverse
  let trimmed := (head.reverse.dropWhile (· = '/')).reverse
  let directory := if trimmed.isEmpty then head else trimmed
  if directory.isEmpty then "." else String.ofList directory

/-- A destination in a directory that exists; its format is given or found from its name. -/
def ofName (tree : FileTree) (uri : String) (given options : Datum) : Outcome Destination := do
  let uri ← (tree.surroundings.normalize none uri).mapError .fault
  let format ← match Format.chosen given uri with
    | .null => exportFails (.unknownFormat uri)
    | other =>
        let name := other.plainIn Datum.openStyle
        match Format.ofName? name with
        | some .sqlite | none => exportFails (.unsupportedFormat name)
        | some format => pure format
  if tree.directoryExists (directoryOf uri) then return { uri, format, options }
  else exportFails (.noDirectory (directoryOf uri))

def describe (destination : Destination) : String :=
  "Sink(\"" ++ destination.uri ++ "\")  kind=" ++ destination.format.name

/-- What is in a file after writing: bytes, and the fault that ended them. -/
abbrev Written := List UInt8 × Option Fault

/-! ## Delimited text -/

def textRows (table : Table) (withHeader : Bool) : List (List String) :=
  (if withHeader then [table.header] else []) ++ table.rows.map (·.map Datum.cellText)

def recordBytes (encoding : Encoding) (leniency : Encoding.Leniency) (dialect : Delimited.Dialect)
    (fields : List String) : Except Fault (List UInt8) :=
  match Delimited.writtenRecord dialect fields with
  | .error problem => .error (.delimitedText problem.message)
  | .ok chars =>
      match encoding.encode leniency chars, leniency with
      | .ok bytes, _ => .ok bytes
      | .error _, .unknown name => .error (.unknownLeniency name)
      | .error message, _ => .error (.unencodable message)

/-- The bytes of records up to the first that cannot be written. -/
def recordsBytes (one : List String → Except Fault (List UInt8)) : List (List String) → Written
  | [] => ([], none)
  | fields :: rest =>
      match one fields with
      | .error fault => ([], some fault)
      | .ok bytes =>
          let (more, fault) := recordsBytes one rest
          (bytes ++ more, fault)

def delimitedSettings (options : Options) (usual : Delimited.Dialect) :
    Except Fault (Encoding × Encoding.Leniency × Delimited.Dialect) := do
  let encoding ← options.encoding
  let leniency ← options.leniency
  match Delimited.dialectOf (options.without ["encoding", "errors", "write_header"]) usual with
  | .ok dialect => return (encoding, leniency, dialect)
  | .error (.option fault) => throw fault
  | .error (.text problem) => throw (.delimitedText problem.message)
  | .error (.notANumber field) => throw (.badValue field)

def delimited (options : Options) (usual : Delimited.Dialect) (table : Table) : Written :=
  match delimitedSettings options usual with
  | .error fault => ([], some fault)
  | .ok (encoding, leniency, dialect) =>
      let withHeader := ((options.lookup "write_header").getD (.boolean true)).isTruthy
      let (bytes, fault) :=
        recordsBytes (recordBytes encoding leniency dialect) (textRows table withHeader)
      (encoding.mark ++ bytes, fault)

/-! ## JSON -/

/-- Dates and times as text. -/
def jsonValue : Datum → Datum
  | .date value => .text value.text
  | .moment value => .text value.text
  | .time value => .text value.text
  | datum => datum

def record (header : List String) (row : List Datum) : Datum :=
  .mapping ((header.zip row).map fun (name, value) => (.text name, jsonValue value))

def indentOf (options : Options) : Except Fault (Option String) :=
  match options.value "indent" with
  | .null => .ok none
  | .text value => .ok (some value)
  | .integer value => .ok (some (String.ofList (List.replicate value.toNat ' ')))
  | .boolean value => .ok (some (if value then " " else ""))
  | other => .error (.badArgument
      ("can't multiply sequence by non-int of type '" ++ other.kindName ++ "'"))

def separatorsOf (options : Options) (indented : Bool) : Except Fault (String × String) :=
  match options.value "separators" with
  | .null => .ok (if indented then "," else ", ", ": ")
  | given =>
      match given.elements with
      | .error _ => .error (.badArgument
          ("cannot unpack non-iterable " ++ given.kindName ++ " object"))
      | .ok [.text item, .text name] => .ok (item, name)
      | .ok (_ :: _ :: _ :: _) => .error (.badValue "too many values to unpack (expected 2)")
      | .ok items => .error (.badValue ("not enough values to unpack (expected 2, got " ++
          Decimal.natText items.length ++ ")"))

def layoutOptionNames : List String := [
  "skipkeys", "ensure_ascii", "check_circular", "allow_nan", "sort_keys", "indent", "separators",
  "default"]

def layoutOf (options : Options) : Except Fault Json.Layout := do
  match options.find? fun (name, _) => !layoutOptionNames.contains name with
  | some (name, _) => throw (.badArgument
      ("JSONEncoder.__init__() got an unexpected keyword argument '" ++ name ++ "'"))
  | none => pure ()
  let truth (name : String) (fallback : Bool) : Bool :=
    (options.lookup name).elim fallback Datum.isTruthy
  let indent ← indentOf options
  let (itemSeparator, nameSeparator) ← separatorsOf options indent.isSome
  return {
    asciiOnly := truth "ensure_ascii" true
    allowNonFinite := truth "allow_nan" true
    sortNames := truth "sort_keys" false
    skipOtherKeys := truth "skipkeys" false
    indent, itemSeparator, nameSeparator }

/-- Text that options put around the document. -/
def aroundPiece (options : Options) (name : String) : List Json.Piece :=
  match options.value name with
  | .null => []
  | .text value => [.ok value]
  | other => [.error (.badArgument
      ("write() argument must be str, not " ++ other.kindName))]

/-- The text of a table, or the fault of options that stops work before the file is touched. -/
def json (options : Options) (table : Table) : Except Fault Written := do
  let layout ← layoutOf (options.without ["prefix", "suffix", "lines"])
  let records := table.rows.map (record table.header)
  let body :=
    if (options.value "lines").isTruthy then
      records.flatMap fun record => layout.pieces 0 record ++ [.ok "\n"]
    else layout.pieces 0 (.list records)
  let (text, fault) :=
    Json.joinPieces (aroundPiece options "prefix" ++ body ++ aroundPiece options "suffix")
  return (text.toUTF8.toList, fault)

/-! ## Writing -/

/-- The outcome of writing that a fault may have ended. -/
def settle (destination : Destination) : Option Fault → Outcome Unit
  | none => return ()
  | some fault =>
      if ["TypeError", "ValueError", "UnicodeEncodeError"].contains fault.className then
        exportFails (.unwritten destination.uri fault.className fault.message)
      else Outcome.fault fault

def unwritable {α : Type} (destination : Destination) (problem : AccessProblem) : Outcome α :=
  match problem with
  | .notFound => exportFails (.noDirectory (directoryOf destination.uri))
  | problem => exportFails
      (.unwritten destination.uri problem.className (problem.message destination.uri))

def content (destination : Destination) (table : Table) : Except Fault Written := do
  let options ← Options.ofDatum destination.options
  match destination.format with
  | .csv => return delimited options Delimited.commas table
  | .tsv => return delimited options Delimited.tabs table
  | .json | .sqlite => json options table

def write (tree : FileTree) (destination : Destination) (table : Table) :
    FileTree × Outcome Unit :=
  match destination.content table with
  | .error fault => (tree, destination.settle (some fault))
  | .ok (bytes, fault) =>
      match tree.write destination.uri bytes with
      | .error problem => (tree, destination.unwritable problem)
      | .ok tree => (tree, destination.settle fault)

end Destination

end TableBrowser
