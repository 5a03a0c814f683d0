import TableBrowser.Datum.Display
import TableBrowser.Failure.Fault
import TableBrowser.Failure.Query
/-!
# Failures of files, documents and settings
-/

namespace TableBrowser

open Text.Quoted (encode)

/-! ## Access to files -/

inductive AccessProblem where
  | notFound
  | notADirectory
  | isADirectory
  /-- The name holds a null character. -/
  | embeddedNull
deriving DecidableEq, Repr

namespace AccessProblem

def className : AccessProblem → String
  | .notFound => "FileNotFoundError"
  | .notADirectory => "NotADirectoryError"
  | .isADirectory => "IsADirectoryError"
  | .embeddedNull => "ValueError"

/-- The system's words for it, with the name of the file. -/
def message (problem : AccessProblem) (path : String) : String :=
  match problem with
  | .notFound => "[Errno 2] No such file or directory: " ++ encode path
  | .notADirectory => "[Errno 20] Not a directory: " ++ encode path
  | .isADirectory => "[Errno 21] Is a directory: " ++ encode path
  | .embeddedNull => Fault.embeddedNull.message

end AccessProblem

/-! ## Sources -/

def sourceTypeNames : List String := ["csv", "tsv", "json", "sqlite"]

inductive LoadProblem where
  | unknownFormat (uri : String)
  | unsupportedFormat (format : String)
  | notFound (uri : String)
  | noTables (uri : String)
  | undecodable (uri reason : String)
  | unparsable (uri detail format : String)
  | inaccessible (uri : String) (problem : AccessProblem)
  | noTable (uri : String) (problem : TableProblem)
deriving DecidableEq, Repr

def LoadProblem.report : LoadProblem → Report
  | .unknownFormat uri => {
      category := .load
      code := "E_SOURCE_TYPE_INFER"
      message := "Could not infer the format of '" ++ uri ++ "'."
      hint := some "Pass the format explicitly, e.g. --type csv." }
  | .unsupportedFormat format => {
      category := .load
      code := "E_SOURCE_TYPE_UNSUPPORTED"
      message := "Source type '" ++ format ++ "' is not supported."
      hint := some ("Supported source types: " ++ ", ".intercalate sourceTypeNames ++ ".") }
  | .notFound uri => {
      category := .load
      code := "E_SOURCE_NOT_FOUND"
      message := "File not found: '" ++ uri ++ "'."
      hint := some "Check the path, or open it relative to the current directory." }
  | .noTables uri => {
      category := .load
      code := "E_SOURCE_READ"
      message := "Database '" ++ uri ++ "' contains no tables." }
  | .undecodable uri reason => {
      category := .load
      code := "E_SOURCE_ENCODING"
      message := "Could not decode '" ++ uri ++ "': " ++ reason ++ "."
      hint := some "Pass an explicit encoding option, e.g. encoding=latin-1." }
  | .unparsable uri detail format => {
      category := .load
      code := "E_SOURCE_PARSE"
      message := "Could not parse '" ++ uri ++ "': " ++ detail
      hint := some ("Check that the file really is " ++ format ++ ".") }
  | .inaccessible uri problem => {
      category := .load
      code := "E_SOURCE_READ"
      message := "Could not read '" ++ uri ++ "': " ++ problem.message uri }
  | .noTable uri problem => {
      category := .load
      code := "E_SOURCE_PARSE"
      message := "Could not build a table from '" ++ uri ++ "': " ++ problem.report.fullText }

/-! ## Exports -/

def exportTypeNames : List String := ["csv", "tsv", "json"]

inductive ExportProblem where
  | unknownFormat (uri : String)
  | unsupportedFormat (format : String)
  | noDirectory (directory : String)
  | unwritten (uri kind detail : String)
deriving DecidableEq, Repr

def ExportProblem.report : ExportProblem → Report
  | .unknownFormat uri => {
      category := .export
      code := "E_SINK_TYPE_INFER"
      message := "Could not infer the export format from '" ++ uri ++ "'."
      hint := some "Give the format explicitly, e.g. export out.data csv." }
  | .unsupportedFormat format => {
      category := .export
      code := "E_SINK_TYPE_UNSUPPORTED"
      message := "Export format '" ++ format ++ "' is not supported."
      hint := some ("Supported export formats: " ++ ", ".intercalate exportTypeNames ++ ".") }
  | .noDirectory directory => {
      category := .export
      code := "E_SINK_DIR_NOT_FOUND"
      message := "Output directory does not exist: '" ++ directory ++ "'."
      hint := some "Create the directory or choose a different output path." }
  | .unwritten uri kind detail => {
      category := .export
      code := "E_SINK_WRITE"
      message := "Could not write '" ++ uri ++ "': " ++ kind ++ ": " ++ detail
      hint := some "Check file permissions and export options (delimiter/encoding)." }

/-! ## Pipeline documents -/

inductive DocumentProblem where
  | notAMapping
  | version (given : Datum)
  | noPipeline
  | badSource
  | stepsNotAList
  | stepNotAMapping (index : Nat)
  | unknownOperation (index : Nat) (given : Datum)
  | paramsNotAMapping (index : Nat)
  | unwritable (path : String) (problem : AccessProblem)
  | unreadable (path : String) (problem : AccessProblem)
  | malformed
deriving DecidableEq

def DocumentProblem.report : DocumentProblem → Report
  | .notAMapping => {
      category := .general
      code := "E_IR_ROOT"
      message := "IR must be a mapping at the root."
      hint := some "Expected keys: gridlens, pipeline." }
  | .version given => {
      category := .general
      code := "E_IR_VERSION"
      message := "Unsupported IR version: " ++ given.quoted ++ "."
      hint := some "Supported: gridlens: 0" }
  | .noPipeline => {
      category := .general
      code := "E_IR_PIPELINE"
      message := "IR requires a 'pipeline' mapping."
      hint := some "Example: \x7bgridlens: 0, pipeline: \x7bsteps: [...]\x7d\x7d" }
  | .badSource => {
      category := .general
      code := "E_IR_SOURCE"
      message := "IR pipeline.source must be a mapping with a 'uri' string."
      hint := some "Example: source: \x7buri: people.csv, type: csv\x7d" }
  | .stepsNotAList => {
      category := .general
      code := "E_IR_STEPS"
      message := "IR pipeline.steps must be a list."
      hint := some "Example: steps: [\x7bop: filter, params: \x7bwhere: 'age >= 30'\x7d\x7d]" }
  | .stepNotAMapping index => {
      category := .general
      code := "E_IR_STEP"
      message := "IR step #" ++ Decimal.natText index ++ " must be a mapping."
      hint := some "Example: - \x7bop: filter, params: \x7bwhere: 'age >= 30'\x7d\x7d" }
  | .unknownOperation index given => {
      category := .general
      code := "E_IR_STEP"
      message := "IR step #" ++ Decimal.natText index ++ " has unknown op " ++ given.quoted ++ "."
      hint := some ("Supported ops: " ++ ", ".intercalate operationNames) }
  | .paramsNotAMapping index => {
      category := .general
      code := "E_IR_STEP"
      message := "IR step #" ++ Decimal.natText index ++ " 'params' must be a mapping."
      hint := some "Example: params: \x7bwhere: \"age >= 30\"\x7d" }
  | .unwritable path problem => {
      category := .general
      code := "E_IR_WRITE"
      message := "Could not write pipeline file '" ++ path ++ "': " ++ problem.message path
      hint := some "Check the directory exists and is writable." }
  | .unreadable path problem => {
      category := .general
      code := "E_IR_READ"
      message := "Could not read pipeline file '" ++ path ++ "': " ++ problem.message path }
  | .malformed => {
      category := .general
      code := "E_YAML_PARSE"
      message := "Failed to parse YAML"
      hint := some "Check indentation and quoting." }

/-! ## Settings -/

inductive SettingsProblem where
  | notAMapping
  | unknownKeys (names known : List String)
  | wrongKind (key : Datum) (expected given : String)
  | narrowColumns (minimum : Int)
  | crossedWidths (minimum maximum : Int)
  | notPositive
  | noWorkers
  | unreadable (path : String) (problem : AccessProblem)
  | malformed
deriving DecidableEq

def SettingsProblem.report : SettingsProblem → Report
  | .notAMapping => {
      category := .general
      code := "E_CONFIG_TYPE"
      message := "Configuration must be a mapping."
      hint := some "Example: \x7bmax_column_width: 30, history_size: 200\x7d" }
  | .unknownKeys names known => {
      category := .general
      code := "E_CONFIG_KEY"
      message := "Unknown configuration key(s): " ++ ", ".intercalate names ++ "."
      hint := some ("Known keys: " ++ ", ".intercalate known) }
  | .wrongKind key expected given => {
      category := .general
      code := "E_CONFIG_TYPE"
      message := "Configuration key " ++ key.quoted ++ " expects " ++ expected ++ ", got " ++
        given ++ "." }
  | .narrowColumns minimum => {
      category := .general
      code := "E_CONFIG_VALUE"
      message := "min_column_width must be at least 1."
      hint := some ("Got " ++ Decimal.intText minimum ++ ".") }
  | .crossedWidths minimum maximum => {
      category := .general
      code := "E_CONFIG_VALUE"
      message := "max_column_width must not be smaller than min_column_width."
      hint := some ("Got min=" ++ Decimal.intText minimum ++ ", max=" ++
        Decimal.intText maximum ++ ".") }
  | .notPositive => {
      category := .general
      code := "E_CONFIG_VALUE"
      message := "history_size, cache_size and width_sample_rows must be positive." }
  | .noWorkers => {
      category := .general
      code := "E_CONFIG_VALUE"
      message := "workers must be positive when set." }
  | .unreadable path problem => {
      category := .general
      code := "E_CONFIG_READ"
      message := "Could not read configuration file '" ++ path ++ "': " ++ problem.message path }
  | .malformed => {
      category := .general
      code := "E_CONFIG_PARSE"
      message := "Failed to parse YAML"
      hint := some "Check indentation and quoting." }

end TableBrowser
