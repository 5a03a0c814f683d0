import TableBrowser.Datum.Elements
import TableBrowser.Failure
import TableBrowser.Storage.Encoding
import TableBrowser.Storage.FileTree
/-!
# Formats of files

A file is read and written in a format, which is given by name or found from
the end of the name of the file. Options are settings of the format by name.
-/

namespace TableBrowser

inductive Format where
  | csv
  | tsv
  | json
  | sqlite
deriving DecidableEq, Repr

namespace Format

def name : Format → String
  | .csv => "csv"
  | .tsv => "tsv"
  | .json => "json"
  | .sqlite => "sqlite"

def all : List Format := [csv, tsv, json, sqlite]

def ofName? (name : String) : Option Format := all.find? (·.name = name)

/-- The name of the format that is given, or that the name of a file ends in. -/
def chosen (given : Datum) (uri : String) : Datum :=
  if given.isTruthy then given
  else match formatOf? uri with
    | some name => .text name
    | none => .null

end Format

abbrev Options := List (String × Datum)

namespace Options

def ofDatum (datum : Datum) : Except Fault Options :=
  match datum with
  | .mapping entries => entries.mapM fun (key, value) =>
      match key with
      | .text name => .ok (name, value)
      | _ => .error (.badArgument "keywords must be strings")
  | datum => .error (.badArgument
      ("argument after ** must be a mapping, not " ++ datum.kindName))

def without (options : Options) (names : List String) : Options :=
  options.filter fun (name, _) => !names.contains name

/-- The value of an option, null when it is not given. -/
def value (options : Options) (name : String) : Datum := (options.lookup name).getD .null

def text (options : Options) (name fallback : String) : Except Fault String :=
  match options.value name with
  | .null => .ok fallback
  | .text value => .ok value
  | other => .error (.badArgument ("TextIOWrapper() argument '" ++ name ++
      "' must be str or None, not " ++ other.kindName))

def encoding (options : Options) : Except Fault Encoding := do
  let name ← options.text "encoding" "utf-8"
  match Encoding.ofName? name with
  | some encoding => return encoding
  | none => throw (.unknownEncoding name)

def leniency (options : Options) : Except Fault Encoding.Leniency := do
  return .ofName (← options.text "errors" "strict")

end Options

/-! ## Text in files

A file of text holds UTF-8. Lines may end in several ways; once read they end
in a line feed.
-/

/-- The text with every line ending in a line feed. -/
def Text.withLineFeeds : List Char → List Char
  | '\r' :: '\n' :: rest => '\n' :: withLineFeeds rest
  | '\r' :: rest => '\n' :: withLineFeeds rest
  | char :: rest => char :: withLineFeeds rest
  | [] => []

namespace FileTree

def textOfBytes (bytes : List UInt8) : Except Fault String :=
  match Encoding.utf8.decode .strict bytes with
  | .ok chars => .ok (String.ofList (Text.withLineFeeds chars))
  | .error problem => .error (.undecodable problem.reason)

/-- What keeps a file from being opened is a failure, unless there can be no such file. -/
def inaccessible {α : Type} (failure : AccessProblem → Failure) : AccessProblem → Outcome α
  | .embeddedNull => Outcome.fault .embeddedNull
  | problem => Outcome.fail (failure problem)

def readText (tree : FileTree) (path : Path) (failure : AccessProblem → Failure) :
    Outcome String :=
  match tree.read path.text with
  | .ok (.bytes bytes) => (textOfBytes bytes).mapError .fault
  | .ok (.database _) => Outcome.fault (.undecodable Encoding.DecodeProblem.startByte.reason)
  | .error problem => inaccessible failure problem

def writeText (tree : FileTree) (path : Path) (text : String)
    (failure : AccessProblem → Failure) : Outcome FileTree :=
  match tree.write path.text text.toUTF8.toList with
  | .ok tree => .ok tree
  | .error problem => inaccessible failure problem

end FileTree

end TableBrowser
