import TableBrowser.Datum.Elements
import TableBrowser.Step.Basic
import TableBrowser.Storage.Path
import TableBrowser.Storage.Format
import TableBrowser.Yaml.Value
import TableBrowser.Yaml.Writing
/-!
# Pipeline documents

A pipeline is kept as a document of plain data: its steps, and the source of its
base table when it has one. What is written is read back; a document made by
hand may leave out what can be left out.
-/

namespace TableBrowser.Document

def formatVersion : Int := 0

/-! ## Writing -/

/-- A step; parameters are left out when there are none. -/
def ofStep (step : Step) : Datum :=
  if step.params.isEmpty then Datum.ofFields [("op", .text step.operation)] else step.document

/-- The source of a base table: its name, and its type and options when it has them. -/
def ofSource (source : Datum) : Except Fault Datum := do
  let .mapping entries := source | .error (.notIndexed source.kindName)
  let some uri := Datum.valueAt? entries "uri" | .error (.noSuchKey (.text "uri"))
  let type := source.get "type"
  let options := source.get "options"
  let options ← if options.isTruthy then do
      pure [("options", .mapping (← options.entriesOf))]
    else pure []
  return Datum.ofFields
    ([("uri", uri)] ++ (if type.isNull then [] else [("type", type)]) ++ options)

def ofSteps (steps : List Step) (source : Option Datum) : Except Fault Datum := do
  let source ← match source with
    | some source => do pure [("source", ← ofSource source)]
    | none => pure []
  return Datum.ofFields [
    ("gridlens", .integer formatVersion),
    ("pipeline", Datum.ofFields (source ++ [("steps", .list (steps.map ofStep))]))]

/-! ## Reading -/

def fails {α : Type} (problem : DocumentProblem) : Outcome α := Outcome.fail (.document problem)

/-- A name that is no operation is told with the failure. -/
def unknownOperation {α : Type} (index : Nat) (given : Datum) : Outcome α := do
  given.checkDigits.mapError .fault
  fails (.unknownOperation index given)

def toStep (index : Nat) (datum : Datum) : Outcome Step :=
  match datum with
  | .mapping _ =>
      match datum.get "op" with
      | .text operation =>
          if operationNames.contains operation then
            match datum.get "params" with
            | .null => return ⟨operation, []⟩
            | .mapping params => return ⟨operation, params⟩
            | _ => fails (.paramsNotAMapping index)
          else unknownOperation index (.text operation)
      | other => unknownOperation index other
  | _ => fails (.stepNotAMapping index)

/-- A value that counts as the number of the format. -/
def isKnownVersion : Datum → Bool
  | .integer value => value = formatVersion
  | .boolean value => !value
  | .number value => value.isZero
  | _ => false

/-- The source of a document, with a plain name and with options. -/
def toSource (surroundings : Surroundings) (base : Option Path) (source : Datum) : Outcome Datum :=
  match source, source.get "uri" with
  | .mapping entries, .text uri => do
      let uri ← (surroundings.normalize base uri).mapError .fault
      let entries := Datum.put entries (.text "uri") (.text uri)
      let entries := if (source.get "options").isNull then Datum.put entries (.text "options") (.mapping [])
        else entries
      return .mapping entries
  | _, _ => fails .badSource

/-- The steps of a document and its source; names of files are relative to a directory. -/
def toSteps (surroundings : Surroundings) (base : Option Path) (document : Datum) :
    Outcome (List Step × Option Datum) := do
  let .mapping fields := document | fails .notAMapping
  let version := (Datum.valueAt? fields "gridlens").getD (.integer formatVersion)
  if !isKnownVersion version then
    version.checkDigits.mapError .fault
    fails (.version version)
  let .mapping pipeline := document.get "pipeline" | fails .noPipeline
  let source ← match (Datum.mapping pipeline).get "source" with
    | .null => pure none
    | source => do pure (some (← toSource surroundings base source))
  let items ← match (Datum.mapping pipeline).get "steps" with
    | .null => pure []
    | .list items => pure items
    | _ => fails .stepsNotAList
  let steps ← items.zipIdx.mapM fun (item, index) => toStep index item
  return (steps, source)

end TableBrowser.Document

namespace TableBrowser

/-! ## Documents in files

A document is kept as YAML. The files that it names are found from the
directory of the document.
-/

/-- The datum in a text of YAML; what keeps it from being read is a failure. -/
def Yaml.datumOf (text : String) (failure : Failure) : Outcome Datum :=
  match Yaml.read text with
  | .ok datum => return datum
  | .error .malformed => Outcome.fail failure
  | .error (.fault fault) => Outcome.fault fault

namespace Document

def text (steps : List Step) (source : Option Datum) : Except Fault String := do
  let document ← ofSteps steps source
  document.checkDigits
  return Yaml.write document

def ofText (surroundings : Surroundings) (base : Path) (text : String) :
    Outcome (List Step × Option Datum) := do
  toSteps surroundings (some base) (← Yaml.datumOf text (.document .malformed))

def save (tree : FileTree) (path : String) (steps : List Step) (source : Option Datum) :
    Outcome FileTree := do
  let path := Path.ofText path
  let text ← (text steps source).mapError .fault
  tree.writeText path text fun problem => .document (.unwritable path.text problem)

def load (tree : FileTree) (path : String) : Outcome (List Step × Option Datum) := do
  let path := Path.ofText path
  let text ← tree.readText path fun problem => .document (.unreadable path.text problem)
  ofText tree.surroundings path.parent text

end Document

end TableBrowser
