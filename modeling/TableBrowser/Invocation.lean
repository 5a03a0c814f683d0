import TableBrowser.Session.Basic
/-!
# Invocations

A session is invoked with words: the paths of the files to open, and options.
The settings are read and the files are looked for before anything is opened,
so that a session starts only when there is something to show.
-/

namespace TableBrowser

/-- An option that takes a value. -/
inductive Flag where
  | settings
  | format
  | logFile
  | logLevel
deriving DecidableEq, Repr

namespace Flag

def all : List Flag := [settings, format, logFile, logLevel]

def name : Flag → String
  | .settings => "--config"
  | .format => "--type"
  | .logFile => "--log-file"
  | .logLevel => "--log-level"

def ofName? (name : String) : Option Flag := all.find? (·.name = name)

def description : Flag → String
  | .settings => "YAML settings file."
  | .format => "Format of every PATH (default: by extension)."
  | .logFile => "Write a debug log here."
  | .logLevel => "How much is logged (default: info)."

end Flag

inductive Misuse where
  | noSuchOption (name : String)
  | needsValue (name : String)
  | takesNoValue (name : String)
  | missingPaths
  | noSuchFile (place path : String)
  | isDirectory (place path : String)
  | notOneOf (place value : String) (choices : List String)
deriving DecidableEq, Repr

def Misuse.message : Misuse → String
  | .noSuchOption name => "No such option: " ++ name
  | .needsValue name => "Option '" ++ name ++ "' requires an argument."
  | .takesNoValue name => "Option '" ++ name ++ "' does not take a value."
  | .missingPaths => "Missing argument 'PATHS...'."
  | .noSuchFile place path =>
      "Invalid value for '" ++ place ++ "': File '" ++ path ++ "' does not exist."
  | .isDirectory place path =>
      "Invalid value for '" ++ place ++ "': File '" ++ path ++ "' is a directory."
  | .notOneOf place value choices =>
      "Invalid value for '" ++ place ++ "': " ++ Text.Quoted.encode value ++ " is not one of " ++
        ", ".intercalate (choices.map Text.Quoted.encode) ++ "."

structure Invocation where
  paths : List String := []
  /-- The values of options, in the order in which they were given. -/
  values : List (Flag × String) := []
  asksHelp : Bool := false
deriving DecidableEq, Repr

namespace Invocation

/-! ## Words -/

def addPath (path : String) (invocation : Invocation) : Invocation :=
  { invocation with paths := path :: invocation.paths }

def addValue (flag : Flag) (value : String) (invocation : Invocation) : Invocation :=
  { invocation with values := (flag, value) :: invocation.values }

inductive Word where
  | path
  | endOfOptions
  | help
  | option (flag : Flag)
  | optionWith (flag : Flag) (value : String)
  | misuse (misuse : Misuse)

/-- A word that starts with two dashes. -/
def Word.ofLong (word : String) : Word :=
  let name := String.ofList (word.toList.takeWhile (· ≠ '='))
  match Flag.ofName? name, word.toList.dropWhile (· ≠ '=') with
  | some flag, _ :: value => .optionWith flag (String.ofList value)
  | some flag, [] => .option flag
  | none, value =>
      if name ≠ "--help" then .misuse (.noSuchOption name)
      else if value.isEmpty then .help
      else .misuse (.takesNoValue name)

/-- Words that start with a dash are options, a dash alone is not. -/
def Word.of (word : String) : Word :=
  match word.toList with
  | ['-', '-'] => .endOfOptions
  | '-' :: '-' :: _ => .ofLong word
  | '-' :: letter :: letters =>
      match (letter :: letters).find? (· ≠ 'h') with
      | none => .help
      | some other => .misuse (.noSuchOption (String.ofList ['-', other]))
  | _ => .path

/-- The invocation that words say. An option takes the next word, whatever it is. -/
def read : List String → Except Misuse Invocation
  | [] => .ok {}
  | word :: words =>
      match Word.of word with
      | .path => (read words).map (addPath word)
      | .endOfOptions => .ok { paths := words }
      | .help => (read words).map fun invocation => { invocation with asksHelp := true }
      | .optionWith flag value => (read words).map (addValue flag value)
      | .option flag =>
          match words with
          | value :: words => (read words).map (addValue flag value)
          | [] => .error (.needsValue flag.name)
      | .misuse misuse => .error misuse

/-- The value of an option: the last one that was given. -/
def value? (invocation : Invocation) (flag : Flag) : Option String :=
  invocation.values.reverse.lookup flag

/-! ## Checks -/

def logLevels : List String := ["debug", "info", "warning", "error"]

def checkFile (tree : FileTree) (place path : String) : Except Misuse Unit :=
  if tree.directoryExists path then .error (.isDirectory place path) else .ok ()

def checkChoice (place value : String) (choices : List String) (folded : String) :
    Except Misuse Unit :=
  if choices.contains folded then .ok () else .error (.notOneOf place value choices)

def checkValue (tree : FileTree) (flag : Flag) (value : String) : Except Misuse Unit :=
  match flag with
  | .settings =>
      if tree.fileExists value then checkFile tree flag.name value
      else .error (.noSuchFile flag.name value)
  | .format => checkChoice flag.name value (Format.all.map Format.name) value
  | .logFile => checkFile tree flag.name value
  | .logLevel => checkChoice flag.name value logLevels (Text.lower value)

/-- The invocation that words say, with values that fit; what is asked for help is not checked. -/
def ofWords (tree : FileTree) (words : List String) : Except Misuse Invocation := do
  let invocation ← read words
  if invocation.asksHelp then return invocation
  for (flag, _) in invocation.values do
    checkValue tree flag ((invocation.value? flag).getD "")
  if invocation.paths.isEmpty then throw .missingPaths
  for path in invocation.paths do
    checkFile tree "PATHS..." path
  return invocation

/-! ## Starting and ending -/

def settings (tree : FileTree) (invocation : Invocation) : Outcome Settings :=
  match invocation.value? .settings with
  | some path => Settings.load tree path
  | none => return {}

def sources (tree : FileTree) (invocation : Invocation) : Outcome (List Source) := do
  let format := (invocation.value? .format).elim Datum.null .text
  let sources ← invocation.paths.mapM fun path =>
    Source.ofName tree.surroundings path format (.mapping [])
  for source in sources do
    source.checkExists tree
  return sources

/-- The workspace that an invocation starts with, every file in a tab of its own. -/
def workspace (tree : FileTree) (invocation : Invocation) : Outcome Workspace := do
  let settings ← invocation.settings tree
  let sources ← invocation.sources tree
  let opened : Act Unit := sources.forM fun source => Act.openSource source []
  let (result, workspace) := opened (Workspace.start settings tree .immediate)
  result.map fun () => workspace

def usage : String := "Usage: table-browser [OPTIONS] PATHS...\n"

def help : String :=
  usage ++ "\n  Browse and query tabular files in the terminal.\n\nOptions:\n" ++
    String.join (Flag.all.map fun flag =>
      "  " ++ Line.pad flag.name 14 .left ++ flag.description ++ "\n") ++
    "  " ++ Line.pad "-h, --help" 14 .left ++ "Show this message and exit.\n"

/-- How an invocation ends: its exit code, what is told, and a fault that is not told. -/
structure Ending where
  code : Nat
  output : String := ""
  fault : Option Fault := none
deriving DecidableEq

namespace Ending

def failed (message : String) : Ending := { code := 1, output := "Error: " ++ message ++ "\n" }

def ofMisuse (misuse : Misuse) : Ending where
  code := 2
  output := usage ++ "Try 'table-browser --help' for help.\n\nError: " ++ misuse.message ++ "\n"

def ofProblem : Problem → Ending
  | .failure cause _ => failed cause.report.fullText
  | .fault fault => { code := 1, fault }

/-- A session that is left without a tab and with a status has failed to open anything. -/
def ofSession (session : Session) : Ending :=
  if session.workspace.tabs.isEmpty && !session.workspace.status.isEmpty then
    failed session.workspace.status
  else { code := 0 }

/-- The end of a session, which may have met with a problem. -/
def ofRun (session : Session) : Option Problem → Ending
  | some problem => ofProblem problem
  | none => ofSession session

end Ending

/-- The session that words start on a screen, or how the invocation ends without one. -/
def session (tree : FileTree) (words : List String) (size : Size) : Except Ending Session := do
  let invocation ← (ofWords tree words).mapError .ofMisuse
  if invocation.asksHelp then throw { code := 0, output := help }
  return Session.start (← (invocation.workspace tree).mapError .ofProblem) size

end Invocation

end TableBrowser
