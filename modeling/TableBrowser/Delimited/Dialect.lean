import TableBrowser.Datum.Elements
/-!
# Dialects of delimited text

A dialect says which characters part the fields of a record, which enclose a
field, and what an escape is. Options given by name change a dialect.
-/

namespace TableBrowser.Delimited

inductive Quoting where
  | minimal
  | all
  /-- All but numbers when written; what is not enclosed is read as a number. -/
  | nonNumeric
  | none
deriving DecidableEq, Repr

structure Dialect where
  delimiter : Char := ','
  quote : Option Char := some '"'
  escape : Option Char := none
  /-- A quote within an enclosed field is written twice. -/
  doubleQuote : Bool := true
  skipInitialSpace : Bool := false
  lineEnd : String := "\r\n"
  quoting : Quoting := .minimal
  strict : Bool := false
deriving DecidableEq, Repr

def commas : Dialect := {}

def tabs : Dialect := { delimiter := '\t' }

def unix : Dialect := { lineEnd := "\n", quoting := .all }

def dialectNamed? : String → Option Dialect
  | "excel" => some commas
  | "excel-tab" => some tabs
  | "unix" => some unix
  | _ => none

inductive Problem where
  | unknownDialect
  | missingDelimiter (delimiter : Char) (quote : Char)
  | unclosedQuote
  | longField
  | lineEndInField
  | needsEscape
  | needsQuote
deriving DecidableEq, Repr

def fieldLimit : Nat := 131072

def Problem.message : Problem → String
  | .unknownDialect => "unknown dialect"
  | .missingDelimiter delimiter quote =>
      "'" ++ String.singleton delimiter ++ "' expected after '" ++ String.singleton quote ++ "'"
  | .unclosedQuote => "unexpected end of data"
  | .longField => "field larger than field limit (" ++ Decimal.natText fieldLimit ++ ")"
  | .lineEndInField =>
      "new-line character seen in unquoted field - do you need to open the file with newline=''?"
  | .needsEscape => "need to escape, but no escapechar set"
  | .needsQuote => "single empty field record must be quoted"

/-- Why a text is not read or written: the text itself, a number in it, or the options. -/
inductive Stop where
  | text (problem : Problem)
  | notANumber (field : String)
  | option (fault : Fault)
deriving DecidableEq

/-! ## Options -/

abbrev Options := List (String × Datum)

def optionNames : List String := [
  "dialect", "delimiter", "doublequote", "escapechar", "lineterminator", "quotechar", "quoting",
  "skipinitialspace", "strict"]

def badOption {α : Type} (text : String) : Except Stop α := .error (.option (.badArgument text))

def quotedName (name : String) : String := "\"" ++ name ++ "\""

def oneCharacter (name : String) (value : String) : Except Stop Char :=
  match value.toList with
  | [char] => .ok char
  | _ => badOption (quotedName name ++ " must be a 1-character string")

def characterOption (options : Options) (name : String) (fallback : Char) : Except Stop Char :=
  match options.lookup name with
  | none => .ok fallback
  | some (.text value) => oneCharacter name value
  | some other => badOption (quotedName name ++ " must be string, not " ++ other.kindName)

def characterOrNone (options : Options) (name : String) (fallback : Option Char) :
    Except Stop (Option Char) :=
  match options.lookup name with
  | none => .ok fallback
  | some .null => .ok none
  | some (.text value) => (oneCharacter name value).map some
  | some other => badOption (quotedName name ++ " must be string or None, not " ++ other.kindName)

def truthOption (options : Options) (name : String) (fallback : Bool) : Bool :=
  (options.lookup name).elim fallback Datum.isTruthy

def quotingOption (options : Options) (fallback : Quoting) : Except Stop Quoting :=
  match options.lookup "quoting" with
  | none => .ok fallback
  | some (.integer 0) => .ok .minimal
  | some (.integer 1) => .ok .all
  | some (.integer 2) => .ok .nonNumeric
  | some (.integer 3) => .ok .none
  | some (.integer _) => badOption "bad \"quoting\" value"
  | some _ => badOption "\"quoting\" must be an integer"

def lineEndOption (options : Options) (fallback : String) : Except Stop String :=
  match options.lookup "lineterminator" with
  | none => .ok fallback
  | some (.text value) => .ok value
  | some .null => .ok ""
  | some _ => badOption "\"lineterminator\" must be a string"

def startingDialect (options : Options) (usual : Dialect) : Except Stop Dialect :=
  match options.lookup "dialect" with
  | none => .ok usual
  | some (.text name) => (dialectNamed? name).elim (.error (.text .unknownDialect)) .ok
  | some _ => .ok commas

def dialectOf (options : Options) (usual : Dialect) : Except Stop Dialect := do
  match options.find? fun (name, _) => !optionNames.contains name with
  | some (name, _) =>
      badOption ("'" ++ name ++ "' is an invalid keyword argument for this function")
  | none => pure ()
  let start ← startingDialect options usual
  let delimiter ← characterOption options "delimiter" start.delimiter
  let escape ← characterOrNone options "escapechar" start.escape
  let lineEnd ← lineEndOption options start.lineEnd
  let quote ← characterOrNone options "quotechar" start.quote
  let quoting ← quotingOption options start.quoting
  if quoting ≠ .none ∧ quote.isNone then badOption "quotechar must be set if quoting enabled"
  if options.lookup "lineterminator" = some .null then badOption "lineterminator must be set"
  return {
    delimiter, escape, lineEnd, quote, quoting
    doubleQuote := truthOption options "doublequote" start.doubleQuote
    skipInitialSpace := truthOption options "skipinitialspace" start.skipInitialSpace
    strict := truthOption options "strict" start.strict }

/-! ## Writing delimited text

A field is enclosed when it holds a character that has a meaning, and a record
of one empty field is enclosed so that it differs from an empty line.
-/

/-- The character has a meaning of its own in a record. -/
def isSpecial (dialect : Dialect) (char : Char) : Bool :=
  char = dialect.delimiter || dialect.escape = some char || dialect.quote = some char ||
    char = '\n' || char = '\r' || dialect.lineEnd.toList.contains char

/-- The form of a character in a field, and whether it needs the field to be enclosed. -/
def writtenChar (dialect : Dialect) (char : Char) : Except Problem (List Char × Bool) :=
  let escaped : Except Problem (List Char × Bool) :=
    match dialect.escape with
    | some escape => .ok ([escape, char], false)
    | none => .error .needsEscape
  if !isSpecial dialect char then .ok ([char], false)
  else if dialect.quoting = .none then escaped
  else if dialect.quote = some char then
    if dialect.doubleQuote then .ok ([char, char], true) else escaped
  else if dialect.escape = some char then escaped
  else .ok ([char], true)

def enclosed (dialect : Dialect) (chars : List Char) : List Char :=
  dialect.quote.toList ++ chars ++ dialect.quote.toList

def writtenField (dialect : Dialect) (field : String) : Except Problem (List Char) := do
  let parts ← field.toList.mapM (writtenChar dialect)
  let chars := parts.flatMap (·.1)
  let encloses := dialect.quoting = .all || dialect.quoting = .nonNumeric || parts.any (·.2)
  return if encloses then enclosed dialect chars else chars

def writtenRecord (dialect : Dialect) (fields : List String) : Except Problem (List Char) := do
  let written ← fields.mapM (writtenField dialect)
  let content := [dialect.delimiter].intercalate written
  let content ←
    if content.isEmpty && !fields.isEmpty then
      if dialect.quoting = .none then throw .needsQuote else pure (enclosed dialect [])
    else pure content
  return content ++ dialect.lineEnd.toList

example : (writtenRecord commas ["a,b", "c"]).toOption = some "\"a,b\",c\r\n".toList := by decide

end TableBrowser.Delimited
