import TableBrowser.Delimited.Dialect
/-!
# Reading delimited text

Records are read character by character. The end of a line ends a record unless
a field is still open. An empty line is a record without fields.
-/

namespace TableBrowser.Delimited

inductive Place where
  | recordStart
  | fieldStart
  | afterEscape
  /-- After a line end that was escaped. -/
  | afterEscapedEnd
  | inField
  | inQuotes
  | afterEscapeInQuotes
  /-- After a quote within quotes: the end of them, or the first of two. -/
  | afterQuote
  | lineEnd
deriving DecidableEq, Repr

/-- A record that is being read, the last character and the last field first. -/
structure Draft where
  place : Place := .recordStart
  field : List Char := []
  length : Nat := 0
  numeric : Bool := false
  fields : List Datum := []

namespace Draft

def moveTo (draft : Draft) (place : Place) : Draft := { draft with place }

def add (draft : Draft) (char : Char) (place : Place) : Except Stop Draft :=
  if fieldLimit ≤ draft.length then .error (.text .longField)
  else .ok { draft with place, field := char :: draft.field, length := draft.length + 1 }

def save (draft : Draft) (place : Place) : Except Stop Draft := do
  let text := String.ofList draft.field.reverse
  let value ← if draft.numeric then
      match Numeral.number? text with
      | some number => pure (Datum.number number)
      | none => throw (.notANumber text)
    else pure (.text text)
  return { place, fields := value :: draft.fields }

/-- Ends a field at the end of a line, which ends the record too. -/
def finish (draft : Draft) (char : Option Char) : Except Stop Draft :=
  draft.save (if char.isSome then .lineEnd else .recordStart)

end Draft

/-- A line end within the text, or the end of the line that was read. -/
def isLineEnd : Option Char → Bool
  | none => true
  | some char => char = '\n' || char = '\r'

def fieldStart (dialect : Dialect) (draft : Draft) (char : Option Char) : Except Stop Draft :=
  match char with
  | none => draft.finish none
  | some char =>
      if isLineEnd (some char) then draft.finish (some char)
      else if dialect.quote = some char ∧ dialect.quoting ≠ .none then .ok (draft.moveTo .inQuotes)
      else if dialect.escape = some char then .ok (draft.moveTo .afterEscape)
      else if char = ' ' ∧ dialect.skipInitialSpace then .ok (draft.moveTo .fieldStart)
      else if char = dialect.delimiter then draft.save .fieldStart
      else { draft with numeric := dialect.quoting = Quoting.nonNumeric }.add char .inField

def inField (dialect : Dialect) (draft : Draft) (char : Option Char) : Except Stop Draft :=
  match char with
  | none => draft.finish none
  | some char =>
      if isLineEnd (some char) then draft.finish (some char)
      else if dialect.escape = some char then .ok (draft.moveTo .afterEscape)
      else if char = dialect.delimiter then draft.save .fieldStart
      else draft.add char .inField

def inQuotes (dialect : Dialect) (draft : Draft) (char : Option Char) : Except Stop Draft :=
  match char with
  | none => .ok draft
  | some char =>
      if dialect.escape = some char then .ok (draft.moveTo .afterEscapeInQuotes)
      else if dialect.quote = some char ∧ dialect.quoting ≠ .none then
        .ok (draft.moveTo (if dialect.doubleQuote then .afterQuote else .inField))
      else draft.add char .inQuotes

def afterQuote (dialect : Dialect) (draft : Draft) (char : Option Char) : Except Stop Draft :=
  match char with
  | none => draft.finish none
  | some char =>
      if dialect.quoting ≠ .none ∧ dialect.quote = some char then draft.add char .inQuotes
      else if char = dialect.delimiter then draft.save .fieldStart
      else if isLineEnd (some char) then draft.finish (some char)
      else if dialect.strict then
        .error (.text (.missingDelimiter dialect.delimiter (dialect.quote.getD '"')))
      else draft.add char .inField

/-- One character of a line, or its end. -/
def read (dialect : Dialect) (draft : Draft) (char : Option Char) : Except Stop Draft :=
  match draft.place with
  | .recordStart =>
      match char with
      | none => .ok draft
      | some given =>
          if isLineEnd char then .ok (draft.moveTo .lineEnd)
          else fieldStart dialect draft (some given)
  | .fieldStart => fieldStart dialect draft char
  | .afterEscape =>
      if char.isSome ∧ isLineEnd char then draft.add (char.getD '\n') .afterEscapedEnd
      else draft.add (char.getD '\n') .inField
  | .afterEscapedEnd => if char.isNone then .ok draft else inField dialect draft char
  | .inField => inField dialect draft char
  | .inQuotes => inQuotes dialect draft char
  | .afterEscapeInQuotes => draft.add (char.getD '\n') .inQuotes
  | .afterQuote => afterQuote dialect draft char
  | .lineEnd =>
      match char with
      | none => .ok (draft.moveTo .recordStart)
      | some _ => if isLineEnd char then .ok draft else .error (.text .lineEndInField)

/-- The lines of a text, each with the characters that end it. -/
def lines (text : List Char) : List (List Char) := go [] text
where
  go (line : List Char) : List Char → List (List Char)
    | [] => if line.isEmpty then [] else [line.reverse]
    | '\r' :: '\n' :: rest => ('\n' :: '\r' :: line).reverse :: go [] rest
    | char :: rest =>
        if char = '\n' ∨ char = '\r' then (char :: line).reverse :: go [] rest
        else go (char :: line) rest

def readLine (dialect : Dialect) (draft : Draft) (line : List Char) : Except Stop Draft := do
  let draft ← line.foldlM (fun draft char => read dialect draft (some char)) draft
  read dialect draft none

/-- The last record, when the text ends before a line does. -/
def lastRecord (dialect : Dialect) (draft : Draft) : Except Stop (List (List Datum)) :=
  if draft.length = 0 ∧ draft.place ≠ .inQuotes then .ok []
  else if dialect.strict then .error (.text .unclosedQuote)
  else do return [(← draft.save .recordStart).fields.reverse]

def readLines (dialect : Dialect) (done : List (List Datum)) (draft : Draft) :
    List (List Char) → Except Stop (List (List Datum))
  | [] => do
      let last ← if draft.place = .recordStart then pure [] else lastRecord dialect draft
      return (last.reverse ++ done).reverse
  | line :: lines => do
      let draft ← readLine dialect draft line
      if draft.place = .recordStart then
        readLines dialect (draft.fields.reverse :: done) {} lines
      else readLines dialect done draft lines

def records (dialect : Dialect) (text : List Char) : Except Stop (List (List Datum)) :=
  readLines dialect [] {} (lines text)

example : (records commas "a,\"b\"\"c\"\n\n".toList).toOption =
    some [[.text "a", .text "b\"c"], []] := by cbv

end TableBrowser.Delimited
