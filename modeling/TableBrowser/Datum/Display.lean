import TableBrowser.Datum.Basic
import TableBrowser.Text.Quoted
/-!
# Data as text

A cell shows its datum in a plain form. Messages show data in a quoted form
that tells text from numbers; a list within a fixed list shows in parentheses.
-/

namespace TableBrowser

/-- Numbers between 0.0001 and 10^16 are written positionally. -/
def numberLayout : Decimal.NumberLayout where
  positionalFrom := -4
  positionalBelow := 16
  exponentDigits := 2
  notANumber := "nan"
  infinity := "inf"
  mantissaFraction := false

def Binary64.text (value : Binary64) : String := Decimal.numberText numberLayout value

/-- In a cell, what is not a number is written in capitals as well. -/
def cellNumberLayout : Decimal.NumberLayout := { numberLayout with notANumber := "NaN" }

namespace Display

def parenthesized (name : String) (parts : List String) : String :=
  name ++ "(" ++ ", ".intercalate parts ++ ")"

/-- A duration shown by its days and its seconds within a day. -/
def duration (microseconds : Int) : String :=
  let days := Int.fdiv microseconds microsecondsPerDay
  let rest := (Int.fmod microseconds microsecondsPerDay).toNat
  let part (name : String) (value : Int) : List String :=
    if value = 0 then [] else [name ++ "=" ++ Decimal.intText value]
  let parts := part "days" days ++ part "seconds" (rest / 1000000 : Nat) ++
    part "microseconds" (rest % 1000000 : Nat)
  parenthesized "datetime.timedelta" (if parts.isEmpty then ["0"] else parts)

def offset (offset : UtcOffset) : String :=
  if offset.microseconds = 0 then "datetime.timezone.utc"
  else parenthesized "datetime.timezone" [duration offset.microseconds]

def dateParts (date : Date) : List String :=
  [date.year, date.month, date.day].map Decimal.natText

/-- Hour and minute always; the second when it or the microsecond is not zero. -/
def timeParts (time : Time) : List String :=
  let small :=
    if time.microsecond ≠ 0 then [time.second, time.microsecond]
    else if time.second ≠ 0 then [time.second]
    else []
  ([time.hour, time.minute] ++ small).map Decimal.natText ++
    (time.offset.map fun ahead => "tzinfo=" ++ offset ahead).toList

def boolean (value : Bool) : String := if value then "True" else "False"

/-- A fixed list of one item keeps a comma, to differ from an item in parentheses. -/
def fixedList : List String → String
  | [item] => "(" ++ item ++ ",)"
  | items => "(" ++ ", ".intercalate items ++ ")"

def changeableList (items : List String) : String := "[" ++ ", ".intercalate items ++ "]"

def entries (pairs : List (String × String)) : String :=
  "\x7b" ++ ", ".intercalate (pairs.map fun (key, value) => key ++ ": " ++ value) ++ "\x7d"

end Display

namespace Datum

structure ContainerStyle where
  list : List String → String
  mapping : List (String × String) → String

/-- Containers that may still change. -/
def openStyle : ContainerStyle := ⟨Display.changeableList, Display.entries⟩

/-- Containers that are fixed, as the parameters of a step are. -/
def fixedStyle : ContainerStyle :=
  ⟨Display.fixedList, fun pairs => "mappingproxy(" ++ Display.entries pairs ++ ")"⟩

mutual

def quotedIn (style : ContainerStyle) : Datum → String
  | .null => "None"
  | .boolean value => Display.boolean value
  | .integer value => Decimal.intText value
  | .number value => value.text
  | .text value => Text.Quoted.encode value
  | .date value => Display.parenthesized "datetime.date" (Display.dateParts value)
  | .moment value =>
      Display.parenthesized "datetime.datetime"
        (Display.dateParts value.date ++ Display.timeParts value.time)
  | .time value => Display.parenthesized "datetime.time" (Display.timeParts value)
  | .bytes value => Text.Quoted.encodeBytes value
  | .list items => style.list (quotedItems style items)
  | .mapping entries => style.mapping (quotedEntries style entries)

def quotedItems (style : ContainerStyle) : List Datum → List String
  | [] => []
  | item :: items => quotedIn style item :: quotedItems style items

def quotedEntries (style : ContainerStyle) : List (Datum × Datum) → List (String × String)
  | [] => []
  | (key, value) :: entries =>
      (quotedIn style key, quotedIn style value) :: quotedEntries style entries

end

def quoted : Datum → String := quotedIn openStyle

/-- The quoted form of a datum that is part of a step. -/
def quotedFixed : Datum → String := quotedIn fixedStyle

/-- The plain form of a datum: text stands for itself. -/
def plainIn (style : ContainerStyle) : Datum → String
  | .text value => value
  | .date value => value.text
  | .moment value => value.date.text ++ " " ++ value.time.text
  | .time value => value.text
  | datum => quotedIn style datum

def cellText : Datum → String
  | .null => ""
  | .boolean value => if value then "true" else "false"
  | .number value => Decimal.numberText cellNumberLayout value
  | .text value => value
  | .date value => value.text
  | .moment value => value.text
  | .time value => value.text
  | .bytes value => "Blob (Length: " ++ Decimal.natText value.length ++ ")"
  | datum => datum.quoted

end Datum

end TableBrowser
