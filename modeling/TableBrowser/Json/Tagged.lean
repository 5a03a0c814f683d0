import TableBrowser.Calendar.IsoText
import TableBrowser.Datum.Display
import TableBrowser.Json.Reading
/-!
# Cells in JSON

JSON tells neither dates from text nor whole numbers from others. A cell of a
kind that JSON lacks is written as an object with one entry, whose name is the
kind; so are whole numbers that not every reader of JSON keeps exactly.
-/

namespace TableBrowser.Json.Tagged

/-- The whole numbers from here on are written as text. -/
def integerLimit : Nat := Nat.pow 2 53

def tag (kind : String) (content : Datum) : Datum := Datum.ofFields [(kind, content)]

/-! ## Bytes -/

/-- Bytes as two hexadecimal digits each. -/
def hexText (bytes : List UInt8) : String :=
  String.ofList (bytes.flatMap fun byte => Text.Quoted.hex 2 byte.toNat)

def hexDigits? : List Char → Option (List UInt8)
  | [] => some []
  | high :: low :: rest => do
      let value := 16 * (← hexValue? high) + (← hexValue? low)
      some (UInt8.ofNat value :: (← hexDigits? rest))
  | [_] => none

def hexBytes? (text : String) : Option (List UInt8) := hexDigits? text.toList

/-! ## Writing -/

mutual

def encode : Datum → Datum
  | .integer value =>
      if value.natAbs < integerLimit then .integer value
      else tag "int" (.text (Decimal.intText value))
  | .number value => tag "float" (.text value.text)
  | .date value => tag "date" (.text value.text)
  | .moment value => tag "datetime" (.text value.text)
  | .time value => tag "time" (.text value.text)
  | .bytes value => tag "bytes" (.text (hexText value))
  | .list items => tag "list" (.list (encodeItems items))
  | .mapping entries => tag "dict" (.list (encodeEntries entries))
  | .null => .null
  | .boolean value => .boolean value
  | .text value => .text value

def encodeItems : List Datum → List Datum
  | [] => []
  | item :: items => encode item :: encodeItems items

def encodeEntries : List (Datum × Datum) → List Datum
  | [] => []
  | (key, value) :: entries => .list [encode key, encode value] :: encodeEntries entries

end

/-! ## Reading -/

def ofText? (kind text : String) : Option Datum :=
  match kind with
  | "int" => (Numeral.int? text).map .integer
  | "float" => (Numeral.number? text).map .number
  | "date" => (IsoText.date? text).map .date
  | "datetime" => (IsoText.moment? text).map .moment
  | "time" => (IsoText.time? text).map .time
  | "bytes" => (hexBytes? text).map .bytes
  | _ => none

mutual

def decode? : Datum → Option Datum
  | .mapping [(.text kind, .text text)] => ofText? kind text
  | .mapping [(.text kind, .list contents)] =>
      if kind = "list" then (decodeItems? contents).map .list
      else if kind = "dict" then (decodeEntries? contents).map .mapping
      else none
  | .mapping _ | .list _ => none
  | datum => some datum

def decodeItems? : List Datum → Option (List Datum)
  | [] => some []
  | item :: items => do some ((← decode? item) :: (← decodeItems? items))

def decodeEntries? : List Datum → Option (List (Datum × Datum))
  | [] => some []
  | .list [key, value] :: entries => do
      some ((← decode? key, ← decode? value) :: (← decodeEntries? entries))
  | _ :: _ => none

end

mutual

/-- A document in which only numbers are tagged. -/
def untagged : Datum → Datum
  | .mapping [(.text kind, .text text)] =>
      if kind = "float" || kind = "int" then (ofText? kind text).getD .null
      else tag kind (.text text)
  | .mapping entries => .mapping (untaggedEntries entries)
  | .list items => .list (untaggedItems items)
  | datum => datum

def untaggedItems : List Datum → List Datum
  | [] => []
  | item :: items => untagged item :: untaggedItems items

def untaggedEntries : List (Datum × Datum) → List (Datum × Datum)
  | [] => []
  | (key, value) :: entries => (key, untagged value) :: untaggedEntries entries

end

end TableBrowser.Json.Tagged
