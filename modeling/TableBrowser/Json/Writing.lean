import TableBrowser.Datum.Display
import TableBrowser.Failure.Fault
/-!
# Writing JSON

Items are separated by a comma and a blank, names and values by a colon and a
blank, and characters beyond ASCII are escaped. Values that JSON has no form
for are written as their plain text, when the caller allows it.
-/

namespace TableBrowser.Json

def escapeUnit (code : Nat) : List Char := '\\' :: 'u' :: Text.Quoted.hex 4 code

def escapeChar (char : Char) : List Char :=
  if char = '"' then ['\\', '"']
  else if char = '\\' then ['\\', '\\']
  else if char = '\n' then ['\\', 'n']
  else if char = '\r' then ['\\', 'r']
  else if char = '\t' then ['\\', 't']
  else if char = '\x08' then ['\\', 'b']
  else if char = '\x0c' then ['\\', 'f']
  else
    let code := char.toNat
    if 0x20 ≤ code ∧ code < 0x7F then [char]
    else if code ≤ 0xFFFF then escapeUnit code
    else
      escapeUnit (0xD800 + (code - 0x10000) / 0x400) ++
        escapeUnit (0xDC00 + (code - 0x10000) % 0x400)

def textForm (value : String) : String :=
  String.ofList ('"' :: value.toList.flatMap escapeChar ++ ['"'])

def jsonNumberLayout : Decimal.NumberLayout :=
  { numberLayout with notANumber := "NaN", infinity := "Infinity" }

/-- The name of an entry: keys other than text are written as the text of their value. -/
def nameForm : Datum → String
  | .null => "null"
  | .boolean value => if value then "true" else "false"
  | .number value => Decimal.numberText jsonNumberLayout value
  | .text value => value
  | key => key.quoted

def listForm (items : List String) : String := "[" ++ ", ".intercalate items ++ "]"

def mappingForm (entries : List (String × String)) : String :=
  "\x7b" ++ ", ".intercalate (entries.map fun (name, value) => textForm name ++ ": " ++ value) ++
    "\x7d"

/-- How entries are arranged before they are written. -/
inductive EntryOrder where
  | given
  | byName

def EntryOrder.arrange : EntryOrder → List (String × String) → List (String × String)
  | .given, entries => entries
  | .byName, entries => entries.mergeSort fun left right => left.1 ≤ right.1

mutual

/-- The JSON text of a datum; dates, times and bytes are written as plain text. -/
def form (order : EntryOrder) : Datum → String
  | .null => "null"
  | .boolean value => if value then "true" else "false"
  | .integer value => Decimal.intText value
  | .number value => Decimal.numberText jsonNumberLayout value
  | .text value => textForm value
  | .list items => listForm (itemForms order items)
  | .mapping entries => mappingForm (order.arrange (entryForms order entries))
  | .date value => textForm ((Datum.date value).plainIn Datum.openStyle)
  | .moment value => textForm ((Datum.moment value).plainIn Datum.openStyle)
  | .time value => textForm ((Datum.time value).plainIn Datum.openStyle)
  | .bytes value => textForm (Datum.bytes value).quoted

def itemForms (order : EntryOrder) : List Datum → List String
  | [] => []
  | item :: items => form order item :: itemForms order items

def entryForms (order : EntryOrder) : List (Datum × Datum) → List (String × String)
  | [] => []
  | (key, value) :: entries => (nameForm key, form order value) :: entryForms order entries

end

/-- Whether a datum has a JSON form of its own, all the way down. -/
def hasForm : Datum → Bool
  | .date _ | .moment _ | .time _ | .bytes _ => false
  | .list items => itemsHaveForm items
  | .mapping entries => entriesHaveForm entries
  | _ => true
where
  itemsHaveForm : List Datum → Bool
    | [] => true
    | item :: items => hasForm item && itemsHaveForm items
  entriesHaveForm : List (Datum × Datum) → Bool
    | [] => true
    | (_, value) :: entries => hasForm value && entriesHaveForm entries

/-! ## Keys of entries

Entries can be put in order when their keys compare with one another, and can
be written when each key has a name. A datum whose entries are to be written in
order may fail at either, anywhere inside it.
-/

/-- The name that a key is written as. -/
def name? : Datum → Option String
  | .null => some (nameForm .null)
  | .boolean value => some (nameForm (.boolean value))
  | .integer value => some (nameForm (.integer value))
  | .number value => some (nameForm (.number value))
  | .text value => some value
  | _ => none

def inKeyOrder {α : Type} (entries : List (Datum × α)) : List (Datum × α) :=
  entries.mergeSort fun left right =>
    match right.1.less left.1 with
    | .ok after => !after
    | .error _ => true

/-- The clash of two neighbouring keys that cannot be put in order. -/
def clash? (keys : List Datum) : Option Fault :=
  (keys.zip keys.tail).findSome? fun (left, right) =>
    match right.less left with
    | .ok _ => none
    | .error clash => some (.incomparable clash)

/-- The fault of a whole number with more digits than are ever written. -/
def digitsFault? (value : Int) : Option Fault :=
  if value.natAbs < Nat.pow 10 Numeral.digitLimit then none else some .longInteger

def noName (key : Datum) : Fault :=
  .badArgument ("keys must be str, int, float, bool or None, not " ++ key.kindName)

def nameFault? : Datum → Option Fault
  | .integer value => digitsFault? value
  | key => if (name? key).isSome then none else some (noName key)

mutual

/-- The first fault that writing a datum with its entries in order meets. -/
def orderedFault? : Datum → Option Fault
  | .integer value => digitsFault? value
  | .list items => itemsFault? items
  | .mapping entries =>
      (clash? (entries.map (·.1))).or ((inKeyOrder (entryFaults entries)).findSome? (·.2))
  | _ => none

def itemsFault? : List Datum → Option Fault
  | [] => none
  | item :: items => (orderedFault? item).or (itemsFault? items)

/-- What keeps each entry from being written, under its key. -/
def entryFaults : List (Datum × Datum) → List (Datum × Option Fault)
  | [] => []
  | (key, value) :: entries =>
      (key, (nameFault? key).or (orderedFault? value)) :: entryFaults entries

end

end TableBrowser.Json
