import TableBrowser.Yaml.Base64
import TableBrowser.Yaml.Node
/-!
# Values of nodes

A scalar has the value that its kind gives to its text. A mapping takes over
the entries of the mappings merged into it, and its own entries win; of two
equal keys the first keeps its place and the last one's value counts.
-/

namespace TableBrowser.Yaml

/-! ## Scalars -/

def fault {α : Type} (fault : Fault) : Attempt α := .error (.fault fault)

def inBase? (base : Nat) (chars : List Char) : Option Nat :=
  if chars.isEmpty then none
  else chars.foldl (fun value char => do
    let digit ← Json.hexValue? char
    if base ≤ digit then none
    some (base * (← value) + digit)) (some 0)

/-- The sign and the rest of a number without underscores, which must not be empty. -/
def signed (text : String) : Attempt (Bool × List Char) := do
  let chars := text.toList.filter (· != '_')
  let body := Kind.dropSign chars
  if body.isEmpty then fault (.indexOutOfRange .text)
  return (chars.head? = some '-', body)

/-- Whole numbers can be binary, octal, hexadecimal, decimal or in base 60. -/
def integerOf (text : String) : Attempt Datum := do
  let (negative, body) ← signed text
  let size : Option Int :=
    match body with
    | ['0'] => some 0
    | '0' :: 'b' :: digits => (inBase? 2 digits).map Int.ofNat
    | '0' :: 'x' :: digits => (inBase? 16 digits).map Int.ofNat
    | '0' :: digits => (inBase? 8 ('0' :: digits)).map Int.ofNat
    | body => do
        let parts ← (Kind.splitAtChar ':' body).mapM fun part => Numeral.int? (String.ofList part)
        some (parts.foldl (fun value part => 60 * value + part) 0)
  match size with
  | some size => return .integer (if negative then -size else size)
  | none => fault (.notDecimal (String.ofList body))

/-- Parts of a number in base 60, the last one first. -/
def fromSixtieths (base : Int) (value : Binary64) : List Binary64 → Binary64
  | [] => value
  | part :: parts => fromSixtieths (60 * base) (value.add (part.mul (.ofInt base))) parts

def numberOf (text : String) : Attempt Datum := do
  let (negative, body) ← signed (text.map Char.toLower)
  let signOf (value : Binary64) := Datum.number (if negative then value.neg else value)
  if body = ".inf".toList then return signOf (.infinite false)
  if body = ".nan".toList then return .number .nan
  match (Kind.splitAtChar ':' body).mapM fun part => Numeral.number? (String.ofList part) with
  | some [value] => return signOf value
  | some parts => return signOf (fromSixtieths 1 .zero parts.reverse)
  | none => fault (.badValue ("could not convert string to float: " ++
      Text.Quoted.encode (String.ofList body)))

def booleanOf (text : String) : Attempt Datum :=
  let word := text.map Char.toLower
  if Kind.trueWords.contains word then .ok (.boolean true)
  else if Kind.falseWords.contains word then .ok (.boolean false)
  else fault (.noSuchKey (.text word))

def offsetOf (offset : WrittenOffset) : Attempt UtcOffset :=
  let size : Int := ((offset.hours * 60 + offset.minutes) * 60 * 1000000 : Nat)
  match UtcOffset.ofMicroseconds? (if offset.behind then -size else size) with
  | some offset => .ok offset
  | none => fault (.badValue ("offset must be a timedelta strictly between " ++
      "-timedelta(hours=24) and timedelta(hours=24)."))

/-- Millionths, from at most six digits. -/
def microseconds (fraction : List Char) : Nat :=
  WrittenMoment.number ((fraction ++ List.replicate 6 '0').take 6)

def momentOf (text : String) : Attempt Datum := do
  let some written := WrittenMoment.ofChars? text.toList
    | fault (.noAttribute "NoneType" "groupdict")
  let date := Date.ofParts? written.year (WrittenMoment.number written.month)
    (WrittenMoment.number written.day)
  match written.time with
  | none =>
      match date with
      | some date => return .date date
      | none => fault (.badValue "day is out of range for month")
  | some time => do
      let offset ← match time.offset with
        | some offset => do pure (some (← offsetOf offset))
        | none => pure none
      match date, Time.ofParts? time.hour time.minute time.second (microseconds time.fraction) offset with
      | some date, some time => return .moment ⟨date, time⟩
      | none, _ => fault (.badValue "day is out of range for month")
      | some _, none => fault (.badValue "hour must be in 0..23")

def bytesOf (text : String) : Attempt Datum :=
  match Base64.decode? text.toList with
  | some bytes => if text.toList.all (·.toNat < 0x80) then .ok (.bytes bytes) else fails
  | none => fails

def scalarValue (kind : Kind) (text : String) : Attempt Datum :=
  match kind with
  | .null => .ok .null
  | .boolean => booleanOf text
  | .integer => integerOf text
  | .number => numberOf text
  | .bytes => bytesOf text
  | .moment => momentOf text
  | .text => .ok (.text text)
  | _ => fails

/-! ## Mappings -/

/-- A key that finds its value by equality. -/
def isKey : Datum → Bool
  | .list _ | .mapping _ => false
  | _ => true

/-- Sets an entry, in place of one with an equal key when there is one. -/
def putEqual (entries : List (Datum × Datum)) (key value : Datum) : List (Datum × Datum) :=
  let isSame (other : Datum) := other = key || other.equal key
  if entries.any fun entry => isSame entry.1 then
    entries.map fun entry => if isSame entry.1 then (entry.1, value) else entry
  else entries ++ [(key, value)]

def ofPairs (pairs : List (Datum × Datum)) : Datum :=
  .mapping (pairs.foldl (fun entries (key, value) => putEqual entries key value) [])

/-! ## Nodes -/

namespace Node

mutual

/-- The text of a node that should be a scalar; a mapping can have one under its default key. -/
def text? : Node → Option String
  | .scalar _ text => some text
  | .sequence .. => none
  | .mapping _ entries => defaultText? entries

def defaultText? : List (Node × Node) → Option String
  | [] => none
  | (key, value) :: rest => if key.kind = .default then text? value else defaultText? rest

end

/-- A value that only a node with a text can have. -/
def textValue (kind : Kind) : Option String → Attempt Datum
  | some text => scalarValue kind text
  | none => fails

mutual

def value : Node → Attempt Datum
  | .scalar kind text => scalarValue kind text
  | .sequence .sequence items => do return .list (← values items)
  | .sequence .pairs items => do return .list (← pairs items)
  | .sequence .. => fails
  | .mapping .mapping entries => do
      let (merged, own) ← entryValues entries
      return ofPairs (merged ++ own)
  | .mapping kind entries => textValue kind (defaultText? entries)

def values : List Node → Attempt (List Datum)
  | [] => return []
  | node :: nodes => do
      let first ← value node
      return first :: (← values nodes)

/-- Mappings with one entry each. -/
def pairs : List Node → Attempt (List Datum)
  | [] => return []
  | .mapping _ [(key, item)] :: nodes => do
      let key ← value key
      let item ← value item
      return .list [key, item] :: (← pairs nodes)
  | _ :: _ => fails

/-- The entries merged into a mapping, and its own. -/
def entryValues : List (Node × Node) → Attempt (List (Datum × Datum) × List (Datum × Datum))
  | [] => return ([], [])
  | (key, item) :: rest => do
      if key.kind = .merge then
        let taken ← mergedValues item
        let (merged, own) ← entryValues rest
        return (taken ++ merged, own)
      else
        let key ← if key.kind = .default then textValue .text (text? key) else value key
        expect (isKey key)
        let item ← value item
        let (merged, own) ← entryValues rest
        return (merged, (key, item) :: own)

/-- The entries of a mapping or, the last one first, of several. -/
def mergedValues : Node → Attempt (List (Datum × Datum))
  | .mapping _ entries => do
      let (merged, own) ← entryValues entries
      return merged ++ own
  | .sequence _ items => mergedLists items
  | .scalar .. => fails

def mergedLists : List Node → Attempt (List (Datum × Datum))
  | [] => return []
  | .mapping _ entries :: nodes => do
      let (merged, own) ← entryValues entries
      return (← mergedLists nodes) ++ merged ++ own
  | _ :: _ => fails

end

end Node

/-- The value of a text that holds at most one document; an empty text is null. -/
def read (text : String) : Attempt Datum := do (← Node.ofText text).value

end TableBrowser.Yaml
