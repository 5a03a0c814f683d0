import TableBrowser.Json.Writing
/-!
# Writing JSON in a layout

A layout says what stands between the items, whether they have lines of their
own, and what is done about data that JSON has no form for. The text comes in
pieces, so that what was written before a fault is known.
-/

namespace TableBrowser.Json

structure Layout where
  asciiOnly : Bool := true
  allowNonFinite : Bool := true
  sortNames : Bool := false
  /-- Entries whose key has no name are left out. -/
  skipOtherKeys : Bool := false
  /-- What each level of nesting is set in by, when items have lines of their own. -/
  indent : Option String := none
  itemSeparator : String := ", "
  nameSeparator : String := ": "
deriving DecidableEq, Repr

/-- A piece of text, or the fault that ends it. -/
abbrev Piece := Except Fault String

/-- A character in a text that need not be ASCII. -/
def escapeLittle (char : Char) : List Char :=
  if 0x7F ≤ char.toNat then [char] else escapeChar char

def Layout.textForm (layout : Layout) (value : String) : String :=
  let escape := if layout.asciiOnly then escapeChar else escapeLittle
  String.ofList ('"' :: value.toList.flatMap escape ++ ['"'])

def Layout.numberForm (layout : Layout) (value : Binary64) : Piece :=
  if value.isFinite || layout.allowNonFinite then .ok (Decimal.numberText jsonNumberLayout value)
  else .error (.badValue ("Out of range float values are not JSON compliant: " ++ value.text))

/-- A new line, set in for a level of nesting. -/
def Layout.newLine (layout : Layout) (level : Nat) : String :=
  match layout.indent with
  | none => ""
  | some indent => "\n" ++ String.join (List.replicate level indent)

/-- Items between brackets; each item comes with its pieces. -/
def Layout.between (layout : Layout) (level : Nat) (opening closing : String)
    (items : List (List Piece)) : List Piece :=
  if items.isEmpty then [.ok (opening ++ closing)]
  else
    [.ok (opening ++ layout.newLine (level + 1))] ++
      [.ok (layout.itemSeparator ++ layout.newLine (level + 1))].intercalate items ++
      [.ok (layout.newLine level ++ closing)]

/-- Entries in the order of their keys, when a layout asks for it. -/
def Layout.arrange (layout : Layout) (entries : List (Datum × List Piece)) :
    List (Datum × List Piece) :=
  if layout.sortNames then inKeyOrder entries else entries

/-- The clash of two keys that a layout would put in order. -/
def Layout.clash? (layout : Layout) (keys : List Datum) : Option Fault :=
  if layout.sortNames then Json.clash? keys else none

def Layout.entryPieces (layout : Layout) (key : Datum) (value : List Piece) : List (List Piece) :=
  match name? key with
  | some name => [.ok (layout.textForm name ++ layout.nameSeparator) :: value]
  | none =>
      if layout.skipOtherKeys then []
      else [[.error (noName key)]]

def noForm (datum : Datum) : Fault :=
  .badArgument ("Object of type " ++ datum.className ++ " is not JSON serializable")

mutual

def Layout.pieces (layout : Layout) (level : Nat) : Datum → List Piece
  | .null => [.ok "null"]
  | .boolean value => [.ok (if value then "true" else "false")]
  | .integer value => [.ok (Decimal.intText value)]
  | .number value => [layout.numberForm value]
  | .text value => [.ok (layout.textForm value)]
  | .list items => layout.between level "[" "]" (layout.itemPieces (level + 1) items)
  | .mapping entries =>
      match layout.clash? (entries.map (·.1)) with
      | some fault => [.ok "\x7b", .error fault]
      | none =>
          layout.between level "\x7b" "\x7d"
            ((layout.arrange (layout.valuePieces (level + 1) entries)).flatMap
              fun (key, value) => layout.entryPieces key value)
  | .date value => [.error (noForm (.date value))]
  | .moment value => [.error (noForm (.moment value))]
  | .time value => [.error (noForm (.time value))]
  | .bytes value => [.error (noForm (.bytes value))]

def Layout.itemPieces (layout : Layout) (level : Nat) : List Datum → List (List Piece)
  | [] => []
  | item :: items => layout.pieces level item :: layout.itemPieces level items

def Layout.valuePieces (layout : Layout) (level : Nat) :
    List (Datum × Datum) → List (Datum × List Piece)
  | [] => []
  | (key, value) :: entries =>
      (key, layout.pieces level value) :: layout.valuePieces level entries

end

def Piece.text? (piece : Piece) : Option String := piece.toOption

def Piece.fault? : Piece → Option Fault
  | .ok _ => none
  | .error fault => some fault

/-- The text of pieces up to the first fault, and that fault. -/
def joinPieces (pieces : List Piece) : String × Option Fault :=
  (String.join ((pieces.takeWhile fun piece => piece.toOption.isSome).filterMap Piece.text?),
    pieces.findSome? Piece.fault?)

end TableBrowser.Json
