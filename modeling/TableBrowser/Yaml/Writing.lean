import TableBrowser.Yaml.Base64
import TableBrowser.Yaml.Kind
/-!
# Writing documents

Collections are set as blocks, a level further in by two columns; a sequence
under a key stands flush with it. A text is written plainly where it reads back
as that text, in single quotes where they preserve it, and in double quotes
otherwise. Lines are broken at single spaces after the eightieth column.
-/

namespace TableBrowser.Yaml

def lineWidth : Nat := 80

def indentStep : Nat := 2

/-- Longer keys are marked as keys. -/
def longestMarkedKey : Nat := 128

/-! ## The sheet -/

structure Sheet where
  text : String := ""
  column : Nat := 0
  /-- What was written last separates words. -/
  isSpaced : Bool := true
  /-- On the line there is nothing but indentation and signs that it goes on with. -/
  isOpen : Bool := true

namespace Sheet

def put (sheet : Sheet) (chars : List Char) : Sheet :=
  { sheet with text := sheet.text ++ String.ofList chars, column := sheet.column + chars.length }

def lineBreak (sheet : Sheet) (char : Char) : Sheet :=
  { text := sheet.text.push char, column := 0, isSpaced := true, isOpen := true }

/-- Goes to a column, on a new line when this one is in use or already further. -/
def indentTo (sheet : Sheet) (indent : Nat) : Sheet :=
  let sheet :=
    if !sheet.isOpen || indent < sheet.column || (sheet.column = indent && !sheet.isSpaced) then
      sheet.lineBreak '\n'
    else sheet
  if sheet.column < indent then
    { sheet.put (List.replicate (indent - sheet.column) ' ') with isSpaced := true }
  else sheet

/-- Writes a sign, after a space unless there is one or none is needed. -/
def sign (sheet : Sheet) (sign : String) (apart : Bool) : Sheet :=
  let chars := if sheet.isSpaced || !apart then sign.toList else ' ' :: sign.toList
  { sheet.put chars with isSpaced := false, isOpen := false }

/-- Writes a sign that the line can go on after as if it were indentation. -/
def mark (sheet : Sheet) (text : String) : Sheet :=
  { sheet.sign text true with isOpen := sheet.isOpen }

def fold (sheet : Sheet) (indent : Nat) : Sheet :=
  { sheet.indentTo indent with isSpaced := false, isOpen := false }

end Sheet

/-! ## Forms of a text -/

inductive Form where
  | plain
  | single
  | double
deriving DecidableEq, Repr

/-- What a text holds that decides between its forms. -/
structure TextTraits where
  hasBreak : Bool
  /-- A character that only an escape can write. -/
  hasSpecial : Bool
  /-- A space or a break at either end. -/
  hasBlankEnd : Bool
  spaceBeforeBreak : Bool
  spaceAfterBreak : Bool
  /-- A sign that a plain scalar would end at or not start with. -/
  hasSign : Bool

/-- Characters that need no escape. -/
def isWritable (char : Char) : Bool :=
  let code := char.toNat
  char = '\n' || char = '\u0085' || (0x20 ≤ code && code ≤ 0x7E) ||
    (char != '\uFEFF' && ((0xA0 ≤ code && code ≤ 0xD7FF) || (0xE000 ≤ code && code ≤ 0xFFFD) ||
      (0x10000 ≤ code && code < 0x10FFFF)))

def anyNeighbours (test : Char → Char → Bool) : List Char → Bool
  | first :: second :: rest => test first second || anyNeighbours test (second :: rest)
  | _ => false

def startsWithSign : List Char → Bool
  | [] => false
  | char :: rest =>
      "#,[]{}&*!|>'\"%@\x60".toList.contains char ||
        ((char = '?' || char = ':' || char = '-') && endsWord rest.head?)

/-- A colon before a gap, or a comment after one. -/
def holdsSign : List Char → Bool
  | first :: second :: rest =>
      (second = ':' && endsWord rest.head?) || (second = '#' && endsWord (some first)) ||
        holdsSign (second :: rest)
  | _ => false

def isBlankEnd : Option Char → Bool
  | some char => char = ' ' || isBreak char
  | none => false

def TextTraits.of (chars : List Char) : TextTraits where
  hasBreak := chars.any isBreak
  hasSpecial := !chars.all isWritable
  hasBlankEnd := isBlankEnd chars.head? || isBlankEnd chars.getLast?
  spaceBeforeBreak := anyNeighbours (fun left right => left = ' ' && isBreak right) chars
  spaceAfterBreak := anyNeighbours (fun left right => isBreak left && right = ' ') chars
  hasSign := ["---".toList, "...".toList].any (·.isPrefixOf chars) || startsWithSign chars ||
    holdsSign chars

/-- The form of a text, which for a key may not span lines. -/
def formOf (isKey : Bool) (text : String) : Form :=
  let traits := TextTraits.of text.toList
  let plain := !traits.hasBreak && !traits.hasSpecial && !traits.hasBlankEnd && !traits.hasSign
  let single := !traits.hasSpecial && !traits.spaceBeforeBreak && !traits.spaceAfterBreak
  if plain && Kind.ofPlain text = .text then .plain
  else if single && !(isKey && traits.hasBreak) then .single
  else .double

/-! ## Scalars -/

/-- A run of spaces, of breaks, or of other characters. -/
inductive RunKind where
  | spaces
  | breaks
  | other
deriving DecidableEq, Repr

def RunKind.of (char : Char) : RunKind :=
  if char = ' ' then .spaces else if isBreak char then .breaks else .other

def runs : List Char → List (RunKind × List Char)
  | [] => []
  | char :: rest =>
      match runs rest with
      | (kind, run) :: others =>
          if RunKind.of char = kind then (kind, char :: run) :: others
          else (RunKind.of char, [char]) :: (kind, run) :: others
      | [] => [(RunKind.of char, [char])]

namespace Sheet

def putPlainRuns (indent : Nat) (split : Bool) (sheet : Sheet) :
    List (RunKind × List Char) → Sheet
  | [] => sheet
  | (kind, run) :: rest =>
      let sheet :=
        if kind = .spaces && run.length = 1 && lineWidth < sheet.column && split then
          sheet.fold indent
        else sheet.put run
      putPlainRuns indent split sheet rest

def putPlain (indent : Nat) (split : Bool) (sheet : Sheet) (text : String) : Sheet :=
  if text.isEmpty then sheet
  else
    let sheet := if sheet.isSpaced then sheet else sheet.put [' ']
    putPlainRuns indent split { sheet with isSpaced := false, isOpen := false } (runs text.toList)

/-- Breaks inside quotes; a first line feed is doubled, since a single one reads as a space. -/
def putBreaks (indent : Nat) (sheet : Sheet) (breaks : List Char) : Sheet :=
  let sheet := if breaks.head? = some '\n' then sheet.lineBreak '\n' else sheet
  (breaks.foldl lineBreak sheet).indentTo indent

def putSingleRuns (indent : Nat) (split first : Bool) (sheet : Sheet) :
    List (RunKind × List Char) → Sheet
  | [] => sheet
  | (kind, run) :: rest =>
      let sheet := match kind with
        | .spaces =>
            if run.length = 1 && lineWidth < sheet.column && split && !first && !rest.isEmpty then
              sheet.indentTo indent
            else sheet.put run
        | .breaks => sheet.putBreaks indent run
        | .other => sheet.put (run.flatMap fun char => if char = '\'' then ['\'', '\''] else [char])
      putSingleRuns indent split false sheet rest

def putSingle (indent : Nat) (split : Bool) (sheet : Sheet) (text : String) : Sheet :=
  (putSingleRuns indent split true (sheet.sign "'" true) (runs text.toList)).sign "'" false

/-- Characters that stand for themselves in double quotes. -/
def isBare (char : Char) : Bool :=
  let code := char.toNat
  (0x20 ≤ code && code ≤ 0x7E && char != '"' && char != '\\') ||
    (0xA0 ≤ code && code ≤ 0xD7FF && char != '\u2028' && char != '\u2029') ||
    (0xE000 ≤ code && code ≤ 0xFFFD && char != '\uFEFF')

def escapeLetter? : Char → Option Char
  | '\x00' => some '0'
  | '\x07' => some 'a'
  | '\x08' => some 'b'
  | '\t' => some 't'
  | '\n' => some 'n'
  | '\x0b' => some 'v'
  | '\x0c' => some 'f'
  | '\r' => some 'r'
  | '\x1b' => some 'e'
  | '"' => some '"'
  | '\\' => some '\\'
  | '\u0085' => some 'N'
  | '\u2028' => some 'L'
  | '\u2029' => some 'P'
  | _ => none

def escaped (char : Char) : List Char :=
  let hex (width : Nat) := (Text.Quoted.hex width char.toNat).map Char.toUpper
  match escapeLetter? char with
  | some letter => ['\\', letter]
  | none =>
      if char.toNat ≤ 0xFF then '\\' :: 'x' :: hex 2
      else if char.toNat ≤ 0xFFFF then '\\' :: 'u' :: hex 4
      else '\\' :: 'U' :: hex 8

/-- Ends a line in double quotes; a space that the next one starts with is marked. -/
def foldDouble (indent : Nat) (sheet : Sheet) (next : Option Char) : Sheet :=
  let sheet := (sheet.put ['\\']).fold indent
  if next = some ' ' then sheet.put ['\\'] else sheet

/-- Characters in double quotes; a line may end at a space or beside an escape. -/
def putDoubleChars (indent : Nat) (split first : Bool) (sheet : Sheet) (pending : List Char) :
    List Char → Sheet
  | [] => sheet.put pending.reverse
  | char :: rest =>
      let mayFold := split && !first && !rest.isEmpty
      if isBare char then
        if mayFold && (char = ' ' || pending.isEmpty) &&
            lineWidth < sheet.column + pending.length then
          let sheet := (sheet.put pending.reverse).foldDouble indent (some char)
          putDoubleChars indent split false sheet [char] rest
        else putDoubleChars indent split false sheet (char :: pending) rest
      else
        let sheet := (sheet.put pending.reverse).put (escaped char)
        let sheet :=
          if mayFold && lineWidth + 1 < sheet.column then sheet.foldDouble indent rest.head?
          else sheet
        putDoubleChars indent split false sheet [] rest

def putDouble (indent : Nat) (split : Bool) (sheet : Sheet) (text : String) : Sheet :=
  (putDoubleChars indent split true (sheet.sign "\"" true) [] text.toList).sign "\"" false

def putText (indent : Nat) (isKey : Bool) (sheet : Sheet) (text : String) : Sheet :=
  match formOf isKey text with
  | .plain => sheet.putPlain indent (!isKey) text
  | .single => sheet.putSingle indent (!isKey) text
  | .double => sheet.putDouble indent (!isKey) text

/-- Parts of a length, the last one with what is left. -/
def partsOf (length : Nat) (bytes : List UInt8) : Nat → List (List UInt8)
  | 0 => []
  | fuel + 1 =>
      if bytes.isEmpty then [] else bytes.take length :: partsOf length (bytes.drop length) fuel

/-- Lines of digits in base 64, each of 57 bytes. -/
def putBytes (indent : Nat) (sheet : Sheet) (bytes : List UInt8) : Sheet :=
  let sheet := sheet.sign "!!binary" true
  if bytes.isEmpty then sheet.sign "''" true
  else (partsOf 57 bytes bytes.length).foldl
    (fun sheet line => ((sheet.indentTo indent).put (Base64.encode line)).lineBreak '\n')
    ((sheet.sign "|" true).lineBreak '\n')

end Sheet

/-! ## Data -/

/-- Numbers have a fraction also in front of an exponent. -/
def yamlNumberLayout : Decimal.NumberLayout :=
  { numberLayout with notANumber := ".nan", infinity := ".inf", mantissaFraction := true }

/-- A scalar that is always plain, with the length of the name of its kind. -/
def plainForm? : Datum → Option (String × Nat)
  | .null => some ("null", 6)
  | .boolean value => some (if value then "true" else "false", 6)
  | .integer value => some (Decimal.intText value, 5)
  | .number value => some (Decimal.numberText yamlNumberLayout value, 7)
  | .date value => some (value.text, 11)
  | .moment value => some (value.date.text ++ " " ++ value.time.text, 11)
  | .time value => some (value.text, 11)
  | _ => none

/-- A key that needs no mark: short, not empty and on one line. -/
def isPlainKey : Datum → Bool
  | .text value =>
      5 + value.length < longestMarkedKey && !value.isEmpty && !value.toList.any isBreak
  | .list items => items.isEmpty
  | .mapping entries => entries.isEmpty
  | datum =>
      match plainForm? datum with
      | some (form, tag) => tag + form.length < longestMarkedKey
      | none => false

/-- Where a datum stands. -/
inductive Place where
  | root
  | item
  | key
  | value
deriving DecidableEq, Repr

/-- The indentation inside a collection or a scalar, given the one around it. -/
def deeper (outer : Option Nat) (atRoot : Nat) : Nat :=
  match outer with
  | none => atRoot
  | some outer => outer + indentStep

namespace Sheet

def putScalar (outer : Option Nat) (place : Place) (sheet : Sheet) (datum : Datum) : Sheet :=
  let indent := deeper outer indentStep
  let isKey := place = .key
  match datum with
  | .text value => sheet.putText indent isKey value
  | .bytes value => sheet.putBytes indent value
  | datum =>
      match plainForm? datum with
      | some (form, _) => sheet.putPlain indent (!isKey) form
      | none => sheet

mutual

def putDatum (outer : Option Nat) (place : Place) (sheet : Sheet) : Datum → Sheet
  | .list [] => sheet.sign "[]" true
  | .mapping [] => sheet.sign "\x7b\x7d" true
  | .list (item :: items) =>
      let isFlush := (place = .key || place = .value) && !sheet.isOpen
      putItems (if isFlush then outer.getD 0 else deeper outer 0) sheet (item :: items)
  | .mapping (entry :: entries) => putEntries (deeper outer 0) sheet (entry :: entries)
  | datum => sheet.putScalar outer place datum

def putItems (indent : Nat) (sheet : Sheet) : List Datum → Sheet
  | [] => sheet
  | item :: items =>
      let sheet := putDatum (some indent) .item ((sheet.indentTo indent).mark "-") item
      putItems indent sheet items

def putEntries (indent : Nat) (sheet : Sheet) : List (Datum × Datum) → Sheet
  | [] => sheet
  | (key, value) :: entries =>
      let sheet := sheet.indentTo indent
      let sheet :=
        if isPlainKey key then (putDatum (some indent) .key sheet key).sign ":" false
        else
          let sheet := putDatum (some indent) .value (sheet.mark "?") key
          (sheet.indentTo indent).mark ":"
      putEntries indent (putDatum (some indent) .value sheet value) entries

end

end Sheet

/-- Whether a document is a scalar without quotes, after which it has to be ended. -/
def isOpenEnded : Datum → Bool
  | .text value => formOf false value = .plain
  | datum => (plainForm? datum).isSome

def write (datum : Datum) : String :=
  let sheet := (Sheet.putDatum none .root {} datum).indentTo 0
  let sheet := if isOpenEnded datum then (sheet.sign "..." true).lineBreak '\n' else sheet
  sheet.text

end TableBrowser.Yaml
