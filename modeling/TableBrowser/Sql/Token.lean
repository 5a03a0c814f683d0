import TableBrowser.Sql.Value
/-!
# Tokens of queries

A statement is cut into words, quoted names, literals and symbols, each with its
place and its spelling. Blanks and comments separate tokens. Characters that
start no token become one that no rule accepts.
-/

namespace TableBrowser.Sql

inductive Token where
  /-- A word without quotes: a name or a keyword. -/
  | word (spelling : String)
  | quotedName (name : String) (doubleQuoted : Bool)
  | literal (value : Value)
  | symbol (spelling : String)
  | unrecognized
deriving DecidableEq

structure PlacedToken where
  token : Token
  start : Nat
  written : List Char
deriving DecidableEq

def PlacedToken.stop (placed : PlacedToken) : Nat := placed.start + placed.written.length

namespace Token

/-- Blanks that may start a run of blanks; a vertical tab may only continue one. -/
def startsBlank (char : Char) : Bool := [' ', '\t', '\n', '\x0c', '\r'].contains char

def continuesBlank (char : Char) : Bool := startsBlank char || char = '\x0b'

def isNameStart (char : Char) : Bool := char.isAlpha || char = '_' || 0x80 ≤ char.toNat

def isNamePart (char : Char) : Bool := isNameStart char || char.isDigit || char = '$'

def isHexDigit (char : Char) : Bool :=
  char.isDigit || ('a' ≤ char && char ≤ 'f') || ('A' ≤ char && char ≤ 'F')

def hexValue (char : Char) : Nat :=
  if char.isDigit then char.toNat - '0'.toNat else char.toLower.toNat - 'a'.toNat + 10

/-! ## Blanks and comments -/

/-- The length of a comment of several lines, from its opening on. -/
def blockCommentLength : List Char → Nat
  | '*' :: '/' :: _ => 2
  | _ :: rest => blockCommentLength rest + 1
  | [] => 0

/-- How many characters at the start separate tokens. -/
def gapLength : List Char → Nat
  | '-' :: '-' :: rest => 2 + (rest.takeWhile (· ≠ '\n')).length
  | '/' :: '*' :: next :: rest => 2 + blockCommentLength (next :: rest)
  | first :: rest => if startsBlank first then 1 + (rest.takeWhile continuesBlank).length else 0
  | [] => 0

/-! ## Quotes -/

/-- What stands before a closing quote, and how many characters it takes up; a doubled quote is one. -/
def quoted? (quote : Char) : List Char → Option (List Char × Nat)
  | [] => none
  | [char] => if char = quote then some ([], 1) else none
  | first :: second :: rest =>
      if first = quote then
        if second = quote then
          (quoted? quote rest).map fun (value, length) => (quote :: value, length + 2)
        else some ([], 1)
      else (quoted? quote (second :: rest)).map fun (value, length) => (first :: value, length + 1)

abbrev Reading := Token × Nat

def quotedReading (quote : Char) (make : String → Token) (rest : List Char) : Reading :=
  match quoted? quote rest with
  | some (value, length) => (make (String.ofList value), length + 1)
  | none => (.unrecognized, rest.length + 1)

def bracketReading (rest : List Char) : Reading :=
  let inner := rest.takeWhile (· ≠ ']')
  if inner.length < rest.length then (.quotedName (String.ofList inner) false, inner.length + 2)
  else (.unrecognized, rest.length + 1)

def bytesOfHex : List Char → List UInt8
  | high :: low :: rest => UInt8.ofNat (16 * hexValue high + hexValue low) :: bytesOfHex rest
  | _ => []

/-- Bytes between quotes, after the letter and the opening quote. -/
def blobReading (rest : List Char) : Reading :=
  let hex := rest.takeWhile isHexDigit
  let after := rest.drop hex.length
  if after.head? = some '\'' && hex.length % 2 = 0 then
    (.literal (.blob (bytesOfHex hex)), hex.length + 3)
  else
    let skipped := (after.takeWhile (· ≠ '\'')).length
    let close := if skipped < after.length then 1 else 0
    (.unrecognized, 2 + hex.length + skipped + close)

/-! ## Numbers -/

/-- A number that runs into a name is no token. -/
def numberReading (chars : List Char) : Reading :=
  let (token, length) := match chars with
    | '0' :: x :: rest =>
        let hex := rest.takeWhile isHexDigit
        if (x = 'x' || x = 'X') && !hex.isEmpty then
          (Token.literal (Value.ofInt (hex.foldl (fun value char => 16 * value + hexValue char) 0)),
            hex.length + 2)
        else decimal chars
    | chars => decimal chars
  let more := ((chars.drop length).takeWhile isNamePart).length
  if 0 < more then (.unrecognized, length + more) else (token, length)
where
  decimal (chars : List Char) : Reading :=
    let number := (Value.numeral chars).1
    (.literal (Value.ofNumeral number), number.length)

/-! ## Symbols -/

def twoCharacterSymbols : List (List Char) :=
  ["==", "<=", "<>", "<<", ">=", ">>", "!=", "||"].map String.toList

def symbolCharacters : List Char :=
  ['(', ')', ';', '+', '-', '*', '/', '%', '=', '<', '>', '|', ',', '&', '~', '.']

def symbolReading (first : Char) (rest : List Char) : Reading :=
  if twoCharacterSymbols.contains ((first :: rest).take 2) then
    (.symbol (String.ofList ((first :: rest).take 2)), 2)
  else if symbolCharacters.contains first then (.symbol (String.singleton first), 1)
  else (.unrecognized, 1)

def wordReading (chars : List Char) : Reading :=
  let word := chars.takeWhile isNamePart
  (.word (String.ofList word), word.length)

def startsNumber (chars : List Char) : Bool :=
  match chars with
  | '.' :: next :: _ => next.isDigit
  | first :: _ => first.isDigit
  | [] => false

def read (first : Char) (rest : List Char) : Reading :=
  if first = '\'' then quotedReading '\'' (fun value => .literal (.text value)) rest
  else if first = '"' then quotedReading '"' (.quotedName · true) rest
  else if first = '\x60' then quotedReading '\x60' (.quotedName · false) rest
  else if first = '[' then bracketReading rest
  else if startsNumber (first :: rest) then numberReading (first :: rest)
  else if (first = 'x' || first = 'X') && rest.head? = some '\'' then blobReading (rest.drop 1)
  else if isNameStart first then wordReading (first :: rest)
  else symbolReading first rest

/-- The tokens of the characters that follow the first `position` ones of a statement. -/
def readAll : (steps position : Nat) → List Char → List PlacedToken
  | 0, _, _ => []
  | _ + 1, _, [] => []
  | steps + 1, position, first :: rest =>
      let gap := gapLength (first :: rest)
      if 0 < gap then readAll steps (position + gap) ((first :: rest).drop gap)
      else
        let (token, length) := read first rest
        ⟨token, position, (first :: rest).take length⟩ ::
          readAll steps (position + length) ((first :: rest).drop length)

end Token

/-- The tokens of a statement; every step takes a character at least. -/
def tokens (statement : List Char) : List PlacedToken :=
  Token.readAll (statement.length + 1) 0 statement

end TableBrowser.Sql
