import TableBrowser.Datum.Basic
import TableBrowser.Number.Decimal
/-!
# Reading JSON

The numbers that JSON has no text for are read from the words `NaN`,
`Infinity` and `-Infinity`. A name that an object repeats keeps its place and
takes the last value. An error names the place where reading stopped.
-/

namespace TableBrowser.Json

inductive Problem where
  | byteOrderMark
  | expectedValue
  | expectedName
  | expectedColon
  | expectedComma
  | unterminatedText
  | controlCharacter
  | escape
  | unicodeEscape
  | extraData
deriving DecidableEq, Repr

def Problem.text : Problem → String
  | .byteOrderMark => "Unexpected UTF-8 BOM (decode using utf-8-sig)"
  | .expectedValue => "Expecting value"
  | .expectedName => "Expecting property name enclosed in double quotes"
  | .expectedColon => "Expecting ':' delimiter"
  | .expectedComma => "Expecting ',' delimiter"
  | .unterminatedText => "Unterminated string starting at"
  | .controlCharacter => "Invalid control character at"
  | .escape => "Invalid \\escape"
  | .unicodeEscape => "Invalid \\uXXXX escape"
  | .extraData => "Extra data"

/-- Why reading stopped; a place is given by the characters that follow it. -/
inductive Stop where
  | malformed (problem : Problem) (rest : List Char)
  | longInteger (digits : Nat)

/-- A value with the characters after it. -/
abbrev Parsed (α : Type) := α × List Char

def isSpace (char : Char) : Bool :=
  char = ' ' || char = '\t' || char = '\n' || char = '\r'

def skipSpace (chars : List Char) : List Char := chars.dropWhile isSpace

/-! ## Text -/

def hexValue? (char : Char) : Option Nat :=
  if '0' ≤ char ∧ char ≤ '9' then some (char.toNat - '0'.toNat)
  else if 'a' ≤ char ∧ char ≤ 'f' then some (char.toNat - 'a'.toNat + 10)
  else if 'A' ≤ char ∧ char ≤ 'F' then some (char.toNat - 'A'.toNat + 10)
  else none

def hexNumber? (chars : List Char) : Option Nat :=
  chars.foldl (fun value char => do some (16 * (← value) + (← hexValue? char))) (some 0)

/-- Four hexadecimal digits that do not end the text, and what follows them. -/
def fourHex? (chars : List Char) : Option (Nat × List Char) :=
  let digits := chars.take 4
  let rest := chars.drop 4
  if digits.length = 4 && !rest.isEmpty then (hexNumber? digits).map (·, rest) else none

def isHighSurrogate (code : Nat) : Bool := 0xD800 ≤ code && code < 0xDC00

def isLowSurrogate (code : Nat) : Bool := 0xDC00 ≤ code && code < 0xE000

/-- A surrogate without its partner stands for no character. -/
def charOfUnit (code : Nat) : Char :=
  if isHighSurrogate code || isLowSurrogate code then '\uFFFD' else Char.ofNat code

/--
The character that an escaped code unit begins, with its partner when there is
one. An error is given by the characters from the letter of the failing escape.
-/
def unicodeEscape (chars : List Char) : Except (List Char) (Char × List Char) :=
  match fourHex? chars with
  | none => .error ('u' :: chars)
  | some (code, rest) =>
      if isHighSurrogate code then
        match rest with
        | '\\' :: 'u' :: second =>
          if second.length ≤ 4 then .ok (charOfUnit code, rest)
          else match fourHex? second with
            | none => .error ('u' :: second)
            | some (low, afterLow) =>
              if isLowSurrogate low then
                .ok (Char.ofNat (0x10000 + (code - 0xD800) * 0x400 + (low - 0xDC00)), afterLow)
              else .ok (charOfUnit code, rest)
        | _ => .ok (charOfUnit code, rest)
      else .ok (charOfUnit code, rest)

def simpleEscape? : Char → Option Char
  | '"' => some '"'
  | '\\' => some '\\'
  | '/' => some '/'
  | 'b' => some '\x08'
  | 'f' => some '\x0c'
  | 'n' => some '\n'
  | 'r' => some '\r'
  | 't' => some '\t'
  | _ => none

/-- The characters of a text up to its closing quote. -/
def textChars (start : List Char) : Nat → List Char → List Char → Except Stop (Parsed (List Char))
  | 0, _, _ => .error (.malformed .unterminatedText start)
  | _ + 1, _, [] => .error (.malformed .unterminatedText start)
  | _ + 1, done, '"' :: rest => .ok (done.reverse, rest)
  | _ + 1, _, ['\\'] => .error (.malformed .unterminatedText start)
  | fuel + 1, done, '\\' :: 'u' :: rest =>
      match unicodeEscape rest with
      | .ok (char, rest) => textChars start fuel (char :: done) rest
      | .error place => .error (.malformed .unicodeEscape place)
  | fuel + 1, done, '\\' :: char :: rest =>
      match simpleEscape? char with
      | some escaped => textChars start fuel (escaped :: done) rest
      | none => .error (.malformed .escape ('\\' :: char :: rest))
  | fuel + 1, done, char :: rest =>
      if char.toNat < 0x20 then .error (.malformed .controlCharacter (char :: rest))
      else textChars start fuel (char :: done) rest

/-- A text after its opening quote. -/
def text (start rest : List Char) : Except Stop (Parsed String) :=
  (textChars start (rest.length + 1) [] rest).map fun (chars, rest) => (String.ofList chars, rest)

/-! ## Numbers -/

/-- Digits, a lone zero or a run that does not start with one. -/
def wholeDigits : List Char → List Char
  | '0' :: _ => ['0']
  | chars => chars.takeWhile Decimal.isDigit

def fractionDigits : List Char → List Char
  | '.' :: rest => rest.takeWhile Decimal.isDigit
  | _ => []

/-- An exponent with its letter and sign; empty when no digit follows. -/
def exponentChars : List Char → List Char
  | letter :: rest =>
      if letter = 'e' ∨ letter = 'E' then
        let sign := rest.takeWhile fun char => char = '+' || char = '-'
        let sign := sign.take 1
        let digits := (rest.drop sign.length).takeWhile Decimal.isDigit
        if digits.isEmpty then [] else letter :: sign ++ digits
      else []
  | [] => []

/-- A number, when the characters start with one. -/
def number? (chars : List Char) : Option (Except Stop (Parsed Datum)) :=
  let (negative, unsigned) := match chars with
    | '-' :: rest => (true, rest)
    | rest => (false, rest)
  let whole := wholeDigits unsigned
  if whole.isEmpty then none
  else
    let afterWhole := unsigned.drop whole.length
    let fraction := fractionDigits afterWhole
    let afterFraction :=
      if fraction.isEmpty then afterWhole else afterWhole.drop (fraction.length + 1)
    let exponent := exponentChars afterFraction
    let rest := afterFraction.drop exponent.length
    if fraction.isEmpty && exponent.isEmpty then
      if Numeral.digitLimit < whole.length then some (.error (.longInteger whole.length))
      else
        let value : Int := ((Decimal.value? whole).getD 0 : Nat)
        some (.ok (.integer (if negative then -value else value), rest))
    else
      let value := (Decimal.value? (whole ++ fraction)).getD 0
      let power := (Numeral.exponent? (exponent.drop 1)).getD 0 - fraction.length
      some (.ok (.number (Binary64.ofDecimal negative value power), rest))

/-! ## Values -/

def words : List (List Char × Datum) := [
  ("null".toList, .null), ("true".toList, .boolean true), ("false".toList, .boolean false),
  ("NaN".toList, .number .nan), ("Infinity".toList, .number (.infinite false)),
  ("-Infinity".toList, .number (.infinite true))]

def word? (chars : List Char) : Option (Datum × List Char) :=
  (words.find? (·.1.isPrefixOf chars)).map fun (word, value) => (value, chars.drop word.length)

mutual

def value : Nat → List Char → Except Stop (Parsed Datum)
  | 0, rest => .error (.malformed .expectedValue rest)
  | fuel + 1, chars =>
      match chars with
      | '"' :: rest => (text chars rest).map fun (value, rest) => (.text value, rest)
      | '\x7b' :: rest =>
          match skipSpace rest with
          | '\x7d' :: rest => .ok (.mapping [], rest)
          | rest => members fuel [] rest
      | '[' :: rest =>
          match skipSpace rest with
          | ']' :: rest => .ok (.list [], rest)
          | rest => items fuel [] rest
      | _ =>
          match word? chars with
          | some found => .ok found
          | none => (number? chars).getD (.error (.malformed .expectedValue chars))

/-- Items of a list after the first bracket or a comma. -/
def items : Nat → List Datum → List Char → Except Stop (Parsed Datum)
  | 0, _, rest => .error (.malformed .expectedValue rest)
  | fuel + 1, done, chars => do
      let (item, rest) ← value fuel chars
      match skipSpace rest with
      | ']' :: rest => .ok (.list (item :: done).reverse, rest)
      | ',' :: rest => items fuel (item :: done) (skipSpace rest)
      | rest => .error (.malformed .expectedComma rest)

/-- Members of an object after the first brace or a comma. -/
def members : Nat → List (Datum × Datum) → List Char → Except Stop (Parsed Datum)
  | 0, _, rest => .error (.malformed .expectedValue rest)
  | fuel + 1, done, chars =>
      match chars with
      | '"' :: rest => do
          let (name, rest) ← text chars rest
          match skipSpace rest with
          | ':' :: rest => do
              let (item, rest) ← value fuel (skipSpace rest)
              let done := Datum.put done (.text name) item
              match skipSpace rest with
              | '\x7d' :: rest => .ok (.mapping done, rest)
              | ',' :: rest => members fuel done (skipSpace rest)
              | rest => .error (.malformed .expectedComma rest)
          | rest => .error (.malformed .expectedColon rest)
      | rest => .error (.malformed .expectedName rest)

end

/-- An error in a text: what is wrong and where, or a whole number that is too long. -/
inductive ReadError where
  | malformed (problem : Problem) (line column position : Nat)
  | longInteger (digits : Nat)
deriving DecidableEq, Repr

def ReadError.message : ReadError → String
  | .malformed problem line column position =>
      problem.text ++ ": line " ++ Decimal.natText line ++ " column " ++ Decimal.natText column ++
        " (char " ++ Decimal.natText position ++ ")"
  | .longInteger digits =>
      "Exceeds the limit (" ++ Decimal.natText Numeral.digitLimit ++
        " digits) for integer string conversion: value has " ++ Decimal.natText digits ++
        " digits; use sys.set_int_max_str_digits() to increase the limit"

/-- The place of a rest within the whole text. -/
def Stop.locate (chars : List Char) : Stop → ReadError
  | .longInteger digits => .longInteger digits
  | .malformed problem rest =>
      let before := chars.take (chars.length - rest.length)
      let lastLine := before.reverse.takeWhile (· ≠ '\n')
      .malformed problem (before.count '\n' + 1) (lastLine.length + 1) before.length

def readChars (chars : List Char) : Except Stop Datum := do
  if chars.head? = some '\uFEFF' then .error (.malformed .byteOrderMark chars)
  else
    let (datum, rest) ← value (2 * chars.length + 2) (skipSpace chars)
    match skipSpace rest with
    | [] => .ok datum
    | rest => .error (.malformed .extraData rest)

def read (text : String) : Except ReadError Datum :=
  (readChars text.toList).mapError (Stop.locate text.toList)

end TableBrowser.Json
