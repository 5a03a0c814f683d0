import TableBrowser.Failure.Fault
import TableBrowser.Text.LetterCase
/-!
# Text as bytes

A file holds bytes, and an encoding says which text they are. UTF-8 is read
strictly: a character has one form only, and a form that breaks off says how.
-/

namespace TableBrowser

inductive Encoding where
  | utf8
  /-- UTF-8 after a mark that names it. -/
  | utf8Marked
  | utf16
  | latin1
  | ascii
  | windows1252
deriving DecidableEq, Repr

namespace Encoding

/-! ## Names -/

/-- Letters, digits and points of a name in lower case, with an underscore for all between them. -/
def plainName (name : String) : String :=
  let keep (char : Char) : Bool := char.isAlphanum || char = '.'
  String.ofList (collapse keep (name.toList.map Char.toLower))
where
  collapse (keep : Char → Bool) : List Char → List Char
    | [] => []
    | char :: chars =>
        let rest := collapse keep chars
        if keep char then char :: rest
        else if rest.head? = some '_' ∨ rest.isEmpty then rest
        else '_' :: rest

def namesOf : Encoding → List String
  | .utf8 => ["utf8", "utf_8", "u8", "utf", "utf8_ucs2", "utf8_ucs4", "cp65001"]
  | .utf8Marked => ["utf_8_sig"]
  | .utf16 => ["utf_16", "u16", "utf16"]
  | .latin1 => ["latin_1", "latin1", "latin", "l1", "iso8859_1", "iso_8859_1", "iso8859", "8859",
      "cp819", "ibm819", "csisolatin1", "iso_ir_100", "iso_8859_1_1987"]
  | .ascii => ["ascii", "us_ascii", "us", "646", "iso646_us", "cp367", "ibm367", "iso_ir_6",
      "ansi_x3.4_1968", "ansi_x3_4_1968", "ansi_x3.4_1986", "iso_646.irv_1991"]
  | .windows1252 => ["cp1252", "windows_1252", "1252"]

def all : List Encoding := [.utf8, .utf8Marked, .utf16, .latin1, .ascii, .windows1252]

def ofName? (name : String) : Option Encoding :=
  all.find? fun encoding => encoding.namesOf.contains (plainName name)

/-! ## Reading -/

inductive DecodeProblem where
  | startByte
  | continuationByte
  | endOfData
  | notAscii
  | undefinedByte
  | truncatedData
  | surrogate
  | noByteOrderMark
deriving DecidableEq, Repr

def DecodeProblem.reason : DecodeProblem → String
  | .startByte => "invalid start byte"
  | .continuationByte => "invalid continuation byte"
  | .endOfData => "unexpected end of data"
  | .notAscii => "ordinal not in range(128)"
  | .undefinedByte => "character maps to <undefined>"
  | .truncatedData => "truncated data"
  | .surrogate => "illegal encoding"
  | .noByteOrderMark => "UTF-16 stream does not start with BOM"

/-- A character and the bytes after it, or what is wrong and the bytes after the broken form. -/
abbrev Decoded := Except (DecodeProblem × List UInt8) (Char × List UInt8)

/-- The bytes that may follow the first byte of a form of several bytes. -/
def secondByte (first : UInt8) : UInt8 × UInt8 :=
  if first = 0xE0 then (0xA0, 0xBF)
  else if first = 0xED then (0x80, 0x9F)
  else if first = 0xF0 then (0x90, 0xBF)
  else if first = 0xF4 then (0x80, 0x8F)
  else (0x80, 0xBF)

/-- The remaining bytes of a form, each with six more bits. -/
def continued (value : Nat) (range : UInt8 × UInt8) : Nat → List UInt8 → Decoded
  | 0, rest => .ok (Char.ofNat value, rest)
  | _ + 1, [] => .error (.endOfData, [])
  | count + 1, byte :: rest =>
      if range.1 ≤ byte ∧ byte ≤ range.2 then
        continued (64 * value + byte.toNat % 64) (0x80, 0xBF) count rest
      else .error (.continuationByte, byte :: rest)

def utf8Char (first : UInt8) (rest : List UInt8) : Decoded :=
  if first < 0x80 then .ok (Char.ofNat first.toNat, rest)
  else if 0xC2 ≤ first ∧ first < 0xE0 then continued (first.toNat % 32) (secondByte first) 1 rest
  else if 0xE0 ≤ first ∧ first < 0xF0 then continued (first.toNat % 16) (secondByte first) 2 rest
  else if 0xF0 ≤ first ∧ first < 0xF5 then continued (first.toNat % 8) (secondByte first) 3 rest
  else .error (.startByte, rest)

def latin1Char (first : UInt8) (rest : List UInt8) : Decoded :=
  .ok (Char.ofNat first.toNat, rest)

def asciiChar (first : UInt8) (rest : List UInt8) : Decoded :=
  if first < 0x80 then .ok (Char.ofNat first.toNat, rest) else .error (.notAscii, rest)

/-- The characters from 0x80 to 0x9F of the Windows table; zero where there is none. -/
def windowsTable : List Nat := [
  0x20AC, 0, 0x201A, 0x0192, 0x201E, 0x2026, 0x2020, 0x2021, 0x02C6, 0x2030, 0x0160, 0x2039, 0x0152,
  0, 0x017D, 0, 0, 0x2018, 0x2019, 0x201C, 0x201D, 0x2022, 0x2013, 0x2014, 0x02DC, 0x2122, 0x0161,
  0x203A, 0x0153, 0, 0x017E, 0x0178]

def windowsChar (first : UInt8) (rest : List UInt8) : Decoded :=
  if 0x80 ≤ first ∧ first < 0xA0 then
    match windowsTable.getD (first.toNat - 0x80) 0 with
    | 0 => .error (.undefinedByte, rest)
    | code => .ok (Char.ofNat code, rest)
  else .ok (Char.ofNat first.toNat, rest)

/-- A character of one or two units of 16 bits. -/
def utf16Char (bigEndian : Bool) (first : UInt8) (rest : List UInt8) : Decoded :=
  let joined (left right : UInt8) : Nat :=
    if bigEndian then 256 * left.toNat + right.toNat else 256 * right.toNat + left.toNat
  match rest with
  | [] => .error (.truncatedData, [])
  | second :: rest =>
      let unit := joined first second
      if unit < 0xD800 ∨ 0xE000 ≤ unit then .ok (Char.ofNat unit, rest)
      else match rest with
        | third :: fourth :: after =>
            let low := joined third fourth
            if unit < 0xDC00 ∧ 0xDC00 ≤ low ∧ low < 0xE000 then
              .ok (Char.ofNat (0x10000 + (unit - 0xD800) * 0x400 + (low - 0xDC00)), after)
            else .error (.surrogate, rest)
        | _ => .error (.endOfData, [])

/-- What is done about bytes that are no text, and about text without bytes. -/
inductive Leniency where
  | strict
  | ignore
  | replace
  | unknown (name : String)
deriving DecidableEq, Repr

def Leniency.ofName (name : String) : Leniency :=
  if name = "strict" then .strict
  else if name = "ignore" then .ignore
  else if name = "replace" then .replace
  else .unknown name

/-- The text of bytes, one character after the other; the count bounds the characters. -/
def decodeWith (next : UInt8 → List UInt8 → Decoded) (leniency : Leniency) (done : List Char) :
    Nat → List UInt8 → Except DecodeProblem (List Char)
  | 0, _ => .ok done.reverse
  | _ + 1, [] => .ok done.reverse
  | count + 1, first :: rest =>
      match next first rest with
      | .ok (char, rest) => decodeWith next leniency (char :: done) count rest
      | .error (problem, rest) =>
          match leniency with
          | .ignore => decodeWith next leniency done count rest
          | .replace => decodeWith next leniency ('\uFFFD' :: done) count rest
          | _ => .error problem

def utf8Mark : List UInt8 := [0xEF, 0xBB, 0xBF]

def decode (encoding : Encoding) (leniency : Leniency) (bytes : List UInt8) :
    Except DecodeProblem (List Char) :=
  let run (next : UInt8 → List UInt8 → Decoded) (bytes : List UInt8) :=
    decodeWith next leniency [] bytes.length bytes
  match encoding with
  | .utf8 => run utf8Char bytes
  | .utf8Marked => run utf8Char (if utf8Mark.isPrefixOf bytes then bytes.drop 3 else bytes)
  | .latin1 => run latin1Char bytes
  | .ascii => run asciiChar bytes
  | .windows1252 => run windowsChar bytes
  | .utf16 =>
      match bytes with
      | 0xFF :: 0xFE :: rest => run (utf16Char false) rest
      | 0xFE :: 0xFF :: rest => run (utf16Char true) rest
      | [] => .ok []
      | _ => .error .noByteOrderMark

/-! ## Writing -/

def bytesOf? (encoding : Encoding) (char : Char) : Option (List UInt8) :=
  let code := char.toNat
  match encoding with
  | .utf8 | .utf8Marked => some (String.utf8EncodeChar char)
  | .latin1 => if code < 0x100 then some [UInt8.ofNat code] else none
  | .ascii => if code < 0x80 then some [UInt8.ofNat code] else none
  | .windows1252 =>
      if code < 0x80 ∨ (0xA0 ≤ code ∧ code < 0x100) then some [UInt8.ofNat code]
      else (windowsTable.idxOf? code).map fun index => [UInt8.ofNat (0x80 + index)]
  | .utf16 =>
      let unit (value : Nat) : List UInt8 := [UInt8.ofNat (value % 256), UInt8.ofNat (value / 256)]
      if code < 0x10000 then some (unit code)
      else some (unit (0xD800 + (code - 0x10000) / 0x400) ++ unit (0xDC00 + (code - 0x10000) % 0x400))

/-- What comes before all text. -/
def mark : Encoding → List UInt8
  | .utf8Marked => utf8Mark
  | .utf16 => [0xFF, 0xFE]
  | _ => []

def title : Encoding → String
  | .latin1 => "latin-1"
  | .ascii => "ascii"
  | .windows1252 => "charmap"
  | .utf16 => "utf-16"
  | .utf8 | .utf8Marked => "utf-8"

def rangeText : Encoding → String
  | .latin1 => "ordinal not in range(256)"
  | .ascii => "ordinal not in range(128)"
  | _ => "character maps to <undefined>"

def escaped (char : Char) : String :=
  let code := char.toNat
  String.ofList (if code < 0x100 then '\\' :: 'x' :: Text.Quoted.hex 2 code
    else if code < 0x10000 then '\\' :: 'u' :: Text.Quoted.hex 4 code
    else '\\' :: 'U' :: Text.Quoted.hex 8 code)

/-- The message about the first characters of a text that have no bytes. -/
def encodeMessage (encoding : Encoding) (text : List Char) : String :=
  let lacks (char : Char) : Bool := (encoding.bytesOf? char).isNone
  let start := (text.takeWhile (!lacks ·)).length
  let run := (text.drop start).takeWhile lacks
  let place := match run with
    | [char] => "character '" ++ escaped char ++ "' in position " ++ Decimal.natText start
    | run => "characters in position " ++ Decimal.natText start ++ "-" ++
        Decimal.natText (start + run.length - 1)
  "'" ++ encoding.title ++ "' codec can't encode " ++ place ++ ": " ++ encoding.rangeText

/-- The bytes of a text without a mark, or the message about what has none. -/
def encode (encoding : Encoding) (leniency : Leniency) (text : List Char) :
    Except String (List UInt8) := do
  let parts ← text.mapM fun char =>
    match encoding.bytesOf? char, leniency with
    | some bytes, _ => .ok bytes
    | none, .ignore => .ok []
    | none, .replace => .ok [0x3F]
    | none, _ => .error (encoding.encodeMessage text)
  return parts.flatten

example : Encoding.ofName? "UTF-8" = some .utf8 := by decide
example : utf8Char 0xC3 [0xA9] = .ok ('é', []) := rfl
example : utf8Char 0xE0 [0x80, 0x80] = .error (.continuationByte, [0x80, 0x80]) := rfl

end Encoding

end TableBrowser
