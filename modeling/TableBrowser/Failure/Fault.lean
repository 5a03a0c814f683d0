import TableBrowser.Datum.Order
import TableBrowser.Datum.Display
import TableBrowser.Number.Decimal
/-!
# Faults

A fault is a mistake that no report is written for: the data or the parameters
are of a kind that the work at hand was not made for. Background work turns a
fault into a report; anywhere else it ends the session.
-/

namespace TableBrowser

/-- The sequence that an index missed. -/
inductive Indexed where
  | row
  | list
  | text
deriving DecidableEq, Repr

def Indexed.noun : Indexed → String
  | .row => "tuple"
  | .list => "list"
  | .text => "string"

inductive Fault where
  | incomparable (clash : Clash)
  /-- A digit without place value stands where a whole number is expected. -/
  | notDecimal (text : String)
  | longNumeral (digits : Nat)
  | longInteger
  | largeInteger
  | largeRepetition
  | clashingFlags
  | largeQuotient
  | notIntegral (infinite : Bool)
  | indexOutOfRange (sequence : Indexed)
  | noSuchKey (key : Datum)
  | notIterable (kind : String)
  | notIndexed (kind : String)
  | notText (index : Nat) (kind : String)
  | noAttribute (kind name : String)
  | unhashable (kind : String)
  | badArgument (text : String)
  | badValue (text : String)
  | noHome
  | unknownEncoding (name : String)
  | unknownLeniency (name : String)
  | undecodable (reason : String)
  | unencodable (text : String)
  | delimitedText (text : String)
  | textEnded
deriving DecidableEq

namespace Fault

/-- No file has a name with a null character. -/
def embeddedNull : Fault := .badValue "embedded null byte"

def className : Fault → String
  | .incomparable _ | .notIterable _ | .notIndexed _ | .notText .. | .unhashable _
  | .badArgument _ => "TypeError"
  | .notDecimal _ | .longNumeral _ | .longInteger | .clashingFlags | .badValue _ => "ValueError"
  | .notIntegral infinite => if infinite then "OverflowError" else "ValueError"
  | .largeInteger | .largeQuotient | .largeRepetition => "OverflowError"
  | .indexOutOfRange _ => "IndexError"
  | .noSuchKey _ => "KeyError"
  | .noAttribute .. => "AttributeError"
  | .noHome | .textEnded => "RuntimeError"
  | .unknownEncoding _ | .unknownLeniency _ => "LookupError"
  | .undecodable _ => "UnicodeDecodeError"
  | .unencodable _ => "UnicodeEncodeError"
  | .delimitedText _ => "Error"

def digitLimitText : String :=
  "Exceeds the limit (" ++ Decimal.natText Numeral.digitLimit ++ " digits) for integer string conversion"

def message : Fault → String
  | .incomparable clash => clash.message
  | .notDecimal text => "invalid literal for int() with base 10: " ++ Text.Quoted.encode text
  | .longNumeral digits =>
      digitLimitText ++ ": value has " ++ Decimal.natText digits ++
        " digits; use sys.set_int_max_str_digits() to increase the limit"
  | .longInteger => digitLimitText ++ "; use sys.set_int_max_str_digits() to increase the limit"
  | .largeInteger => "int too large to convert to float"
  | .largeRepetition => "the repetition number is too large"
  | .clashingFlags => "ASCII and UNICODE flags are incompatible"
  | .largeQuotient => "integer division result too large for a float"
  | .notIntegral infinite =>
      if infinite then "cannot convert float infinity to integer"
      else "cannot convert float NaN to integer"
  | .indexOutOfRange sequence => sequence.noun ++ " index out of range"
  | .noSuchKey key => key.quoted
  | .notIterable kind => "'" ++ kind ++ "' object is not iterable"
  | .notIndexed kind => "'" ++ kind ++ "' object is not subscriptable"
  | .notText index kind =>
      "sequence item " ++ Decimal.natText index ++ ": expected str instance, " ++ kind ++ " found"
  | .noAttribute kind name => "'" ++ kind ++ "' object has no attribute '" ++ name ++ "'"
  | .unhashable kind => "unhashable type: '" ++ kind ++ "'"
  | .badArgument text => text
  | .badValue text => text
  | .noHome => "Could not determine home directory."
  | .unknownEncoding name => "unknown encoding: " ++ name
  | .unknownLeniency name => "unknown error handler name '" ++ name ++ "'"
  | .undecodable reason => "'utf-8' codec can't decode the text: " ++ reason
  | .unencodable text => text
  | .delimitedText text => text
  | .textEnded => "generator raised StopIteration"

end Fault

end TableBrowser
