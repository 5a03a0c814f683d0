import TableBrowser.Calendar.Moment
/-!
# Reading dates, times and moments

The forms of ISO 8601 with and without separators, week dates included. A time
may stop after the hour or the minute, may carry a fraction after its last
field, and may be followed by `Z` or an offset written in the same way.
-/

namespace TableBrowser.IsoText

/-- A run of exactly `count` digits, and what follows. -/
def number? (count : Nat) (chars : List Char) : Option (Nat × List Char) :=
  let run := chars.take count
  if run.length = count then (Decimal.value? run).map (·, chars.drop count) else none

def byteLength (chars : List Char) : Nat := chars.foldr (fun char size => char.utf8Size + size) 0

/-! ## Dates -/

/--
A week date after its year. Without a weekday the Monday is meant. What stands
after the weekday is not looked at.
-/
def weekDate? (year : Nat) (separated : Bool) (chars : List Char) : Option Date := do
  let (week, rest) ← number? 2 chars
  match rest, separated with
  | [], _ => Date.ofWeek? year week 1
  | '-' :: rest, true =>
      let (weekday, _) ← number? 1 rest
      Date.ofWeek? year week weekday
  | _, true => none
  | rest, false =>
      let (weekday, _) ← number? 1 rest
      Date.ofWeek? year week weekday

/-- A month and day after their year. What stands after the day is not looked at. -/
def monthDate? (year : Nat) (separated : Bool) (chars : List Char) : Option Date := do
  let (month, rest) ← number? 2 chars
  let dayChars ← match rest, separated with
    | '-' :: rest, true => some rest
    | _, true => none
    | rest, false => some rest
  let (day, _) ← number? 2 dayChars
  Date.ofParts? year month day

def dateChars? (chars : List Char) : Option Date := do
  let (year, rest) ← number? 4 chars
  let (separated, rest) := match rest with
    | '-' :: rest => (true, rest)
    | rest => (false, rest)
  match rest with
  | 'W' :: rest => weekDate? year separated rest
  | rest => monthDate? year separated rest

/-- A date alone takes 7, 8 or 10 bytes. -/
def date? (text : String) : Option Date :=
  let size := byteLength text.toList
  if size = 7 ∨ size = 8 ∨ size = 10 then dateChars? text.toList else none

/-! ## Times -/

/-- Fields of a clock reading that are not yet known to be in range. -/
structure ClockFields where
  hour : Nat
  minute : Nat
  second : Nat
  microsecond : Nat
  /-- Whether the reading goes to the end of the text. -/
  complete : Bool

namespace ClockFields

/-- Digits after a point, of which six count. -/
def withFraction? (hour minute second : Nat) (chars following : List Char) :
    Option ClockFields := do
  let count := min 6 chars.length
  let (value, rest) ← number? count chars
  let rest := if count = 6 then rest.dropWhile Decimal.isDigit else rest
  some { hour, minute, second, microsecond := value * Nat.pow 10 (6 - count),
         complete := rest.isEmpty && following.isEmpty }

/-- What the character after a field of two digits leads to. -/
inductive Next where
  | stop (complete : Bool)
  | field (separated : Bool) (rest : List Char)
  | fraction (rest : List Char)

/--
The step after a field. The first separator decides whether the others are
expected; one ASCII character that ends the reading is passed over.
-/
def next? (separated : Option Bool) (chars following : List Char) : Option Next :=
  match chars with
  | [] => some (.stop following.isEmpty)
  | [char] => if char.toNat < 0x80 then some (.stop false) else none
  | char :: rest =>
      let expected := separated.getD (char = ':')
      if expected && char = ':' then some (.field expected rest)
      else if char = '.' ∨ char = ',' then some (.fraction rest)
      else if !expected then some (.field expected chars)
      else none

/-- The fields of a clock reading that another part of the text may follow. -/
def read? (chars following : List Char) : Option ClockFields := do
  let (hour, rest) ← number? 2 chars
  match ← next? none rest following with
  | .stop complete => some { hour, minute := 0, second := 0, microsecond := 0, complete }
  | .fraction rest => withFraction? hour 0 0 rest following
  | .field separated rest =>
    let (minute, rest) ← number? 2 rest
    match ← next? (some separated) rest following with
    | .stop complete => some { hour, minute, second := 0, microsecond := 0, complete }
    | .fraction rest => withFraction? hour minute 0 rest following
    | .field separated rest =>
      let (second, rest) ← number? 2 rest
      match ← next? (some separated) rest following with
      | .stop complete => some { hour, minute, second, microsecond := 0, complete }
      | .fraction rest => withFraction? hour minute second rest following
      | .field _ rest => withFraction? hour minute second rest following

def seconds (fields : ClockFields) : Nat :=
  (fields.hour * 60 + fields.minute) * 60 + fields.second

end ClockFields

def startsOffset (char : Char) : Bool := char = '+' || char = '-' || char = 'Z'

/-- An offset after its sign; one of whole zero seconds is universal time. -/
def offset? (behind : Bool) (chars : List Char) : Option UtcOffset := do
  let fields ← ClockFields.read? chars []
  if !fields.complete then none
  else if fields.seconds = 0 then some .utc
  else
    let size : Int := (fields.seconds * 1000000 + fields.microsecond : Nat)
    UtcOffset.ofMicroseconds? (if behind then -size else size)

def timeChars? (chars : List Char) : Option Time := do
  let reading := chars.takeWhile (!startsOffset ·)
  let offsetChars := chars.drop reading.length
  let fields ← ClockFields.read? reading offsetChars
  let offset ← match offsetChars with
    | [] => if fields.complete then some none else none
    | ['Z'] => some (some UtcOffset.utc)
    | 'Z' :: _ => none
    | sign :: rest => (offset? (sign = '-') rest).map some
  Time.ofParts? fields.hour fields.minute fields.second fields.microsecond offset

/-- A time of day, which may be announced by `T`. -/
def time? (text : String) : Option Time :=
  match text.toList with
  | 'T' :: rest => timeChars? rest
  | chars => timeChars? chars

/-! ## Moments -/

/--
How many characters the date takes. A compact week date followed by an odd
number of digits has no weekday; after a separated week, a dash and two digits
begin a time.
-/
def dateLength (chars : List Char) : Option Nat :=
  let size := byteLength chars
  if size < 7 then none
  else if size = 7 then some 7
  else match chars.drop 4 with
    | '-' :: 'W' :: rest =>
      match rest.drop 2 with
      | '-' :: [] => none
      | '-' :: _ :: second :: _ => if Decimal.isDigit second then some 8 else some 10
      | '-' :: _ => some 10
      | _ => some 8
    | '-' :: _ => some 10
    | 'W' :: rest =>
      let position := 7 + ((rest.drop 2).takeWhile Decimal.isDigit).length
      if position < 9 then some position
      else if position % 2 = 0 then some 7
      else some 8
    | _ => some 8

/-- A moment; between date and time stands any one character. -/
def moment? (text : String) : Option Moment := do
  let chars := text.toList
  let length ← dateLength chars
  let date ← dateChars? (chars.take length)
  match chars.drop length with
  | [] => some (.ofDate date)
  | _ :: rest => some ⟨date, ← timeChars? rest⟩

end TableBrowser.IsoText
