import TableBrowser.Calendar.IsoText
import TableBrowser.Proofs.Number.Digits
import TableBrowser.Proofs.Outcome
/-!
# Text of dates and times that is read again

A text that is read as a date, a moment or a time is read as nothing else.
Main statements: dates, times and moments are read from their text, provided
that an offset is zero or at least a second; and every offset that is read is.
-/

namespace TableBrowser

open Decimal (isDigit padded)

/-- No offset is read that is shorter than a second without being zero. -/
def UtcOffset.IsRegular (offset : UtcOffset) : Prop :=
  offset.microseconds = 0 ∨ 1000000 ≤ offset.microseconds.natAbs

def Time.IsRegular (time : Time) : Prop := ∀ offset ∈ time.offset, offset.IsRegular

namespace IsoText

/-! ## Numbers of fixed width -/

theorem number?_padded {count value : Nat} (small : value < 10 ^ count) (positive : 0 < count)
    (rest : List Char) : number? count ((padded count value).toList ++ rest) = some (value, rest) := by
  have length := Decimal.length_padded small positive
  have run : ((padded count value).toList ++ rest).take count = (padded count value).toList :=
    List.take_left' length
  unfold number?
  simp only [run, length, Decimal.value?_padded, List.drop_left' length]
  rfl

/-- Two digits that write a number below a hundred. -/
structure Pair (value : Nat) where
  small : value < 100
  tens : Char
  ones : Char
  chars : (padded 2 value).toList = [tens, ones]

theorem nonempty_pair (value : Nat) (small : value < 100) : Nonempty (Pair value) := by
  have isTwo : (padded 2 value).toList.length = 2 := Decimal.length_padded small (by decide)
  rcases List.length_eq_two.mp isTwo with ⟨tens, ones, chars⟩
  exact ⟨⟨small, tens, ones, chars⟩⟩

namespace Pair

variable {value : Nat} (pair : Pair value)

theorem isDigit_tens : isDigit pair.tens = true := by
  have member : pair.tens ∈ (padded 2 value).toList := by simp [pair.chars]
  exact Decimal.isDigit_of_mem_padded member

theorem isDigit_ones : isDigit pair.ones = true := by
  have member : pair.ones ∈ (padded 2 value).toList := by simp [pair.chars]
  exact Decimal.isDigit_of_mem_padded member

theorem number? (rest : List Char) :
    IsoText.number? 2 (pair.tens :: pair.ones :: rest) = some (value, rest) := by
  have isRead : IsoText.number? 2 ((padded 2 value).toList ++ rest) = some (value, rest) :=
    number?_padded pair.small (by decide) rest
  rwa [pair.chars] at isRead

end Pair

/-! ## Clocks -/

namespace ClockFields

variable {hour minute second : Nat} (hours : Pair hour) (minutes : Pair minute)
  (seconds : Pair second) (following : List Char)

/-- The characters of an hour and a minute. -/
def minuteChars : List Char := [hours.tens, hours.ones, ':', minutes.tens, minutes.ones]

/-- The characters of an hour, a minute and a second. -/
def secondChars : List Char := minuteChars hours minutes ++ [':', seconds.tens, seconds.ones]

theorem read?_minuteChars : read? (minuteChars hours minutes) following =
    some ⟨hour, minute, 0, 0, following.isEmpty⟩ := by
  unfold read? minuteChars
  rw [hours.number?]
  change (number? 2 [minutes.tens, minutes.ones] >>= _) = _
  rw [minutes.number?]
  rfl

/-- After the seconds a reading ends, or a fraction follows. -/
theorem read?_secondChars_append (rest : List Char) :
    read? (secondChars hours minutes seconds ++ rest) following =
      (next? (some true) rest following).bind fun
        | .stop complete => some ⟨hour, minute, second, 0, complete⟩
        | .fraction rest => withFraction? hour minute second rest following
        | .field _ rest => withFraction? hour minute second rest following := by
  unfold read? secondChars minuteChars
  change (number? 2 (hours.tens :: hours.ones :: _) >>= _) = _
  rw [hours.number?]
  change (number? 2 (minutes.tens :: minutes.ones :: _) >>= _) = _
  rw [minutes.number?]
  change (number? 2 (seconds.tens :: seconds.ones :: rest) >>= _) = _
  rw [seconds.number?]
  rfl

theorem read?_secondChars : read? (secondChars hours minutes seconds) following =
    some ⟨hour, minute, second, 0, following.isEmpty⟩ :=
  read?_secondChars_append hours minutes seconds following []

theorem read?_fraction {microsecond : Nat} (small : microsecond < 1000000) :
    read? (secondChars hours minutes seconds ++ '.' :: (padded 6 microsecond).toList) following =
      some ⟨hour, minute, second, microsecond, following.isEmpty⟩ := by
  have length : (padded 6 microsecond).toList.length = 6 := Decimal.length_padded small (by decide)
  have isNumber : number? 6 ((padded 6 microsecond).toList ++ []) = some (microsecond, []) :=
    number?_padded small (by decide) []
  rw [List.append_nil] at isNumber
  have fraction : withFraction? hour minute second (padded 6 microsecond).toList following =
      some ⟨hour, minute, second, microsecond, following.isEmpty⟩ := by
    unfold withFraction?
    rw [length]
    change (number? 6 (padded 6 microsecond).toList >>= _) = _
    rw [isNumber]
    exact congrArg some (congrArg (ClockFields.mk hour minute second · _) (Nat.mul_one microsecond))
  cases digits : (padded 6 microsecond).toList with
  | nil =>
      rw [digits] at length
      cases length
  | cons first rest =>
      rw [digits] at fraction
      rw [read?_secondChars_append]
      cases rest with
      | nil =>
          rw [digits] at length
          cases length
      | cons second rest => exact fraction

end ClockFields

/-! ## Times -/

theorem startsOffset_of_isDigit {char : Char} (digit : isDigit char = true) :
    startsOffset char = false := by
  have notPlus : char ≠ '+' := Decimal.ne_of_isDigit digit (.inl (by decide))
  have notMinus : char ≠ '-' := Decimal.ne_of_isDigit digit (.inl (by decide))
  have notZulu : char ≠ 'Z' := Decimal.ne_of_isDigit digit (.inr (by decide))
  simp [startsOffset, notPlus, notMinus, notZulu]

theorem toList_minutes {hour minute : Nat} (hours : Pair hour) (minutes : Pair minute) :
    (padded 2 hour ++ ":" ++ padded 2 minute).toList = ClockFields.minuteChars hours minutes := by
  rw [String.toList_append, String.toList_append, hours.chars, minutes.chars]
  rfl

theorem toList_seconds {hour minute second : Nat} (hours : Pair hour) (minutes : Pair minute)
    (seconds : Pair second) :
    (padded 2 hour ++ ":" ++ padded 2 minute ++ ":" ++ padded 2 second).toList =
      ClockFields.secondChars hours minutes seconds := by
  rw [String.toList_append, String.toList_append, toList_minutes hours minutes, seconds.chars,
    List.append_assoc]
  rfl

/-- An offset is read from its fields, of which those that are not written are zero. -/
theorem offset?_of_read? {offset : UtcOffset} (regular : offset.IsRegular) {chars : List Char}
    {fields : ClockFields} (isRead : ClockFields.read? chars [] = some fields)
    (complete : fields.complete = true)
    (inSeconds : fields.seconds = offset.microseconds.natAbs / 1000000)
    (fraction : fields.microsecond = offset.microseconds.natAbs % 1000000) :
    offset? (offset.microseconds < 0) chars = some offset := by
  rcases offset with ⟨size, bounded⟩
  simp only [UtcOffset.IsRegular] at regular inSeconds fraction ⊢
  unfold offset?
  rw [isRead]
  simp only [Option.bind_eq_bind, Option.bind_some, complete, Bool.not_true, Bool.false_eq_true,
    if_false, decide_eq_true_eq]
  split
  · next whole =>
    have zero : size = 0 := by omega
    subst zero
    rfl
  · have same : (if size < 0 then -((fields.seconds * 1000000 + fields.microsecond : Nat) : Int)
        else ((fields.seconds * 1000000 + fields.microsecond : Nat) : Int)) = size := by
      split <;> omega
    rw [same]
    exact dif_pos bounded

/-- An offset is a sign and the characters that it is read from. -/
theorem exists_offset?_text {offset : UtcOffset} (regular : offset.IsRegular) :
    ∃ rest, offset.text.toList = (if offset.microseconds < 0 then '-' else '+') :: rest ∧
      offset? (offset.microseconds < 0) rest = some offset := by
  have bounded : offset.microseconds.natAbs < 86400 * 1000000 := offset.bounded
  rcases nonempty_pair (offset.microseconds.natAbs / 1000000 / 3600) (by omega) with ⟨hours⟩
  rcases nonempty_pair (offset.microseconds.natAbs / 1000000 / 60 % 60) (by omega) with
    ⟨minutes⟩
  rcases nonempty_pair (offset.microseconds.natAbs / 1000000 % 60) (by omega) with ⟨seconds⟩
  have sign (clock detail : String) :
      ((if offset.microseconds < 0 then "-" else "+") ++ clock ++ detail).toList =
        (if offset.microseconds < 0 then '-' else '+') :: (clock.toList ++ detail.toList) := by
    split <;> simp
  have inMinutes : (padded 2 (offset.microseconds.natAbs / 1000000 / 3600) ++ ":" ++
      padded 2 (offset.microseconds.natAbs / 1000000 / 60 % 60)).toList =
        ClockFields.minuteChars hours minutes := toList_minutes hours minutes
  have inSeconds : (":" ++ padded 2 (offset.microseconds.natAbs / 1000000 % 60)).toList =
      [':', seconds.tens, seconds.ones] := by
    rw [String.toList_append, seconds.chars]
    rfl
  have whole : (offset.microseconds.natAbs / 1000000 / 3600 * 60 +
      offset.microseconds.natAbs / 1000000 / 60 % 60) * 60 +
        offset.microseconds.natAbs / 1000000 % 60 = offset.microseconds.natAbs / 1000000 := by
    omega
  unfold UtcOffset.text
  refine ⟨_, sign _ _, ?_⟩
  rw [inMinutes]
  split
  · rw [String.toList_append, String.toList_append, inSeconds, List.append_assoc, ← List.append_assoc]
    exact offset?_of_read? regular (ClockFields.read?_fraction hours minutes seconds [] (by omega))
      rfl whole rfl
  · next noFraction =>
    have zero : offset.microseconds.natAbs % 1000000 = 0 := not_not.mp noFraction
    split
    · rw [inSeconds]
      exact offset?_of_read? regular (ClockFields.read?_secondChars hours minutes seconds [])
        rfl whole zero.symm
    · next noSecond =>
      have none : offset.microseconds.natAbs / 1000000 % 60 = 0 := not_not.mp noSecond
      rw [none] at whole
      have isEmpty : "".toList = [] := rfl
      rw [isEmpty, List.append_nil]
      exact offset?_of_read? regular (ClockFields.read?_minuteChars hours minutes [])
        rfl whole zero.symm

/-- The characters of a time before its offset. -/
def clockText (time : Time) : String :=
  padded 2 time.hour ++ ":" ++ padded 2 time.minute ++ ":" ++ padded 2 time.second ++
    (if time.microsecond ≠ 0 then "." ++ padded 6 time.microsecond else "")

theorem read?_clockText (time : Time) (following : List Char) :
    ClockFields.read? (clockText time).toList following =
      some ⟨time.hour, time.minute, time.second, time.microsecond, following.isEmpty⟩ := by
  rcases time.valid with ⟨inDay, inHour, inMinute, inSecond⟩
  rcases nonempty_pair time.hour (by omega) with ⟨hours⟩
  rcases nonempty_pair time.minute (by omega) with ⟨minutes⟩
  rcases nonempty_pair time.second (by omega) with ⟨seconds⟩
  rw [clockText, String.toList_append, toList_seconds hours minutes seconds]
  split
  · rw [String.toList_append]
    exact ClockFields.read?_fraction hours minutes seconds following inSecond
  · next noFraction =>
    have isEmpty : "".toList = [] := rfl
    rw [isEmpty, List.append_nil, ClockFields.read?_secondChars, not_not.mp noFraction]

/-- Digits, and what stands between them in a clock reading. -/
def IsClockChar (char : Char) : Prop := isDigit char = true ∨ char = ':' ∨ char = '.'

theorem startsOffset_of_isClockChar {char : Char} (isClock : IsClockChar char) :
    startsOffset char = false := by
  rcases isClock with digit | rfl | rfl
  · exact startsOffset_of_isDigit digit
  · rfl
  · rfl

theorem isClockChar_of_mem {time : Time} {char : Char} (member : char ∈ (clockText time).toList) :
    IsClockChar char := by
  have padded {width value : Nat} (member : char ∈ (padded width value).toList) : IsClockChar char :=
    .inl (Decimal.isDigit_of_mem_padded member)
  simp only [clockText, String.toList_append, List.mem_append] at member
  rcases member with ((((isHour | isMark) | isMinute) | isMark) | isSecond) | isFraction
  · exact padded isHour
  · exact .inr (.inl (List.mem_singleton.mp isMark))
  · exact padded isMinute
  · exact .inr (.inl (List.mem_singleton.mp isMark))
  · exact padded isSecond
  · split at isFraction
    · rw [String.toList_append] at isFraction
      rcases List.mem_append.mp isFraction with isPoint | isDigits
      · exact .inr (.inr (List.mem_singleton.mp isPoint))
      · exact padded isDigits
    · cases isFraction

/-- Where an offset starts, or nothing does, the clock reading ends. -/
theorem takeWhile_clockText (time : Time) (rest : List Char)
    (starts : ∀ char ∈ rest.head?, startsOffset char = true) :
    ((clockText time).toList ++ rest).takeWhile (!startsOffset ·) = (clockText time).toList := by
  have areClock : ∀ char ∈ (clockText time).toList, (!startsOffset char) = true := by
    intro char member
    rw [startsOffset_of_isClockChar (isClockChar_of_mem member)]
    rfl
  rw [List.takeWhile_append_of_pos areClock]
  cases rest with
  | nil => rw [List.takeWhile_nil, List.append_nil]
  | cons char rest =>
      rw [List.takeWhile_cons_of_neg (by simp [starts char rfl]), List.append_nil]

theorem ofParts?_parts (time : Time) :
    Time.ofParts? time.hour time.minute time.second time.microsecond time.offset = some time :=
  dif_pos time.valid

theorem timeChars?_text {time : Time} (regular : time.IsRegular) :
    timeChars? time.text.toList = some time := by
  have isText : time.text.toList =
      (clockText time).toList ++ ((time.offset.map UtcOffset.text).getD "").toList := by
    rw [← String.toList_append]
    rfl
  have parts := ofParts?_parts time
  rw [isText]
  cases offset : time.offset with
  | none =>
      have reading := takeWhile_clockText time [] nofun
      have isEmpty : ((Option.map UtcOffset.text none).getD "").toList = [] := rfl
      rw [isEmpty]
      unfold timeChars?
      simp only [reading, List.drop_left, read?_clockText]
      rw [offset] at parts
      exact parts
  | some ahead =>
      rcases exists_offset?_text (regular ahead offset) with ⟨rest, isOffset, isRead⟩
      rw [Option.map_some, Option.getD_some, isOffset]
      have reading := takeWhile_clockText time
        ((if ahead.microseconds < 0 then '-' else '+') :: rest) (by
          intro char member
          cases member
          split <;> rfl)
      unfold timeChars?
      simp only [reading, List.drop_left, read?_clockText]
      rw [offset] at parts
      split_ifs at isRead ⊢ with negative
      · rw [decide_eq_true negative] at isRead
        change ((offset? true rest).map some >>= _) = _
        rw [isRead]
        exact parts
      · rw [decide_eq_false negative] at isRead
        change ((offset? false rest).map some >>= _) = _
        rw [isRead]
        exact parts

/-! ## Offsets that are read -/

theorem microseconds_of_ofMicroseconds? {size : Int} {offset : UtcOffset}
    (made : UtcOffset.ofMicroseconds? size = some offset) : offset.microseconds = size := by
  unfold UtcOffset.ofMicroseconds? at made
  split at made
  · cases made
    rfl
  · cases made

theorem offset_of_ofParts? {hour minute second microsecond : Nat} {offset : Option UtcOffset}
    {time : Time} (made : Time.ofParts? hour minute second microsecond offset = some time) :
    time.offset = offset := by
  unfold Time.ofParts? at made
  split at made
  · cases made
    rfl
  · cases made

theorem isRegular_of_offset? {behind : Bool} {chars : List Char} {offset : UtcOffset}
    (isRead : offset? behind chars = some offset) : offset.IsRegular := by
  rcases Option.bind_eq_some_iff.mp isRead with ⟨fields, _, made⟩
  split at made
  · cases made
  · split at made
    · cases made
      exact .inl rfl
    · next notWhole =>
      have isSize := microseconds_of_ofMicroseconds? made
      refine .inr ?_
      rw [isSize]
      split <;> omega

theorem isRegular_of_timeChars? {chars : List Char} {time : Time}
    (isRead : timeChars? chars = some time) : time.IsRegular := by
  rcases Option.bind_eq_some_iff.mp isRead with ⟨fields, _, made⟩
  intro ahead isAhead
  simp only at made
  split at made
  · split at made
    · rw [offset_of_ofParts? made] at isAhead
      cases isAhead
    · cases made
  · rw [offset_of_ofParts? made] at isAhead
    cases isAhead
    exact .inl rfl
  · cases made
  · rcases Option.bind_eq_some_iff.mp made with ⟨offset, isOffset, placed⟩
    rcases Option.map_eq_some_iff.mp isOffset with ⟨found, isFound, isSome⟩
    rw [offset_of_ofParts? placed, ← isSome] at isAhead
    cases isAhead
    exact isRegular_of_offset? isFound

/-! ## Dates -/

open Numeral (IsClear isClear_of_isDigit)

theorem byteLength_of_clear {chars : List Char} (clear : ∀ char ∈ chars, IsClear char) :
    byteLength chars = chars.length := by
  induction chars with
  | nil => rfl
  | cons char chars induction =>
      have isOne : char.utf8Size = 1 :=
        Char.utf8Size_eq_one_iff.mpr (UInt32.le_iff_toNat_le.mpr (by
          have plain := (clear char List.mem_cons_self).2.1
          change char.toNat ≤ 127
          omega))
      have others := induction fun other member => clear other (List.mem_cons_of_mem char member)
      change char.utf8Size + byteLength chars = _
      rw [isOne, others, List.length_cons, Nat.add_comm]

theorem valueFrom_of_not_digit {chars : List Char} {char : Char} (member : char ∈ chars)
    (notDigit : isDigit char = false) (start : Nat) : Decimal.valueFrom start chars = none := by
  induction chars generalizing start with
  | nil => cases member
  | cons first rest induction =>
      rw [Decimal.valueFrom]
      cases isUnit : Decimal.digitValue? first with
      | none => rfl
      | some unit =>
          rcases List.mem_cons.mp member with rfl | later
          · rw [isDigit, isUnit] at notDigit
            cases notDigit
          · exact induction later _

/-- The four digits of a year and the two of a month and a day. -/
theorem exists_toList_dateText (date : Date) : ∃ months : Pair date.month, ∃ days : Pair date.day,
    date.text.toList = (padded 4 date.year).toList ++
      ['-', months.tens, months.ones, '-', days.tens, days.ones] := by
  rcases date.valid with ⟨_, ⟨_, inYear⟩, ⟨_, inMonth⟩⟩
  have few : daysInMonth date.year date.month ≤ 31 := by
    unfold daysInMonth
    split
    · split <;> omega
    · split <;> omega
  rcases nonempty_pair date.month (by omega) with ⟨months⟩
  rcases nonempty_pair date.day (by omega) with ⟨days⟩
  refine ⟨months, days, ?_⟩
  simp only [Date.text, String.toList_append, months.chars, days.chars, List.append_assoc]
  rfl

theorem number?_year (date : Date) (rest : List Char) :
    number? 4 ((padded 4 date.year).toList ++ rest) = some (date.year, rest) := by
  have inYears := date.valid.1.2
  exact number?_padded (by omega) (by decide) rest

theorem length_dateText (date : Date) : date.text.toList.length = 10 := by
  have inYears := date.valid.1.2
  rcases exists_toList_dateText date with ⟨months, days, isText⟩
  rw [isText, List.length_append, Decimal.length_padded (by omega) (by decide)]
  rfl

theorem dateChars?_text (date : Date) : dateChars? date.text.toList = some date := by
  rcases exists_toList_dateText date with ⟨months, days, isText⟩
  have notWeek : months.tens ≠ 'W' := Decimal.ne_of_isDigit months.isDigit_tens (.inr (by decide))
  rw [isText, dateChars?, number?_year]
  simp only [Option.bind_eq_bind, Option.bind_some]
  split
  · next isWeek => exact absurd (List.cons.inj isWeek).1 notWeek
  · rw [monthDate?, months.number?]
    change (number? 2 [days.tens, days.ones] >>= _) = _
    rw [days.number?]
    exact dif_pos date.valid

/-- No date has a mark after two digits. -/
theorem dateChars?_clock (tens ones : Char) (rest : List Char) :
    dateChars? (tens :: ones :: ':' :: rest) = none := by
  have none : number? 4 (tens :: ones :: ':' :: rest) = none := by
    unfold number?
    simp only
    split
    · have noValue : Decimal.value? (tens :: ones :: ':' :: rest.take 1) = Option.none :=
        valueFrom_of_not_digit (by simp : ':' ∈ tens :: ones :: ':' :: rest.take 1) (by decide) 0
      exact congrArg (Option.map _) noValue
    · rfl
  rw [dateChars?, none]
  rfl

/-! ## Characters of texts -/

theorem isClear_of_mem_padded {width value : Nat} {char : Char}
    (member : char ∈ (padded width value).toList) : IsClear char :=
  isClear_of_isDigit (Decimal.isDigit_of_mem_padded member)

theorem isClear_of_mem_mark {mark char : Char} (member : char ∈ [mark]) (clear : IsClear mark) :
    IsClear char := by
  rw [List.mem_singleton.mp member]
  exact clear

theorem isClear_of_mem_dateText {date : Date} {char : Char} (member : char ∈ date.text.toList) :
    IsClear char := by
  simp only [Date.text, String.toList_append, List.mem_append] at member
  rcases member with (((isYear | isMark) | isMonth) | isMark) | isDay
  · exact isClear_of_mem_padded isYear
  · exact isClear_of_mem_mark isMark (by decide)
  · exact isClear_of_mem_padded isMonth
  · exact isClear_of_mem_mark isMark (by decide)
  · exact isClear_of_mem_padded isDay

theorem isClear_of_isClockChar {char : Char} (isClock : IsClockChar char) : IsClear char := by
  rcases isClock with digit | rfl | rfl
  · exact isClear_of_isDigit digit
  · decide
  · decide

theorem isClear_of_mem_offsetText {offset : UtcOffset} {char : Char}
    (member : char ∈ offset.text.toList) : IsClear char := by
  have colon (member : char ∈ ":".toList) : IsClear char :=
    isClear_of_mem_mark member (by decide)
  simp only [UtcOffset.text, String.toList_append, List.mem_append] at member
  rcases member with (isSign | (isHour | isMark) | isMinute) | isDetail
  · split at isSign
    · exact isClear_of_mem_mark isSign (by decide)
    · exact isClear_of_mem_mark isSign (by decide)
  · exact isClear_of_mem_padded isHour
  · exact colon isMark
  · exact isClear_of_mem_padded isMinute
  · split at isDetail
    · simp only [String.toList_append, List.mem_append] at isDetail
      rcases isDetail with ((isMark | isSecond) | isPoint) | isFraction
      · exact colon isMark
      · exact isClear_of_mem_padded isSecond
      · exact isClear_of_mem_mark isPoint (by decide)
      · exact isClear_of_mem_padded isFraction
    · split at isDetail
      · rw [String.toList_append] at isDetail
        exact (List.mem_append.mp isDetail).elim colon isClear_of_mem_padded
      · cases isDetail

theorem toList_timeText (time : Time) : time.text.toList =
    (clockText time).toList ++ ((time.offset.map UtcOffset.text).getD "").toList := by
  rw [← String.toList_append]
  rfl

theorem isClear_of_mem_timeText {time : Time} {char : Char} (member : char ∈ time.text.toList) :
    IsClear char := by
  rw [toList_timeText] at member
  rcases List.mem_append.mp member with isClock | isOffset
  · exact isClear_of_isClockChar (isClockChar_of_mem isClock)
  · cases offset : time.offset with
    | none =>
        rw [offset] at isOffset
        cases isOffset
    | some ahead =>
        rw [offset] at isOffset
        exact isClear_of_mem_offsetText isOffset

theorem toList_momentText (moment : Moment) :
    moment.text.toList = moment.date.text.toList ++ 'T' :: moment.time.text.toList := by
  rw [Moment.text, String.toList_append, String.toList_append, List.append_assoc]
  rfl

theorem isClear_of_mem_momentText {moment : Moment} {char : Char}
    (member : char ∈ moment.text.toList) : IsClear char := by
  rw [toList_momentText] at member
  rcases List.mem_append.mp member with isDate | member
  · exact isClear_of_mem_dateText isDate
  · rcases List.mem_cons.mp member with rfl | isTime
    · decide
    · exact isClear_of_mem_timeText isTime

/-- The digits and marks that every time starts with. -/
theorem exists_toList_timeText (time : Time) : ∃ hours : Pair time.hour, ∃ minutes : Pair time.minute,
    ∃ seconds : Pair time.second, ∃ rest,
      time.text.toList = ClockFields.secondChars hours minutes seconds ++ rest := by
  rcases time.valid with ⟨inDay, inHour, inMinute, _⟩
  rcases nonempty_pair time.hour (by omega) with ⟨hours⟩
  rcases nonempty_pair time.minute (by omega) with ⟨minutes⟩
  rcases nonempty_pair time.second (by omega) with ⟨seconds⟩
  have isText := toList_timeText time
  rw [clockText, String.toList_append, toList_seconds hours minutes seconds,
    List.append_assoc] at isText
  exact ⟨hours, minutes, seconds, _, isText⟩

theorem length_timeText (time : Time) : 8 ≤ time.text.toList.length := by
  rcases exists_toList_timeText time with ⟨hours, minutes, seconds, rest, isText⟩
  rw [isText, List.length_append]
  exact Nat.le_add_right 8 _

/-! ## Texts of one kind -/

theorem date?_dateText (date : Date) : date? date.text = some date := by
  have size : byteLength date.text.toList = 10 := by
    rw [byteLength_of_clear fun char => isClear_of_mem_dateText, length_dateText]
  unfold date?
  simp only [size]
  exact dateChars?_text date

/-- A moment is written with a date, a separator and at least the seconds of a time. -/
theorem le_byteLength_momentText (moment : Moment) : 19 ≤ byteLength moment.text.toList := by
  have isTime := length_timeText moment.time
  rw [byteLength_of_clear fun char => isClear_of_mem_momentText, toList_momentText,
    List.length_append, length_dateText, List.length_cons]
  omega

theorem date?_momentText (moment : Moment) : date? moment.text = none := by
  have size := le_byteLength_momentText moment
  unfold date?
  simp only
  rw [if_neg (by omega)]

theorem moment?_momentText {moment : Moment} (regular : moment.time.IsRegular) :
    moment? moment.text = some moment := by
  have size := le_byteLength_momentText moment
  have length : dateLength moment.text.toList = some 10 := by
    rcases exists_toList_dateText moment.date with ⟨months, days, isText⟩
    have inYears := moment.date.valid.1.2
    have dropped : moment.text.toList.drop 4 = '-' :: months.tens :: months.ones :: '-' ::
        days.tens :: days.ones :: 'T' :: moment.time.text.toList := by
      rw [toList_momentText, isText, List.append_assoc]
      exact List.drop_left' (Decimal.length_padded (by omega) (by decide))
    have notWeek : months.tens ≠ 'W' := Decimal.ne_of_isDigit months.isDigit_tens (.inr (by decide))
    unfold dateLength
    simp only
    rw [if_neg (by omega), if_neg (by omega), dropped]
    split
    · next isWeek => exact absurd (List.cons.inj (List.cons.inj isWeek).2).1 notWeek
    · rfl
    · next isWeek => exact absurd (List.cons.inj isWeek).1 (by decide)
    · next notSeparated _ => exact absurd rfl (notSeparated _)
  have isDate : moment.text.toList.take 10 = moment.date.text.toList := by
    rw [toList_momentText]
    exact List.take_left' (length_dateText moment.date)
  have isTime : moment.text.toList.drop 10 = 'T' :: moment.time.text.toList := by
    rw [toList_momentText]
    exact List.drop_left' (length_dateText moment.date)
  unfold moment?
  simp only [length, Option.bind_eq_bind, Option.bind_some, isDate, dateChars?_text, isTime,
    timeChars?_text regular]

theorem date?_timeText (time : Time) : date? time.text = none := by
  rcases exists_toList_timeText time with ⟨hours, minutes, seconds, rest, isText⟩
  unfold date?
  simp only
  split
  · rw [isText]
    exact dateChars?_clock _ _ _
  · rfl

theorem moment?_timeText (time : Time) : moment? time.text = none := by
  rcases exists_toList_timeText time with ⟨hours, minutes, seconds, rest, isText⟩
  have size : 8 ≤ byteLength time.text.toList := by
    rw [byteLength_of_clear fun char => isClear_of_mem_timeText]
    exact length_timeText time
  have length : dateLength time.text.toList = some 8 := by
    have notMark : minutes.ones ≠ '-' := Decimal.ne_of_isDigit minutes.isDigit_ones (.inl (by decide))
    have notWeek : minutes.ones ≠ 'W' := Decimal.ne_of_isDigit minutes.isDigit_ones (.inr (by decide))
    unfold dateLength
    simp only
    rw [if_neg (by omega), if_neg (by omega), isText]
    have dropped : (ClockFields.secondChars hours minutes seconds ++ rest).drop 4 =
        minutes.ones :: ':' :: seconds.tens :: seconds.ones :: rest := rfl
    rw [dropped]
    split
    · next isMark => exact absurd (List.cons.inj isMark).1 notMark
    · next isMark => exact absurd (List.cons.inj isMark).1 notMark
    · next isWeek => exact absurd (List.cons.inj isWeek).1 notWeek
    · rfl
  have none : dateChars? (time.text.toList.take 8) = none := by
    rw [isText]
    exact dateChars?_clock _ _ _
  unfold moment?
  simp only [length, Option.bind_eq_bind, Option.bind_some, none, Option.bind_none]

theorem time?_timeText {time : Time} (regular : time.IsRegular) :
    time? time.text = some time := by
  rcases exists_toList_timeText time with ⟨hours, minutes, seconds, rest, isText⟩
  have isRead := timeChars?_text regular
  rw [isText] at isRead
  unfold time?
  rw [isText]
  split
  · next announced =>
    have notMark : hours.tens ≠ 'T' := Decimal.ne_of_isDigit hours.isDigit_tens (.inr (by decide))
    exact absurd (List.cons.inj announced).1 notMark
  · exact isRead

end IsoText

end TableBrowser
