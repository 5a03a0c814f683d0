import TableBrowser.Proofs.Calendar.IsoText
import TableBrowser.Proofs.Number.NumberText
import TableBrowser.Table.Inference
/-!
# Cells that are read again

The text of a cell is read as its datum, and by no reading that comes before.
Main statement: so it is for every datum that a text has been read as.
-/

namespace TableBrowser

open Decimal (isDigit)
open Numeral (IsClear)

/-! ## Clear text -/

namespace Text

theorem isBlank_of_isClear {char : Char} (clear : IsClear char) : isBlank char = false := by
  rcases clear with ⟨above, below, _⟩
  simp [isBlank, blankRanges, CharacterRange.covers, CharacterRange.contains]
  omega

theorem lowerFrom_of_isClear {chars : List Char} (clear : ∀ char ∈ chars, IsClear char)
    (before : List Char) : lowerFrom before chars = chars.map Char.toLower := by
  induction chars generalizing before with
  | nil => rfl
  | cons char chars induction =>
      have plain := (clear char List.mem_cons_self).2.1
      have notSigma : char ≠ 'Σ' := by
        rintro rfl
        exact absurd plain (by decide)
      have notDotted : char ≠ 'İ' := by
        rintro rfl
        exact absurd plain (by decide)
      have isOne : lowerAt before char chars = [char.toLower] := by
        unfold lowerAt
        rw [if_neg (by exact notSigma), if_neg notDotted, lowerChar, if_pos plain]
      rw [lowerFrom, isOne, induction fun other member => clear other (List.mem_cons_of_mem char member)]
      rfl

theorem mem_lowerFrom {chars : List Char} (member : 'e' ∈ chars) (before : List Char) :
    'e' ∈ lowerFrom before chars := by
  induction chars generalizing before with
  | nil => cases member
  | cons char chars induction =>
      rw [lowerFrom]
      rcases List.mem_cons.mp member with rfl | later
      · exact List.mem_append_left _ List.mem_cons_self
      · exact List.mem_append_right _ (induction later _)

theorem trimChars_of_isClear {chars : List Char} (clear : ∀ char ∈ chars, IsClear char) :
    trimChars chars = chars := by
  have stays {chars : List Char} (clear : ∀ char ∈ chars, IsClear char) :
      chars.dropWhile isBlank = chars := by
    cases chars with
    | nil => rfl
    | cons char chars =>
        have notBlank := isBlank_of_isClear (clear char List.mem_cons_self)
        rw [List.dropWhile_cons_of_neg (by simp [notBlank])]
  rw [trimChars, stays clear, stays fun char member => clear char (List.mem_reverse.mp member),
    List.reverse_reverse]

end Text

namespace Inference

/-- The datum has a text of clear characters, which is read as it and by no reading before. -/
structure Keeps (before : List Reading) (reading : Reading) (value : Datum) : Prop where
  clear : ∀ char ∈ value.cellText.toList, IsClear char
  notEmpty : value.cellText.toList ≠ []
  reads : reading.read? value.cellText = some value
  others : ∀ other ∈ before, other.read? value.cellText = none

theorem clean_of_isClear {text : String} (clear : ∀ char ∈ text.toList, IsClear char)
    (notEmpty : text.toList ≠ []) : clean (.text text) = .text text := by
  have notBlank : Text.isAllBlank text = false := by
    rcases List.exists_mem_of_ne_nil _ notEmpty with ⟨char, member⟩
    rw [Text.isAllBlank, List.all_eq_false]
    exact ⟨char, member, by simp [Text.isBlank_of_isClear (clear char member)]⟩
  rw [clean, notBlank, Text.trim, Text.trimChars_of_isClear clear, String.ofList_toList]
  rfl

/-! ## Whole numbers -/

theorem length_digits_of_int? {text : String} {value : Int}
    (isRead : Numeral.int? text = some value) :
    (Decimal.digits value.natAbs).length ≤ Numeral.digitLimit := by
  rcases Option.bind_eq_some_iff.mp isRead with ⟨normal, _, made⟩
  generalize Numeral.splitSign normal = signed at made
  rcases signed with ⟨negative, chars⟩
  rcases Option.bind_eq_some_iff.mp made with ⟨whole, isWhole, limited⟩
  split at limited
  · cases limited
  · next short =>
    have same : value.natAbs = whole := by
      rw [← Option.some.inj limited]
      split <;> omega
    rw [same]
    exact Decimal.length_digits_of_value? isWhole (Nat.not_lt.mp short) (by decide)

/-- A text of whole numbers holds neither a point nor a letter. -/
theorem readInteger?_of_noLetter {text : String} (clear : ∀ char ∈ text.toList, IsClear char)
    (noPoint : '.' ∉ text.toList) (noLetter : 'e' ∉ text.toList.map Char.toLower) :
    readInteger? text = (Numeral.int? text).map .integer := by
  have isLower : (Text.lower text).toList = text.toList.map Char.toLower := by
    rw [Text.lower, String.toList_ofList, Text.lowerFrom_of_isClear clear]
  rw [readInteger?, isLower, if_neg]
  simp [noPoint, noLetter]

theorem readInteger?_of_letter {text : String} (letter : '.' ∈ text.toList ∨ 'e' ∈ text.toList) :
    readInteger? text = none := by
  refine if_pos ?_
  rcases letter with point | letter
  · simp [point]
  · simp [Text.lower, Text.mem_lowerFrom letter]

theorem keeps_integer {text : String} {value : Datum} (isRead : readInteger? text = some value) :
    Keeps [] { type := .integer, read? := readInteger? } value := by
  unfold readInteger? at isRead
  split at isRead
  · cases isRead
  · rcases Option.map_eq_some_iff.mp isRead with ⟨number, isNumber, rfl⟩
    have isText : (Datum.integer number).cellText = Decimal.intText number := rfl
    have isSigned (char : Char) (member : char ∈ (Decimal.intText number).toList) :
        char = '-' ∨ isDigit char = true := by
      rw [Numeral.toList_intText] at member
      rcases List.mem_append.mp member with isSign | isLater
      · split at isSign
        · exact .inl (List.mem_singleton.mp isSign)
        · cases isSign
      · exact .inr (Decimal.isDigit_of_mem_digits isLater)
    have clear (char : Char) (member : char ∈ (Decimal.intText number).toList) : IsClear char :=
      Numeral.isClear_of_mem_intText member
    refine ⟨clear, ?_, ?_, nofun⟩
    · rw [isText, Numeral.toList_intText]
      exact fun none => Decimal.digits_ne_nil _ (List.append_eq_nil_iff.mp none).2
    · have noPoint : '.' ∉ (Decimal.intText number).toList := fun member =>
        absurd (isSigned '.' member) (by decide)
      have noLetter : 'e' ∉ (Decimal.intText number).toList.map Char.toLower := by
        intro member
        rcases List.mem_map.mp member with ⟨char, isChar, isLower⟩
        rcases isSigned char isChar with rfl | digit
        · exact absurd isLower (by decide)
        · rw [Numeral.toLower_of_isDigit digit] at isLower
          rw [isLower] at digit
          exact absurd digit (by decide)
      simp only
      rw [isText, readInteger?_of_noLetter clear noPoint noLetter,
        Numeral.int?_intText (length_digits_of_int? isNumber)]
      rfl

/-! ## Numbers -/

theorem keeps_number {text : String} {value : Datum} (isRead : readNumber? text = some value)
    (isNumber : value ≠ .number .nan) :
    Keeps [{ type := .integer, read? := readInteger? }]
      { type := .number, read? := readNumber?, refused := (· = .number .nan) } value := by
  rcases Option.map_eq_some_iff.mp isRead with ⟨number, _, rfl⟩
  have notNaN : number ≠ .nan := fun same => isNumber (congrArg Datum.number same)
  have reads : readNumber? (Datum.number number).cellText = some (.number number) := by
    have isText := @Numeral.number?_numberText cellNumberLayout (.inl rfl) _ notNaN
    exact congrArg (Option.map Datum.number) isText
  cases number with
  | nan => exact absurd rfl notNaN
  | infinite negative =>
      refine ⟨Numeral.isClear_of_all ?_, ?_, reads, ?_⟩
      · cases negative <;> decide
      · cases negative <;> decide
      · intro other isOther
        rw [List.mem_singleton.mp isOther]
        cases negative <;> decide
  | finite negative units representable =>
      rcases Numeral.exists_spells cellNumberLayout negative representable with
        ⟨chars, digits, exponent, isText, ⟨spells⟩, _⟩
      have isText : (Datum.number (.finite negative units representable)).cellText.toList =
          (if negative then ['-'] else []) ++ chars := isText
      refine ⟨?_, ?_, reads, ?_⟩
      · rw [isText]
        exact Numeral.isClear_of_signed spells.isClear
      · rcases spells.head? with ⟨first, isFirst, _⟩
        rw [isText]
        intro none
        rw [(List.append_eq_nil_iff.mp none).2] at isFirst
        cases isFirst
      · intro other isOther
        rw [List.mem_singleton.mp isOther]
        refine readInteger?_of_letter ?_
        rw [isText]
        exact spells.point_or_letter.imp (List.mem_append_right _) (List.mem_append_right _)

/-! ## Truth values -/

theorem boolean_of_read {text : String} {value : Datum} (isRead : readBoolean? text = some value) :
    value = .boolean true ∨ value = .boolean false := by
  unfold readBoolean? at isRead
  simp only at isRead
  split at isRead
  · exact .inl (Option.some.inj isRead).symm
  · split at isRead
    · exact .inr (Option.some.inj isRead).symm
    · cases isRead

theorem keeps_boolean {text : String} {value : Datum} (isRead : readBoolean? text = some value) :
    Keeps [{ type := .integer, read? := readInteger? },
        { type := .number, read? := readNumber?, refused := (· = .number .nan) }]
      { type := .boolean, read? := readBoolean? } value := by
  rcases boolean_of_read isRead with rfl | rfl
  · refine ⟨Numeral.isClear_of_all (by decide), by decide, by decide, ?_⟩
    intro other isOther
    rcases List.mem_cons.mp isOther with rfl | isOther
    · exact readInteger?_of_letter (.inr (by decide : 'e' ∈ "true".toList))
    · rw [List.mem_singleton.mp isOther]
      decide
  · refine ⟨Numeral.isClear_of_all (by decide), by decide, by decide, ?_⟩
    intro other isOther
    rcases List.mem_cons.mp isOther with rfl | isOther
    · exact readInteger?_of_letter (.inr (by decide : 'e' ∈ "false".toList))
    · rw [List.mem_singleton.mp isOther]
      decide

/-! ## Dates and times -/

/-- Digits before a mark that no number has there. -/
def IsMarked (chars : List Char) : Prop :=
  ∃ digits mark rest, chars = digits ++ mark :: rest ∧ digits ≠ [] ∧
    (∀ char ∈ digits, isDigit char = true) ∧ (mark = '-' ∨ mark = ':')

namespace IsMarked

variable {chars : List Char} (marked : IsMarked chars)

include marked

theorem head? : ∃ first ∈ chars.head?, isDigit first = true := by
  rcases marked with ⟨digits, mark, rest, rfl, notEmpty, areDigits, _⟩
  cases digits with
  | nil => exact absurd rfl notEmpty
  | cons first digits => exact ⟨first, rfl, areDigits first List.mem_cons_self⟩

theorem value? : Decimal.value? chars = none := by
  rcases marked with ⟨digits, mark, rest, rfl, _, _, isMark⟩
  rw [Decimal.value?_of_ne_nil (by simp)]
  have member : mark ∈ digits ++ mark :: rest := by simp
  refine IsoText.valueFrom_of_not_digit member ?_ 0
  rcases isMark with rfl | rfl <;> rfl

theorem decimal? (negative : Bool) : Numeral.decimal? negative chars = none := by
  rcases marked with ⟨digits, mark, rest, rfl, _, areDigits, isMark⟩
  have ends : ∀ char ∈ (mark :: rest).head?, isDigit char = false := by
    intro char isFirst
    cases isFirst
    rcases isMark with rfl | rfl <;> rfl
  have first := Numeral.takeWhile_isDigit areDigits ends
  unfold Numeral.decimal?
  simp only [first, List.drop_left]
  rcases isMark with rfl | rfl
  · change (Decimal.value? (digits ++ []) >>= fun value => none >>= _) = none
    cases Decimal.value? (digits ++ []) <;> rfl
  · change (Decimal.value? (digits ++ []) >>= fun value => none >>= _) = none
    cases Decimal.value? (digits ++ []) <;> rfl

variable (clear : ∀ char ∈ chars, IsClear char)

include clear

theorem others : ∀ other ∈ readings.take 3, other.read? (String.ofList chars) = none := by
  have normal := Numeral.normalize?_ofList clear
  have signed := Numeral.splitSign_of_head marked.head?
  have notWord (word : String) (isWord : word.toList.head?.map isDigit = some false) :
      String.ofList (chars.map Char.toLower) ≠ word :=
    Numeral.ne_of_head? word marked.head? isWord
  have notAmong (words : List String)
      (areWords : ∀ word ∈ words, word.toList.head?.map isDigit = some false) :
      words.contains (String.ofList (chars.map Char.toLower)) = false := by
    rw [Bool.eq_false_iff, ne_eq, List.contains_iff_mem]
    exact fun member => notWord _ (areWords _ member) rfl
  have noInteger : readInteger? (String.ofList chars) = none := by
    unfold readInteger?
    split
    · rfl
    · rw [Numeral.int?, normal, Option.bind_eq_bind, Option.bind_some, signed]
      simp only [marked.value?]
      rfl
  have noNumber : readNumber? (String.ofList chars) = none := by
    rw [readNumber?, Numeral.number?, normal, Option.bind_eq_bind, Option.bind_some, signed]
    simp only
    rw [if_neg (not_or.mpr ⟨notWord "inf" (by decide), notWord "infinity" (by decide)⟩),
      if_neg (notWord "nan" (by decide)), marked.decimal?]
    rfl
  have noBoolean : readBoolean? (String.ofList chars) = none := by
    have isLower : Text.lower (String.ofList chars) = String.ofList (chars.map Char.toLower) := by
      rw [Text.lower, String.toList_ofList, Text.lowerFrom_of_isClear clear]
    have noTrue := notAmong trueWords (by decide)
    have noFalse := notAmong falseWords (by decide)
    rw [readBoolean?, isLower]
    simp only [noTrue, noFalse]
    rfl
  intro other isOther
  simp only [readings, List.take_succ_cons, List.take_zero, List.mem_cons, List.not_mem_nil,
    or_false] at isOther
  rcases isOther with rfl | rfl | rfl
  · exact noInteger
  · exact noNumber
  · exact noBoolean

end IsMarked

theorem isMarked_dateText (date : Date) (rest : List Char) : IsMarked (date.text.toList ++ rest) := by
  rcases IsoText.exists_toList_dateText date with ⟨months, days, isText⟩
  have inYears := date.valid.1.2
  have length : (Decimal.padded 4 date.year).toList.length = 4 :=
    Decimal.length_padded (by omega) (by decide)
  refine ⟨(Decimal.padded 4 date.year).toList, '-',
    months.tens :: months.ones :: '-' :: days.tens :: days.ones :: rest, ?_, ?_,
    fun char => Decimal.isDigit_of_mem_padded, .inl rfl⟩
  · rw [isText, List.append_assoc]
    rfl
  · intro none
    rw [none] at length
    cases length

theorem isMarked_timeText (time : Time) : IsMarked time.text.toList := by
  rcases IsoText.exists_toList_timeText time with ⟨hours, minutes, seconds, rest, isText⟩
  refine ⟨[hours.tens, hours.ones], ':', _, isText, by simp, ?_, .inr rfl⟩
  intro char member
  rcases List.mem_cons.mp member with rfl | member
  · exact hours.isDigit_tens
  · rw [List.mem_singleton.mp member]
    exact hours.isDigit_ones

theorem keeps_of_marked {value : Datum} (clear : ∀ char ∈ value.cellText.toList, IsClear char)
    (marked : IsMarked value.cellText.toList) (reads : readTemporal? value.cellText = some value) :
    Keeps (readings.take 3) { type := .datetime, read? := readTemporal? } value := by
  have others := marked.others clear
  rw [String.ofList_toList] at others
  refine ⟨clear, ?_, reads, others⟩
  rcases marked with ⟨digits, mark, rest, isText, _⟩
  rw [isText]
  simp

theorem keeps_date (date : Date) :
    Keeps (readings.take 3) { type := .datetime, read? := readTemporal? } (.date date) := by
  have marked := isMarked_dateText date []
  rw [List.append_nil] at marked
  refine keeps_of_marked (fun char => IsoText.isClear_of_mem_dateText) marked ?_
  have long : ¬date.text.toList.length < 8 := by
    rw [IsoText.length_dateText]
    decide
  have isRead := IsoText.date?_dateText date
  change readTemporal? date.text = _
  rw [readTemporal?, if_neg long, isRead]
  rfl

theorem keeps_moment {moment : Moment} (regular : moment.time.IsRegular) :
    Keeps (readings.take 3) { type := .datetime, read? := readTemporal? } (.moment moment) := by
  have marked := isMarked_dateText moment.date ('T' :: moment.time.text.toList)
  rw [← IsoText.toList_momentText] at marked
  refine keeps_of_marked (fun char => IsoText.isClear_of_mem_momentText) marked ?_
  have long : ¬moment.text.toList.length < 8 := by
    rw [IsoText.toList_momentText, List.length_append, IsoText.length_dateText]
    omega
  change readTemporal? moment.text = _
  rw [readTemporal?, if_neg long, IsoText.date?_momentText, IsoText.moment?_momentText regular]
  rfl

theorem keeps_time {time : Time} (regular : time.IsRegular) :
    Keeps (readings.take 3) { type := .datetime, read? := readTemporal? } (.time time) := by
  refine keeps_of_marked (fun char => IsoText.isClear_of_mem_timeText) (isMarked_timeText time) ?_
  have long : ¬time.text.toList.length < 8 := Nat.not_lt.mpr (IsoText.length_timeText time)
  change readTemporal? time.text = _
  rw [readTemporal?, if_neg long, IsoText.date?_timeText, IsoText.moment?_timeText,
    IsoText.time?_timeText regular]
  rfl

theorem isRegular_of_moment? {text : String} {moment : Moment}
    (isRead : IsoText.moment? text = some moment) : moment.time.IsRegular := by
  rcases Option.bind_eq_some_iff.mp isRead with ⟨length, _, made⟩
  rcases Option.bind_eq_some_iff.mp made with ⟨date, _, made⟩
  split at made
  · cases made
    exact nofun
  · rcases Option.bind_eq_some_iff.mp made with ⟨time, isTime, made⟩
    cases made
    exact IsoText.isRegular_of_timeChars? isTime

theorem isRegular_of_time? {text : String} {time : Time}
    (isRead : IsoText.time? text = some time) : time.IsRegular := by
  unfold IsoText.time? at isRead
  split at isRead
  · exact IsoText.isRegular_of_timeChars? isRead
  · exact IsoText.isRegular_of_timeChars? isRead

theorem temporal_of_read {text : String} {value : Datum} (isRead : readTemporal? text = some value) :
    (∃ date, value = .date date) ∨ (∃ moment, value = .moment moment ∧ moment.time.IsRegular) ∨
      ∃ time, value = .time time ∧ time.IsRegular := by
  unfold readTemporal? at isRead
  split at isRead
  · cases isRead
  · cases isDate : IsoText.date? text with
    | some date =>
        rw [isDate] at isRead
        cases isRead
        exact .inl ⟨date, rfl⟩
    | none =>
        cases isMoment : IsoText.moment? text with
        | some moment =>
            rw [isDate, isMoment] at isRead
            cases isRead
            exact .inr (.inl ⟨moment, rfl, isRegular_of_moment? isMoment⟩)
        | none =>
            rw [isDate, isMoment] at isRead
            change (IsoText.time? text).map .time = some value at isRead
            rcases Option.map_eq_some_iff.mp isRead with ⟨time, isTime, rfl⟩
            exact .inr (.inr ⟨time, rfl, isRegular_of_time? isTime⟩)

theorem keeps_temporal {text : String} {value : Datum} (isRead : readTemporal? text = some value) :
    Keeps (readings.take 3) { type := .datetime, read? := readTemporal? } value := by
  rcases temporal_of_read isRead with ⟨date, rfl⟩ | ⟨moment, rfl, regular⟩ | ⟨time, rfl, regular⟩
  · exact keeps_date date
  · exact keeps_moment regular
  · exact keeps_time regular

/-- Whatever a text has been read as has a text that is read as the same. -/
theorem keeps_of_read {before after : List Reading} {reading : Reading}
    (placed : readings = before ++ reading :: after) {text : String} {value : Datum}
    (isRead : reading.read? text = some value) (accepted : reading.refused value = false) :
    Keeps before reading value := by
  rcases before with _ | ⟨first, _ | ⟨second, _ | ⟨third, _ | ⟨fourth, more⟩⟩⟩⟩
  · cases placed
    exact keeps_integer isRead
  · cases placed
    exact keeps_number isRead (by simpa using accepted)
  · cases placed
    exact keeps_boolean isRead
  · cases placed
    exact keeps_temporal isRead
  · cases more <;> cases placed

end Inference

end TableBrowser
