import TableBrowser.Delimited.Dialect
import TableBrowser.Proofs.Json.RoundTrip
import TableBrowser.Proofs.Number.Lengths
import TableBrowser.Proofs.Storage.Retyping
import TableBrowser.Proofs.Table.Inference
/-!
# Cells that files carry

A file carries a cell when the cell fits into a field of it, or when its JSON
value can be read back. What a text is read as has a text that fits into a field
of delimited text. Main statement: whatever type is found for a column of cells
that a file carries, a file carries the cells of that type.
-/

namespace TableBrowser

/-! ## How long the text of a cell is -/

open Decimal (length_padded)

theorem UtcOffset.length_text_le (offset : UtcOffset) : offset.text.toList.length ≤ 16 := by
  have bounded := offset.bounded
  have isDay : microsecondsPerDay = 86400000000 := rfl
  have sign : (if offset.microseconds < 0 then "-" else "+").toList.length = 1 := by
    split <;> decide
  have hours : (Decimal.padded 2 (offset.microseconds.natAbs / 1000000 / 3600)).toList.length = 2 :=
    length_padded (by omega) (by decide)
  have minutes :
      (Decimal.padded 2 (offset.microseconds.natAbs / 1000000 / 60 % 60)).toList.length = 2 :=
    length_padded (by omega) (by decide)
  have seconds :
      (Decimal.padded 2 (offset.microseconds.natAbs / 1000000 % 60)).toList.length = 2 :=
    length_padded (by omega) (by decide)
  have fraction : (Decimal.padded 6 (offset.microseconds.natAbs % 1000000)).toList.length = 6 :=
    length_padded (by omega) (by decide)
  have colon : ":".toList.length = 1 := by decide
  have point : ".".toList.length = 1 := by decide
  unfold text
  simp only [String.toList_append, List.length_append, sign, hours, minutes, colon]
  split
  · simp only [String.toList_append, List.length_append, seconds, fraction, colon, point]
    omega
  · split
    · simp only [String.toList_append, List.length_append, seconds, colon]
      omega
    · exact Nat.le_of_lt (by decide)

theorem Time.length_text_le (time : Time) : time.text.toList.length ≤ 31 := by
  rcases time.valid with ⟨hourBound, minuteBound, secondBound, microsecondBound⟩
  have hours : (Decimal.padded 2 time.hour).toList.length = 2 :=
    length_padded (by omega) (by decide)
  have minutes : (Decimal.padded 2 time.minute).toList.length = 2 :=
    length_padded (by omega) (by decide)
  have seconds : (Decimal.padded 2 time.second).toList.length = 2 :=
    length_padded (by omega) (by decide)
  have colon : ":".toList.length = 1 := by decide
  have fraction : (if time.microsecond ≠ 0 then "." ++ Decimal.padded 6 time.microsecond
      else "").toList.length ≤ 7 := by
    split
    · have point : ".".toList.length = 1 := by decide
      rw [String.toList_append, List.length_append, point, length_padded (by omega) (by decide)]
    · decide
  have offset : ((time.offset.map UtcOffset.text).getD "").toList.length ≤ 16 := by
    cases time.offset with
    | none => decide
    | some offset => exact offset.length_text_le
  unfold text
  simp only [String.toList_append, List.length_append, hours, minutes, seconds, colon]
  omega

namespace Inference

theorem length_intText_le (value : Int) :
    (Decimal.intText value).toList.length ≤ (Decimal.digits value.natAbs).length + 1 := by
  rw [Numeral.toList_intText, List.length_append]
  split
  · rw [List.length_singleton]
    omega
  · rw [List.length_nil]
    omega

theorem integer_of_read {text : String} {value : Datum} (isRead : readInteger? text = some value) :
    ∃ whole : Int, value = .integer whole ∧
      (Decimal.digits whole.natAbs).length ≤ Numeral.digitLimit := by
  unfold readInteger? at isRead
  split at isRead
  · cases isRead
  · rcases Option.map_eq_some_iff.mp isRead with ⟨whole, isWhole, rfl⟩
    exact ⟨whole, rfl, length_digits_of_int? isWhole⟩

theorem length_cellText_of_read {reading : Reading} (isReading : reading ∈ readings) {text : String}
    {value : Datum} (isRead : reading.read? text = some value) :
    value.cellText.toList.length ≤ Delimited.fieldLimit := by
  have isLimit : Delimited.fieldLimit = 131072 := rfl
  simp only [readings, List.mem_cons, List.not_mem_nil, or_false] at isReading
  rcases isReading with rfl | rfl | rfl | rfl
  · rcases integer_of_read isRead with ⟨whole, rfl, short⟩
    have bound : (Datum.integer whole).cellText.toList.length ≤ _ := length_intText_le whole
    have digitLimit : Numeral.digitLimit = 4300 := rfl
    omega
  · rcases Option.map_eq_some_iff.mp isRead with ⟨number, _, rfl⟩
    exact Nat.le_trans (Decimal.length_numberText_le number) (by decide)
  · rcases boolean_of_read isRead with rfl | rfl <;> decide
  · rcases temporal_of_read isRead with ⟨date, rfl⟩ | ⟨moment, rfl, _⟩ | ⟨time, rfl, _⟩
    · have bound : (Datum.date date).cellText.toList.length = _ := IsoText.length_dateText date
      omega
    · have dateLength := IsoText.length_dateText moment.date
      have bound := moment.time.length_text_le
      have isText : (Datum.moment moment).cellText.toList =
          moment.date.text.toList ++ 'T' :: moment.time.text.toList := IsoText.toList_momentText moment
      rw [isText, List.length_append, List.length_cons]
      omega
    · exact Nat.le_trans time.length_text_le (by decide)

end Inference

/-! ## Columns that are typed -/

namespace Inference

variable {holds : Datum → Prop}

/-- The cells of a column are null, read from text, or as they were given or cleaned. -/
theorem holds_of_mem_column {given : List Datum} (null : holds .null)
    (read : ∀ reading ∈ readings, ∀ text value, reading.read? text = some value → holds value)
    (each : ∀ raw ∈ given, holds raw ∧ holds (clean raw)) :
    ∀ value ∈ (column given).2, holds value := by
  have cleaned : ∀ value ∈ given.map clean, holds value := by
    intro value member
    rcases List.mem_map.mp member with ⟨raw, isRaw, rfl⟩
    exact (each raw isRaw).2
  have typing : Typing given (column given) := typing_iff.mpr rfl
  generalize column given = result at typing
  cases typing with
  | blank => exact cleaned
  | mixed => exact cleaned
  | read _ _ placed isRead =>
      rcases Reading.column?_eq_some.mp isRead with ⟨values, areRead, accepted, rfl⟩
      intro value member
      rcases null_or_keeps placed areRead accepted value member with rfl | keeps
      · exact null
      · exact read _ (by simp [placed]) _ _ keeps.reads
  | kept =>
      intro value member
      rcases List.mem_map.mp member with ⟨raw, isRaw, rfl⟩
      split
      · exact null
      · exact (each raw isRaw).1

end Inference

namespace Format

/-- A file of a format gives a cell back when it is written to it. -/
def Carries : Format → Datum → Prop
  | .csv, datum | .tsv, datum => datum.cellText.toList.length ≤ Delimited.fieldLimit
  | .json, datum | .sqlite, datum => Json.Readable (Destination.jsonValue datum)

theorem carries_null (format : Format) : format.Carries .null := by
  have short : (Datum.null.cellText).toList.length ≤ Delimited.fieldLimit := by decide
  cases format with
  | csv | tsv => exact short
  | json | sqlite => exact .null

theorem readable_of_inference {reading : Inference.Reading} (isReading : reading ∈ Inference.readings)
    {text : String} {value : Datum} (isRead : reading.read? text = some value) :
    Json.Readable (Destination.jsonValue value) := by
  simp only [Inference.readings, List.mem_cons, List.not_mem_nil, or_false] at isReading
  rcases isReading with rfl | rfl | rfl | rfl
  · rcases Inference.integer_of_read isRead with ⟨whole, rfl, short⟩
    exact .integer short
  · rcases Option.map_eq_some_iff.mp isRead with ⟨number, _, rfl⟩
    exact .number number
  · rcases Inference.boolean_of_read isRead with rfl | rfl <;> exact .boolean _
  · rcases Inference.temporal_of_read isRead with ⟨_, rfl⟩ | ⟨_, rfl, _⟩ | ⟨_, rfl, _⟩ <;>
      exact .text _

theorem carries_of_read (format : Format) {reading : Inference.Reading}
    (isReading : reading ∈ Inference.readings) {text : String} {value : Datum}
    (isRead : reading.read? text = some value) : format.Carries value := by
  cases format with
  | csv | tsv => exact Inference.length_cellText_of_read isReading isRead
  | json | sqlite => exact readable_of_inference isReading isRead

theorem Carries.clean {format : Format} {datum : Datum} (carries : format.Carries datum) :
    format.Carries (Inference.clean datum) := by
  cases datum with
  | text text =>
      unfold Inference.clean
      simp only
      split
      · exact carries_null format
      · cases format with
        | csv | tsv => exact Nat.le_trans (Text.length_trim_le text) carries
        | json | sqlite => exact .text _
  | _ => exact carries

end Format

theorem Source.carries_of_mem_typed {format : Format} {cells : List Datum}
    (carried : ∀ cell ∈ cells, format.Carries cell) :
    ∀ value ∈ (typed format cells).2, format.Carries value := by
  have columns := Inference.holds_of_mem_column format.carries_null
    (fun _ isReading _ _ => format.carries_of_read isReading)
    fun cell member => ⟨carried cell member, (carried cell member).clean⟩
  have datums : ∀ value ∈ (if ColumnType.ofData cells = .string then Inference.column cells
      else (ColumnType.ofData cells, cells)).2, format.Carries value := by
    split
    · exact columns
    · exact carried
  cases format with
  | csv | tsv => exact columns
  | json | sqlite => exact datums

end TableBrowser
