import TableBrowser.Proofs.Table.Inference
import TableBrowser.Storage.Destination
import TableBrowser.Storage.Source
/-!
# Types of columns that were written

The cells of a column, as a reader gets them from a file that they were written
to, come to the type and the cells of the column again. Main statement:
`Source.typed_reread`.
-/

namespace TableBrowser

theorem foldl_eq_of_stays {α β : Type} {step : α → β → α} {state : α} {items : List β}
    (stays : ∀ item ∈ items, step state item = state) : items.foldl step state = state := by
  induction items with
  | nil => rfl
  | cons item items induction =>
      rw [List.foldl_cons, stays item List.mem_cons_self]
      exact induction fun other member => stays other (List.mem_cons_of_mem item member)

namespace ColumnType

theorem join_self (type : ColumnType) : type.join type = type := by
  cases type <;> rfl

theorem join_null (type : ColumnType) : type.join .null = type := by
  cases type <;> rfl

theorem foldl_join_of_uniform {type : ColumnType} {data : List Datum}
    (each : ∀ datum ∈ data, datum = .null ∨ ofDatum datum = type) :
    data.foldl (fun joined datum => joined.join (ofDatum datum)) type = type := by
  refine foldl_eq_of_stays fun datum member => ?_
  rcases each datum member with rfl | same
  · exact join_null type
  · rw [same, join_self]

theorem ofData_of_uniform {type : ColumnType} {data : List Datum}
    (each : ∀ datum ∈ data, datum = .null ∨ ofDatum datum = type)
    (some : ∃ datum ∈ data, ofDatum datum = type) : ofData data = type := by
  induction data with
  | nil =>
      rcases some with ⟨_, member, _⟩
      cases member
  | cons datum data induction =>
      have later : ∀ other ∈ data, other = .null ∨ ofDatum other = type :=
        fun other member => each other (List.mem_cons_of_mem datum member)
      by_cases isType : ofDatum datum = type
      · change data.foldl _ (ofDatum datum) = type
        rw [isType]
        exact foldl_join_of_uniform later
      · rcases each datum List.mem_cons_self with rfl | isType'
        · rcases some with ⟨other, member, same⟩
          rcases List.mem_cons.mp member with rfl | member
          · exact absurd same isType
          · exact induction later ⟨other, member, same⟩
        · exact absurd isType' isType

theorem ofData_nulls {data : List Datum} (nulls : ∀ datum ∈ data, datum = .null) :
    ofData data = .null :=
  foldl_join_of_uniform fun datum member => .inl (nulls datum member)

end ColumnType

open ColumnType (ofDatum ofData ofData_of_uniform)

namespace Inference

theorem ofDatum_of_read {reading : Reading} (isReading : reading ∈ readings) {text : String}
    {value : Datum} (isRead : reading.read? text = some value) : ofDatum value = reading.type := by
  simp only [readings, List.mem_cons, List.not_mem_nil, or_false] at isReading
  rcases isReading with rfl | rfl | rfl | rfl
  · change readInteger? text = some value at isRead
    unfold readInteger? at isRead
    split at isRead
    · cases isRead
    · rcases Option.map_eq_some_iff.mp isRead with ⟨_, _, rfl⟩
      rfl
  · rcases Option.map_eq_some_iff.mp isRead with ⟨_, _, rfl⟩
    rfl
  · rcases boolean_of_read isRead with rfl | rfl <;> rfl
  · rcases temporal_of_read isRead with ⟨_, rfl⟩ | ⟨_, rfl, _⟩ | ⟨_, rfl, _⟩ <;> rfl

end Inference

/-! ## Columns of JSON -/

namespace Destination

theorem jsonValue_of_ofDatum {datum : Datum} (notTime : ofDatum datum ≠ .datetime) :
    jsonValue datum = datum := by
  cases datum with
  | date _ | moment _ | time _ => exact absurd rfl notTime
  | _ => rfl

theorem shows_jsonValue {datum : Datum}
    (isShown : datum = .null ∨ ofDatum datum = .datetime ∨ ∃ text, datum = .text text) :
    Inference.Shows datum (jsonValue datum) := by
  rcases isShown with rfl | isTime | ⟨text, rfl⟩
  · exact .inr ⟨rfl, rfl⟩
  · cases datum with
    | date _ | moment _ | time _ => exact .inl rfl
    | _ => cases isTime
  · exact .inl rfl

theorem ofDatum_jsonValue {datum : Datum} (isTime : ofDatum datum = .datetime) :
    ofDatum (jsonValue datum) = .string := by
  cases datum with
  | date _ | moment _ | time _ => rfl
  | _ => cases isTime

end Destination

namespace Source

open Destination (jsonValue jsonValue_of_ofDatum shows_jsonValue ofDatum_jsonValue)

theorem map_jsonValue {cells : List Datum} (plain : ∀ cell ∈ cells, jsonValue cell = cell) :
    cells.map jsonValue = cells :=
  (List.map_congr_left plain).trans (List.map_id _)

theorem typed_json_of_ofData {cells : List Datum} {type : ColumnType} (isType : ofData cells = type)
    (notText : type ≠ .string) : typed .json cells = (type, cells) := by
  unfold typed
  simp only [isType]
  exact if_neg notText

theorem typed_json_of_string {cells : List Datum} (isText : ofData cells = .string) :
    typed .json cells = Inference.column cells := by
  unfold typed
  simp only [isText]
  rfl

/-- Mixed cells stay as they are. -/
theorem typed_json_mixed {given : List Datum} (plain : ∀ cell ∈ given, jsonValue cell = cell)
    (data : (given.map Inference.clean).all (·.isNull) = false)
    (others : (given.map Inference.clean).all Inference.isTextOrNull = false) :
    typed .json ((given.map Inference.clean).map jsonValue) =
      (ofData (given.map Inference.clean), given.map Inference.clean) := by
  have stay : (given.map Inference.clean).map jsonValue = given.map Inference.clean := by
    refine map_jsonValue fun cell member => ?_
    rcases List.mem_map.mp member with ⟨raw, isRaw, rfl⟩
    cases raw with
    | text text =>
        unfold Inference.clean
        simp only
        split <;> rfl
    | _ => exact plain _ isRaw
  rw [stay]
  by_cases isText : ofData (given.map Inference.clean) = .string
  · have clean : (given.map Inference.clean).map Inference.clean = given.map Inference.clean := by
      rw [List.map_map]
      exact List.map_congr_left fun raw _ => Inference.clean_clean raw
    rw [typed_json_of_string isText]
    rw [← clean] at data others
    have mixed := Inference.Typing.mixed data others
    rw [clean] at mixed
    exact Inference.typing_iff.mp mixed
  · exact typed_json_of_ofData rfl isText

theorem typed_json_read {given values : List Datum} {before after : List Inference.Reading}
    {reading : Inference.Reading}
    (data : (given.map Inference.clean).all (·.isNull) = false)
    (placed : Inference.readings = before ++ reading :: after)
    (isRead : reading.column? (given.map Inference.clean) = some (reading.type, values)) :
    typed .json (values.map jsonValue) = (reading.type, values) := by
  rcases Inference.Reading.column?_eq_some.mp isRead with ⟨values, areRead, accepted, ⟨⟩⟩
  have isReading : reading ∈ Inference.readings := by simp [placed]
  have each (value : Datum) (member : value ∈ values) :
      value = .null ∨ ofDatum value = reading.type :=
    (Inference.null_or_keeps placed areRead accepted value member).imp_right
      fun keeps => Inference.ofDatum_of_read isReading keeps.reads
  rcases Inference.exists_keeps placed areRead accepted data with ⟨some, isSome, keeps⟩
  have isType := Inference.ofDatum_of_read isReading keeps.reads
  by_cases isTime : reading.type = .datetime
  · -- Dates and times come back as text, in which they are found again.
    rw [isTime] at each isType
    rw [typed_json_of_string]
    · refine Inference.typing_iff.mp (Inference.typing_read_of_shows data placed isRead ?_)
      refine List.forall₂_map_right_iff.mpr (List.forall₂_same.mpr fun value member => ?_)
      exact shows_jsonValue ((each value member).imp_right .inl)
    · refine ofData_of_uniform ?_ ⟨_, List.mem_map.mpr ⟨some, isSome, rfl⟩, ofDatum_jsonValue isType⟩
      intro cell member
      rcases List.mem_map.mp member with ⟨value, isValue, rfl⟩
      rcases each value isValue with rfl | isTime
      · exact .inl rfl
      · exact .inr (ofDatum_jsonValue isTime)
  · rw [map_jsonValue]
    · refine typed_json_of_ofData (ofData_of_uniform each ⟨some, isSome, isType⟩) ?_
      simp only [Inference.readings, List.mem_cons, List.not_mem_nil, or_false] at isReading
      rcases isReading with rfl | rfl | rfl | rfl <;> simp
    · intro value member
      rcases each value member with rfl | same
      · rfl
      · exact jsonValue_of_ofDatum (same ▸ isTime)

theorem exists_text_keepText {given : List Datum}
    (data : (given.map Inference.clean).all (·.isNull) = false)
    (texts : given.all Inference.isTextOrNull = true) :
    ∃ value ∈ Inference.keepText given, ofDatum value = .string := by
  rcases List.all_eq_false.mp data with ⟨cell, member, notNull⟩
  rcases List.mem_map.mp member with ⟨raw, isRaw, rfl⟩
  refine ⟨raw, List.mem_map.mpr ⟨raw, isRaw, if_neg ?_⟩, ?_⟩
  · intro isNull
    rw [isNull] at notNull
    exact notNull rfl
  · have isText := List.all_eq_true.mp texts raw isRaw
    cases raw with
    | text text => rfl
    | null => exact absurd rfl notNull
    | _ => cases isText

theorem typed_json_kept {given : List Datum}
    (data : (given.map Inference.clean).all (·.isNull) = false)
    (texts : (given.map Inference.clean).all Inference.isTextOrNull = true)
    (unread : ∀ reading ∈ Inference.readings,
      reading.column? (given.map Inference.clean) = none) :
    typed .json ((Inference.keepText given).map jsonValue) =
      (.string, Inference.keepText given) := by
  have givenTexts := (Inference.all_isTextOrNull_clean given).symm.trans texts
  have kept := Inference.kept_of_texts givenTexts
  have shows : List.Forall₂ Inference.Shows (Inference.keepText given)
      ((Inference.keepText given).map jsonValue) := by
    refine List.forall₂_map_right_iff.mpr (List.forall₂_same.mpr fun value member => ?_)
    exact shows_jsonValue ((kept value member).imp_right fun ⟨text, isText, _⟩ =>
      .inr ⟨text, isText⟩)
  have isText : ofData ((Inference.keepText given).map jsonValue) = .string := by
    rw [map_jsonValue]
    · refine ofData_of_uniform ?_ (exists_text_keepText data givenTexts)
      intro value member
      rcases kept value member with rfl | ⟨text, rfl, _⟩
      · exact .inl rfl
      · exact .inr rfl
    · intro value member
      rcases kept value member with rfl | ⟨text, rfl, _⟩ <;> rfl
  rw [typed_json_of_string isText]
  exact Inference.typing_iff.mp (Inference.typing_kept_of_shows data texts unread shows)

theorem typed_json_again {cells : List Datum} (plain : ∀ cell ∈ cells, jsonValue cell = cell)
    {result : ColumnType × List Datum} (isTyped : typed .json cells = result) :
    typed .json (result.2.map jsonValue) = result := by
  by_cases isText : ofData cells = .string
  · rw [typed_json_of_string isText] at isTyped
    cases Inference.typing_iff.mpr isTyped with
    | blank nulls =>
        have areNull : ∀ cell ∈ cells.map Inference.clean, cell = .null := by
          intro cell member
          have isNull := List.all_eq_true.mp nulls cell member
          cases cell with
          | null => rfl
          | _ => cases isNull
        rw [map_jsonValue fun cell member => by rw [areNull cell member]; rfl]
        exact typed_json_of_ofData (ColumnType.ofData_nulls areNull) (by simp)
    | mixed data others => exact typed_json_mixed plain data others
    | read data _ placed isRead _ =>
        rcases Inference.Reading.column?_eq_some.mp isRead with ⟨values, _, _, rfl⟩
        exact typed_json_read data placed isRead
    | kept data texts unread => exact typed_json_kept data texts unread
  · rw [typed_json_of_ofData rfl isText] at isTyped
    rw [← isTyped, map_jsonValue plain]
    exact typed_json_of_ofData rfl isText

end Source

/-! ## Columns of a file -/

namespace Format

/-- A cell as it is read from a file of a format that it was written to. -/
def reread : Format → Datum → Datum
  | .csv, datum | .tsv, datum => .text datum.cellText
  | .json, datum | .sqlite, datum => Destination.jsonValue datum

/-- The cells that a file of a format can hold: delimited text has no others than text. -/
def Holds : Format → Datum → Prop
  | .csv, datum | .tsv, datum => Inference.isTextOrNull datum = true
  | .json, datum | .sqlite, datum => Destination.jsonValue datum = datum

theorem holds_null (format : Format) : format.Holds .null := by
  cases format <;> rfl

end Format

theorem Source.typed_reread {format : Format} {cells : List Datum}
    (held : ∀ cell ∈ cells, format.Holds cell) {result : ColumnType × List Datum}
    (isTyped : typed format cells = result) :
    typed format (result.2.map format.reread) = result := by
  have delimited (texts : ∀ cell ∈ cells, Inference.isTextOrNull cell = true)
      (isColumn : Inference.column cells = result) :
      Inference.column (result.2.map fun value => .text value.cellText) = result :=
    Inference.column_of_shows (List.all_eq_true.mpr texts) isColumn
      (List.forall₂_map_right_iff.mpr (List.forall₂_same.mpr fun value _ => .inl rfl))
  cases format with
  | csv => exact delimited held isTyped
  | tsv => exact delimited held isTyped
  | json => exact typed_json_again held isTyped
  | sqlite => exact typed_json_again held isTyped

end TableBrowser
