import Mathlib.Data.List.DropRight
import TableBrowser.Proofs.Outcome
import TableBrowser.Proofs.Table.CellText
/-!
# Types that are found again

How a column comes to its type and its cells, and that the texts which its cells
show come to the same. Main statement: `column_of_shows`.
-/

namespace TableBrowser

namespace Text

theorem trimChars_sublist (chars : List Char) : (trimChars chars).Sublist chars :=
  (List.rdropWhile_prefix isBlank (chars.dropWhile isBlank)).sublist.trans
    (List.dropWhile_sublist isBlank)

theorem length_trim_le (text : String) : (trim text).toList.length ≤ text.toList.length := by
  rw [trim, String.toList_ofList]
  exact (trimChars_sublist text.toList).length_le

theorem trim_cases (text : String) :
    trim text = text ∨ (trim text).toList.length < text.toList.length := by
  rcases (length_trim_le text).eq_or_lt with same | shorter
  · have within := trimChars_sublist text.toList
    rw [trim, String.toList_ofList] at same
    exact .inl (by rw [trim, within.eq_of_length same, String.ofList_toList])
  · exact .inr shorter

theorem all_isBlank_trimChars (chars : List Char) :
    (trimChars chars).all isBlank = chars.all isBlank := by
  rw [Bool.eq_iff_iff, List.all_eq_true, List.all_eq_true]
  constructor
  · intro blank
    have isNil : trimChars chars = [] := by
      by_contra notNil
      exact List.rdropWhile_last_not isBlank _ notNil (blank _ (List.getLast_mem notNil))
    have rest := List.rdropWhile_eq_nil_iff.mp isNil
    intro char member
    rw [← List.takeWhile_append_dropWhile (p := isBlank) (l := chars)] at member
    rcases List.mem_append.mp member with before | after
    · exact List.mem_takeWhile_imp before
    · exact rest char after
  · intro blank char member
    exact blank char ((trimChars_sublist chars).subset member)

theorem trimChars_trimChars (chars : List Char) : trimChars (trimChars chars) = trimChars chars := by
  have stays : (trimChars chars).dropWhile isBlank = trimChars chars := by
    rcases List.rdropWhile_prefix isBlank (chars.dropWhile isBlank) with ⟨cut, isRest⟩
    change trimChars chars ++ cut = chars.dropWhile isBlank at isRest
    have notBlank := List.head?_dropWhile_not isBlank chars
    rw [← isRest] at notBlank
    cases trimmed : trimChars chars with
    | nil => rfl
    | cons first later =>
        rw [trimmed, List.cons_append, List.head?_cons] at notBlank
        exact List.dropWhile_cons_of_neg (Bool.eq_false_iff.mp notBlank)
  change List.rdropWhile isBlank ((trimChars chars).dropWhile isBlank) = _
  rw [stays]
  exact List.rdropWhile_idempotent isBlank _

theorem dropWhile_of_trimmed {chars : List Char} (trimmed : trimChars chars = chars) :
    chars.dropWhile isBlank = chars := by
  have shorter := (List.rdropWhile_prefix isBlank (chars.dropWhile isBlank)).length_le
  change (trimChars chars).length ≤ _ at shorter
  rw [trimmed] at shorter
  exact (List.dropWhile_suffix isBlank).eq_of_length
    (Nat.le_antisymm (List.dropWhile_sublist isBlank).length_le shorter)

theorem rdropWhile_of_trimmed {chars : List Char} (trimmed : trimChars chars = chars) :
    chars.rdropWhile isBlank = chars := by
  have trimmedTwice : (chars.dropWhile isBlank).rdropWhile isBlank = chars := trimmed
  rwa [dropWhile_of_trimmed trimmed] at trimmedTwice

end Text

namespace Inference

/-! ## Clean cells -/

theorem clean_clean (datum : Datum) : clean (clean datum) = clean datum := by
  cases datum with
  | text value =>
      cases blank : Text.isAllBlank value with
      | true => simp [clean, blank]
      | false =>
          have stillNot : Text.isAllBlank (Text.trim value) = false := by
            rw [Text.isAllBlank, Text.trim, String.toList_ofList, Text.all_isBlank_trimChars]
            exact blank
          have stays : Text.trim (Text.trim value) = Text.trim value := by
            rw [Text.trim, Text.trim, String.toList_ofList, Text.trimChars_trimChars]
          simp [clean, blank, stillNot, stays]
  | _ => rfl

theorem isTextOrNull_clean (datum : Datum) : isTextOrNull (clean datum) = isTextOrNull datum := by
  cases datum with
  | text value =>
      unfold clean
      simp only
      split <;> rfl
  | _ => rfl

theorem all_isTextOrNull_clean (given : List Datum) :
    (given.map clean).all isTextOrNull = given.all isTextOrNull := by
  simp only [List.all_map, Function.comp_def, isTextOrNull_clean]

/-! ## Origins -/

/-- How a column of raw cells comes to its type and its cells. -/
inductive Typing (given : List Datum) : ColumnType × List Datum → Prop where
  | blank (nulls : (given.map clean).all (·.isNull) = true) :
      Typing given (.null, given.map clean)
  | mixed (data : (given.map clean).all (·.isNull) = false)
      (others : (given.map clean).all isTextOrNull = false) :
      Typing given (.ofData (given.map clean), given.map clean)
  | read {before after : List Reading} {reading : Reading} {result : ColumnType × List Datum}
      (data : (given.map clean).all (·.isNull) = false)
      (texts : (given.map clean).all isTextOrNull = true)
      (placed : readings = before ++ reading :: after)
      (isRead : reading.column? (given.map clean) = some result)
      (unread : ∀ other ∈ before, other.column? (given.map clean) = none) : Typing given result
  | kept (data : (given.map clean).all (·.isNull) = false)
      (texts : (given.map clean).all isTextOrNull = true)
      (unread : ∀ reading ∈ readings, reading.column? (given.map clean) = none) :
      Typing given (.string, keepText given)

theorem typing_iff {given : List Datum} {result : ColumnType × List Datum} :
    Typing given result ↔ column given = result := by
  constructor
  · intro typing
    unfold column
    simp only
    cases typing with
    | blank nulls => rw [if_pos nulls]
    | mixed data others => simp [data, others]
    | read data texts placed isRead unread =>
        have found : readings.findSome? (·.column? (given.map clean)) = some result :=
          List.findSome?_eq_some_iff.mpr ⟨_, _, _, placed, isRead, unread⟩
        simp [data, texts, found]
    | kept data texts unread =>
        have found : readings.findSome? (·.column? (given.map clean)) = none :=
          List.findSome?_eq_none_iff.mpr unread
        simp [data, texts, found]
  · rintro rfl
    cases data : (given.map clean).all (·.isNull) with
    | true =>
        have isResult : column given = (.null, given.map clean) := by simp [column, data]
        rw [isResult]
        exact .blank data
    | false =>
        cases texts : (given.map clean).all isTextOrNull with
        | false =>
            have isResult : column given = (.ofData (given.map clean), given.map clean) := by
              simp [column, data, texts]
            rw [isResult]
            exact .mixed data texts
        | true =>
            cases found : readings.findSome? (·.column? (given.map clean)) with
            | some result =>
                rcases List.findSome?_eq_some_iff.mp found with
                  ⟨before, reading, after, placed, isRead, unread⟩
                have isResult : column given = result := by simp [column, data, texts, found]
                rw [isResult]
                exact .read data texts placed isRead unread
            | none =>
                have isResult : column given = (.string, keepText given) := by
                  simp [column, data, texts, found]
                rw [isResult]
                exact .kept data texts (List.findSome?_eq_none_iff.mp found)

/-! ## Readings -/

theorem Reading.column?_eq_some {reading : Reading} {cells : List Datum}
    {result : ColumnType × List Datum} :
    reading.column? cells = some result ↔
      ∃ values, List.Forall₂ (fun cell value => readCell? reading.read? cell = some value) cells
        values ∧ (∀ value ∈ values, reading.refused value = false) ∧
          result = (reading.type, values) := by
  constructor
  · intro isResult
    rcases Option.bind_eq_some_iff.mp isResult with ⟨values, areRead, made⟩
    split at made
    · cases made
    · next accepted =>
      refine ⟨values, mapM_eq_some.mp areRead, ?_, (Option.some.inj made).symm⟩
      simpa using accepted
  · rintro ⟨values, areRead, accepted, rfl⟩
    refine Option.bind_eq_some_iff.mpr ⟨values, mapM_eq_some.mpr areRead, if_neg ?_⟩
    simpa using accepted

theorem Reading.column?_eq_none {reading : Reading} {cells : List Datum} {cell : Datum}
    (member : cell ∈ cells) (unread : readCell? reading.read? cell = none) :
    reading.column? cells = none := by
  refine Option.bind_eq_none_iff.mpr fun values areRead => ?_
  rcases some_of_mapM areRead member with ⟨value, isValue⟩
  rw [unread] at isValue
  cases isValue

/-! ## What cells show -/

/-- A raw cell is the text that a cell shows; a null may also be null. -/
def Shows (value raw : Datum) : Prop := raw = .text value.cellText ∨ (value = .null ∧ raw = .null)

theorem Shows.clean {value raw : Datum} (shows : Shows value raw) :
    clean raw = clean (.text value.cellText) := by
  rcases shows with rfl | ⟨rfl, rfl⟩
  · rfl
  · rfl

theorem map_clean_of_shows {values again : List Datum} (shows : List.Forall₂ Shows values again) :
    again.map Inference.clean = values.map fun value => Inference.clean (.text value.cellText) := by
  induction shows with
  | nil => rfl
  | cons first _ induction => rw [List.map_cons, List.map_cons, first.clean, induction]

/-! ## Reading what cells show -/

theorem clean_of_keeps {before : List Reading} {reading : Reading} {value : Datum}
    (keeps : Keeps before reading value) :
    Inference.clean (.text value.cellText) = .text value.cellText :=
  clean_of_isClear keeps.clear keeps.notEmpty

/-- What a cell of a column that has been read comes from. -/
theorem null_or_keeps {before after : List Reading} {reading : Reading} {cells values : List Datum}
    (placed : readings = before ++ reading :: after)
    (areRead : List.Forall₂ (fun cell value => readCell? reading.read? cell = some value) cells values)
    (accepted : ∀ value ∈ values, reading.refused value = false) :
    ∀ value ∈ values, value = .null ∨ Keeps before reading value := by
  intro value member
  rcases exists_of_forall₂ areRead.flip member with ⟨cell, _, isRead⟩
  change readCell? reading.read? cell = some value at isRead
  unfold readCell? at isRead
  split at isRead
  · exact .inr (keeps_of_read placed isRead (accepted value member))
  · cases isRead
    exact .inl rfl
  · cases isRead

theorem exists_keeps {before after : List Reading} {reading : Reading} {cells values : List Datum}
    (placed : readings = before ++ reading :: after)
    (areRead : List.Forall₂ (fun cell value => readCell? reading.read? cell = some value) cells values)
    (accepted : ∀ value ∈ values, reading.refused value = false)
    (data : cells.all (·.isNull) = false) : ∃ value ∈ values, Keeps before reading value := by
  rcases List.all_eq_false.mp data with ⟨cell, member, notNull⟩
  rcases exists_of_forall₂ areRead member with ⟨value, isValue, isRead⟩
  refine ⟨value, isValue, ?_⟩
  unfold readCell? at isRead
  split at isRead
  · exact keeps_of_read placed isRead (accepted value isValue)
  · exact absurd rfl notNull
  · cases isRead

/-- Data that a reading keeps, and nulls, come to their type from what they show. -/
theorem typing_of_keeps {values again : List Datum} {before after : List Reading}
    {reading : Reading} (placed : readings = before ++ reading :: after)
    (each : ∀ value ∈ values, value = .null ∨ Keeps before reading value)
    (accepted : ∀ value ∈ values, reading.refused value = false)
    (some : ∃ value ∈ values, Keeps before reading value)
    (shows : List.Forall₂ Shows values again) : Typing again (reading.type, values) := by
  have isClean := map_clean_of_shows shows
  rcases some with ⟨first, isFirst, keepsFirst⟩
  have someText : Datum.text first.cellText ∈ again.map clean := by
    rw [isClean]
    exact List.mem_map.mpr ⟨first, isFirst, clean_of_keeps keepsFirst⟩
  refine .read ?_ ?_ placed (Reading.column?_eq_some.mpr ⟨values, ?_, accepted, rfl⟩) ?_
  · exact List.all_eq_false.mpr ⟨_, someText, by simp [Datum.isNull]⟩
  · rw [isClean, List.all_map, List.all_eq_true]
    exact fun value _ => isTextOrNull_clean _
  · rw [isClean, List.forall₂_map_left_iff, List.forall₂_same]
    intro value member
    rcases each value member with rfl | keeps
    · rfl
    · rw [clean_of_keeps keeps]
      exact keeps.reads
  · exact fun other isOther => Reading.column?_eq_none someText (keepsFirst.others other isOther)

theorem typing_read_of_shows {given again : List Datum} {before after : List Reading}
    {reading : Reading} {result : ColumnType × List Datum}
    (data : (given.map clean).all (·.isNull) = false) (placed : readings = before ++ reading :: after)
    (isRead : reading.column? (given.map clean) = some result)
    (shows : List.Forall₂ Shows result.2 again) : Typing again result := by
  rcases Reading.column?_eq_some.mp isRead with ⟨values, areRead, accepted, rfl⟩
  exact typing_of_keeps placed (null_or_keeps placed areRead accepted) accepted
    (exists_keeps placed areRead accepted data) shows

/-! ## Text that stays -/

theorem keepText_of_shows {values again : List Datum}
    (kept : ∀ value ∈ values,
      value = .null ∨ ∃ text, value = .text text ∧ clean (.text text) ≠ .null)
    (shows : List.Forall₂ Shows values again) : keepText again = values := by
  induction shows with
  | nil => rfl
  | @cons value raw _ _ first _ induction =>
      have isValue : (if clean raw = .null then .null else raw) = value := by
        rcases kept value List.mem_cons_self with rfl | ⟨text, rfl, notNull⟩
        · rw [first.clean]
          rfl
        · rcases first with rfl | ⟨isNull, _⟩
          · exact if_neg notNull
          · cases isNull
      rw [keepText, List.map_cons, isValue]
      exact congrArg _ (induction fun other member => kept other (List.mem_cons_of_mem _ member))

theorem kept_of_texts {given : List Datum} (texts : given.all isTextOrNull = true) :
    ∀ value ∈ keepText given,
      value = .null ∨ ∃ text, value = .text text ∧ clean (.text text) ≠ .null := by
  intro value member
  rcases List.mem_map.mp member with ⟨raw, isRaw, rfl⟩
  split
  · exact .inl rfl
  · next notNull =>
    have isText := List.all_eq_true.mp texts raw isRaw
    cases raw with
    | text text => exact .inr ⟨text, rfl, notNull⟩
    | null => exact .inl rfl
    | _ => cases isText

theorem map_clean_keepText {given : List Datum} (texts : given.all isTextOrNull = true) :
    (keepText given).map (fun value => clean (.text value.cellText)) = given.map clean := by
  rw [keepText, List.map_map]
  refine List.map_congr_left fun raw isRaw => ?_
  have isText := List.all_eq_true.mp texts raw isRaw
  rw [Function.comp_apply]
  split
  · next isNull => rw [isNull]; rfl
  · cases raw with
    | text text => rfl
    | null => rfl
    | _ => cases isText

theorem typing_kept_of_shows {given again : List Datum}
    (data : (given.map clean).all (·.isNull) = false)
    (texts : (given.map clean).all isTextOrNull = true)
    (unread : ∀ reading ∈ readings, reading.column? (given.map clean) = none)
    (shows : List.Forall₂ Shows (keepText given) again) :
    Typing again (.string, keepText given) := by
  have givenTexts := (all_isTextOrNull_clean given).symm.trans texts
  have isClean := map_clean_of_shows shows
  rw [map_clean_keepText givenTexts] at isClean
  rw [← isClean] at data texts unread
  rw [← keepText_of_shows (kept_of_texts givenTexts) shows]
  exact .kept data texts unread

/-! ## The type is found again -/

/-- A column of what the cells of a text column show has the same type and cells. -/
theorem column_of_shows {given again : List Datum} {result : ColumnType × List Datum}
    (texts : given.all isTextOrNull = true) (isColumn : column given = result)
    (shows : List.Forall₂ Shows result.2 again) : column again = result := by
  refine typing_iff.mp ?_
  cases typing_iff.mpr isColumn with
  | blank nulls =>
      have same : again.map clean = given.map clean := by
        rw [map_clean_of_shows shows]
        refine (List.map_congr_left (g := id) fun value member => ?_).trans (List.map_id _)
        have isNull := List.all_eq_true.mp nulls value member
        cases value with
        | null => rfl
        | _ => cases isNull
      rw [← same] at nulls ⊢
      exact .blank nulls
  | mixed data others =>
      rw [all_isTextOrNull_clean, texts] at others
      cases others
  | read data _ placed isRead _ => exact typing_read_of_shows data placed isRead shows
  | kept data cleanTexts unread => exact typing_kept_of_shows data cleanTexts unread shows

end Inference

end TableBrowser
