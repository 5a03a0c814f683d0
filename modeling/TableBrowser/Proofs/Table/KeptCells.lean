import Mathlib.Data.List.Basic
import TableBrowser.Proofs.Table.Inference
/-!
# What a column keeps of its raw cells

A column has a null where its raw cell is null or blank, and keeps the raw cells that
are no text, whatever type is found for it. Main statement: besides, a column of texts
keeps its texts as they were given exactly when it does not hold both a text with
blanks around it and a cell of another kind.
-/

namespace TableBrowser

/-- Raw cells without anything in them: nulls, and texts of blanks. -/
def Datum.IsBlank : Datum → Prop
  | .null => True
  | .text value => Text.isAllBlank value = true
  | _ => False

/-- Texts with blanks before or after something else. -/
def Datum.IsPadded : Datum → Prop
  | .text value => Text.isAllBlank value = false ∧ Text.trim value ≠ value
  | _ => False

namespace ColumnType

theorem join_string (type : ColumnType) : type.join .string = .string := by
  cases type <;> rfl

theorem string_join (type : ColumnType) : ColumnType.string.join type = .string := by
  cases type <;> rfl

/-- One text makes a column of texts. -/
theorem ofData_of_text {data : List Datum} {text : String} (member : .text text ∈ data) :
    ofData data = .string := by
  rcases List.append_of_mem member with ⟨before, after, rfl⟩
  rw [ofData, List.foldl_append, List.foldl_cons]
  have joined (type : ColumnType) : type.join (ofDatum (.text text)) = .string := join_string type
  rw [joined]
  exact List.foldl_fixed' (fun datum => string_join (ofDatum datum)) after

end ColumnType

namespace Inference

/-! ## Single cells -/

/-- What the cell of a column owes to the raw cell at its place. -/
structure Becomes (raw cell : Datum) : Prop where
  null_iff : cell = .null ↔ raw.IsBlank
  keeps : isTextOrNull raw = false → cell = raw

/-- A text in which there is something stays as it is. -/
def KeepsText (raw cell : Datum) : Prop := ∀ text, raw = .text text → ¬ raw.IsBlank → cell = raw

theorem clean_eq_null_iff (raw : Datum) : clean raw = .null ↔ raw.IsBlank := by
  cases raw with
  | text value => cases blank : Text.isAllBlank value <;> simp [clean, blank, Datum.IsBlank]
  | _ => simp [clean, Datum.IsBlank]

theorem clean_of_other {raw : Datum} (isOther : isTextOrNull raw = false) : clean raw = raw := by
  cases raw with
  | text value => cases isOther
  | _ => rfl

theorem becomes_clean (raw : Datum) : Becomes raw (clean raw) where
  null_iff := clean_eq_null_iff raw
  keeps := clean_of_other

/-- Trimming changes a text only where it is padded. -/
theorem keepsText_clean_iff (raw : Datum) : KeepsText raw (clean raw) ↔ ¬ raw.IsPadded := by
  cases raw with
  | text value => cases blank : Text.isAllBlank value <;>
      simp [KeepsText, clean, blank, Datum.IsBlank, Datum.IsPadded]
  | _ => simp [KeepsText, Datum.IsPadded]

theorem becomes_given (raw : Datum) : Becomes raw (if clean raw = .null then .null else raw) where
  null_iff := by
    rw [← clean_eq_null_iff]
    split
    · next isNull => simp [isNull]
    · next notNull =>
      refine ⟨?_, fun isNull => absurd isNull notNull⟩
      rintro rfl
      rfl
  keeps isOther := by
    rw [clean_of_other isOther]
    split
    · next isNull => exact isNull.symm
    · rfl

theorem keepsText_given (raw : Datum) : KeepsText raw (if clean raw = .null then .null else raw) := by
  intro text _ notBlank
  exact if_neg (notBlank ∘ (clean_eq_null_iff raw).mp)

/-- Whatever a text is read as is no null. -/
theorem becomes_read {before after : List Reading} {reading : Reading}
    (placed : readings = before ++ reading :: after) {raw value : Datum}
    (isText : isTextOrNull raw = true) (isRead : readCell? reading.read? (clean raw) = some value)
    (accepted : reading.refused value = false) : Becomes raw value where
  null_iff := by
    rw [← clean_eq_null_iff]
    unfold readCell? at isRead
    split at isRead
    · next isClean =>
      have keeps := keeps_of_read placed isRead accepted
      rw [isClean]
      refine ⟨?_, nofun⟩
      rintro rfl
      exact absurd rfl keeps.notEmpty
    · next isClean =>
      cases isRead
      simp [isClean]
    · cases isRead
  keeps isOther := by
    rw [isText] at isOther
    cases isOther

/-! ## Columns -/

variable {given : List Datum}

theorem forall₂_changed {related : Datum → Datum → Prop} {change : Datum → Datum}
    (each : ∀ raw, related raw (change raw)) : List.Forall₂ related given (given.map change) :=
  List.forall₂_map_right_iff.mpr (List.forall₂_same.mpr fun raw _ => each raw)

theorem forall₂_becomes (given : List Datum) : List.Forall₂ Becomes given (column given).2 := by
  have typing : Typing given (column given) := typing_iff.mpr rfl
  generalize column given = result at typing
  cases typing with
  | blank _ => exact forall₂_changed becomes_clean
  | mixed _ _ => exact forall₂_changed becomes_clean
  | kept _ _ _ => exact forall₂_changed becomes_given
  | read _ texts placed isRead _ =>
      rcases Reading.column?_eq_some.mp isRead with ⟨values, areRead, accepted, rfl⟩
      rw [all_isTextOrNull_clean, List.all_eq_true] at texts
      rw [List.forall₂_map_left_iff] at areRead
      refine List.forall₂_iff_get.mpr ⟨areRead.length_eq, fun place isPlace isCell => ?_⟩
      exact becomes_read placed (texts _ (List.get_mem given ⟨place, isPlace⟩))
        ((List.forall₂_iff_get.mp areRead).2 place isPlace isCell)
        (accepted _ (List.get_mem values ⟨place, isCell⟩))

/-- No text is read as a text. -/
theorem type_ne_string {reading : Reading} (isReading : reading ∈ readings) :
    reading.type ≠ .string := by
  simp only [readings, List.mem_cons, List.not_mem_nil, or_false] at isReading
  rcases isReading with rfl | rfl | rfl | rfl <;> decide

/-- A column of nothing but texts that stays one keeps them. -/
theorem keepsText_of_texts (texts : given.all isTextOrNull = true)
    (isString : (column given).1 = .string) : List.Forall₂ KeepsText given (column given).2 := by
  have typing : Typing given (column given) := typing_iff.mpr rfl
  generalize column given = result at typing isString
  cases typing with
  | blank _ => cases isString
  | mixed _ others =>
      rw [all_isTextOrNull_clean, texts] at others
      cases others
  | kept _ _ _ => exact forall₂_changed keepsText_given
  | read _ _ placed isRead _ =>
      rcases Reading.column?_eq_some.mp isRead with ⟨values, _, _, rfl⟩
      exact absurd isString (type_ne_string (placed ▸ List.mem_append_right _ List.mem_cons_self))

/-- A column with other cells among its texts keeps what is left when all are trimmed. -/
theorem column_of_mixed (mixed : given.all isTextOrNull = false) {raw : Datum} (member : raw ∈ given)
    {text : String} (isClean : clean raw = .text text) :
    column given = (.string, given.map clean) := by
  have isText : .text text ∈ given.map clean := isClean ▸ List.mem_map_of_mem member
  rw [← ColumnType.ofData_of_text isText]
  refine typing_iff.mp (.mixed ?_ ((all_isTextOrNull_clean given).trans mixed))
  exact List.all_eq_false.mpr ⟨_, isText, by simp [Datum.isNull]⟩

theorem clean_of_padded {raw : Datum} (padded : raw.IsPadded) : ∃ text, clean raw = .text text := by
  cases raw with
  | text value => exact ⟨Text.trim value, by simp [clean, padded.1]⟩
  | _ => exact padded.elim

/--
A column has as many cells as were given, null exactly where those are null or blank,
and the given cell wherever that is no text. If it is a column of texts it keeps each
text with something in it as given, blanks around it included, exactly when a cell of
another kind and a text with blanks around it do not come together.
-/
theorem column_keeps_cells (given : List Datum) :
    List.Forall₂ Becomes given (column given).2 ∧
      (((column given).1 = .string → List.Forall₂ KeepsText given (column given).2) ↔
        ((∃ raw ∈ given, isTextOrNull raw = false) → ∀ raw ∈ given, ¬ raw.IsPadded)) := by
  refine ⟨forall₂_becomes given, ?_⟩
  cases texts : given.all isTextOrNull with
  | true =>
      refine iff_of_true (keepsText_of_texts texts) ?_
      rintro ⟨raw, member, isOther⟩
      exact absurd (List.all_eq_true.mp texts raw member) (by simp [isOther])
  | false =>
      have some : ∃ raw ∈ given, isTextOrNull raw = false := by simpa using texts
      constructor
      · intro keeps _ raw member padded
        rcases clean_of_padded padded with ⟨text, isClean⟩
        have isColumn := column_of_mixed texts member isClean
        rw [isColumn, List.forall₂_map_right_iff, List.forall₂_same] at keeps
        exact (keepsText_clean_iff raw).mp (keeps rfl raw member) padded
      · intro unpadded isString
        have typing : Typing given (column given) := typing_iff.mpr rfl
        generalize column given = result at typing isString
        cases typing with
        | blank _ => cases isString
        | mixed _ _ =>
            refine List.forall₂_map_right_iff.mpr (List.forall₂_same.mpr fun raw member => ?_)
            exact (keepsText_clean_iff raw).mpr (unpadded some raw member)
        | kept _ _ _ => exact forall₂_changed keepsText_given
        | read _ areTexts _ _ _ =>
            rw [all_isTextOrNull_clean, texts] at areTexts
            cases areTexts

/-- Beside a whole number a text loses the blanks around it. -/
theorem column_trims_beside_integer :
    let given : List Datum := [.text " x ", .integer 5]
    column given = (.string, [.text "x", .integer 5]) ∧
      ¬ List.Forall₂ KeepsText given (column given).2 := by
  intro given
  have isColumn : column given = (.string, [.text "x", .integer 5]) := by decide
  refine ⟨isColumn, fun keeps => ?_⟩
  rw [isColumn] at keeps
  have notBlank : ¬ (Datum.text " x ").IsBlank := by
    change ¬ Text.isAllBlank " x " = true
    decide
  exact absurd ((List.forall₂_cons.mp keeps).1 " x " rfl notBlank) (by decide)

end Inference

end TableBrowser
