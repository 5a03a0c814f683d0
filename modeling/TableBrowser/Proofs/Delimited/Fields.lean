import TableBrowser.Delimited.Reading
import TableBrowser.Proofs.Outcome
/-!
# Fields that have been read

Unless numbers are asked for, every field of delimited text is a text that is
no longer than the limit. Main statement: `isShort_of_records`.
-/

namespace TableBrowser.Delimited

/-- A text that is short enough for a field. -/
def IsShort (datum : Datum) : Prop :=
  ∃ text, datum = .text text ∧ text.toList.length ≤ fieldLimit

/-- A draft whose fields are short texts, as is the one that is being read. -/
structure Draft.IsShort (draft : Draft) : Prop where
  plain : draft.numeric = false
  counted : draft.length = draft.field.length
  limited : draft.length ≤ fieldLimit
  fields : ∀ field ∈ draft.fields, Delimited.IsShort field

variable {dialect : Dialect} {draft : Draft}

namespace Draft.IsShort

theorem empty (place : Place) : IsShort { place } where
  plain := rfl
  counted := rfl
  limited := Nat.zero_le _
  fields := nofun

variable (short : draft.IsShort)

include short

theorem moveTo (place : Place) : (draft.moveTo place).IsShort :=
  ⟨short.plain, short.counted, short.limited, short.fields⟩

theorem add (char : Char) (place : Place) : Yields IsShort (draft.add char place) := by
  intro next isNext
  unfold Draft.add at isNext
  split at isNext
  · cases isNext
  · next room =>
    cases isNext
    exact ⟨short.plain, congrArg (· + 1) short.counted, Nat.not_le.mp room, short.fields⟩

theorem save (place : Place) : Yields IsShort (draft.save place) := by
  intro next isNext
  unfold Draft.save at isNext
  rw [short.plain] at isNext
  cases isNext
  refine ⟨rfl, rfl, Nat.zero_le _, fun field member => ?_⟩
  rcases List.mem_cons.mp member with rfl | given
  · refine ⟨_, rfl, ?_⟩
    rw [String.toList_ofList, List.length_reverse, ← short.counted]
    exact short.limited
  · exact short.fields field given

end Draft.IsShort

/-! ## Characters -/

/--
What reading a character comes to. Numbers are expected only in a field that a
character begins.
-/
inductive Reading (dialect : Dialect) (draft : Draft) : Except Stop Draft → Prop
  | moves (place : Place) : Reading dialect draft (.ok (draft.moveTo place))
  | adds (char : Char) (place : Place) : Reading dialect draft (draft.add char place)
  | begins (char : Char) : Reading dialect draft
      ({ draft with numeric := dialect.quoting = Quoting.nonNumeric }.add char .inField)
  | saves (place : Place) : Reading dialect draft (draft.save place)
  | refuses (problem : Problem) : Reading dialect draft (.error (.text problem))

section Reading

variable (dialect) (draft) (char : Option Char)

theorem reading_stay : Reading dialect draft (.ok draft) := .moves draft.place

theorem reading_fieldStart : Reading dialect draft (fieldStart dialect draft char) := by
  unfold fieldStart
  split
  · exact .saves _
  · split_ifs
    · exact .saves _
    · exact .moves _
    · exact .moves _
    · exact .moves _
    · exact .saves _
    · exact .begins _

theorem reading_inField : Reading dialect draft (inField dialect draft char) := by
  unfold inField
  split
  · exact .saves _
  · split_ifs
    · exact .saves _
    · exact .moves _
    · exact .saves _
    · exact .adds _ _

theorem reading_inQuotes : Reading dialect draft (inQuotes dialect draft char) := by
  unfold inQuotes
  split
  · exact reading_stay dialect draft
  · split_ifs
    · exact .moves _
    · exact .moves _
    · exact .moves _
    · exact .adds _ _

theorem reading_afterQuote : Reading dialect draft (afterQuote dialect draft char) := by
  unfold afterQuote
  split
  · exact .saves _
  · split_ifs
    · exact .adds _ _
    · exact .saves _
    · exact .saves _
    · exact .refuses _
    · exact .adds _ _

theorem reading_read : Reading dialect draft (read dialect draft char) := by
  unfold read
  split
  · split
    · exact reading_stay dialect draft
    · split_ifs
      · exact .moves _
      · exact reading_fieldStart dialect draft _
  · exact reading_fieldStart dialect draft char
  · split_ifs
    · exact .adds _ _
    · exact .adds _ _
  · split_ifs
    · exact reading_stay dialect draft
    · exact reading_inField dialect draft char
  · exact reading_inField dialect draft char
  · exact reading_inQuotes dialect draft char
  · exact .adds _ _
  · exact reading_afterQuote dialect draft char
  · split
    · exact .moves _
    · split_ifs
      · exact reading_stay dialect draft
      · exact .refuses _

end Reading

theorem Reading.isShort {result : Except Stop Draft} (reading : Reading dialect draft result)
    (noNumbers : dialect.quoting ≠ .nonNumeric) (short : draft.IsShort) :
    Yields Draft.IsShort result := by
  cases reading with
  | moves place => exact .pure (short.moveTo place)
  | adds char place => exact short.add char place
  | begins char =>
      have stays : ({ draft with numeric := dialect.quoting = Quoting.nonNumeric } : Draft).IsShort :=
        ⟨by simpa using noNumbers, short.counted, short.limited, short.fields⟩
      exact stays.add char .inField
  | saves place => exact short.save place
  | refuses problem => exact .error _

theorem isShort_read (noNumbers : dialect.quoting ≠ .nonNumeric) (short : draft.IsShort)
    (char : Option Char) : Yields Draft.IsShort (read dialect draft char) :=
  (reading_read dialect draft char).isShort noNumbers short

/-! ## Lines -/

theorem isShort_readLine (noNumbers : dialect.quoting ≠ .nonNumeric) (short : draft.IsShort)
    (line : List Char) : Yields Draft.IsShort (readLine dialect draft line) := by
  have chars : Yields Draft.IsShort
      (line.foldlM (fun draft char => read dialect draft (some char)) draft) := by
    induction line generalizing draft with
    | nil => exact .pure short
    | cons char line induction =>
        rw [List.foldlM_cons]
        exact .bind fun next isNext => induction (isShort_read noNumbers short (some char) next isNext)
  exact .bind fun next isNext => isShort_read noNumbers (chars next isNext) none

theorem isShort_lastRecord (short : draft.IsShort) :
    Yields (fun rows => ∀ row ∈ rows, ∀ cell ∈ row, IsShort cell) (lastRecord dialect draft) := by
  unfold lastRecord
  split_ifs
  · exact .pure nofun
  · exact .error _
  · refine .bind fun next isNext => .pure fun row isRow cell isCell => ?_
    rw [List.mem_singleton.mp isRow] at isCell
    exact (short.save _ next isNext).fields cell (List.mem_reverse.mp isCell)

theorem isShort_readLines (noNumbers : dialect.quoting ≠ .nonNumeric)
    {done : List (List Datum)} (doneShort : ∀ row ∈ done, ∀ cell ∈ row, IsShort cell)
    (short : draft.IsShort) (lines : List (List Char)) :
    Yields (fun rows => ∀ row ∈ rows, ∀ cell ∈ row, IsShort cell)
      (readLines dialect done draft lines) := by
  induction lines generalizing done draft with
  | nil =>
      have joined {last : List (List Datum)} (lastShort : ∀ row ∈ last, ∀ cell ∈ row, IsShort cell) :
          ∀ row ∈ (last.reverse ++ done).reverse, ∀ cell ∈ row, IsShort cell := by
        intro row isRow
        rcases List.mem_append.mp (List.mem_reverse.mp isRow) with later | given
        · exact lastShort row (List.mem_reverse.mp later)
        · exact doneShort row given
      unfold readLines
      split
      · exact .pure (joined fun _ none => by cases none)
      · exact .bind fun last isLast => .pure (joined (isShort_lastRecord short last isLast))
  | cons line lines induction =>
      refine .bind fun next isNext => ?_
      have nextShort := isShort_readLine noNumbers short line next isNext
      split
      · refine induction ?_ (.empty _)
        intro row isRow
        rcases List.mem_cons.mp isRow with rfl | given
        · exact fun cell isCell => nextShort.fields cell (List.mem_reverse.mp isCell)
        · exact doneShort row given
      · exact induction doneShort nextShort

/-- Every field that has been read is a text within the limit. -/
theorem isShort_of_records (noNumbers : dialect.quoting ≠ .nonNumeric) {text : List Char}
    {rows : List (List Datum)} (areRead : records dialect text = .ok rows) :
    ∀ row ∈ rows, ∀ cell ∈ row, IsShort cell :=
  isShort_readLines noNumbers (fun _ none => by cases none) (.empty _) (lines text) rows areRead

end TableBrowser.Delimited
