import TableBrowser.Datum.Display
import TableBrowser.Proofs.Number.Digits
import TableBrowser.Proofs.Text.Quoted
import TableBrowser.Proofs.Text.Unmarked
/-!
# Data in quoted form

The quoted form of a datum is whole and not empty, so a fixed list of data shows
which quoted forms are in it and ends where its last bracket does. Text alone
begins with a quote.
-/

namespace TableBrowser

open Nesting

/-! ## Dates and times -/

namespace Display

theorem whole_parenthesized {name : String} {parts : List String} (unmarked : Unmarked name)
    (whole : ∀ part ∈ parts, Whole part.toList) : Whole (parenthesized name parts).toList := by
  have chars : (parenthesized name parts).toList =
      name.toList ++ ('(' :: (", ".intercalate parts).toList ++ [')']) := by
    simp only [parenthesized, String.toList_append, List.append_assoc]
    rfl
  rw [chars]
  exact unmarked.whole.append (whole_items rfl rfl whole)

theorem whole_duration (microseconds : Int) : Whole (duration microseconds).toList := by
  have unmarked {name : String} (isName : Unmarked name) (value : Int) :
      ∀ part ∈ (if value = 0 then [] else [name ++ "=" ++ Decimal.intText value]),
        Whole part.toList := by
    intro part member
    split at member
    · cases member
    · rw [List.mem_singleton.mp member]
      exact ((isName.append (by decide)).append (unmarked_intText value)).whole
  unfold duration
  refine whole_parenthesized (by decide) fun part member => ?_
  split at member
  · rw [List.mem_singleton.mp member]
    exact Unmarked.whole (by decide)
  · rcases List.mem_append.mp member with member | microsecond
    · rcases List.mem_append.mp member with day | second
      · exact unmarked (by decide) _ part day
      · exact unmarked (by decide) _ part second
    · exact unmarked (by decide) _ part microsecond

theorem whole_offset (ahead : UtcOffset) : Whole (offset ahead).toList := by
  unfold offset
  split
  · exact Unmarked.whole (by decide)
  · exact whole_parenthesized (by decide) (by simpa using whole_duration ahead.microseconds)

theorem whole_natTexts (values : List Nat) :
    ∀ part ∈ values.map Decimal.natText, Whole part.toList := by
  intro part member
  rcases List.mem_map.mp member with ⟨value, _, rfl⟩
  exact (unmarked_natText value).whole

theorem whole_timeParts (time : Time) : ∀ part ∈ timeParts time, Whole part.toList := by
  intro part member
  rcases List.mem_append.mp member with field | zone
  · exact whole_natTexts _ part field
  · rcases Option.mem_toList.mp zone with isZone
    rcases Option.map_eq_some_iff.mp isZone with ⟨ahead, _, rfl⟩
    rw [String.toList_append]
    exact (show Unmarked "tzinfo=" by decide).whole.append (whole_offset ahead)

/-! ## Containers -/

theorem whole_changeableList {items : List String} (whole : ∀ item ∈ items, Whole item.toList) :
    Whole (changeableList items).toList := by
  rw [changeableList, String.toList_append, String.toList_append]
  exact whole_items rfl rfl whole

theorem whole_entries {pairs : List (String × String)}
    (whole : ∀ pair ∈ pairs, Whole pair.1.toList ∧ Whole pair.2.toList) :
    Whole (entries pairs).toList := by
  rw [entries, String.toList_append, String.toList_append]
  refine whole_items rfl rfl fun text member => ?_
  rcases List.mem_map.mp member with ⟨pair, isPair, rfl⟩
  rw [String.toList_append, String.toList_append]
  exact ((whole pair isPair).1.append (show Unmarked ": " by decide).whole).append
    (whole pair isPair).2

theorem toList_fixedList_singleton (item : String) :
    (fixedList [item]).toList = '(' :: ((item.toList ++ [',']) ++ [')']) := by
  simp only [fixedList, String.toList_append, List.append_assoc]
  rfl

theorem toList_fixedList {items : List String} (several : items.length ≠ 1) :
    (fixedList items).toList = '(' :: ((", ".intercalate items).toList ++ [')']) := by
  unfold fixedList
  split
  · exact absurd rfl several
  · simp only [String.toList_append, List.append_assoc]
    rfl

theorem isGroup_fixedList {items : List String} (whole : ∀ item ∈ items, Whole item.toList) :
    IsGroup (fixedList items).toList := by
  by_cases single : items.length = 1
  · rcases List.length_eq_one_iff.mp single with ⟨item, rfl⟩
    refine ⟨'(', item.toList ++ [','], ')', rfl, rfl, ?_, toList_fixedList_singleton item⟩
    exact (whole item List.mem_cons_self true 0).append (passes_comma (.inl rfl))
  · exact ⟨'(', _, ')', rfl, rfl, passes_items whole (.inl rfl), toList_fixedList single⟩

/-- A fixed list of one item is the list of no other items, because of its comma. -/
theorem fixedList_singleton_ne {item : String} {items : List String}
    (whole : Whole item.toList) (itemsWhole : ∀ item ∈ items, Whole item.toList)
    (several : items.length ≠ 1) : fixedList [item] ≠ fixedList items := by
  intro equal
  have chars := congrArg String.toList equal
  rw [toList_fixedList_singleton, toList_fixedList several, toList_intercalate_comma] at chars
  have inner := List.append_cancel_right (List.cons.inj chars).2
  rcases items with _ | ⟨first, _ | ⟨second, others⟩⟩
  · exact absurd inner (by simp)
  · exact several rfl
  · rw [List.map_cons, List.map_cons, List.intercalate_cons_cons, List.append_assoc] at inner
    have rest := (append_comma_inj whole (itemsWhole first List.mem_cons_self) inner).2
    cases rest

theorem fixedList_injective {left right : List String}
    (leftWhole : ∀ item ∈ left, Whole item.toList ∧ item.toList ≠ [])
    (rightWhole : ∀ item ∈ right, Whole item.toList ∧ item.toList ≠ [])
    (equal : fixedList left = fixedList right) : left = right := by
  by_cases leftSingle : left.length = 1 <;> by_cases rightSingle : right.length = 1
  · rcases List.length_eq_one_iff.mp leftSingle with ⟨item, rfl⟩
    rcases List.length_eq_one_iff.mp rightSingle with ⟨other, rfl⟩
    have chars := congrArg String.toList equal
    rw [toList_fixedList_singleton, toList_fixedList_singleton] at chars
    have inner := List.append_cancel_right (List.append_cancel_right (List.cons.inj chars).2)
    rw [String.toList_inj.mp inner]
  · rcases List.length_eq_one_iff.mp leftSingle with ⟨item, rfl⟩
    exact absurd equal (fixedList_singleton_ne (leftWhole item List.mem_cons_self).1
      (fun item member => (rightWhole item member).1) rightSingle)
  · rcases List.length_eq_one_iff.mp rightSingle with ⟨item, rfl⟩
    exact absurd equal.symm (fixedList_singleton_ne (rightWhole item List.mem_cons_self).1
      (fun item member => (leftWhole item member).1) leftSingle)
  · have chars := congrArg String.toList equal
    rw [toList_fixedList leftSingle, toList_fixedList rightSingle, toList_intercalate_comma,
      toList_intercalate_comma] at chars
    have inner := List.append_cancel_right (List.cons.inj chars).2
    refine (List.map_inj_right fun _ _ => String.toList_inj.mp).mp
      (intercalate_injective ?_ ?_ inner)
    · rintro chars member
      rcases List.mem_map.mp member with ⟨item, itemMember, rfl⟩
      exact leftWhole item itemMember
    · rintro chars member
      rcases List.mem_map.mp member with ⟨item, itemMember, rfl⟩
      exact rightWhole item itemMember

end Display

/-! ## Data -/

namespace Datum

theorem unmarked_boolean (value : Bool) : Unmarked (Display.boolean value) := by
  cases value <;> decide

mutual

/-- Neither a quote nor a bracket stays open in the quoted form of a datum. -/
theorem whole_quoted : ∀ datum : Datum, Whole (quotedIn openStyle datum).toList
  | .null => (show Unmarked "None" by decide).whole
  | .boolean value => (unmarked_boolean value).whole
  | .integer value => (unmarked_intText value).whole
  | .number value => (unmarked_numberText (by decide) (by decide) value).whole
  | .text value => Text.Quoted.whole_encode value
  | .date _ => Display.whole_parenthesized (by decide) (Display.whole_natTexts _)
  | .moment value => Display.whole_parenthesized (by decide) fun part member => by
      rcases List.mem_append.mp member with ofDate | ofTime
      · exact Display.whole_natTexts _ part ofDate
      · exact Display.whole_timeParts _ part ofTime
  | .time value => Display.whole_parenthesized (by decide) (Display.whole_timeParts value)
  | .bytes value => Text.Quoted.whole_encodeBytes value
  | .list items => by
      rw [quotedIn]
      exact Display.whole_changeableList (whole_quotedItems items)
  | .mapping entries => by
      rw [quotedIn]
      exact Display.whole_entries (whole_quotedEntries entries)

theorem whole_quotedItems : ∀ items : List Datum,
    ∀ shown ∈ quotedItems openStyle items, Whole shown.toList
  | [], _, member => nomatch member
  | first :: items, shown, member => by
      rcases List.mem_cons.mp member with rfl | later
      · exact whole_quoted first
      · exact whole_quotedItems items shown later

theorem whole_quotedEntries : ∀ entries : List (Datum × Datum),
    ∀ entry ∈ quotedEntries openStyle entries, Whole entry.1.toList ∧ Whole entry.2.toList
  | [], _, member => nomatch member
  | (key, value) :: entries, entry, member => by
      rcases List.mem_cons.mp member with rfl | later
      · exact ⟨whole_quoted key, whole_quoted value⟩
      · exact whole_quotedEntries entries entry later

end

theorem intText_ne_empty (value : Int) : Decimal.intText value ≠ "" := by
  have digits : Decimal.natText value.natAbs ≠ "" := by
    rw [Decimal.natText, ne_eq, String.ofList_eq_empty_iff]
    exact Decimal.digits_ne_nil value.natAbs
  unfold Decimal.intText
  split
  · simp
  · exact digits

theorem scaledText_ne_empty (layout : Decimal.NumberLayout) (scaled : Decimal.Scaled) :
    Decimal.scaledText layout scaled ≠ "" := by
  unfold Decimal.scaledText
  simp only
  split
  · unfold Decimal.positional
    split
    · simp
    split <;> simp
  · simp [Decimal.exponential]

theorem text_ne_empty (value : Binary64) : value.text ≠ "" := by
  cases value with
  | nan => decide
  | infinite negative => cases negative <;> decide
  | finite negative units representable =>
      unfold Binary64.text Decimal.numberText
      simp only
      split <;> simp [scaledText_ne_empty]

/-- The text begins, and not with a quote. -/
def BeginsPlainly (text : String) : Prop := ∃ first ∈ text.toList.head?, isQuote first = false

theorem BeginsPlainly.append {left : String} (begins : BeginsPlainly left) (right : String) :
    BeginsPlainly (left ++ right) := by
  rcases begins with ⟨first, isFirst, noQuote⟩
  refine ⟨first, ?_, noQuote⟩
  rw [Option.mem_def] at isFirst
  rw [Option.mem_def, String.toList_append, List.head?_append, isFirst, Option.some_or]

theorem BeginsPlainly.of_unmarked {text : String} (unmarked : Unmarked text) (notEmpty : text ≠ "") :
    BeginsPlainly text := by
  rcases List.exists_cons_of_ne_nil (mt String.toList_eq_nil_iff.mp notEmpty) with ⟨first, rest, isText⟩
  have ordinary := unmarked first (by simp [isText])
  simp only [IsOrdinary, List.mem_cons, not_or] at ordinary
  exact ⟨first, by simp [isText], by simp [isQuote, ordinary]⟩

theorem begins_parenthesized {name : String} (unmarked : Unmarked name) (notEmpty : name ≠ "")
    (parts : List String) : BeginsPlainly (Display.parenthesized name parts) :=
  (((BeginsPlainly.of_unmarked unmarked notEmpty).append _).append _).append _

/-- The quoted form of text alone begins with a quote. -/
theorem quoted_cases (datum : Datum) :
    (∃ text, datum = .text text) ∨ BeginsPlainly datum.quoted := by
  cases datum with
  | text value => exact .inl ⟨value, rfl⟩
  | null => exact .inr (.of_unmarked (by decide) (by decide))
  | boolean value => exact .inr (.of_unmarked (unmarked_boolean value) (by cases value <;> decide))
  | integer value => exact .inr (.of_unmarked (unmarked_intText value) (intText_ne_empty value))
  | number value =>
      exact .inr (.of_unmarked (unmarked_numberText (by decide) (by decide) value) (text_ne_empty value))
  | date value => exact .inr (begins_parenthesized (by decide) (by decide) _)
  | moment value => exact .inr (begins_parenthesized (by decide) (by decide) _)
  | time value => exact .inr (begins_parenthesized (by decide) (by decide) _)
  | bytes value => exact .inr ⟨'b', by simp [quoted, quotedIn, Text.Quoted.encodeBytes], rfl⟩
  | list items =>
      have bracket : BeginsPlainly "[" := ⟨'[', rfl, rfl⟩
      rw [quoted, quotedIn]
      exact .inr ((bracket.append _).append _)
  | mapping entries =>
      have bracket : BeginsPlainly "\x7b" := ⟨'\x7b', rfl, rfl⟩
      rw [quoted, quotedIn]
      exact .inr ((bracket.append _).append _)

theorem quoted_ne_nil (datum : Datum) : datum.quoted.toList ≠ [] := by
  rcases quoted_cases datum with ⟨text, rfl⟩ | ⟨first, isFirst, _⟩
  · simp [quoted, quotedIn, Text.Quoted.encode, Text.Quoted.encodeChars]
  · intro empty
    rw [empty] at isFirst
    cases isFirst

theorem eq_text_of_quoted {datum : Datum} {text : String}
    (equal : datum.quoted = Text.Quoted.encode text) : datum = .text text := by
  rcases quoted_cases datum with ⟨value, rfl⟩ | ⟨first, isFirst, noQuote⟩
  · rw [Text.Quoted.encode_injective equal]
  · rw [equal, Text.Quoted.encode, String.toList_ofList] at isFirst
    rw [← Option.some.inj isFirst, Text.Quoted.isQuote_enclosing] at noQuote
    cases noQuote

end Datum

end TableBrowser
