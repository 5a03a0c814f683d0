import Mathlib.Data.List.Nodup
import TableBrowser.Datum.Elements
import TableBrowser.Proofs.Json.RoundTrip
/-!
# Data with their entries arranged

The form with entries by name does not tell in which order the entries of a
mapping came, and nothing else is lost in it. Arranging the entries of all
mappings by name leaves that form as it is and makes it a form that can be read
back. Main statement: JSON values with the same form are the same once they are
arranged.
-/

namespace TableBrowser

namespace Datum

def byName (entries : List (Datum × Datum)) : List (Datum × Datum) :=
  entries.mergeSort fun left right => Json.nameForm left.1 ≤ Json.nameForm right.1

mutual

/-- The datum with the entries of all its mappings arranged by name. -/
def arranged : Datum → Datum
  | .list items => .list (arrangedItems items)
  | .mapping entries => .mapping (byName (arrangedEntries entries))
  | datum => datum

def arrangedItems : List Datum → List Datum
  | [] => []
  | item :: items => arranged item :: arrangedItems items

def arrangedEntries : List (Datum × Datum) → List (Datum × Datum)
  | [] => []
  | (key, value) :: entries => (key, arranged value) :: arrangedEntries entries

end

theorem arrangedItems_eq_map (items : List Datum) : arrangedItems items = items.map arranged := by
  induction items with
  | nil => rfl
  | cons item items induction => rw [arrangedItems, List.map_cons, induction]

theorem arrangedEntries_eq_map (entries : List (Datum × Datum)) :
    arrangedEntries entries = entries.map fun (key, value) => (key, arranged value) := by
  induction entries with
  | nil => rfl
  | cons entry entries induction => rw [arrangedEntries, List.map_cons, induction]

theorem byName_perm (entries : List (Datum × Datum)) : (byName entries).Perm entries :=
  List.mergeSort_perm ..

theorem pairwise_byName (entries : List (Datum × Datum)) :
    (byName entries).Pairwise fun left right => decide (Json.nameForm left.1 ≤ Json.nameForm right.1) := by
  apply List.pairwise_mergeSort
  · intro first second third
    simpa using fun firstLe secondLe => String.le_trans firstLe secondLe
  · intro first second
    simpa using String.le_total (Json.nameForm first.1) (Json.nameForm second.1)

/-- The entries of an arranged mapping are those of the mapping, with arranged values. -/
theorem mem_byName_arrangedEntries {entries : List (Datum × Datum)} {entry : Datum × Datum} :
    entry ∈ byName (arrangedEntries entries) ↔
      ∃ given ∈ entries, entry = (given.1, given.2.arranged) := by
  rw [(byName_perm _).mem_iff, arrangedEntries_eq_map, List.mem_map]
  simp only [eq_comm]

theorem keys_arrangedEntries (entries : List (Datum × Datum)) :
    (arrangedEntries entries).map (·.1) = entries.map (·.1) := by
  rw [arrangedEntries_eq_map, List.map_map]
  rfl

/-- Entries under distinct texts are arranged in one way only. -/
theorem byName_eq_of_perm {left right : List (Datum × Datum)} (perm : left.Perm right)
    (named : ∀ entry ∈ left, ∃ name, entry.1 = .text name)
    (distinct : (left.map (·.1)).Nodup) : byName left = byName right := by
  have arranged : (byName left).Perm (byName right) :=
    (byName_perm left).trans (perm.trans (byName_perm right).symm)
  apply arranged.eq_of_pairwise _ (pairwise_byName left) (pairwise_byName right)
  intro first second firstMember secondMember firstLe secondLe
  replace firstMember := (byName_perm left).mem_iff.mp firstMember
  replace secondMember := perm.mem_iff.mpr ((byName_perm right).mem_iff.mp secondMember)
  apply List.inj_on_of_nodup_map distinct firstMember secondMember
  rcases named first firstMember with ⟨firstName, isFirst⟩
  rcases named second secondMember with ⟨secondName, isSecond⟩
  have names := String.le_antisymm (of_decide_eq_true firstLe) (of_decide_eq_true secondLe)
  rw [isFirst, isSecond] at names ⊢
  exact congrArg text names

theorem arranged_mapping_of_perm {left right : List (Datum × Datum)} (perm : left.Perm right)
    (named : ∀ entry ∈ left, ∃ name, entry.1 = .text name)
    (distinct : (left.map (·.1)).Nodup) : (mapping left).arranged = (mapping right).arranged := by
  have entries : (arrangedEntries left).Perm (arrangedEntries right) := by
    rw [arrangedEntries_eq_map, arrangedEntries_eq_map]
    exact perm.map _
  rw [arranged, arranged, byName_eq_of_perm entries]
  · intro entry member
    rw [arrangedEntries_eq_map] at member
    rcases List.mem_map.mp member with ⟨given, givenMember, rfl⟩
    exact named given givenMember
  · rwa [keys_arrangedEntries]

/-! ## Arranging twice -/

theorem byName_byName (entries : List (Datum × Datum)) : byName (byName entries) = byName entries :=
  List.mergeSort_of_pairwise (pairwise_byName entries)

theorem arrangedEntries_byName (entries : List (Datum × Datum)) :
    arrangedEntries (byName entries) = byName (arrangedEntries entries) := by
  rw [arrangedEntries_eq_map, arrangedEntries_eq_map]
  exact List.map_mergeSort fun left _ right _ => rfl

mutual

theorem arranged_arranged : ∀ datum : Datum, datum.arranged.arranged = datum.arranged
  | .list items => by rw [arranged, arranged, arrangedItems_arrangedItems items]
  | .mapping entries => by
      rw [arranged, arranged, arrangedEntries_byName, arrangedEntries_arrangedEntries entries,
        byName_byName]
  | .null | .boolean _ | .integer _ | .number _ | .text _ | .date _ | .moment _ | .time _
  | .bytes _ => rfl

theorem arrangedItems_arrangedItems :
    ∀ items : List Datum, arrangedItems (arrangedItems items) = arrangedItems items
  | [] => rfl
  | item :: items => by
      rw [arrangedItems, arrangedItems, arranged_arranged item, arrangedItems_arrangedItems items]

theorem arrangedEntries_arrangedEntries : ∀ entries : List (Datum × Datum),
    arrangedEntries (arrangedEntries entries) = arrangedEntries entries
  | [] => rfl
  | (key, value) :: entries => by
      rw [arrangedEntries, arrangedEntries, arranged_arranged value,
        arrangedEntries_arrangedEntries entries]

end

/-! ## Long numbers -/

theorem anyLongEntry_eq_any (entries : List (Datum × Datum)) :
    anyLongEntry entries = entries.any fun entry => hasLongInteger entry.1 || hasLongInteger entry.2 := by
  induction entries with
  | nil => rfl
  | cons entry entries induction => rw [anyLongEntry, List.any_cons, induction]

mutual

/-- Arranging a datum makes none of its numbers longer. -/
theorem hasLongInteger_arranged : ∀ datum : Datum, datum.arranged.hasLongInteger = datum.hasLongInteger
  | .list items => by
      rw [arranged, hasLongInteger, hasLongInteger]
      exact anyLongItem_arrangedItems items
  | .mapping entries => by
      rw [arranged, hasLongInteger, hasLongInteger, anyLongEntry_eq_any, (byName_perm _).any_eq,
        ← anyLongEntry_eq_any]
      exact anyLongEntry_arrangedEntries entries
  | .null | .boolean _ | .integer _ | .number _ | .text _ | .date _ | .moment _ | .time _
  | .bytes _ => rfl

theorem anyLongItem_arrangedItems :
    ∀ items : List Datum, anyLongItem (arrangedItems items) = anyLongItem items
  | [] => rfl
  | item :: items => by
      rw [arrangedItems, anyLongItem, anyLongItem, hasLongInteger_arranged item,
        anyLongItem_arrangedItems items]

theorem anyLongEntry_arrangedEntries :
    ∀ entries : List (Datum × Datum), anyLongEntry (arrangedEntries entries) = anyLongEntry entries
  | [] => rfl
  | (key, value) :: entries => by
      rw [arrangedEntries, anyLongEntry, anyLongEntry, hasLongInteger_arranged value,
        anyLongEntry_arrangedEntries entries]

end

/-! ## Entries under a name -/

/-- Among distinct keys a value is found under its own. -/
theorem valueAt?_eq_some_iff {entries : List (Datum × Datum)} (distinct : (entries.map (·.1)).Nodup)
    {name : String} {value : Datum} :
    valueAt? entries name = some value ↔ (.text name, value) ∈ entries := by
  rw [valueAt?, Option.map_eq_some_iff]
  constructor
  · rintro ⟨entry, found, rfl⟩
    have isNamed : entry.1 = .text name := of_decide_eq_true (List.find?_some found :)
    rw [← isNamed]
    exact List.mem_of_find?_eq_some found
  · intro member
    cases found : entries.find? (·.1 = .text name) with
    | none =>
        have unnamed := List.find?_eq_none.mp found _ member
        simp at unnamed
    | some entry =>
        have isNamed : entry.1 = .text name := of_decide_eq_true (List.find?_some found :)
        have same := List.inj_on_of_nodup_map distinct (List.mem_of_find?_eq_some found) member isNamed
        exact ⟨entry, rfl, congrArg Prod.snd same⟩

/-- An arranged mapping has the arranged values under the same names. -/
theorem valueAt?_arranged {entries : List (Datum × Datum)} (distinct : (entries.map (·.1)).Nodup)
    (name : String) :
    valueAt? (byName (arrangedEntries entries)) name = (valueAt? entries name).map arranged := by
  have distinctArranged : ((byName (arrangedEntries entries)).map (·.1)).Nodup := by
    rwa [((byName_perm _).map _).nodup_iff, keys_arrangedEntries]
  apply Option.ext
  intro value
  rw [valueAt?_eq_some_iff distinctArranged, mem_byName_arrangedEntries, Option.map_eq_some_iff]
  constructor
  · rintro ⟨⟨key, given⟩, member, same⟩
    cases same
    exact ⟨given, (valueAt?_eq_some_iff distinct).mpr member, rfl⟩
  · rintro ⟨given, found, rfl⟩
    exact ⟨(.text name, given), (valueAt?_eq_some_iff distinct).mp found, rfl⟩

end Datum

namespace Json

/-! ## Arranged forms -/

/-- Writing entries by name is writing them as they are arranged. -/
theorem entryForms_byName (entries : List (Datum × Datum)) :
    entryForms .given (Datum.byName entries) =
      EntryOrder.byName.arrange (entryForms .given entries) := by
  rw [entryForms_eq_map, entryForms_eq_map, Datum.byName, EntryOrder.arrange]
  exact List.map_mergeSort fun left _ right _ => rfl

mutual

theorem form_arranged : ∀ datum : Datum, form .given datum.arranged = form .byName datum
  | .list items => by rw [Datum.arranged, form, form, itemForms_arrangedItems items]
  | .mapping entries => by
      rw [Datum.arranged, form, form, entryForms_byName, entryForms_arrangedEntries entries]
      rfl
  | .null | .boolean _ | .integer _ | .number _ | .text _ | .date _ | .moment _ | .time _
  | .bytes _ => rfl

theorem itemForms_arrangedItems : ∀ items : List Datum,
    itemForms .given (Datum.arrangedItems items) = itemForms .byName items
  | [] => rfl
  | item :: items => by
      rw [Datum.arrangedItems, itemForms, itemForms, form_arranged item,
        itemForms_arrangedItems items]

theorem entryForms_arrangedEntries : ∀ entries : List (Datum × Datum),
    entryForms .given (Datum.arrangedEntries entries) = entryForms .byName entries
  | [] => rfl
  | (key, value) :: entries => by
      rw [Datum.arrangedEntries, entryForms, entryForms, form_arranged value,
        entryForms_arrangedEntries entries]

end

theorem Readable.arranged {datum : Datum} (readable : Readable datum) : Readable datum.arranged := by
  induction readable with
  | null => exact .null
  | boolean value => exact .boolean value
  | integer short => exact .integer short
  | number value => exact .number value
  | text value => exact .text value
  | list _ induction =>
      refine .list fun item member => ?_
      rw [Datum.arrangedItems_eq_map] at member
      rcases List.mem_map.mp member with ⟨given, givenMember, rfl⟩
      exact induction given givenMember
  | mapping named distinct _ induction =>
      refine .mapping (fun entry member => ?_) ?_ fun entry member => ?_
      · rcases Datum.mem_byName_arrangedEntries.mp member with ⟨given, givenMember, rfl⟩
        exact named given givenMember
      · rwa [((Datum.byName_perm _).map _).nodup_iff, Datum.keys_arrangedEntries]
      · rcases Datum.mem_byName_arrangedEntries.mp member with ⟨given, givenMember, rfl⟩
        exact induction given givenMember

/-! ## JSON values -/

/-- A value of JSON, with a whole number of any length; a mapping names its values by distinct texts. -/
inductive IsJson : Datum → Prop
  | null : IsJson .null
  | boolean (value : Bool) : IsJson (.boolean value)
  | integer (value : Int) : IsJson (.integer value)
  | number (value : Binary64) : IsJson (.number value)
  | text (value : String) : IsJson (.text value)
  | list {items : List Datum} : (∀ item ∈ items, IsJson item) → IsJson (.list items)
  | mapping {entries : List (Datum × Datum)}
      (named : ∀ entry ∈ entries, ∃ name, entry.1 = .text name)
      (distinct : (entries.map (·.1)).Nodup) :
      (∀ entry ∈ entries, IsJson entry.2) → IsJson (.mapping entries)

theorem isJson_ofFields {fields : List (String × Datum)} (distinct : (fields.map (·.1)).Nodup)
    (values : ∀ field ∈ fields, IsJson field.2) : IsJson (.ofFields fields) := by
  refine .mapping (fun entry member => ?_) ?_ fun entry member => ?_
  · rcases List.mem_map.mp member with ⟨field, _, rfl⟩
    exact ⟨field.1, rfl⟩
  · have injective : Function.Injective Datum.text := fun _ _ => Datum.text.inj
    have texts := distinct.map injective
    rw [List.map_map] at texts ⊢
    exact texts
  · rcases List.mem_map.mp member with ⟨field, fieldMember, rfl⟩
    exact values field fieldMember

theorem length_digits_of_digitsFault? {value : Int} (writable : digitsFault? value = none) :
    (Decimal.digits value.natAbs).length ≤ Numeral.digitLimit := by
  have positive : 0 < Numeral.digitLimit := by decide
  unfold digitsFault? at writable
  -- The bound is a power that is better not computed.
  generalize Numeral.digitLimit = limit at writable positive ⊢
  split at writable
  · next small => exact Decimal.length_digits_le small positive
  · cases writable

theorem orderedFault?_item {items : List Datum} (writable : itemsFault? items = none) {item : Datum}
    (member : item ∈ items) : orderedFault? item = none := by
  induction items with
  | nil => cases member
  | cons first items induction =>
      rw [itemsFault?, Option.or_eq_none_iff] at writable
      rcases List.mem_cons.mp member with rfl | later
      · exact writable.1
      · exact induction writable.2 later

/-- A JSON value that can be written can be read back. -/
theorem IsJson.readable {datum : Datum} (isJson : IsJson datum)
    (writable : orderedFault? datum = none) : Readable datum := by
  induction isJson with
  | null => exact .null
  | boolean value => exact .boolean value
  | integer value => exact .integer (length_digits_of_digitsFault? writable)
  | number value => exact .number value
  | text value => exact .text value
  | list _ induction =>
      exact .list fun item member => induction item member (orderedFault?_item writable member)
  | mapping named distinct _ induction =>
      exact .mapping named distinct fun entry member =>
        induction entry member (orderedFault?_value writable member)

/-- Values that can be read back have one text by name only when they differ in the order of entries. -/
theorem Readable.arranged_eq {left right : Datum} (leftReadable : Readable left)
    (rightReadable : Readable right) (equal : form .byName left = form .byName right) :
    left.arranged = right.arranged := by
  have leftRead := read_form leftReadable.arranged
  rw [form_arranged, equal, ← form_arranged, read_form rightReadable.arranged] at leftRead
  exact (Except.ok.inj leftRead).symm

end Json

end TableBrowser
