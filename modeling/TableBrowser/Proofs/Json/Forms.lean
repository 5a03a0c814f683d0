import TableBrowser.Proofs.Json.Texts
import TableBrowser.Proofs.Text.Unmarked
/-!
# JSON forms of data

What is written for a datum is whole: neither quotes nor brackets stay open in
it. So the items of a list and the entries of a mapping are determined by their
text, and the arrangement of entries by name is stable.
-/

namespace TableBrowser.Json

open Nesting

/-! ## Lists and mappings -/

theorem null_notMem_intercalate {items : List (List Char)}
    (absent : ∀ item ∈ items, '\x00' ∉ item) : '\x00' ∉ [',', ' '].intercalate items := by
  induction items with
  | nil => simp
  | cons first others induction =>
      have inOthers := induction fun item member => absent item (by simp [member])
      cases others with
      | nil => simpa using absent first (by simp)
      | cons second others =>
          rw [List.intercalate_cons_cons]
          simp [inOthers, absent first (by simp)]

theorem toList_listForm (items : List String) :
    (listForm items).toList = '[' :: [',', ' '].intercalate (items.map String.toList) ++ [']'] := by
  rw [listForm, String.toList_append, String.toList_append, toList_intercalate_comma]
  rfl

theorem whole_listForm {items : List String} (whole : ∀ item ∈ items, Whole item.toList) :
    Whole (listForm items).toList := by
  rw [toList_listForm, ← toList_intercalate_comma]
  exact whole_items rfl rfl whole

theorem null_notMem_listForm {items : List String} (absent : ∀ item ∈ items, '\x00' ∉ item.toList) :
    '\x00' ∉ (listForm items).toList := by
  have inner : '\x00' ∉ [',', ' '].intercalate (items.map String.toList) := by
    apply null_notMem_intercalate
    intro chars member
    rcases List.mem_map.mp member with ⟨item, itemMember, rfl⟩
    exact absent item itemMember
  rw [toList_listForm]
  simp [inner]

theorem listForm_injective {left right : List String}
    (leftWhole : ∀ item ∈ left, Whole item.toList ∧ item.toList ≠ [])
    (rightWhole : ∀ item ∈ right, Whole item.toList ∧ item.toList ≠ [])
    (equal : listForm left = listForm right) : left = right := by
  have chars := congrArg String.toList equal
  rw [toList_listForm, toList_listForm] at chars
  have inner := List.append_cancel_right (List.cons.inj chars).2
  have same := intercalate_injective
    (fun item member => by
      rcases List.mem_map.mp member with ⟨text, textMember, rfl⟩
      exact leftWhole text textMember)
    (fun item member => by
      rcases List.mem_map.mp member with ⟨text, textMember, rfl⟩
      exact rightWhole text textMember)
    inner
  exact (List.map_inj_right fun _ _ => String.toList_inj.mp).mp same

/-- The text of an entry. -/
def entryForm (entry : String × String) : String := textForm entry.1 ++ ": " ++ entry.2

theorem toList_entryForm (entry : String × String) :
    (entryForm entry).toList = (textForm entry.1).toList ++ (':' :: ' ' :: entry.2.toList) := by
  rw [entryForm, String.toList_append, String.toList_append, List.append_assoc]
  rfl

theorem mappingForm_eq (entries : List (String × String)) :
    mappingForm entries = "\x7b" ++ ", ".intercalate (entries.map entryForm) ++ "\x7d" := rfl

theorem toList_mappingForm (entries : List (String × String)) :
    (mappingForm entries).toList =
      '\x7b' :: [',', ' '].intercalate ((entries.map entryForm).map String.toList) ++ ['\x7d'] := by
  rw [mappingForm_eq, String.toList_append, String.toList_append, toList_intercalate_comma]
  rfl

theorem whole_entryForm {entry : String × String} (whole : Whole entry.2.toList) :
    Whole (entryForm entry).toList := by
  have separator : Whole [':', ' '] := whole_of_ordinary (by simp [IsOrdinary])
  rw [toList_entryForm]
  exact (whole_textForm entry.1).append (separator.append whole)

theorem entryForm_ne_nil (entry : String × String) : (entryForm entry).toList ≠ [] := by
  rw [toList_entryForm, toList_textForm]
  simp

theorem whole_mappingForm {entries : List (String × String)}
    (whole : ∀ entry ∈ entries, Whole entry.2.toList) : Whole (mappingForm entries).toList := by
  rw [toList_mappingForm, ← toList_intercalate_comma]
  refine whole_items rfl rfl fun text member => ?_
  rcases List.mem_map.mp member with ⟨entry, entryMember, rfl⟩
  exact whole_entryForm (whole entry entryMember)

theorem null_notMem_mappingForm {entries : List (String × String)}
    (absent : ∀ entry ∈ entries, '\x00' ∉ entry.2.toList) :
    '\x00' ∉ (mappingForm entries).toList := by
  have inner :
      '\x00' ∉ [',', ' '].intercalate ((entries.map entryForm).map String.toList) := by
    apply null_notMem_intercalate
    intro chars member
    rcases List.mem_map.mp member with ⟨text, textMember, rfl⟩
    rcases List.mem_map.mp textMember with ⟨entry, entryMember, rfl⟩
    rw [toList_entryForm]
    simp [null_notMem_textForm, absent entry entryMember]
  rw [toList_mappingForm]
  simpa using inner

theorem entryForm_injective {left right : String × String}
    (equal : entryForm left = entryForm right) : left = right := by
  have chars := congrArg String.toList equal
  rw [toList_entryForm, toList_entryForm] at chars
  rcases textForm_append_inj chars with ⟨names, rest⟩
  simp only [List.cons.injEq, true_and] at rest
  exact Prod.ext names (String.toList_inj.mp rest)

theorem mappingForm_injective {left right : List (String × String)}
    (leftWhole : ∀ entry ∈ left, Whole entry.2.toList)
    (rightWhole : ∀ entry ∈ right, Whole entry.2.toList)
    (equal : mappingForm left = mappingForm right) : left = right := by
  have chars := congrArg String.toList equal
  rw [toList_mappingForm, toList_mappingForm] at chars
  have inner := List.append_cancel_right (List.cons.inj chars).2
  have written {entries : List (String × String)}
      (whole : ∀ entry ∈ entries, Whole entry.2.toList) :
      ∀ item ∈ (entries.map entryForm).map String.toList, Whole item ∧ item ≠ [] := by
    intro item member
    rcases List.mem_map.mp member with ⟨text, textMember, rfl⟩
    rcases List.mem_map.mp textMember with ⟨entry, entryMember, rfl⟩
    exact ⟨whole_entryForm (whole entry entryMember), entryForm_ne_nil entry⟩
  have same := intercalate_injective (written leftWhole) (written rightWhole) inner
  rw [List.map_map, List.map_map] at same
  refine (List.map_inj_right ?_).mp same
  intro first second sameText
  exact entryForm_injective (String.toList_inj.mp sameText)

/-! ## Arranging entries -/

/-- Entries of one name keep their order when entries are arranged by name. -/
theorem filter_arrange (entries : List (String × String)) (name : String) :
    (EntryOrder.byName.arrange entries).filter (·.1 = name) = entries.filter (·.1 = name) := by
  have kept : (entries.filter (·.1 = name)).Sublist (EntryOrder.byName.arrange entries) := by
    apply List.sublist_mergeSort
    · intro first second third
      simpa using fun firstLe secondLe => String.le_trans firstLe secondLe
    · intro first second
      simpa using String.le_total first.1 second.1
    · apply List.pairwise_of_forall_mem_list
      intro first firstMember second secondMember
      have firstName : first.1 = name := by simpa using (List.mem_filter.mp firstMember).2
      have secondName : second.1 = name := by simpa using (List.mem_filter.mp secondMember).2
      simp [firstName, secondName]
    · exact List.filter_sublist
  have filtered := kept.filter (·.1 = name)
  rw [List.filter_filter] at filtered
  simp only [Bool.and_self] at filtered
  have lengths := ((List.mergeSort_perm entries fun left right => decide (left.1 ≤ right.1)).filter
    (·.1 = name)).length_eq
  exact (filtered.eq_of_length lengths.symm).symm

theorem mem_arrange {order : EntryOrder} {entries : List (String × String)}
    {entry : String × String} : entry ∈ order.arrange entries ↔ entry ∈ entries := by
  cases order with
  | given => rfl
  | byName => exact List.mem_mergeSort

/-! ## Data -/

/-- What holds of plain and of quoted text, and passes from parts to lists and mappings. -/
structure HeldByForms (P : String → Prop) : Prop where
  unmarked {text : String} : Unmarked text → P text
  text (value : String) : P (textForm value)
  list {items : List String} : (∀ item ∈ items, P item) → P (listForm items)
  mapping {entries : List (String × String)} :
    (∀ entry ∈ entries, P entry.2) → P (mappingForm entries)

mutual

theorem HeldByForms.form {P : String → Prop} (held : HeldByForms P) (order : EntryOrder) :
    ∀ datum : Datum, P (form order datum)
  | .null => held.unmarked (show Unmarked "null" by decide)
  | .boolean true => held.unmarked (show Unmarked "true" by decide)
  | .boolean false => held.unmarked (show Unmarked "false" by decide)
  | .integer value => held.unmarked (unmarked_intText value)
  | .number value => held.unmarked (unmarked_numberText (by decide) (by decide) value)
  | .text value => held.text value
  | .date _ => held.text _
  | .moment _ => held.text _
  | .time _ => held.text _
  | .bytes _ => held.text _
  | .list items => held.list (held.itemForms order items)
  | .mapping entries => held.mapping fun entry member =>
      held.entryForms order entries entry (mem_arrange.mp member)

theorem HeldByForms.itemForms {P : String → Prop} (held : HeldByForms P) (order : EntryOrder) :
    ∀ items : List Datum, ∀ item ∈ itemForms order items, P item
  | [], _, member => nomatch member
  | first :: items, item, member => by
      rcases List.mem_cons.mp member with isFirst | later
      · exact isFirst ▸ held.form order first
      · exact held.itemForms order items item later

theorem HeldByForms.entryForms {P : String → Prop} (held : HeldByForms P) (order : EntryOrder) :
    ∀ entries : List (Datum × Datum), ∀ entry ∈ entryForms order entries, P entry.2
  | [], _, member => nomatch member
  | (_, value) :: entries, entry, member => by
      rcases List.mem_cons.mp member with isFirst | later
      · exact isFirst ▸ held.form order value
      · exact held.entryForms order entries entry later

end

/-- Neither a quote nor a bracket stays open in what is written for a datum. -/
theorem whole_form (order : EntryOrder) (datum : Datum) : Whole (form order datum).toList :=
  HeldByForms.form (P := fun text => Whole text.toList)
    ⟨whole_of_ordinary, whole_textForm, whole_listForm, whole_mappingForm⟩ order datum

/-- The null character can separate what is written for several data. -/
theorem null_notMem_form (order : EntryOrder) (datum : Datum) :
    '\x00' ∉ (form order datum).toList :=
  HeldByForms.form (P := fun text => '\x00' ∉ text.toList)
    ⟨Nesting.Unmarked.null_notMem, null_notMem_textForm, null_notMem_listForm, null_notMem_mappingForm⟩
    order datum

end TableBrowser.Json
