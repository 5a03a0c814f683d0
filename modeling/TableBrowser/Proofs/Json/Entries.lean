import TableBrowser.Json.Writing
import TableBrowser.Proofs.Json.Forms
import TableBrowser.Proofs.Outcome
/-!
# Entries of a form

A form gives back the values of its entries: mappings with the same form have
values with the same form under every name, and texts and lists of texts can be
read off their forms. A mapping that can be put in order has texts as keys as
soon as one of them is a text.
-/

namespace TableBrowser

def Datum.isText : Datum → Bool
  | .text _ => true
  | _ => false

namespace Json

open Nesting (Whole)

/-! ## Entries under a name -/

theorem entryForms_eq_map (order : EntryOrder) (entries : List (Datum × Datum)) :
    entryForms order entries =
      entries.map fun (key, value) => (nameForm key, form order value) := by
  induction entries with
  | nil => rfl
  | cons entry entries induction => rw [entryForms, List.map_cons, induction]

/-- Mappings with the same text have the same values under each name, in the same order. -/
theorem filter_entryForms_of_form_eq {left right : List (Datum × Datum)}
    (equal : form .byName (.mapping left) = form .byName (.mapping right)) (name : String) :
    (entryForms .byName left).filter (·.1 = name) =
      (entryForms .byName right).filter (·.1 = name) := by
  have whole (entries : List (Datum × Datum)) :
      ∀ entry ∈ EntryOrder.byName.arrange (entryForms .byName entries), Whole entry.2.toList := by
    intro entry member
    rw [mem_arrange, entryForms_eq_map] at member
    rcases List.mem_map.mp member with ⟨given, _, rfl⟩
    exact whole_form .byName given.2
  rw [form, form] at equal
  have arranged := mappingForm_injective (whole left) (whole right) equal
  rw [← filter_arrange, arranged, filter_arrange]

/-- Text compares with nothing but text. -/
theorem isText_of_less {left right : Datum} {before : Bool}
    (compared : left.less right = .ok before) : left.isText = right.isText := by
  cases left <;> cases right <;> first | rfl | simp [Datum.less, Datum.numeric?] at compared

theorem isText_of_clash?_eq_none {first : Datum} {keys : List Datum}
    (ordered : clash? (first :: keys) = none) : ∀ key ∈ keys, key.isText = first.isText := by
  induction keys generalizing first with
  | nil => simp
  | cons second keys induction =>
      have pairs := List.findSome?_eq_none_iff.mp ordered
      have sameKind : second.isText = first.isText := by
        have compares := pairs (first, second) (by simp)
        cases compared : second.less first with
        | ok before => exact isText_of_less compared
        | error clash => simp [compared] at compares
      have others : clash? (second :: keys) = none :=
        List.findSome?_eq_none_iff.mpr fun pair member => pairs pair (List.mem_cons_of_mem _ member)
      intro key member
      rcases List.mem_cons.mp member with isSecond | later
      · rw [isSecond, sameKind]
      · rw [induction others key later, sameKind]

/-- Where some key is a text all keys are, as the keys compare with one another. -/
theorem isText_of_orderedFault?_eq_none {entries : List (Datum × Datum)}
    (writable : orderedFault? (.mapping entries) = none) {named : Datum × Datum}
    (member : named ∈ entries) (isText : named.1.isText = true) :
    ∀ entry ∈ entries, entry.1.isText = true := by
  rw [orderedFault?, Option.or_eq_none_iff] at writable
  cases entries with
  | nil => simp at member
  | cons first entries =>
      have same := isText_of_clash?_eq_none writable.1
      have firstText : first.1.isText = true := by
        rcases List.mem_cons.mp member with isFirst | later
        · rwa [← isFirst]
        · rw [← same named.1 (List.mem_map_of_mem later), isText]
      intro entry entryMember
      rcases List.mem_cons.mp entryMember with isFirst | later
      · rwa [isFirst]
      · rw [same entry.1 (List.mem_map_of_mem later), firstText]

/-- Among entries with names, the value under a name is the first one that is written under it. -/
theorem form_valueAt? {entries : List (Datum × Datum)}
    (named : ∀ entry ∈ entries, entry.1.isText = true) (name : String) :
    (Datum.valueAt? entries name).map (form .byName) =
      ((entryForms .byName entries).filter (·.1 = name)).head?.map (·.2) := by
  induction entries with
  | nil => rfl
  | cons entry entries induction =>
      rcases entry with ⟨key, value⟩
      have others := induction fun other member => named other (by simp [member])
      cases key with
      | text written =>
          by_cases same : written = name
          · simp [Datum.valueAt?, entryForms, nameForm, same]
          · simpa [Datum.valueAt?, entryForms, nameForm, same] using others
      | _ => simp [Datum.isText] at named

theorem entryFaults_eq_map (entries : List (Datum × Datum)) :
    entryFaults entries =
      entries.map fun (key, value) => (key, (nameFault? key).or (orderedFault? value)) := by
  induction entries with
  | nil => rfl
  | cons entry entries induction => rw [entryFaults, List.map_cons, induction]

/-- The values of a mapping that can be written can be written. -/
theorem orderedFault?_value {entries : List (Datum × Datum)}
    (writable : orderedFault? (.mapping entries) = none) {entry : Datum × Datum}
    (member : entry ∈ entries) : orderedFault? entry.2 = none := by
  rw [orderedFault?, Option.or_eq_none_iff, List.findSome?_eq_none_iff] at writable
  have noFault := writable.2 (entry.1, (nameFault? entry.1).or (orderedFault? entry.2)) (by
    rw [inKeyOrder, List.mem_mergeSort, entryFaults_eq_map]
    exact List.mem_map_of_mem (f := fun (key, value) =>
      (key, (nameFault? key).or (orderedFault? value))) member)
  exact (Option.or_eq_none_iff.mp noFault).2

/-! ## Text and lists of text -/

/-- Text, or a list of such data. -/
inductive Textual : Datum → Prop
  | text (value : String) : Textual (.text value)
  | list {items : List Datum} : (∀ item ∈ items, Textual item) → Textual (.list items)

theorem itemForms_eq_map (order : EntryOrder) (items : List Datum) :
    itemForms order items = items.map (form order) := by
  induction items with
  | nil => rfl
  | cons item items induction => rw [itemForms, List.map_cons, induction]

theorem Textual.form_ne_nil {order : EntryOrder} {datum : Datum} (textual : Textual datum) :
    (form order datum).toList ≠ [] := by
  cases textual with
  | text value => simp [form, toList_textForm]
  | list items => simp [form, toList_listForm]

theorem Textual.form_injective {order : EntryOrder} {left right : Datum} (leftTextual : Textual left)
    (rightTextual : Textual right) (equal : form order left = form order right) :
    left = right := by
  induction leftTextual generalizing right with
  | text value =>
      cases rightTextual with
      | text other => rw [textForm_injective equal]
      | list items =>
          have chars := congrArg String.toList equal
          simp [form, toList_textForm, toList_listForm] at chars
  | @list items leftItems induction =>
      cases rightTextual with
      | text other =>
          have chars := congrArg String.toList equal
          simp [form, toList_textForm, toList_listForm] at chars
      | @list others rightItems =>
          have written {items : List Datum} (textual : ∀ item ∈ items, Textual item) :
              ∀ text ∈ items.map (form order), Whole text.toList ∧ text.toList ≠ [] := by
            intro text member
            rcases List.mem_map.mp member with ⟨item, itemMember, rfl⟩
            exact ⟨whole_form order item, (textual item itemMember).form_ne_nil⟩
          rw [form, form, itemForms_eq_map, itemForms_eq_map] at equal
          have forms := listForm_injective (written leftItems) (written rightItems) equal
          congr 1
          apply List.ext_getElem
          · simpa using congrArg List.length forms
          intro index inItems inOthers
          have same := congrArg (·[index]?) forms
          simp only [List.getElem?_map, List.getElem?_eq_getElem inItems,
            List.getElem?_eq_getElem inOthers, Option.map_some, Option.some.injEq] at same
          exact induction _ (List.getElem_mem inItems) (rightItems _ (List.getElem_mem inOthers)) same

end Json

end TableBrowser
