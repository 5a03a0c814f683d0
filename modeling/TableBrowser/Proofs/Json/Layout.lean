import TableBrowser.Json.Layout
import TableBrowser.Proofs.Json.RoundTrip
/-!
# The usual layout

The pieces that a value is written in, when nothing about the layout is asked
for, make up its JSON text. Main statement: `joinPieces_pieces`.
-/

namespace TableBrowser.Json

/-- Pieces without a fault that make up the characters. -/
def MakeUp (pieces : List Piece) (chars : List Char) : Prop :=
  ∃ texts : List String, pieces = texts.map .ok ∧ texts.flatMap String.toList = chars

theorem makeUp_singleton (text : String) : MakeUp [.ok text] text.toList :=
  ⟨[text], rfl, by simp⟩

theorem MakeUp.append {left right : List Piece} {leftChars rightChars : List Char}
    (isLeft : MakeUp left leftChars) (isRight : MakeUp right rightChars) :
    MakeUp (left ++ right) (leftChars ++ rightChars) := by
  rcases isLeft with ⟨leftTexts, rfl, rfl⟩
  rcases isRight with ⟨rightTexts, rfl, rfl⟩
  exact ⟨leftTexts ++ rightTexts, List.map_append.symm, List.flatMap_append⟩

theorem joinPieces_of_makeUp {pieces : List Piece} {chars : List Char}
    (makeUp : MakeUp pieces chars) : joinPieces pieces = (String.ofList chars, none) := by
  rcases makeUp with ⟨texts, rfl, rfl⟩
  have all : (texts.map (Except.ok : String → Piece)).takeWhile (fun piece =>
      piece.toOption.isSome) = texts.map .ok := by
    induction texts with
    | nil => rfl
    | cons text texts induction => rw [List.map_cons, List.takeWhile_cons_of_pos rfl, induction]
  have written : (texts.map (Except.ok : String → Piece)).filterMap Piece.text? = texts := by
    simp [List.filterMap_map, Function.comp_def, Piece.text?, Except.toOption]
  have noFault : (texts.map (Except.ok : String → Piece)).findSome? Piece.fault? = none := by
    rw [List.findSome?_eq_none_iff]
    intro piece member
    rcases List.mem_map.mp member with ⟨text, _, rfl⟩
    rfl
  rw [joinPieces, all, written, noFault, ← String.toList_join, String.ofList_toList]

theorem makeUp_intercalate {α : Type} {items : List α} {pieces : α → List Piece}
    {chars : α → List Char} (each : ∀ item ∈ items, MakeUp (pieces item) (chars item)) :
    MakeUp ([.ok ", "].intercalate (items.map pieces)) ([',', ' '].intercalate (items.map chars)) := by
  induction items with
  | nil => exact ⟨[], rfl, rfl⟩
  | cons item items induction =>
      have isFirst := each item List.mem_cons_self
      have later := induction fun other member => each other (List.mem_cons_of_mem item member)
      cases items with
      | nil => simpa using isFirst
      | cons second items =>
          simp only [List.map_cons, List.intercalate_cons_cons] at later ⊢
          exact (isFirst.append (makeUp_singleton ", ")).append later

theorem makeUp_between {α : Type} {items : List α} {pieces : α → List Piece}
    {chars : α → List Char} (each : ∀ item ∈ items, MakeUp (pieces item) (chars item))
    (level : Nat) (opening closing : String) :
    MakeUp (({} : Layout).between level opening closing (items.map pieces))
      (opening.toList ++ [',', ' '].intercalate (items.map chars) ++ closing.toList) := by
  by_cases isEmpty : items = []
  · subst isEmpty
    have both := makeUp_singleton (opening ++ closing)
    rw [String.toList_append] at both
    simpa [Layout.between] using both
  · have inner := makeUp_intercalate each
    have around := ((makeUp_singleton (opening ++ "")).append inner).append
      (makeUp_singleton ("" ++ closing))
    simp [Layout.between, isEmpty, Layout.newLine] at around ⊢
    exact around

theorem itemPieces_eq_map (layout : Layout) (level : Nat) (items : List Datum) :
    layout.itemPieces level items = items.map (layout.pieces level) := by
  induction items with
  | nil => rfl
  | cons item items induction => rw [Layout.itemPieces, List.map_cons, induction]

theorem valuePieces_eq_map (layout : Layout) (level : Nat) (entries : List (Datum × Datum)) :
    layout.valuePieces level entries =
      entries.map fun entry => (entry.1, layout.pieces level entry.2) := by
  induction entries with
  | nil => rfl
  | cons entry entries induction => rw [Layout.valuePieces, List.map_cons, induction]

/-- Entries with texts as keys are all written. -/
theorem flatMap_entryPieces {entries : List (Datum × Datum)}
    (named : ∀ entry ∈ entries, ∃ name, entry.1 = .text name) (level : Nat) :
    (({} : Layout).valuePieces level entries).flatMap (fun (key, value) =>
      ({} : Layout).entryPieces key value) =
      entries.map fun entry =>
        .ok (textForm (nameForm entry.1) ++ ": ") :: ({} : Layout).pieces level entry.2 := by
  rw [valuePieces_eq_map, List.flatMap_map]
  induction entries with
  | nil => rfl
  | cons entry entries induction =>
      rcases entry with ⟨key, value⟩
      obtain ⟨name, rfl⟩ := named _ List.mem_cons_self
      rw [List.flatMap_cons, List.map_cons,
        induction fun other member => named other (List.mem_cons_of_mem _ member)]
      rfl

theorem makeUp_pieces {datum : Datum} (readable : Readable datum) (level : Nat) :
    MakeUp (({} : Layout).pieces level datum) (written datum) := by
  induction readable generalizing level with
  | null => exact makeUp_singleton "null"
  | boolean value => exact makeUp_singleton (if value then "true" else "false")
  | @integer value _ => exact makeUp_singleton (Decimal.intText value)
  | number value =>
      have isForm : ({} : Layout).numberForm value =
          .ok (Decimal.numberText jsonNumberLayout value) := if_pos (Bool.or_true _)
      rw [Layout.pieces, isForm]
      exact makeUp_singleton _
  | text value => exact makeUp_singleton (textForm value)
  | @list items _ each =>
      rw [Layout.pieces, itemPieces_eq_map, written_list]
      exact makeUp_between (fun item member => each item member (level + 1)) level "[" "]"
  | @mapping entries named _ _ each =>
      have isOrdered : ({} : Layout).clash? (entries.map (·.1)) = none := rfl
      have entry : ∀ entry ∈ entries,
          MakeUp (.ok (textForm (nameForm entry.1) ++ ": ") ::
            ({} : Layout).pieces (level + 1) entry.2) (writtenEntry entry) := by
        intro entry member
        have both := (makeUp_singleton (textForm (nameForm entry.1) ++ ": ")).append
          (each entry member (level + 1))
        rw [String.toList_append, List.append_assoc] at both
        exact both
      rw [Layout.pieces, isOrdered, written_mapping]
      simp only
      rw [show ({} : Layout).arrange (({} : Layout).valuePieces (level + 1) entries) =
        ({} : Layout).valuePieces (level + 1) entries from rfl, flatMap_entryPieces named]
      exact makeUp_between entry level "\x7b" "\x7d"

/-- The pieces of a value that a reader can give back are read as it. -/
theorem joinPieces_pieces {datum : Datum} (readable : Readable datum) :
    ∃ text, joinPieces (({} : Layout).pieces 0 datum) = (text, none) ∧ read text = .ok datum := by
  refine ⟨form .given datum, ?_, read_form readable⟩
  have joined := joinPieces_of_makeUp (makeUp_pieces readable 0)
  rwa [written, String.ofList_toList] at joined

end TableBrowser.Json
