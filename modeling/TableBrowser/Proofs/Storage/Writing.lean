import TableBrowser.Proofs.Storage.Naming
/-!
# Writing tables

Delimited text can be written for every table, and what keeps JSON from being
written is told as a failure. Main statement: writing to a destination without
options never meets a fault.
-/

namespace TableBrowser

/-- Whoever writes is told of the fault. -/
def Fault.IsTold (fault : Fault) : Prop :=
  fault.className = "TypeError" ∨ fault.className = "ValueError"

/-! ## JSON -/

namespace Json

/-- The faults among the pieces are told. -/
def Told (pieces : List Piece) : Prop := ∀ piece ∈ pieces, Raises Fault.IsTold piece

theorem told_nil : Told [] := fun _ member => by cases member

theorem told_cons {piece : Piece} {pieces : List Piece} (first : Raises Fault.IsTold piece)
    (others : Told pieces) : Told (piece :: pieces) := by
  intro other member
  rcases List.mem_cons.mp member with rfl | later
  · exact first
  · exact others other later

theorem told_text (text : String) : Told [.ok text] := told_cons (Raises.pure text) told_nil

theorem told_fault {fault : Fault} (isTold : fault.IsTold) : Told [.error fault] :=
  told_cons (Raises.error isTold) told_nil

theorem told_append {first second : List Piece} (one : Told first) (other : Told second) :
    Told (first ++ second) := fun piece member =>
  (List.mem_append.mp member).elim (one piece) (other piece)

variable (layout : Layout)

theorem told_between (level : Nat) (opening closing : String) {items : List (List Piece)}
    (each : ∀ item ∈ items, Told item) : Told (layout.between level opening closing items) := by
  unfold Layout.between
  split
  · exact told_text _
  · refine told_append (told_append (told_text _) fun piece member => ?_) (told_text _)
    rcases mem_of_mem_intercalate member with separates | ⟨item, itemMember, within⟩
    · exact told_text _ piece separates
    · exact each item itemMember piece within

theorem told_numberForm (value : Binary64) : Raises Fault.IsTold (layout.numberForm value) := by
  unfold Layout.numberForm
  split
  · exact Raises.pure _
  · exact Raises.error (.inr rfl)

theorem told_entryPieces (key : Datum) {value : List Piece} (valueTold : Told value) :
    ∀ pieces ∈ layout.entryPieces key value, Told pieces := by
  unfold Layout.entryPieces
  split
  · intro pieces member
    rw [List.mem_singleton.mp member]
    exact told_cons (Raises.pure _) valueTold
  · split
    · exact fun _ member => by cases member
    · intro pieces member
      rw [List.mem_singleton.mp member]
      exact told_fault (.inl rfl)

theorem isTold_of_clash? {keys : List Datum} {fault : Fault}
    (clashes : layout.clash? keys = some fault) : fault.IsTold := by
  unfold Layout.clash? at clashes
  split at clashes
  · rcases List.exists_of_findSome?_eq_some clashes with ⟨⟨left, right⟩, _, compared⟩
    simp only at compared
    cases order : right.less left with
    | ok before => simp [order] at compared
    | error clash =>
        rw [order] at compared
        cases compared
        exact .inl rfl
  · cases clashes

theorem mem_arrange_pieces {entries : List (Datum × List Piece)} {entry : Datum × List Piece} :
    entry ∈ layout.arrange entries ↔ entry ∈ entries := by
  unfold Layout.arrange
  split
  · exact List.mem_mergeSort
  · rfl

mutual

/-- What has no form in JSON is told, wherever it stands. -/
theorem told_pieces (level : Nat) : ∀ datum : Datum, Told (layout.pieces level datum)
  | .null => told_text _
  | .boolean _ => told_text _
  | .integer _ => told_text _
  | .number value => told_cons (told_numberForm layout value) told_nil
  | .text _ => told_text _
  | .date _ => told_fault (.inl rfl)
  | .moment _ => told_fault (.inl rfl)
  | .time _ => told_fault (.inl rfl)
  | .bytes _ => told_fault (.inl rfl)
  | .list items => told_between layout level _ _ (told_itemPieces (level + 1) items)
  | .mapping entries => by
      rw [Layout.pieces]
      split
      · next clashes => exact told_cons (Raises.pure _) (told_fault (isTold_of_clash? layout clashes))
      · refine told_between layout level _ _ fun pieces member => ?_
        rcases List.mem_flatMap.mp member with ⟨entry, entryMember, within⟩
        have valueTold := told_valuePieces (level + 1) entries entry
          ((mem_arrange_pieces layout).mp entryMember)
        exact told_entryPieces layout entry.1 valueTold pieces within

theorem told_itemPieces (level : Nat) :
    ∀ items : List Datum, ∀ pieces ∈ layout.itemPieces level items, Told pieces
  | [], _, member => nomatch member
  | first :: items, pieces, member => by
      rcases List.mem_cons.mp member with isFirst | later
      · exact isFirst ▸ told_pieces level first
      · exact told_itemPieces level items pieces later

theorem told_valuePieces (level : Nat) :
    ∀ entries : List (Datum × Datum), ∀ entry ∈ layout.valuePieces level entries, Told entry.2
  | [], _, member => nomatch member
  | (_, value) :: entries, entry, member => by
      rcases List.mem_cons.mp member with isFirst | later
      · exact isFirst ▸ told_pieces level value
      · exact told_valuePieces level entries entry later

end

theorem isTold_of_joinPieces {pieces : List Piece} (told : Told pieces) {fault : Fault}
    (ended : (joinPieces pieces).2 = some fault) : fault.IsTold := by
  rcases List.exists_of_findSome?_eq_some ended with ⟨piece, member, isFault⟩
  cases piece with
  | ok text => cases isFault
  | error other =>
      cases isFault
      exact told _ member _ rfl

end Json

/-! ## Delimited text -/

namespace Delimited

/-- A dialect that encloses and doubles can write every record. -/
theorem exists_writtenRecord {dialect : Dialect} (encloses : dialect.quoting ≠ .none)
    (doubles : dialect.doubleQuote = true) (noEscape : dialect.escape = none)
    (fields : List String) : ∃ chars, writtenRecord dialect fields = .ok chars := by
  have written (char : Char) : ∃ form, writtenChar dialect char = .ok form := by
    unfold writtenChar
    simp only [if_neg encloses, doubles, if_true, noEscape, reduceCtorEq, if_false]
    split
    · exact ⟨_, rfl⟩
    · split <;> exact ⟨_, rfl⟩
  have writtenText (field : String) : ∃ chars, writtenField dialect field = .ok chars := by
    rcases mapM_succeeds fun char (_ : char ∈ field.toList) => written char with ⟨parts, areParts⟩
    exact ⟨_, by rw [writtenField, areParts]; rfl⟩
  rcases mapM_succeeds fun field (_ : field ∈ fields) => writtenText field with ⟨texts, areTexts⟩
  simp only [writtenRecord, areTexts, bind, Except.bind, if_neg encloses]
  split
  · exact ⟨_, rfl⟩
  · exact ⟨_, rfl⟩

end Delimited

theorem Encoding.exists_encode_utf8 (leniency : Leniency) (text : List Char) :
    ∃ bytes, Encoding.utf8.encode leniency text = .ok bytes := by
  refine ⟨_, bind_eq_ok.mpr ⟨text.map String.utf8EncodeChar, mapM_eq_ok.mpr ?_, rfl⟩⟩
  exact List.forall₂_map_right_iff.mpr (List.forall₂_same.mpr fun char _ => rfl)

/-! ## Destinations -/

namespace Destination

theorem recordsBytes_of_ok {one : List String → Except Fault (List UInt8)} {records : List (List String)}
    (each : ∀ fields, ∃ bytes, one fields = .ok bytes) : (recordsBytes one records).2 = none := by
  induction records with
  | nil => rfl
  | cons fields rest induction =>
      rcases each fields with ⟨bytes, isBytes⟩
      rw [recordsBytes, isBytes]
      exact induction

theorem delimited_of_noOptions {usual : Delimited.Dialect}
    (settings : delimitedSettings [] usual = .ok (.utf8, .strict, usual))
    (encloses : usual.quoting ≠ .none) (doubles : usual.doubleQuote = true)
    (noEscape : usual.escape = none) (table : Table) : (delimited [] usual table).2 = none := by
  simp only [delimited, settings]
  refine recordsBytes_of_ok fun fields => ?_
  rcases Delimited.exists_writtenRecord encloses doubles noEscape fields with ⟨chars, areChars⟩
  rcases Encoding.exists_encode_utf8 .strict chars with ⟨bytes, areBytes⟩
  exact ⟨bytes, by simp only [recordBytes, areChars, areBytes]⟩

theorem json_of_noOptions (table : Table) :
    ∃ written, json [] table = .ok written ∧ ∀ fault, written.2 = some fault → fault.IsTold := by
  refine ⟨_, rfl, fun fault ended => Json.isTold_of_joinPieces ?_ ended⟩
  refine Json.told_append (Json.told_append Json.told_nil ?_) Json.told_nil
  exact Json.told_pieces _ 0 _

theorem faultless_settle {destination : Destination} {fault : Option Fault}
    (told : ∀ given, fault = some given → given.IsTold) : (destination.settle fault).Faultless := by
  cases fault with
  | none => exact Raises.pure _
  | some fault =>
      have isNamed : ["TypeError", "ValueError", "UnicodeEncodeError"].contains fault.className = true := by
        rcases told fault rfl with same | same <;> rw [same] <;> rfl
      rw [settle, if_pos isNamed]
      exact Outcome.faultsOnly_fail _

theorem faultless_unwritable (destination : Destination) (problem : AccessProblem) :
    (destination.unwritable problem : Outcome Unit).Faultless := by
  unfold unwritable
  split
  · exact Outcome.faultsOnly_fail _
  · exact Outcome.faultsOnly_fail _

/-- What is written without options, up to a fault that is told. -/
theorem exists_content {destination : Destination} (noOptions : destination.options = .mapping [])
    (table : Table) : ∃ written, destination.content table = .ok written ∧
      ∀ fault, written.2 = some fault → fault.IsTold := by
  have plain : Options.ofDatum destination.options = .ok [] := by
    rw [noOptions]
    rfl
  have noFault {written : Written} (complete : written.2 = none) :
      ∀ fault, written.2 = some fault → fault.IsTold := by simp [complete]
  simp only [content, plain, bind, Except.bind]
  cases destination.format with
  | csv => exact ⟨_, rfl, noFault (delimited_of_noOptions (by decide) (by decide) rfl rfl table)⟩
  | tsv => exact ⟨_, rfl, noFault (delimited_of_noOptions (by decide) (by decide) rfl rfl table)⟩
  | json => exact json_of_noOptions table
  | sqlite => exact json_of_noOptions table

/-- Without options a table is written, or what keeps it from being written is told. -/
theorem faultless_write {destination : Destination} (noOptions : destination.options = .mapping [])
    (tree : FileTree) (table : Table) : (destination.write tree table).2.Faultless := by
  rcases exists_content noOptions table with ⟨⟨bytes, fault⟩, isContent, told⟩
  simp only [write, isContent]
  split
  · exact faultless_unwritable destination _
  · exact faultless_settle told

end Destination

end TableBrowser
