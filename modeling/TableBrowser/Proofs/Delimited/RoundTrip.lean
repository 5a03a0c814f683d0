import TableBrowser.Delimited.Reading
import TableBrowser.Delimited.Dialect
import TableBrowser.Proofs.Outcome
/-!
# Delimited text that is read again

Rows of fields that were written are read as they were, as long as no field is
too long to be read. Main statement: `records_written`.
-/

namespace TableBrowser.Delimited

/-! ## Lines -/

section Lines

variable {char : Char} {rest : List Char}

theorem go_of_not_end (line : List Char) (notFeed : char ≠ '\n') (notReturn : char ≠ '\r') :
    lines.go line (char :: rest) = lines.go (char :: line) rest := by
  rw [lines.go]
  · simp [notFeed, notReturn]
  · rintro _ rfl
    exact absurd rfl notReturn

theorem go_of_pair (line : List Char) :
    lines.go line ('\r' :: '\n' :: rest) = ('\n' :: '\r' :: line).reverse :: lines.go [] rest := by
  rw [lines.go]

theorem go_of_end (line : List Char) (isEnd : char = '\n' ∨ char = '\r')
    (notPair : char = '\r' → rest.head? ≠ some '\n') :
    lines.go line (char :: rest) = (char :: line).reverse :: lines.go [] rest := by
  rw [lines.go]
  · simp [isEnd]
  · rintro other rfl rfl
    exact notPair rfl rfl

/-- A line that has been begun goes on to its end. -/
theorem exists_go (line text : List Char) (begun : line ≠ []) :
    ∃ tail others, lines.go line text = (line.reverse ++ tail) :: others := by
  induction text generalizing line with
  | nil => exact ⟨[], [], by simp [lines.go, begun]⟩
  | cons char rest induction =>
      by_cases isEnd : char = '\n' ∨ char = '\r'
      · by_cases isPair : char = '\r' ∧ rest.head? = some '\n'
        · rcases isPair with ⟨rfl, isFeed⟩
          rcases List.head?_eq_some_iff.mp isFeed with ⟨later, rfl⟩
          exact ⟨['\r', '\n'], lines.go [] later, by simp [go_of_pair]⟩
        · have notPair : char = '\r' → rest.head? ≠ some '\n' := fun isReturn isFeed =>
            isPair ⟨isReturn, isFeed⟩
          exact ⟨[char], lines.go [] rest, by simp [go_of_end line isEnd notPair]⟩
      · rcases not_or.mp isEnd with ⟨notFeed, notReturn⟩
        rcases induction (char :: line) (by simp) with ⟨tail, others, isLine⟩
        refine ⟨char :: tail, others, ?_⟩
        rw [go_of_not_end line notFeed notReturn, isLine]
        simp

end Lines

/-! ## Reading on -/

variable {dialect : Dialect} {done : List (List Datum)} {draft next : Draft}
  {result : Except Stop (List (List Datum))} {char : Char} {rest : List Char}

/-- Reading the characters of a line from a draft. -/
def readChars (dialect : Dialect) (draft : Draft) (chars : List Char) : Except Stop Draft :=
  chars.foldlM (fun draft char => read dialect draft (some char)) draft

theorem readChars_concat {before : Draft} {chars : List Char}
    (areRead : readChars dialect before chars = .ok draft)
    (isRead : read dialect draft (some char) = .ok next) :
    readChars dialect before (chars ++ [char]) = .ok next := by
  rw [readChars, List.foldlM_append]
  exact bind_eq_ok.mpr ⟨draft, areRead, bind_eq_ok.mpr ⟨next, isRead, rfl⟩⟩

/-- The text leads to a result from a draft, however much of its line has been read. -/
def Leads (dialect : Dialect) (done : List (List Datum)) (draft : Draft) (text : List Char)
    (result : Except Stop (List (List Datum))) : Prop :=
  ∀ before line, readChars dialect before line.reverse = .ok draft →
    readLines dialect done before (lines.go line text) = result

theorem Leads.step (notFeed : char ≠ '\n') (notReturn : char ≠ '\r')
    (isRead : read dialect draft (some char) = .ok next)
    (later : Leads dialect done next rest result) :
    Leads dialect done draft (char :: rest) result := by
  intro before line isLine
  rw [go_of_not_end line notFeed notReturn]
  refine later before (char :: line) ?_
  rw [List.reverse_cons]
  exact readChars_concat isLine isRead

/-- Within quotes a line may end without ending the record. -/
theorem Leads.within (isRead : read dialect draft (some char) = .ok next)
    (isOpen : next.place = .inQuotes) (later : Leads dialect done next rest result) :
    Leads dialect done draft (char :: rest) result := by
  by_cases isEnd : char = '\n' ∨ char = '\r'
  · intro before line isLine
    have isNext := readChars_concat isLine isRead
    rw [← List.reverse_cons] at isNext
    by_cases isPair : char = '\r' ∧ rest.head? = some '\n'
    · rcases isPair with ⟨rfl, isFeed⟩
      rcases List.head?_eq_some_iff.mp isFeed with ⟨others, rfl⟩
      rw [go_of_pair]
      have ended := later before ('\r' :: line) isNext
      rw [go_of_end _ (.inl rfl) (by simp)] at ended
      exact ended
    · rw [go_of_end line isEnd fun isReturn isFeed => isPair ⟨isReturn, isFeed⟩]
      have isLineRead : readLine dialect before (char :: line).reverse = .ok next := by
        refine bind_eq_ok.mpr ⟨next, isNext, ?_⟩
        rw [read, isOpen]
        rfl
      rw [readLines, isLineRead]
      change (if next.place = .recordStart then _ else _) = result
      rw [if_neg (by rw [isOpen]; simp)]
      exact later next [] rfl
  · rcases not_or.mp isEnd with ⟨notFeed, notReturn⟩
    exact later.step notFeed notReturn isRead

/-- The end of a line ends the record. -/
theorem Leads.record (isRead : read dialect draft (some '\r') = .ok next)
    (isEnd : next.place = .lineEnd)
    (later : readLines dialect (next.fields.reverse :: done) {} (lines rest) = result) :
    Leads dialect done draft ('\r' :: '\n' :: rest) result := by
  intro before line isLine
  have stays : read dialect next (some '\n') = .ok next := by
    rw [read, isEnd]
    rfl
  have isNext := readChars_concat (readChars_concat isLine isRead) stays
  have isLineRead : readLine dialect before ('\n' :: '\r' :: line).reverse =
      .ok (next.moveTo .recordStart) := by
    rw [List.reverse_cons, List.reverse_cons]
    refine bind_eq_ok.mpr ⟨next, isNext, ?_⟩
    rw [read, isEnd]
  rw [go_of_pair, readLines, isLineRead]
  exact later

/-- A record that does not begin with the end of a line begins with a field. -/
theorem readLines_start (notFeed : char ≠ '\n') (notReturn : char ≠ '\r') :
    readLines dialect done {} (lines (char :: rest)) =
      readLines dialect done { place := .fieldStart } (lines (char :: rest)) := by
  have sameRead : read dialect {} (some char) = read dialect { place := .fieldStart } (some char) := by
    have notEnd : isLineEnd (some char) = false := by simp [isLineEnd, notFeed, notReturn]
    simp only [read, notEnd, Bool.false_eq_true, if_false, fieldStart]
    rfl
  rcases exists_go [char] rest (by simp) with ⟨tail, others, isLine⟩
  rw [lines, go_of_not_end [] notFeed notReturn, isLine]
  simp only [readLines, readLine, List.reverse_singleton, List.singleton_append, List.foldlM_cons,
    sameRead]

/-! ## Written fields -/

/-- A quote within an enclosed field is written twice. -/
def doubled (char : Char) : List Char := if char = '"' then ['"', '"'] else [char]

/-- The characters that a field is written with. -/
def fieldChars (dialect : Dialect) (chars : List Char) : List Char :=
  if chars.any (isSpecial dialect) then '"' :: chars.flatMap doubled ++ ['"'] else chars

/-- The characters that the fields of a record are written with, before the end of the line. -/
def recordChars (dialect : Dialect) (fields : List String) : List Char :=
  if fields = [""] then ['"', '"']
  else [dialect.delimiter].intercalate (fields.map fun field => fieldChars dialect field.toList)

section Plain

variable (delimiter : Char)

theorem writtenChar_eq (char : Char) :
    writtenChar { delimiter } char = .ok (doubled char, isSpecial { delimiter } char) := by
  by_cases isQuote : char = '"'
  · subst isQuote
    have special : isSpecial { delimiter } '"' = true := by simp [isSpecial]
    simp [writtenChar, special, doubled]
  · cases special : isSpecial { delimiter } char with
    | false => simp [writtenChar, special, doubled, isQuote]
    | true =>
        have notQuote : '"' ≠ char := fun same => isQuote same.symm
        simp [writtenChar, special, doubled, isQuote, notQuote]

theorem flatMap_doubled {chars : List Char}
    (plain : chars.any (isSpecial { delimiter }) = false) : chars.flatMap doubled = chars := by
  induction chars with
  | nil => rfl
  | cons char chars induction =>
      rw [List.any_cons, Bool.or_eq_false_iff] at plain
      have notQuote : char ≠ '"' := by
        rintro rfl
        simp [isSpecial] at plain
      rw [List.flatMap_cons, induction plain.2, doubled, if_neg notQuote]
      rfl

theorem writtenField_eq (field : String) :
    writtenField { delimiter } field = .ok (fieldChars { delimiter } field.toList) := by
  have parts : field.toList.mapM (writtenChar { delimiter }) =
      .ok (field.toList.map fun char => (doubled char, isSpecial { delimiter } char)) :=
    mapM_eq_ok.mpr (List.forall₂_map_right_iff.mpr
      (List.forall₂_same.mpr fun char _ => writtenChar_eq delimiter char))
  rw [writtenField, parts]
  change Except.ok _ = Except.ok _
  congr 1
  simp only [List.any_map, List.flatMap_map, Function.comp_def, fieldChars]
  cases special : field.toList.any (isSpecial { delimiter }) with
  | true => simp [enclosed]
  | false => simp [flatMap_doubled delimiter special]

theorem fieldChars_eq_nil {chars : List Char} :
    fieldChars { delimiter } chars = [] ↔ chars = [] := by
  unfold fieldChars
  split
  · next special =>
    constructor
    · intro isNil
      simp at isNil
    · rintro rfl
      simp at special
  · exact Iff.rfl

theorem writtenRecord_eq (fields : List String) :
    writtenRecord { delimiter } fields = .ok (recordChars { delimiter } fields ++ ['\r', '\n']) := by
  have written : fields.mapM (writtenField { delimiter }) =
      .ok (fields.map fun field => fieldChars { delimiter } field.toList) :=
    mapM_eq_ok.mpr (List.forall₂_map_right_iff.mpr
      (List.forall₂_same.mpr fun field _ => writtenField_eq delimiter field))
  rw [writtenRecord, written]
  rcases fields with _ | ⟨first, _ | ⟨second, others⟩⟩
  · simp [recordChars, bind, Except.bind, pure, Except.pure]
  · by_cases isEmpty : first = ""
    · subst isEmpty
      simp [recordChars, fieldChars, enclosed, bind, Except.bind, pure, Except.pure]
    · have notNil : fieldChars { delimiter } first.toList ≠ [] := fun isNil =>
        isEmpty (String.toList_eq_nil_iff.mp ((fieldChars_eq_nil delimiter).mp isNil))
      simp [recordChars, isEmpty, notNil, bind, Except.bind, pure, Except.pure]
  · have notNil : [delimiter].intercalate ((first :: second :: others).map fun field =>
        fieldChars { delimiter } field.toList) ≠ [] := by
      simp [List.intercalate_cons_cons]
    simp [recordChars, bind, Except.bind, pure, Except.pure]

end Plain

/-! ## Reading a field -/

/-- The draft of a record in which part of a field has been read. -/
def drafted (place : Place) (fields : List Datum) (before : List Char) : Draft :=
  { place, field := before, length := before.length, fields }

/-- The field that is being read ends as the last of the fields. -/
structure Ends (dialect : Dialect) (draft : Draft) (fields : List Datum) : Prop where
  atDelimiter : read dialect draft (some dialect.delimiter) = .ok { place := .fieldStart, fields }
  atLineEnd : read dialect draft (some '\r') = .ok { place := .lineEnd, fields }

/-- A delimiter can part the fields of records. -/
structure Parts (delimiter : Char) : Prop where
  notFeed : delimiter ≠ '\n'
  notReturn : delimiter ≠ '\r'
  notQuote : delimiter ≠ '"'

section Reading

variable {delimiter : Char} {fields : List Datum} {before text : List Char}

theorem add_drafted {place : Place} (short : before.length < fieldLimit) (next : Place) :
    (drafted place fields before).add char next = .ok (drafted next fields (char :: before)) :=
  if_neg (Nat.not_le.mpr short)

theorem read_fieldStart (plain : isSpecial { delimiter } char = false) :
    read { delimiter } { place := .fieldStart, fields } (some char) =
      .ok (drafted .inField fields [char]) := by
  simp only [isSpecial, Bool.or_eq_false_iff, decide_eq_false_iff_not] at plain
  rcases plain with ⟨⟨⟨⟨⟨notDelimiter, _⟩, notQuote⟩, notFeed⟩, notReturn⟩, _⟩
  simp [read, fieldStart, isLineEnd, notDelimiter, notQuote, notFeed, notReturn, Draft.add,
    fieldLimit, drafted]

theorem read_inField (plain : isSpecial { delimiter } char = false)
    (short : before.length < fieldLimit) :
    read { delimiter } (drafted .inField fields before) (some char) =
      .ok (drafted .inField fields (char :: before)) := by
  simp only [isSpecial, Bool.or_eq_false_iff, decide_eq_false_iff_not] at plain
  rcases plain with ⟨⟨⟨⟨⟨notDelimiter, _⟩, _⟩, notFeed⟩, notReturn⟩, _⟩
  have added : (drafted .inField fields before).add char .inField =
      .ok (drafted .inField fields (char :: before)) := add_drafted short .inField
  rw [← added]
  simp [read, inField, drafted, isLineEnd, notDelimiter, notFeed, notReturn]

theorem leads_inField {chars : List Char} (plain : chars.any (isSpecial { delimiter }) = false)
    (short : before.length + chars.length ≤ fieldLimit)
    (later : Leads { delimiter } done (drafted .inField fields (chars.reverse ++ before)) text
      result) :
    Leads { delimiter } done (drafted .inField fields before) (chars ++ text) result := by
  induction chars generalizing before with
  | nil => exact later
  | cons char chars induction =>
      rw [List.any_cons, Bool.or_eq_false_iff] at plain
      rw [List.length_cons] at short
      rw [List.reverse_cons, List.append_assoc] at later
      refine .step ?_ ?_ (read_inField plain.1 (by omega)) (induction plain.2 ?_ later)
      · rintro rfl
        simp [isSpecial] at plain
      · rintro rfl
        simp [isSpecial] at plain
      · rw [List.length_cons]
        omega

theorem leads_inQuotes {chars : List Char} (short : before.length + chars.length ≤ fieldLimit)
    (later : Leads { delimiter } done (drafted .inQuotes fields (chars.reverse ++ before)) text
      result) :
    Leads { delimiter } done (drafted .inQuotes fields before) (chars.flatMap doubled ++ text)
      result := by
  induction chars generalizing before with
  | nil => exact later
  | cons char chars induction =>
      rw [List.length_cons] at short
      rw [List.reverse_cons, List.append_assoc] at later
      have added : (drafted .inQuotes fields before).add char .inQuotes =
          .ok (drafted .inQuotes fields (char :: before)) := add_drafted (by omega) .inQuotes
      have stillShort : (char :: before).length + chars.length ≤ fieldLimit := by
        rw [List.length_cons]
        omega
      have goesOn := induction stillShort later
      rw [List.flatMap_cons, List.append_assoc]
      by_cases isQuote : char = '"'
      · subst isQuote
        have isClosed : read { delimiter } (drafted .inQuotes fields before) (some '"') =
            .ok (drafted .afterQuote fields before) := rfl
        exact .step (by simp) (by simp) isClosed (.within added rfl goesOn)
      · rw [doubled, if_neg isQuote]
        refine .within ?_ rfl goesOn
        have notQuote : '"' ≠ char := fun same => isQuote same.symm
        rw [← added]
        simp [read, inQuotes, drafted, notQuote]

variable {chars : List Char} (parts : Parts delimiter)

include parts

theorem ends_inField :
    Ends { delimiter } (drafted .inField fields chars.reverse)
      (.text (String.ofList chars) :: fields) where
  atDelimiter := by
    simp [read, inField, drafted, isLineEnd, parts.notFeed, parts.notReturn, Draft.save]
    rfl
  atLineEnd := by
    simp [read, inField, drafted, isLineEnd, Draft.finish, Draft.save]
    rfl

theorem ends_afterQuote :
    Ends { delimiter } (drafted .afterQuote fields chars.reverse)
      (.text (String.ofList chars) :: fields) where
  atDelimiter := by
    simp [read, afterQuote, drafted, parts.notQuote.symm, Draft.save]
    rfl
  atLineEnd := by
    simp [read, afterQuote, drafted, isLineEnd, parts.notReturn.symm, Draft.finish, Draft.save]
    rfl

theorem ends_fieldStart :
    Ends { delimiter } { place := .fieldStart, fields } (.text "" :: fields) where
  atDelimiter := by
    simp [read, fieldStart, isLineEnd, parts.notFeed, parts.notReturn, parts.notQuote.symm,
      Draft.save]
    rfl
  atLineEnd := rfl

theorem leads_field (short : chars.length ≤ fieldLimit)
    (later : ∀ draft, Ends { delimiter } draft (.text (String.ofList chars) :: fields) →
      Leads { delimiter } done draft text result) :
    Leads { delimiter } done { place := .fieldStart, fields }
      (fieldChars { delimiter } chars ++ text) result := by
  cases special : chars.any (isSpecial { delimiter }) with
  | true =>
      have isOpened : read { delimiter } { place := .fieldStart, fields } (some '"') =
          .ok (drafted .inQuotes fields []) := rfl
      have isClosed : read { delimiter } (drafted .inQuotes fields chars.reverse) (some '"') =
          .ok (drafted .afterQuote fields chars.reverse) := rfl
      rw [fieldChars, if_pos special, List.append_assoc]
      refine .within isOpened rfl (leads_inQuotes (by simpa using short) ?_)
      rw [List.append_nil]
      exact .step (by simp) (by simp) isClosed (later _ (ends_afterQuote parts))
  | false =>
      rw [fieldChars, special]
      cases chars with
      | nil => exact later _ (ends_fieldStart parts)
      | cons first others =>
          have ended := later _ (ends_inField parts)
          rw [List.any_cons, Bool.or_eq_false_iff] at special
          rw [List.reverse_cons] at ended
          refine .step ?_ ?_ (read_fieldStart special.1)
            (leads_inField special.2 (by simpa [Nat.add_comm] using short) ended)
          · rintro rfl
            simp [isSpecial] at special
          · rintro rfl
            simp [isSpecial] at special

/-! ## Reading a record -/

/-- Fields after the first of a record, and the end of its line. -/
theorem leads_fields {first : String} {others : List String}
    (short : ∀ field ∈ first :: others, field.toList.length ≤ fieldLimit)
    (later : readLines { delimiter }
      ((((first :: others).map Datum.text).reverse ++ fields).reverse :: done) {} (lines text) =
        result) :
    Leads { delimiter } done { place := .fieldStart, fields }
      ([delimiter].intercalate ((first :: others).map fun field =>
        fieldChars { delimiter } field.toList) ++ '\r' :: '\n' :: text) result := by
  induction others generalizing first fields with
  | nil =>
      rw [List.map_singleton, List.intercalate_singleton]
      refine leads_field parts (short first List.mem_cons_self) fun draft ends => ?_
      rw [String.ofList_toList] at ends
      exact .record ends.atLineEnd rfl later
  | cons second others induction =>
      rw [List.map_cons, List.map_cons, List.intercalate_cons_cons, List.append_assoc,
        List.append_assoc]
      refine leads_field parts (short first List.mem_cons_self) fun draft ends => ?_
      rw [String.ofList_toList] at ends
      refine .step parts.notFeed parts.notReturn ends.atDelimiter ?_
      refine induction (fun field member => short field (List.mem_cons_of_mem first member)) ?_
      rw [← later]
      simp

omit parts in
theorem exists_fieldChars (notEmpty : chars ≠ []) :
    ∃ char rest, fieldChars { delimiter } chars = char :: rest ∧ char ≠ '\n' ∧ char ≠ '\r' := by
  cases special : chars.any (isSpecial { delimiter }) with
  | true => exact ⟨'"', _, by rw [fieldChars, if_pos special]; rfl, by simp, by simp⟩
  | false =>
      rcases List.exists_cons_of_ne_nil notEmpty with ⟨first, others, rfl⟩
      rw [List.any_cons, Bool.or_eq_false_iff] at special
      refine ⟨first, others, by simp [fieldChars, special], ?_, ?_⟩
      · rintro rfl
        simp [isSpecial] at special
      · rintro rfl
        simp [isSpecial] at special

/-- A record with a field does not begin with the end of a line. -/
theorem exists_recordChars (first : String) (others : List String) :
    ∃ char rest, recordChars { delimiter } (first :: others) = char :: rest ∧
      char ≠ '\n' ∧ char ≠ '\r' := by
  unfold recordChars
  split
  · exact ⟨'"', ['"'], rfl, by simp, by simp⟩
  · next notEmptyRow =>
    by_cases isEmpty : first = ""
    · cases others with
      | nil => exact absurd (by rw [isEmpty]) notEmptyRow
      | cons second others =>
          rw [List.map_cons, List.map_cons, List.intercalate_cons_cons, isEmpty]
          exact ⟨delimiter, _, rfl, parts.notFeed, parts.notReturn⟩
    · have notNil : first.toList ≠ [] := fun isNil => isEmpty (String.toList_eq_nil_iff.mp isNil)
      rcases exists_fieldChars notNil with ⟨char, rest, isField, notFeed, notReturn⟩
      cases others with
      | nil => exact ⟨char, rest, by simpa using isField, notFeed, notReturn⟩
      | cons second others =>
          rw [List.map_cons, List.map_cons, List.intercalate_cons_cons, isField]
          exact ⟨char, _, rfl, notFeed, notReturn⟩

theorem leads_record {first : String} {others : List String}
    (short : ∀ field ∈ first :: others, field.toList.length ≤ fieldLimit) :
    Leads { delimiter } done { place := .fieldStart }
      (recordChars { delimiter } (first :: others) ++ '\r' :: '\n' :: text)
      (readLines { delimiter } ((first :: others).map Datum.text :: done) {} (lines text)) := by
  unfold recordChars
  split
  · next isEmptyRow =>
    rw [isEmptyRow]
    have isOpened : read { delimiter } { place := .fieldStart } (some '"') =
        .ok (drafted .inQuotes [] []) := rfl
    have isClosed : read { delimiter } (drafted .inQuotes [] []) (some '"') =
        .ok (drafted .afterQuote [] []) := rfl
    have ends := @ends_afterQuote delimiter [] [] parts
    refine .within isOpened rfl (.step (by simp) (by simp) isClosed ?_)
    exact .record ends.atLineEnd rfl rfl
  · refine leads_fields parts short ?_
    rw [List.append_nil, List.reverse_reverse]

theorem readLines_record {row : List String}
    (short : ∀ field ∈ row, field.toList.length ≤ fieldLimit) :
    readLines { delimiter } done {}
        (lines (recordChars { delimiter } row ++ '\r' :: '\n' :: text)) =
      readLines { delimiter } (row.map Datum.text :: done) {} (lines text) := by
  cases row with
  | nil =>
      have isEnd : read { delimiter } {} (some '\r') = .ok { place := .lineEnd } := rfl
      exact Leads.record isEnd rfl rfl {} [] rfl
  | cons first others =>
      rcases exists_recordChars parts first others with ⟨char, rest, isRecord, notFeed, notReturn⟩
      refine Eq.trans ?_ (leads_record parts short { place := .fieldStart } [] rfl)
      rw [isRecord, List.cons_append]
      exact readLines_start notFeed notReturn

end Reading

/-! ## Reading rows -/

theorem readLines_written {delimiter : Char} (parts : Parts delimiter) {rows : List (List String)}
    (short : ∀ row ∈ rows, ∀ field ∈ row, field.toList.length ≤ fieldLimit)
    (done : List (List Datum)) :
    readLines { delimiter } done {}
        (lines (rows.flatMap fun row => recordChars { delimiter } row ++ ['\r', '\n'])) =
      .ok (done.reverse ++ rows.map (·.map Datum.text)) := by
  induction rows generalizing done with
  | nil => simp [lines, lines.go, readLines, bind, Except.bind, pure, Except.pure]
  | cons row rows induction =>
      rw [List.flatMap_cons, List.append_assoc]
      refine (readLines_record parts (short row List.mem_cons_self)).trans ?_
      refine (induction (fun other member => short other (List.mem_cons_of_mem row member)) _).trans ?_
      simp

/-- Rows of fields that were written are read as they were. -/
theorem records_written {delimiter : Char} (parts : Parts delimiter) {rows : List (List String)}
    (short : ∀ row ∈ rows, ∀ field ∈ row, field.toList.length ≤ fieldLimit) :
    ∃ written, rows.mapM (writtenRecord { delimiter }) = .ok written ∧
      records { delimiter } written.flatten = .ok (rows.map (·.map Datum.text)) := by
  refine ⟨rows.map fun row => recordChars { delimiter } row ++ ['\r', '\n'], ?_, ?_⟩
  · refine mapM_eq_ok.mpr (List.forall₂_map_right_iff.mpr (List.forall₂_same.mpr ?_))
    exact fun row _ => writtenRecord_eq delimiter row
  · rw [← List.flatMap_def]
    exact readLines_written parts short []

end TableBrowser.Delimited
