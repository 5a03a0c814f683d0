import TableBrowser.Proofs.Delimited.Fields
import TableBrowser.Proofs.Json.ReadValues
import TableBrowser.Proofs.Storage.Carrying
/-!
# Rows that are loaded

When options leave the names and the cells of a table to its file, the rows of
delimited text are short texts and the rows of JSON are values that can be read
back. Main statements: `isShort_of_delimitedRows` and `valued_of_jsonRows`.
-/

namespace TableBrowser

/-! ## Options -/

namespace Options

variable {options : Options}

theorem lookup_of_mapM {entries : List (Datum × Datum)} (name : String)
    (made : Options.ofDatum (.mapping entries) = .ok options) :
    options.lookup name = Datum.valueAt? entries name := by
  replace made := mapM_eq_ok.mp made
  unfold Datum.valueAt?
  induction made with
  | nil => rfl
  | @cons entry option entries options isOption _ induction =>
      rcases entry with ⟨key, value⟩
      simp only at isOption
      split at isOption
      · next given =>
        cases isOption
        by_cases same : name = given
        · rw [same, List.lookup_cons_self, List.find?_cons_of_pos (by simp)]
          rfl
        · rw [List.lookup_cons, beq_false_of_ne same, List.find?_cons_of_neg (by
            simpa using fun isGiven => same isGiven.symm)]
          exact induction
      · cases isOption

theorem value_of_ofDatum {datum : Datum} (name : String) (made : Options.ofDatum datum = .ok options) :
    options.value name = datum.get name := by
  cases datum with
  | mapping entries => rw [value, lookup_of_mapM name made]; rfl
  | _ => cases made

theorem lookup_without {names : List String} {name : String} (kept : name ∉ names) :
    (options.without names).lookup name = options.lookup name := by
  unfold without
  induction options with
  | nil => rfl
  | cons option options induction =>
      rcases option with ⟨given, value⟩
      by_cases same : name = given
      · subst same
        rw [List.filter_cons_of_pos (by simpa using kept), List.lookup_cons_self,
          List.lookup_cons_self]
      · rw [List.lookup_cons, beq_false_of_ne same]
        by_cases isKept : given ∈ names
        · rw [List.filter_cons_of_neg (by simpa using isKept)]
          exact induction
        · rw [List.filter_cons_of_pos (by simpa using isKept), List.lookup_cons,
            beq_false_of_ne same]
          exact induction

end Options

namespace Delimited

theorem quoting_startingDialect {options : Options} {usual start : Dialect}
    (starts : startingDialect options usual = .ok start) (usually : usual.quoting ≠ .nonNumeric) :
    start.quoting ≠ .nonNumeric := by
  unfold startingDialect at starts
  split at starts
  · cases starts
    exact usually
  · next name _ =>
    unfold dialectNamed? at starts
    split at starts <;> cases starts <;> decide
  · cases starts
    decide

theorem quoting_quotingOption {options : Options} {fallback quoting : Quoting}
    (chosen : quotingOption options fallback = .ok quoting) (usually : fallback ≠ .nonNumeric)
    (notAsked : options.lookup "quoting" ≠ some (.integer 2)) : quoting ≠ .nonNumeric := by
  unfold quotingOption at chosen
  split at chosen <;> cases chosen
  · exact usually
  · decide
  · decide
  · next isAsked => exact absurd isAsked notAsked
  · decide

/-- Numbers are read only when the quoting of numbers is asked for. -/
theorem quoting_dialectOf {options : Options} {usual dialect : Dialect}
    (made : dialectOf options usual = .ok dialect) (usually : usual.quoting ≠ .nonNumeric)
    (notAsked : options.lookup "quoting" ≠ some (.integer 2)) : dialect.quoting ≠ .nonNumeric := by
  simp only [dialectOf, bind_pure_comp] at made
  split at made
  · cases made
  · rcases bind_eq_ok.mp made with ⟨start, starts, made⟩
    rcases bind_eq_ok.mp made with ⟨_, _, made⟩
    rcases bind_eq_ok.mp made with ⟨_, _, made⟩
    rcases bind_eq_ok.mp made with ⟨_, _, made⟩
    rcases bind_eq_ok.mp made with ⟨_, _, made⟩
    rcases bind_eq_ok.mp made with ⟨quoting, isQuoting, made⟩
    have isQuoting' : dialect.quoting = quoting := by
      split at made
      · cases made
      · split at made <;> cases made
        rfl
    rw [isQuoting']
    exact quoting_quotingOption isQuoting (quoting_startingDialect starts usually) notAsked

end Delimited

namespace Source

/--
Options that leave the names and the cells of a table to its file, as no options
do: they give no header, fill in nothing but a JSON value, and have the fields of
delimited text read as text.
-/
structure LeavesCells (source : Source) : Prop where
  header : source.options.get "header" = .null
  missing : Json.Readable (source.options.get "missing")
  quoting : source.options.get "quoting" ≠ .integer 2

variable {tree : FileTree} {source : Source}

theorem leavesCells_of_noOptions (noOptions : source.options = .mapping []) : source.LeavesCells := by
  refine ⟨?_, ?_, ?_⟩ <;> rw [noOptions]
  · rfl
  · exact .null
  · decide

theorem givenHeader_of_leaves (leaves : source.LeavesCells) {options : Options}
    (made : Options.ofDatum source.options = .ok options) : givenHeader options = .ok none := by
  rw [givenHeader, Options.value_of_ofDatum "header" made, leaves.header]

/-! ## Delimited text -/

theorem stopped_ne_ok {α : Type} {stop : Delimited.Stop} {value : α} :
    source.stopped stop ≠ .ok value := by
  cases stop <;> exact nofun

theorem isShort_of_delimitedRows {usual : Delimited.Dialect} (leaves : source.LeavesCells)
    (usually : usual.quoting ≠ .nonNumeric) {rows : List (List Datum)}
    (areRows : source.delimitedRows tree usual = .ok rows) :
    ∀ row ∈ rows, ∀ cell ∈ row, Delimited.IsShort cell := by
  unfold delimitedRows at areRows
  rcases bind_eq_ok.mp areRows with ⟨options, isOptions, areRows⟩
  rcases bind_eq_ok.mp areRows with ⟨header, isHeader, areRows⟩
  rcases bind_eq_ok.mp areRows with ⟨bytes, _, areRows⟩
  rcases bind_eq_ok.mp areRows with ⟨encoding, _, areRows⟩
  rcases bind_eq_ok.mp areRows with ⟨leniency, _, areRows⟩
  have made := mapError_eq_ok.mp isOptions
  have noHeader := givenHeader_of_leaves leaves made
  rw [mapError_eq_ok.mp isHeader] at noHeader
  cases noHeader
  split at areRows
  · next dialect isDialect =>
    rcases bind_eq_ok.mp areRows with ⟨_, ⟨⟩, areRows⟩
    rcases bind_eq_ok.mp areRows with ⟨text, _, areRows⟩
    split at areRows
    · next records areRead =>
      cases areRows
      refine Delimited.isShort_of_records (Delimited.quoting_dialectOf isDialect usually ?_) areRead
      rw [Options.lookup_without (by decide)]
      intro isAsked
      have value := Options.value_of_ofDatum "quoting" made
      rw [Options.value, isAsked] at value
      exact leaves.quoting value.symm
    · exact absurd areRows stopped_ne_ok
  · rcases bind_eq_ok.mp areRows with ⟨_, notMade, _⟩
    exact absurd notMade stopped_ne_ok

end Source

/-! ## JSON -/

namespace Records

open Json (Readable)

/-- Rows of values that can be read back; no row, no names. -/
structure Valued (header : List Datum) (rows : List (List Datum)) : Prop where
  cells : ∀ row ∈ rows, ∀ cell ∈ row, Readable cell
  noNames : rows = [] → header = []

theorem readable_of_elements {datum : Datum} (readable : Readable datum) {data : List Datum}
    (areElements : datum.elements = .ok data) : ∀ element ∈ data, Readable element := by
  intro element member
  cases readable with
  | list each =>
      cases areElements
      exact each element member
  | mapping named =>
      cases areElements
      rcases List.mem_map.mp member with ⟨entry, isEntry, rfl⟩
      rcases named entry isEntry with ⟨name, isName⟩
      rw [isName]
      exact .text name
  | text value =>
      cases areElements
      rcases List.mem_map.mp member with ⟨_, _, rfl⟩
      exact .text _
  | _ => cases areElements

theorem readable_of_valueUnder {missing datum name cell : Datum} (filler : Readable missing)
    (readable : Readable datum) (isValue : valueUnder missing datum name = .ok cell) :
    Readable cell := by
  unfold valueUnder at isValue
  split at isValue
  · next entries key =>
    cases isValue
    cases found : entries.find? (·.1 = .text key) with
    | none => exact filler
    | some entry =>
        cases readable with
        | mapping _ _ each => exact each entry (List.mem_of_find?_eq_some found)
  · cases isValue
  · cases isValue
  · cases isValue
    exact filler
  · cases isValue

theorem valued_of_rowsUnder {missing : Datum} {header data : List Datum} (filler : Readable missing)
    (each : ∀ datum ∈ data, Readable datum) (noNames : data = [] → header = [])
    {rows : List (List Datum)} (areRows : rowsUnder missing header data = .ok rows) :
    ∃ body, rows = header :: body ∧ Valued header body := by
  rcases bind_eq_ok.mp areRows with ⟨body, isBody, made⟩
  cases made
  replace isBody := mapM_eq_ok.mp isBody
  refine ⟨body, rfl, ⟨fun row isRow cell isCell => ?_, ?_⟩⟩
  · rcases exists_of_forall₂ isBody.flip isRow with ⟨datum, isDatum, isRow⟩
    rcases exists_of_forall₂ (mapM_eq_ok.mp isRow).flip isCell with ⟨name, _, isCell⟩
    exact readable_of_valueUnder filler (each datum isDatum) isCell
  · rintro rfl
    cases isBody
    exact noNames rfl

end Records

namespace Source

variable {tree : FileTree} {source : Source}

theorem bytes_eq_ok {content : List UInt8} :
    source.bytes tree = .ok content ↔ tree.read source.uri = .ok (.bytes content) := by
  unfold bytes
  split
  · next isRead => simp [isRead, pure, Except.pure]
  · next isRead => exact iff_of_false nofun (by simp [isRead])
  · next isRead => exact iff_of_false nofun (by simp [isRead])

theorem text_eq_ok {encoding : Encoding} {bytes : List UInt8} {text : List Char} :
    source.text encoding .strict bytes = .ok text ↔ encoding.decode .strict bytes = .ok text := by
  unfold Source.text
  cases decoded : encoding.decode .strict bytes with
  | ok chars => simp [pure, Except.pure]
  | error problem => cases problem <;> exact iff_of_false nofun nofun

theorem jsonDocument_eq_ok {text : List Char} {document : Datum} :
    source.jsonDocument text = .ok document ↔ Json.read (String.ofList text) = .ok document := by
  unfold jsonDocument
  split
  · next isRead => simp [isRead, pure, Except.pure]
  · next isRead => exact iff_of_false nofun (by simp [isRead])

theorem readable_of_jsonDocument {text : List Char} {datum : Datum}
    (isRead : source.jsonDocument text = .ok datum) : Json.Readable datum :=
  Json.readable_of_read (jsonDocument_eq_ok.mp isRead)

theorem valued_of_jsonRows (leaves : source.LeavesCells) {rows : List (List Datum)}
    (areRows : source.jsonRows tree = .ok rows) :
    ∃ header body, rows = header :: body ∧ Records.Valued header body := by
  unfold jsonRows at areRows
  rcases bind_eq_ok.mp areRows with ⟨options, isOptions, areRows⟩
  rcases bind_eq_ok.mp areRows with ⟨bytes, _, areRows⟩
  rcases bind_eq_ok.mp areRows with ⟨header, isHeader, areRows⟩
  have made := mapError_eq_ok.mp isOptions
  have noHeader := givenHeader_of_leaves leaves made
  rw [mapError_eq_ok.mp isHeader] at noHeader
  cases noHeader
  have filler : Json.Readable (options.value "missing") := by
    rw [Options.value_of_ofDatum "missing" made]
    exact leaves.missing
  simp only at areRows
  split at areRows
  · rcases bind_eq_ok.mp areRows with ⟨text, _, areRows⟩
    rcases bind_eq_ok.mp areRows with ⟨data, areRead, areRows⟩
    have each : ∀ datum ∈ data, Json.Readable datum := by
      intro datum member
      rcases exists_of_forall₂ (mapM_eq_ok.mp areRead).flip member with ⟨line, _, isRead⟩
      exact readable_of_jsonDocument isRead
    replace areRows := mapError_eq_ok.mp areRows
    cases data with
    | nil => cases areRows
    | cons first data =>
        exact ⟨_, Records.valued_of_rowsUnder filler each (fun none => by cases none) areRows⟩
  · rcases bind_eq_ok.mp areRows with ⟨text, _, areRows⟩
    split at areRows
    · rcases bind_eq_ok.mp areRows with ⟨_, failed, _⟩
      cases failed
    · rcases bind_eq_ok.mp areRows with ⟨document, isRead, areRows⟩
      rcases bind_eq_ok.mp areRows with ⟨sample, _, areRows⟩
      rcases bind_eq_ok.mp (mapError_eq_ok.mp areRows) with ⟨data, areElements, areRows⟩
      refine ⟨_, Records.valued_of_rowsUnder filler
        (Records.readable_of_elements (readable_of_jsonDocument isRead) areElements) ?_ areRows⟩
      rintro rfl
      rw [List.take_nil]
      rfl

/-! ## Sources without options -/

theorem delimitedRows_of_noOptions (noOptions : source.options = .mapping [])
    {usual : Delimited.Dialect} (isUsual : Delimited.dialectOf [] usual = .ok usual) :
    source.delimitedRows tree usual = (do
      let text ← source.text .utf8 .strict (← source.bytes tree)
      match Delimited.records usual text with
      | .ok records => return records
      | .error stop => source.stopped stop) := by
  have isUsual' :
      Delimited.dialectOf (Options.without [] ["encoding", "errors", "header"]) usual = .ok usual :=
    isUsual
  have options : Options.ofDatum source.options = .ok [] := by
    rw [noOptions]
    rfl
  have encoding : Options.encoding [] = .ok .utf8 := by decide
  have leniency : Options.leniency [] = .ok .strict := by decide
  have noHeader : givenHeader [] = .ok none := rfl
  simp only [delimitedRows, options, encoding, leniency, noHeader, isUsual', Except.mapError, bind,
    Except.bind]
  rfl

theorem jsonRows_of_noOptions (noOptions : source.options = .mapping []) :
    source.jsonRows tree = (do
      let text ← source.text .utf8 .strict (← source.bytes tree)
      let document ← source.jsonDocument text
      (Records.rowsOf .null none Records.defaultSample document).mapError .fault) := by
  have options : Options.ofDatum source.options = .ok [] := by
    rw [noOptions]
    rfl
  have noHeader : givenHeader [] = .ok none := rfl
  have noMissing : Options.value [] "missing" = .null := rfl
  have noLines : (Options.value [] "lines").isTruthy = false := rfl
  have sample : sampleSize [] = .ok Records.defaultSample := rfl
  simp [jsonRows, options, noHeader, noMissing, noLines, sample, Except.mapError, bind, Except.bind]

end Source

end TableBrowser
