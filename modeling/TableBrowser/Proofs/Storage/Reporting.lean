import TableBrowser.Proofs.Storage.Reloading
/-!
# What loading reports

Whatever bytes a file holds, to load it ends with a table or with a report, unless it
holds a JSON document that cannot be gone through or in which values are asked of an
item that is no object. Main statement: these documents are exactly the exceptions.
-/

namespace TableBrowser

/-! ## Delimited text -/

namespace Delimited

/-- The text is at fault, and no option. -/
def Stop.InText : Stop → Prop
  | .text _ => True
  | .notANumber _ => True
  | .option _ => False

variable (dialect : Dialect) (draft : Draft)

theorem Draft.raises_add (char : Char) (place : Place) : Raises Stop.InText (draft.add char place) := by
  unfold add
  split
  · exact Raises.error trivial
  · exact Raises.pure _

theorem Draft.raises_save (place : Place) : Raises Stop.InText (draft.save place) := by
  unfold save
  simp only
  split
  · split
    · exact Raises.pure _
    · exact Raises.error trivial
  · exact Raises.pure _

variable {dialect draft} in
theorem Reading.raises {result : Except Stop Draft} (reading : Reading dialect draft result) :
    Raises Stop.InText result := by
  cases reading with
  | moves place => exact Raises.pure _
  | adds char place => exact draft.raises_add char place
  | begins char => exact Draft.raises_add _ char .inField
  | saves place => exact draft.raises_save place
  | refuses problem => exact Raises.error trivial

theorem raises_read (char : Option Char) : Raises Stop.InText (read dialect draft char) :=
  (reading_read dialect draft char).raises

theorem raises_readLine (line : List Char) : Raises Stop.InText (readLine dialect draft line) :=
  Raises.bind (Raises.foldlM (fun draft char => raises_read dialect draft (some char)) line draft)
    fun draft => raises_read dialect draft none

theorem raises_lastRecord : Raises Stop.InText (lastRecord dialect draft) := by
  unfold lastRecord
  split_ifs
  · exact Raises.pure _
  · exact Raises.error trivial
  · exact Raises.bind (draft.raises_save _) fun _ => Raises.pure _

theorem raises_readLines (done : List (List Datum)) (lines : List (List Char)) :
    Raises Stop.InText (readLines dialect done draft lines) := by
  induction lines generalizing done draft with
  | nil =>
      unfold readLines
      split
      · exact Raises.pure _
      · exact Raises.bind (raises_lastRecord dialect draft) fun _ => Raises.pure _
  | cons line lines induction =>
      refine Raises.bind (raises_readLine dialect draft line) fun next => ?_
      split
      · exact induction _ _
      · exact induction _ _

/-- Options play no part once there is a dialect. -/
theorem raises_records (text : List Char) : Raises Stop.InText (records dialect text) :=
  raises_readLines dialect {} [] (lines text)

end Delimited

/-! ## Records -/

namespace Records

def IsObject (datum : Datum) : Prop := ∃ entries, datum = .mapping entries

/--
A document that cannot be gone through, or a list with an object that gives names,
among those that are looked at for names, and an item that is no object.
-/
def Stray (sample : Nat) : Datum → Prop
  | .list items =>
      (∃ entries, .mapping entries ∈ items.take sample ∧ entries ≠ []) ∧
        ∃ item ∈ items, ¬ IsObject item
  | .mapping _ => False
  | .text _ => False
  | .bytes _ => False
  | _ => True

/-- The names of objects are those of each of them. -/
theorem mem_namesIn {data : List Datum} {name : Datum} :
    name ∈ namesIn data ↔ ∃ entries, .mapping entries ∈ data ∧ name ∈ entries.map (·.1) := by
  induction data using List.reverseRecOn with
  | nil => simp [namesIn]
  | append_singleton data datum induction =>
      unfold namesIn at induction ⊢
      rw [List.foldl_concat]
      generalize List.foldl _ [] data = names at induction ⊢
      simp only [List.mem_append, List.mem_singleton]
      split
      · next entries =>
        have known : name ∈ names ++ (entries.map (·.1)).filter (!names.contains ·) ↔
            name ∈ names ∨ name ∈ entries.map (·.1) := by
          by_cases name ∈ names <;> simp_all
        rw [known, induction]
        grind
      · next noObject =>
        rw [induction]
        grind

theorem namesIn_eq_nil_iff {data : List Datum} :
    namesIn data = [] ↔ ¬ ∃ entries, .mapping entries ∈ data ∧ entries ≠ [] := by
  rw [List.eq_nil_iff_forall_not_mem]
  simp only [mem_namesIn]
  constructor
  · rintro noName ⟨entries, isObject, notEmpty⟩
    rcases List.exists_cons_of_ne_nil notEmpty with ⟨entry, others, rfl⟩
    exact noName entry.1 ⟨_, isObject, List.mem_cons_self⟩
  · rintro noEntry name ⟨entries, isObject, isName⟩
    exact noEntry ⟨entries, isObject, List.ne_nil_of_mem (List.mem_map.mp isName).choose_spec.1⟩

theorem text_of_mem_namesIn {data : List Datum} (readable : ∀ datum ∈ data, Json.Readable datum)
    {name : Datum} (isName : name ∈ namesIn data) : ∃ text, name = .text text := by
  rcases mem_namesIn.mp isName with ⟨entries, isObject, isKey⟩
  rcases List.mem_map.mp isKey with ⟨entry, isEntry, rfl⟩
  cases readable _ isObject with
  | mapping named => exact named entry isEntry

variable {missing : Datum} {header : List Datum}

theorem valueUnder_object (entries : List (Datum × Datum)) (name : String) :
    ∃ value, valueUnder missing (.mapping entries) (.text name) = .ok value := ⟨_, rfl⟩

theorem object_of_valueUnder {datum name value : Datum}
    (isValue : valueUnder missing datum name = .ok value) : IsObject datum := by
  cases datum with
  | mapping entries => exact ⟨entries, rfl⟩
  | _ => cases name <;> cases isValue

/-- Only objects can be asked for values, and anything for none. -/
theorem row_succeeds_iff (areTexts : ∀ name ∈ header, ∃ text, name = .text text) {datum : Datum} :
    (∃ cells, row missing header datum = .ok cells) ↔ header = [] ∨ IsObject datum := by
  constructor
  · rintro ⟨cells, areCells⟩
    cases header with
    | nil => exact .inl rfl
    | cons name names =>
        rcases ok_of_mapM areCells List.mem_cons_self with ⟨value, isValue⟩
        exact .inr (object_of_valueUnder isValue)
  · rintro (rfl | ⟨entries, rfl⟩)
    · exact ⟨[], rfl⟩
    · refine mapM_succeeds fun name member => ?_
      rcases areTexts name member with ⟨text, rfl⟩
      exact valueUnder_object entries text

theorem rowsUnder_succeeds_iff (areTexts : ∀ name ∈ header, ∃ text, name = .text text)
    {data : List Datum} :
    (∃ rows, rowsUnder missing header data = .ok rows) ↔
      header = [] ∨ ∀ datum ∈ data, IsObject datum := by
  have eachRow : (∃ rows, rowsUnder missing header data = .ok rows) ↔
      ∀ datum ∈ data, ∃ cells, row missing header datum = .ok cells := by
    constructor
    · rintro ⟨rows, areRows⟩ datum member
      rcases bind_eq_ok.mp areRows with ⟨cells, areCells, _⟩
      exact ok_of_mapM areCells member
    · intro each
      rcases mapM_succeeds each with ⟨cells, areCells⟩
      exact ⟨_, bind_eq_ok.mpr ⟨cells, areCells, rfl⟩⟩
  simp only [eachRow, row_succeeds_iff areTexts]
  constructor
  · intro each
    rw [or_iff_not_imp_left]
    exact fun named datum member => (each datum member).resolve_left named
  · exact fun either datum member => either.imp_right (· datum member)

/-- A document that has been read is made into rows unless it is a stray one. -/
theorem rowsOf_succeeds_iff {document : Datum} (readable : Json.Readable document) (sample : Nat) :
    (∃ rows, rowsOf missing none sample document = .ok rows) ↔ ¬ Stray sample document := by
  have made {data : List Datum} (areData : document.elements = .ok data) :
      (∃ rows, rowsOf missing none sample document = .ok rows) ↔
        namesIn (data.take sample) = [] ∨ ∀ datum ∈ data, IsObject datum := by
    have sampled : ∀ datum ∈ data.take sample, Json.Readable datum := fun datum member =>
      readable_of_elements readable areData datum (List.mem_of_mem_take member)
    rw [← rowsUnder_succeeds_iff fun name => text_of_mem_namesIn sampled]
    rw [rowsOf, areData]
    rfl
  have unnamed {data : List Datum} (areData : document.elements = .ok data)
      (noObject : ∀ datum ∈ data, ¬ IsObject datum) :
      ∃ rows, rowsOf missing none sample document = .ok rows :=
    (made areData).mpr <| .inl <| namesIn_eq_nil_iff.mpr fun ⟨entries, isObject, _⟩ =>
      noObject _ (List.mem_of_mem_take isObject) ⟨entries, rfl⟩
  cases readable with
  | list each =>
      rw [made rfl, namesIn_eq_nil_iff, Stray]
      grind
  | mapping named =>
      refine iff_of_true (unnamed rfl fun datum member => ?_) id
      rcases List.mem_map.mp member with ⟨entry, isEntry, rfl⟩
      rcases named entry isEntry with ⟨name, isName⟩
      rw [isName]
      exact nofun
  | text value =>
      refine iff_of_true (unnamed rfl fun datum member => ?_) id
      rcases List.mem_map.mp member with ⟨char, _, rfl⟩
      exact nofun
  | _ => exact iff_of_false nofun (not_not_intro trivial)

end Records

/-! ## Sources -/

namespace Source

/-- The file is at fault, which is reported. -/
def Reported (problem : Problem) : Prop := ∃ cause, problem = .failure (.load cause) none

variable {α : Type} (tree : FileTree) (source : Source)

theorem raises_loadFails (problem : LoadProblem) :
    Raises Reported (loadFails problem : Outcome α) := Raises.error ⟨problem, rfl⟩

theorem raises_checkExists : Raises Reported (source.checkExists tree) := by
  unfold checkExists
  split
  · exact Raises.pure ()
  · exact raises_loadFails _

theorem raises_bytes : Raises Reported (source.bytes tree) := by
  unfold bytes
  split
  · exact Raises.pure _
  · exact raises_loadFails _
  · exact raises_loadFails _

theorem raises_text (encoding : Encoding) (bytes : List UInt8) :
    Raises Reported (source.text encoding .strict bytes) := by
  unfold text
  split
  · exact Raises.pure _
  · exact raises_loadFails _
  · next unknown => cases unknown
  · exact raises_loadFails _

theorem raises_stopped {stop : Delimited.Stop} (inText : stop.InText) :
    Raises Reported (source.stopped stop : Outcome α) := by
  cases stop with
  | text problem => exact raises_loadFails _
  | notANumber field => exact raises_loadFails _
  | option fault => exact inText.elim

theorem raises_jsonDocument (text : List Char) : Raises Reported (source.jsonDocument text) := by
  unfold jsonDocument
  split
  · exact Raises.pure _
  · exact raises_loadFails _

theorem raises_tableOfRows (rows : List (List Datum)) :
    Raises Reported (source.tableOfRows rows) := by
  unfold tableOfRows
  split
  · exact Raises.pure _
  · split
    · exact Raises.pure _
    · exact raises_loadFails _

variable {tree source}

/-- Delimited text is read or reported. -/
theorem raises_delimitedRows (noOptions : source.options = .mapping []) {usual : Delimited.Dialect}
    (isUsual : Delimited.dialectOf [] usual = .ok usual) :
    Raises Reported (source.delimitedRows tree usual) := by
  rw [delimitedRows_of_noOptions noOptions isUsual]
  refine Raises.bind (source.raises_bytes tree) fun bytes => ?_
  refine Raises.bind (source.raises_text .utf8 bytes) fun text => ?_
  split
  · exact Raises.pure _
  · next stop stopped =>
    exact source.raises_stopped (Delimited.raises_records usual text stop stopped)

/-- The document that the bytes of a file are, when they are one in UTF-8. -/
def Holds (tree : FileTree) (source : Source) (document : Datum) : Prop :=
  ∃ bytes text, tree.read source.uri = .ok (.bytes bytes) ∧
    Encoding.utf8.decode .strict bytes = .ok text ∧ Json.read (String.ofList text) = .ok document

/-- JSON is made into rows or reported where every document that the file holds can be. -/
theorem raises_jsonRows (noOptions : source.options = .mapping [])
    (noneStray : ∀ document, source.Holds tree document →
      ¬ Records.Stray Records.defaultSample document) :
    Raises Reported (source.jsonRows tree) := by
  rw [jsonRows_of_noOptions noOptions]
  refine Raises.bind_ok (source.raises_bytes tree) fun bytes areBytes => ?_
  refine Raises.bind_ok (source.raises_text .utf8 bytes) fun text isText => ?_
  refine Raises.bind_ok (source.raises_jsonDocument text) fun document isDocument => ?_
  have holds : source.Holds tree document :=
    ⟨bytes, text, bytes_eq_ok.mp areBytes, text_eq_ok.mp isText, jsonDocument_eq_ok.mp isDocument⟩
  rcases (Records.rowsOf_succeeds_iff (readable_of_jsonDocument isDocument) _).mpr
    (noneStray document holds) with ⟨rows, areRows⟩
  rw [areRows]
  exact Raises.pure rows

/-- Nothing reports what stops a document that has been read from being made into rows. -/
theorem load_eq_fault (noOptions : source.options = .mapping []) (isJson : source.format = .json)
    {document : Datum} (holds : source.Holds tree document) {fault : Fault}
    (failed : Records.rowsOf .null none Records.defaultSample document = .error fault) :
    source.load tree = .error (.fault fault) := by
  rcases holds with ⟨bytes, text, isRead, decoded, isDocument⟩
  have noRows : source.jsonRows tree = .error (.fault fault) := by
    simp only [jsonRows_of_noOptions noOptions, bytes_eq_ok.mpr isRead, text_eq_ok.mpr decoded,
      jsonDocument_eq_ok.mpr isDocument, failed, Except.mapError, bind, Except.bind]
  rw [load, checkExists, if_pos (FileTree.fileExists_of_read isRead), rows, isJson]
  simp only [noRows]
  rfl

theorem exists_fault_of_stray (noOptions : source.options = .mapping [])
    (isJson : source.format = .json) {document : Datum} (holds : source.Holds tree document)
    (stray : Records.Stray Records.defaultSample document) :
    ∃ fault, source.load tree = .error (.fault fault) := by
  rcases holds with ⟨bytes, text, isRead, decoded, isDocument⟩
  have readable := Json.readable_of_read isDocument
  cases areRows : Records.rowsOf .null none Records.defaultSample document with
  | ok rows => exact absurd stray ((Records.rowsOf_succeeds_iff readable _).mp ⟨rows, areRows⟩)
  | error fault =>
      exact ⟨fault, load_eq_fault noOptions isJson ⟨bytes, text, isRead, decoded, isDocument⟩ areRows⟩

/--
A file of delimited text or of JSON is loaded as a table, or what is wrong with it is
reported, exactly when no JSON is to be read from it or the document it holds is no stray one.
-/
theorem load_reports_iff (tree : FileTree) {source : Source} (notDatabase : source.format ≠ .sqlite)
    (noOptions : source.options = .mapping []) :
    ((∃ table, source.load tree = .ok table) ∨
        ∃ problem, source.load tree = .error (.failure (.load problem) none)) ↔
      (source.format = .json → ∀ document, source.Holds tree document →
        ¬ Records.Stray Records.defaultSample document) := by
  constructor
  · intro reports isJson document holds stray
    rcases exists_fault_of_stray noOptions isJson holds stray with ⟨fault, failed⟩
    rw [failed] at reports
    rcases reports with ⟨_, ⟨⟩⟩ | ⟨_, ⟨⟩⟩
  · intro noneStray
    have areRows : Raises Reported (source.rows tree) := by
      unfold rows
      split
      · exact raises_delimitedRows noOptions (by decide)
      · exact raises_delimitedRows noOptions (by decide)
      · next isJson => exact raises_jsonRows noOptions (noneStray isJson)
      · next isDatabase => exact absurd isDatabase notDatabase
    have loaded : Raises Reported (source.load tree) :=
      Raises.bind (source.raises_checkExists tree) fun _ =>
        Raises.bind areRows source.raises_tableOfRows
    cases result : source.load tree with
    | ok table => exact .inl ⟨table, rfl⟩
    | error problem =>
        rcases loaded problem result with ⟨cause, rfl⟩
        exact .inr ⟨cause, rfl⟩

/-! The files of these examples hold one JSON document each. -/

def documentTree (text : String) : FileTree where
  surroundings := ⟨[], []⟩
  files := [(["data.json"], .bytes (Encoding.formsOf text.toList))]

def documentSource : Source := ⟨"data.json", .json, .mapping []⟩

theorem holds_documentTree {text : String} {document : Datum} (isRead : Json.read text = .ok document) :
    documentSource.Holds (documentTree text) document := by
  have located : (documentTree text).locate "data.json" = .ok ["data.json"] :=
    FileTree.locate_of_follow ["data.json"] (by simp) (by decide) (by rfl)
  refine ⟨Encoding.formsOf text.toList, text.toList, ?_, Encoding.decode_formsOf .strict _, ?_⟩
  · rw [FileTree.read, FileTree.entry, documentSource, located]
    rfl
  · rw [String.ofList_toList, isRead]

theorem Holds.unique {document other : Datum} (holds : source.Holds tree document)
    (holdsOther : source.Holds tree other) : document = other := by
  rcases holds with ⟨bytes, text, isRead, decoded, isDocument⟩
  rcases holdsOther with ⟨_, _, isRead', decoded', isDocument'⟩
  cases isRead.symm.trans isRead'
  cases decoded.symm.trans decoded'
  cases isDocument.symm.trans isDocument'
  rfl

/-- Objects with different names, one of which holds a list. -/
def visitsText : String := "[\x7b\"id\": 1\x7d, \x7b\"id\": 2, \"tags\": [\"new\"]\x7d]"

theorem load_reports_visits :
    documentSource.format ≠ .sqlite ∧ documentSource.options = .mapping [] ∧
      ((∃ table, documentSource.load (documentTree visitsText) = .ok table) ∨
        ∃ problem, documentSource.load (documentTree visitsText) =
          .error (.failure (.load problem) none)) := by
  have isRead : Json.read visitsText = .ok (.list [
      .mapping [(.text "id", .integer 1)],
      .mapping [(.text "id", .integer 2), (.text "tags", .list [.text "new"])]]) := by
    decide +kernel
  refine ⟨by decide, rfl, (load_reports_iff _ (by decide) rfl).mpr fun _ document holds => ?_⟩
  cases (holds_documentTree isRead).unique holds
  rintro ⟨_, item, member, notObject⟩
  simp only [List.mem_cons, List.not_mem_nil, or_false] at member
  rcases member with rfl | rfl
  · exact notObject ⟨_, rfl⟩
  · exact notObject ⟨_, rfl⟩

/-- A number is a document of JSON, and loading it ends with a fault. -/
theorem load_faults_number :
    documentSource.Holds (documentTree "5") (.integer 5) ∧
      documentSource.load (documentTree "5") = .error (.fault (.notIterable "int")) ∧
      ¬ ((∃ table, documentSource.load (documentTree "5") = .ok table) ∨
        ∃ problem, documentSource.load (documentTree "5") =
          .error (.failure (.load problem) none)) := by
  have holds : documentSource.Holds (documentTree "5") (.integer 5) :=
    holds_documentTree (by decide +kernel)
  have failed : documentSource.load (documentTree "5") = .error (.fault (.notIterable "int")) :=
    load_eq_fault rfl rfl holds rfl
  refine ⟨holds, failed, ?_⟩
  rw [failed]
  rintro (⟨_, ⟨⟩⟩ | ⟨_, ⟨⟩⟩)

end Source

end TableBrowser
