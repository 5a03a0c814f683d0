import TableBrowser.Proofs.Pipeline.RoundTrip
import TableBrowser.Proofs.Step.Faults
import TableBrowser.Proofs.Storage.Naming
import TableBrowser.Workspace.Execution
/-!
# Documents that meet faults

A document is read and written as text. Main statements: what a fault of reading
a document comes from, and what a fault of writing one comes from; the source of
a document that has been read can always be named.
-/

namespace TableBrowser

/-! ## Data -/

namespace Datum

theorem valueAt?_put (entries : List (Datum × Datum)) (key : String) (value : Datum) :
    valueAt? (put entries (.text key) value) key = some value := by
  unfold put valueAt?
  split
  · next present =>
    have sameTest : ((fun entry : Datum × Datum => decide (entry.1 = .text key)) ∘
        fun entry => if entry.1 = .text key then (.text key, value) else entry) =
        fun entry => decide (entry.1 = .text key) := by
      funext entry
      by_cases same : entry.1 = .text key <;> simp [same]
    rcases Option.isSome_iff_exists.mp (List.find?_isSome.mpr (List.any_eq_true.mp present)) with
      ⟨entry, found⟩
    have isKey : entry.1 = .text key := by simpa using List.find?_some found
    rw [List.find?_map, sameTest, found]
    simp [isKey]
  · next absent =>
    have noEntry : entries.find? (fun entry => decide (entry.1 = .text key)) = none :=
      List.find?_eq_none.mpr (List.any_eq_false.mp (Bool.not_eq_true _ ▸ absent))
    simp [List.find?_append, noEntry]

theorem valueAt?_put_of_ne {entries : List (Datum × Datum)} {key other : String}
    (different : key ≠ other) (value : Datum) :
    valueAt? (put entries (.text other) value) key = valueAt? entries key := by
  have differentKeys : Datum.text other ≠ .text key := fun same => different (Datum.text.inj same).symm
  unfold put valueAt?
  split
  · have sameTest : ((fun entry : Datum × Datum => decide (entry.1 = .text key)) ∘
        fun entry => if entry.1 = .text other then (.text other, value) else entry) =
        fun entry => decide (entry.1 = .text key) := by
      funext entry
      by_cases same : entry.1 = .text other <;> simp [same]
    rw [List.find?_map, sameTest, Option.map_map]
    cases found : entries.find? fun entry => decide (entry.1 = .text key) with
    | none => rfl
    | some entry =>
        have isKey : entry.1 = .text key := by simpa using List.find?_some found
        simp [isKey, differentKeys.symm]
  · simp [List.find?_append, differentKeys]

/-- A long number anywhere in a mapping is one of the mapping. -/
theorem hasLongInteger_of_valueAt? {entries : List (Datum × Datum)} {key : String} {value : Datum}
    (found : valueAt? entries key = some value) (long : value.hasLongInteger = true) :
    (Datum.mapping entries).hasLongInteger = true := by
  rcases Option.map_eq_some_iff.mp found with ⟨⟨name, other⟩, isEntry, rfl⟩
  have member := List.mem_of_find?_eq_some isEntry
  clear found isEntry
  rw [hasLongInteger]
  induction entries with
  | nil => cases member
  | cons entry entries induction =>
      rcases List.mem_cons.mp member with rfl | later
      · simp [anyLongEntry, long]
      · rcases entry with ⟨first, second⟩
        rw [anyLongEntry, induction later, Bool.or_true]

theorem hasLongInteger_of_get {datum : Datum} {key : String}
    (long : (datum.get key).hasLongInteger = true) : datum.hasLongInteger = true := by
  cases datum with
  | mapping entries =>
      cases found : valueAt? entries key with
      | none => simp [get, found, hasLongInteger] at long
      | some value =>
          rw [get, found] at long
          exact hasLongInteger_of_valueAt? found long
  | _ => simp [get, hasLongInteger] at long

theorem hasLongInteger_of_item {items : List Datum} {item : Datum} (member : item ∈ items)
    (long : item.hasLongInteger = true) : (Datum.list items).hasLongInteger = true := by
  rw [hasLongInteger]
  induction items with
  | nil => cases member
  | cons first items induction =>
      rcases List.mem_cons.mp member with rfl | later
      · simp [anyLongItem, long]
      · rw [anyLongItem, induction later, Bool.or_true]

end Datum

/-! ## Files -/

namespace Path

theorem mem_of_mem_splitSlashes {chars part : List Char} {char : Char}
    (partMember : part ∈ splitSlashes chars) (member : char ∈ part) : char ∈ chars := by
  induction chars generalizing part with
  | nil =>
      rw [List.mem_singleton.mp partMember] at member
      exact member
  | cons first chars induction =>
      rw [splitSlashes] at partMember
      split at partMember
      · rcases List.mem_cons.mp partMember with isEmpty | later
        · rw [isEmpty] at member
          cases member
        · exact List.mem_cons_of_mem _ (induction later member)
      · split at partMember
        · rw [List.mem_singleton.mp partMember, List.mem_singleton] at member
          exact member ▸ List.mem_cons_self
        · next head tail parts =>
          rcases List.mem_cons.mp partMember with isFirst | later
          · rw [isFirst] at member
            rcases List.mem_cons.mp member with rfl | within
            · exact List.mem_cons_self
            · exact List.mem_cons_of_mem _ (induction (parts ▸ List.mem_cons_self) within)
          · exact List.mem_cons_of_mem _
              (induction (parts ▸ List.mem_cons_of_mem _ later) member)

/-- Reading a path brings no null into its text. -/
theorem null_of_text {text : String} (null : '\x00' ∈ (ofText text).text.toList) :
    '\x00' ∈ text.toList := by
  rw [Path.text] at null
  split at null
  · exact absurd null (by decide)
  · rw [String.toList_append, List.mem_append, String.toList_intercalate] at null
    rcases null with inRoot | inParts
    · cases root : (ofText text).root <;> rw [root] at inRoot <;> exact absurd inRoot (by decide)
    · rcases mem_of_mem_intercalate inParts with isSlash | ⟨part, partMember, within⟩
      · exact absurd isSlash (by decide)
      · rcases List.mem_map.mp partMember with ⟨part, isPart, rfl⟩
        rcases List.mem_map.mp isPart with ⟨chars, isChars, rfl⟩
        rw [String.toList_ofList] at within
        exact mem_of_mem_splitSlashes (List.mem_filter.mp isChars).1 within

end Path

namespace FileTree

variable {tree : FileTree}

theorem follow_ne_null (tree : FileTree) (place parts : List String) :
    tree.follow place parts ≠ .error .embeddedNull := by
  induction parts generalizing place with
  | nil => exact nofun
  | cons part parts induction =>
      rw [follow]
      split
      · exact nofun
      · exact nofun
      · exact induction _

theorem null_of_locate {text : String} (failed : tree.locate text = .error .embeddedNull) :
    '\x00' ∈ text.toList := by
  unfold locate at failed
  simp only at failed
  split at failed
  · next null => simpa using null
  · split at failed
    · cases failed
    · exact absurd failed (follow_ne_null tree _ _)

theorem null_of_read {text : String} (failed : tree.read text = .error .embeddedNull) :
    '\x00' ∈ text.toList := by
  unfold read entry at failed
  cases located : tree.locate text with
  | error problem =>
      rw [located] at failed
      cases failed
      exact null_of_locate located
  | ok place =>
      simp only [located, bind, Except.bind, pure, Except.pure] at failed
      split at failed <;> cases failed

theorem null_of_write {text : String} {bytes : List UInt8}
    (failed : tree.write text bytes = .error .embeddedNull) : '\x00' ∈ text.toList := by
  unfold write writable at failed
  cases located : tree.locate text with
  | error problem =>
      rw [located] at failed
      cases failed
      exact null_of_locate located
  | ok place =>
      rw [located] at failed
      cases entry : tree.entryAt place <;> simp [bind, Except.bind, pure, Except.pure, entry] at failed

theorem faults_inaccessible {α : Type} {failure : AccessProblem → Failure} {problem : AccessProblem}
    {faulty : Prop} (null : problem = .embeddedNull → faulty) :
    (inaccessible failure problem : Outcome α).FaultsOnly faulty := by
  unfold inaccessible
  split
  · exact Outcome.faultsOnly_fault (null rfl)
  · exact Outcome.faultsOnly_fail _

end FileTree

/-! ## Reading -/

namespace Document

/-- The name of a source cannot be told. -/
def Unnamable (surroundings : Surroundings) (source : Datum) : Prop :=
  ∃ uri, source.get "uri" = .text uri ∧
    (surroundings.Homeless uri ∨ uri.contains '\x00' = true)

theorem faults_unknownOperation {α : Type} (index : Nat) (given : Datum) :
    (unknownOperation index given : Outcome α).FaultsOnly (given.hasLongInteger = true) :=
  Raises.bind (Outcome.faultsOnly_mapError fun _ => Datum.long_of_checkDigits) fun _ =>
    Outcome.faultsOnly_fail _

theorem faults_toStep (index : Nat) (datum : Datum) :
    (toStep index datum).FaultsOnly (datum.hasLongInteger = true) := by
  unfold toStep
  split
  · split
    · next isText =>
      split
      · split
        · exact Raises.pure _
        · exact Raises.pure _
        · exact Outcome.faultsOnly_fail _
      · refine Outcome.FaultsOnly.weaken (faults_unknownOperation index _) fun long => ?_
        exact Datum.hasLongInteger_of_get (isText ▸ long)
    · refine Outcome.FaultsOnly.weaken (faults_unknownOperation index _) fun long => ?_
      exact Datum.hasLongInteger_of_get long
  · exact Outcome.faultsOnly_fail _

theorem faults_toSource (surroundings : Surroundings) (base : Path) (source : Datum) :
    (toSource surroundings (some base) source).FaultsOnly (Unnamable surroundings source) := by
  unfold toSource
  split
  · next uri isUri =>
    refine Raises.bind (Outcome.faultsOnly_mapError fun fault failed => ?_) fun _ => Raises.pure _
    exact ⟨uri, isUri, (Surroundings.homeless_or_null_of_normalize failed).imp_right (·.2)⟩
  · exact Outcome.faultsOnly_fail _

/-- The steps that are listed are read one by one. -/
theorem faults_listedSteps (listed : Datum) (source : Option Datum) :
    (listedSteps listed source).FaultsOnly (listed.hasLongInteger = true) := by
  unfold listedSteps
  refine Raises.bind_ok ?_ fun items areListed =>
    Raises.bind (Raises.mapM fun numbered member => ?_) fun _ => Raises.pure _
  · unfold listedItems
    split
    · exact Raises.pure _
    · exact Raises.pure _
    · exact Outcome.faultsOnly_fail _
  · have isItem := List.fst_mem_of_mem_zipIdx member
    refine Outcome.FaultsOnly.weaken (faults_toStep numbered.2 numbered.1) fun long => ?_
    unfold listedItems at areListed
    split at areListed
    · cases areListed
      cases isItem
    · cases areListed
      exact Datum.hasLongInteger_of_item isItem long
    · cases areListed

theorem faults_pipelineSteps (surroundings : Surroundings) (base : Path) (pipeline : Datum) :
    (pipelineSteps surroundings (some base) pipeline).FaultsOnly
      (pipeline.hasLongInteger = true ∨ Unnamable surroundings (pipeline.get "source")) := by
  have listed (source : Option Datum) : Outcome.FaultsOnly
      (pipeline.hasLongInteger = true ∨ Unnamable surroundings (pipeline.get "source"))
        (listedSteps (pipeline.get "steps") source) :=
    Outcome.FaultsOnly.weaken (faults_listedSteps _ source) fun long =>
      .inl (Datum.hasLongInteger_of_get long)
  unfold pipelineSteps
  split
  · exact listed none
  · refine Raises.bind ?_ fun source => listed (some source)
    exact Outcome.FaultsOnly.weaken (faults_toSource surroundings base _) .inr

theorem faults_toSteps (surroundings : Surroundings) (base : Path) (document : Datum) :
    (toSteps surroundings (some base) document).FaultsOnly (document.hasLongInteger = true ∨
      Unnamable surroundings ((document.get "pipeline").get "source")) := by
  cases document with
  | mapping fields =>
      rw [toSteps_mapping]
      simp only
      split
      · split
        · next pipeline isPipeline =>
          refine Outcome.FaultsOnly.weaken (faults_pipelineSteps surroundings base _) fun faulty => ?_
          rw [isPipeline]
          exact faulty.imp_left fun long => Datum.hasLongInteger_of_get (isPipeline ▸ long)
        · exact Outcome.faultsOnly_fail _
      · next unknown =>
        refine Raises.bind (Outcome.faultsOnly_mapError fun fault failed => .inl ?_) fun _ =>
          Outcome.faultsOnly_fail _
        have long := Datum.long_of_checkDigits failed
        cases found : Datum.valueAt? fields "gridlens" with
        | none =>
            rw [found] at unknown
            exact absurd rfl unknown
        | some version =>
            rw [found] at long
            exact Datum.hasLongInteger_of_valueAt? found long
  | _ => exact Outcome.faultsOnly_fail _

/-- The file at a path holds a text. -/
def Holds (tree : FileTree) (path text : String) : Prop :=
  ∃ bytes, tree.read (Path.ofText path).text = .ok (.bytes bytes) ∧
    FileTree.textOfBytes bytes = .ok text

/-- What keeps a document from being read, and is not reported. -/
inductive Unreadable (tree : FileTree) (path : String) : Prop
  | null (named : '\x00' ∈ path.toList)
  | database {tables : List StoredTable}
      (isDatabase : tree.read (Path.ofText path).text = .ok (.database tables))
  | undecodable {bytes : List UInt8} {fault : Fault}
      (isFile : tree.read (Path.ofText path).text = .ok (.bytes bytes))
      (noText : FileTree.textOfBytes bytes = .error fault)
  /-- A scalar cannot be what it says that it is. -/
  | scalar {text : String} {fault : Fault} (holds : Holds tree path text)
      (failed : Yaml.read text = .error (.fault fault))
  | digits {text : String} {document : Datum} (holds : Holds tree path text)
      (isDocument : Yaml.read text = .ok document) (long : document.hasLongInteger = true)
  | source {text : String} {document : Datum} (holds : Holds tree path text)
      (isDocument : Yaml.read text = .ok document)
      (unnamable : Unnamable tree.surroundings ((document.get "pipeline").get "source"))

theorem faults_load (tree : FileTree) (path : String) :
    (load tree path).FaultsOnly (Unreadable tree path) := by
  refine Raises.bind_ok (?_ : Outcome.FaultsOnly _ _) fun text isText => ?_
  · unfold FileTree.readText
    split
    · next isFile => exact Outcome.faultsOnly_mapError fun fault noText => .undecodable isFile noText
    · next isDatabase => exact Outcome.faultsOnly_fault (.database isDatabase)
    · next failed =>
      refine FileTree.faults_inaccessible fun isNull => .null (Path.null_of_text ?_)
      exact FileTree.null_of_read (isNull ▸ failed)
  · have holds : Holds tree path text := by
      unfold FileTree.readText at isText
      split at isText
      · next bytes isFile => exact ⟨bytes, isFile, mapError_eq_ok.mp isText⟩
      · cases isText
      · unfold FileTree.inaccessible at isText
        split at isText <;> cases isText
    unfold ofText Yaml.datumOf
    cases isDocument : Yaml.read text with
    | error problem =>
        cases problem with
        | malformed => exact Outcome.faultsOnly_fail _
        | fault fault => exact Outcome.faultsOnly_fault (.scalar holds isDocument)
    | ok document =>
        exact Outcome.FaultsOnly.weaken (faults_toSteps _ _ document) fun faults =>
          faults.elim (.digits holds isDocument) (.source holds isDocument)

/-- Once a document has been read, its source can be named. -/
theorem faultless_sourceOf {surroundings : Surroundings} {base : Path} {given source : Datum}
    (isSource : toSource surroundings (some base) given = .ok source) :
    (Execution.sourceOf surroundings source).Faultless := by
  have plain : ∃ uri normal, source.get "uri" = .text normal ∧
      surroundings.normalize (some base) uri = .ok normal := by
    unfold toSource at isSource
    split at isSource
    · next entries uri _ =>
      rcases bind_eq_ok.mp isSource with ⟨normal, isNormal, made⟩
      refine ⟨uri, normal, ?_, ?_⟩
      · have named := Datum.valueAt?_put entries "uri" (.text normal)
        simp only at made
        split at made
        · cases made
          rw [Datum.get, Datum.valueAt?_put_of_ne (by decide), named]
          rfl
        · cases made
          rw [Datum.get, named]
          rfl
      · exact mapError_eq_ok.mp isNormal
    · cases isSource
  rcases plain with ⟨uri, normal, isUri, isNormal⟩
  rcases Surroundings.exists_normalize_again isNormal with ⟨again, isAgain⟩
  unfold Execution.sourceOf
  rw [isUri]
  refine Source.faults_ofName (fun fault failed => ?_) _ _
  rw [isAgain] at failed
  cases failed

theorem faultless_sourceOf_load {tree : FileTree} {path : String} {steps : List Step}
    {source : Datum} (loaded : load tree path = .ok (steps, some source)) :
    (Execution.sourceOf tree.surroundings source).Faultless := by
  rcases bind_eq_ok.mp loaded with ⟨text, _, read⟩
  rcases bind_eq_ok.mp read with ⟨document, _, made⟩
  rcases (parts_of_toSteps made).plain source rfl with ⟨given, isSource⟩
  exact faultless_sourceOf isSource

/-! ## Writing -/

/-- The document that steps are kept as, with the source of their base table when it has one. -/
def Keeps (steps : List Step) (source : Option Source) (document : Datum) : Prop :=
  match source with
  | none => ofSteps steps none = .ok document
  | some source => ∃ given, source.document = .ok given ∧ ofSteps steps (some given) = .ok document

/-- What keeps steps from being written, and is not reported. -/
inductive Unwritable (path : String) (steps : List Step) (source : Option Source) : Prop
  | null (named : '\x00' ∈ path.toList)
  /-- The options of the source are not settings by name. -/
  | options {given : Source} {fault : Fault} (isSource : source = some given)
      (unnamed : given.options.entriesOf = .error fault)
  | digits {document : Datum} (keeps : Keeps steps source document)
      (long : document.hasLongInteger = true)

theorem options_of_document {source : Source} {fault : Fault}
    (failed : source.document = .error fault) : ∃ fault, source.options.entriesOf = .error fault := by
  unfold Source.document at failed
  cases entries : source.options.entriesOf with
  | error other => exact ⟨other, rfl⟩
  | ok entries =>
      simp only [entries] at failed
      split at failed <;> cases failed

theorem exists_ofSource {entries : List (Datum × Datum)} {uri : Datum}
    (isUri : Datum.valueAt? entries "uri" = some uri)
    (areOptions : ∃ options, ((Datum.mapping entries).get "options").entriesOf = .ok options) :
    ∃ kept, ofSource (.mapping entries) = .ok kept := by
  rcases areOptions with ⟨options, areOptions⟩
  simp only [ofSource, isUri]
  split
  · rw [areOptions]
    exact ⟨_, rfl⟩
  · exact ⟨_, rfl⟩

/-- What a source is written as can be kept with any steps. -/
theorem exists_ofSteps {source : Source} {given : Datum} (isGiven : source.document = .ok given)
    (steps : List Step) : ∃ document, ofSteps steps (some given) = .ok document := by
  have kept : ∃ kept, ofSource given = .ok kept := by
    unfold Source.document at isGiven
    simp only at isGiven
    split at isGiven
    · rcases bind_eq_ok.mp isGiven with ⟨entries, _, made⟩
      cases made
      exact exists_ofSource rfl ⟨entries, by simp [Datum.get, Datum.valueAt?, Datum.entriesOf]⟩
    · cases isGiven
      exact exists_ofSource rfl ⟨[], by simp [Datum.get, Datum.valueAt?, Datum.entriesOf]; rfl⟩
  rcases kept with ⟨kept, isKept⟩
  exact ⟨_, by rw [ofSteps, isKept]; rfl⟩

theorem faults_save (tree : FileTree) (path : String) {steps : List Step} {given : Option Datum}
    {source : Option Source} {document : Datum} (isDocument : ofSteps steps given = .ok document)
    (keeps : Keeps steps source document) :
    (save tree path steps given).FaultsOnly (Unwritable path steps source) := by
  refine Raises.bind (Outcome.faultsOnly_mapError fun fault failed => .digits keeps ?_) fun text => ?_
  · unfold Document.text at failed
    rw [isDocument] at failed
    cases checked : document.checkDigits with
    | error other => exact Datum.long_of_checkDigits checked
    | ok _ =>
        simp only [bind, Except.bind, checked] at failed
        cases failed
  · unfold FileTree.writeText
    split
    · exact Raises.pure _
    · next failed =>
      refine FileTree.faults_inaccessible fun isNull => .null (Path.null_of_text ?_)
      exact FileTree.null_of_write (isNull ▸ failed)

end Document

end TableBrowser
