import TableBrowser.Pipeline.Document
import TableBrowser.Proofs.Pipeline.RoundTrip
import TableBrowser.Proofs.Storage.Encoding
import TableBrowser.Proofs.Storage.Paths
/-!
# Documents in files that are read again

A document names its source as it is found from the working directory, and is read
with the name found from the directory of the document. Main statement: what is
loaded after it has been saved refers to the same file exactly when the name is
absolute or leads to one place from both directories.
-/

namespace TableBrowser

/-- The datum is what YAML makes of a file of text that it has been written to. -/
def Yaml.Returns (datum : Datum) : Prop :=
  Yaml.read (String.ofList (Text.withLineFeeds (Yaml.write datum).toList)) = .ok datum

instance (datum : Datum) : Decidable (Yaml.Returns datum) :=
  match isRead : Yaml.read (String.ofList (Text.withLineFeeds (Yaml.write datum).toList)) with
  | .ok read => decidable_of_iff (read = datum) (by rw [Yaml.Returns, isRead, Except.ok.injEq])
  | .error _ => .isFalse (by rw [Yaml.Returns, isRead]; exact nofun)

/-- The path that the name leads to is the same, seen from the working directory. -/
def Source.IsNamedBy (surroundings : Surroundings) (source : Source) (read : Datum) : Prop :=
  ∃ uri, read.get "uri" = .text uri ∧
    surroundings.resolve (Path.ofText uri) = surroundings.resolve (Path.ofText source.uri)

theorem Source.exists_describes {source : Source} {described : Datum}
    (isDocument : source.document = .ok described) :
    ∃ descriptor : SourceDescriptor, descriptor.uri = source.uri ∧ descriptor.Describes described := by
  unfold document at isDocument
  split at isDocument
  · rcases bind_eq_ok.mp isDocument with ⟨entries, _, made⟩
    cases made
    exact ⟨⟨source.uri, .text source.format.name, entries⟩, rfl, ⟨_, rfl, rfl⟩, rfl, .inl rfl⟩
  · cases isDocument
    exact ⟨⟨source.uri, .text source.format.name, []⟩, rfl, ⟨_, rfl, rfl⟩, rfl, .inr ⟨rfl, rfl⟩⟩

namespace Document

theorem exists_save {tree : FileTree} {path : String} {steps : List Step} {source : Option Datum}
    {document : Datum} (isDocument : ofSteps steps source = .ok document)
    (short : document.hasLongInteger = false)
    (writable : ∀ bytes, ∃ after, tree.write (Path.ofText path).text bytes = .ok after) :
    ∃ after, save tree path steps source = .ok after := by
  have isText : text steps source = .ok (Yaml.write document) := by
    rw [text, isDocument]
    change (document.checkDigits >>= _) = _
    rw [Datum.checkDigits, short]
    rfl
  rcases writable (Yaml.write document).toUTF8.toList with ⟨after, written⟩
  refine ⟨after, ?_⟩
  rw [save, isText]
  change tree.writeText _ _ _ = _
  rw [FileTree.writeText, written]

/-- A document is loaded with its steps, and with the name of its source found from its directory. -/
theorem load_save {tree after : FileTree} {path : String} {steps : List Step} {described : Datum}
    {descriptor : SourceDescriptor} (describes : descriptor.Describes described)
    (known : ∀ step ∈ steps, Known step)
    (returns : ∀ document, ofSteps steps (some described) = .ok document → Yaml.Returns document)
    (saved : save tree path steps (some described) = .ok after) :
    load after path =
      ((tree.surroundings.normalize (some (Path.ofText path).parent) descriptor.uri).mapError
        Problem.fault).map fun normal => (steps, some { descriptor with uri := normal }.completed) := by
  have isWritten : ofSteps steps (some described) = .ok (Datum.ofFields [
      ("gridlens", .integer formatVersion),
      ("pipeline", Datum.ofFields [
        ("source", descriptor.written), ("steps", .list (steps.map ofStep))])]) := by
    rw [ofSteps, ofSource_of_describes describes]
    rfl
  unfold save at saved
  rcases bind_eq_ok.mp saved with ⟨written, isText, fileWritten⟩
  have isText := mapError_eq_ok.mp isText
  unfold Document.text at isText
  rcases bind_eq_ok.mp isText with ⟨document, isDocument, checked⟩
  rcases bind_eq_ok.mp checked with ⟨_, _, made⟩
  have isRead := returns document isDocument
  rw [Yaml.Returns, Except.ok.inj made] at isRead
  rw [isWritten] at isDocument
  rw [← Except.ok.inj isDocument] at isRead
  rcases FileTree.readText_of_writeText fileWritten
    (fun problem => .document (.unreadable (Path.ofText path).text problem)) with
    ⟨readText, sameSurroundings⟩
  rw [load, readText]
  change ofText after.surroundings _ _ = _
  rw [ofText, Yaml.datumOf, isRead, sameSurroundings]
  exact toSteps_written_source known _ descriptor

/--
A source that was saved with the steps of a pipeline is the one that is loaded with
them exactly when its name is empty or absolute, or is without a null and the
directory of the document and the working directory have the same directory above
them where the name turns down again.
-/
theorem isNamedBy_load_save_iff {tree after : FileTree} (proper : tree.surroundings.Proper)
    {name : String} {given options : Datum} {source : Source} (notAddress : isAddress name = false)
    (named : Source.ofName tree.surroundings name given options = .ok source) {described : Datum}
    (isDocument : source.document = .ok described) {steps : List Step}
    (known : ∀ step ∈ steps, Known step)
    (returns : ∀ document, ofSteps steps (some described) = .ok document → Yaml.Returns document)
    {path : String} (saved : save tree path steps (some described) = .ok after) :
    (∃ read, load after path = .ok (steps, some read) ∧
      source.IsNamedBy tree.surroundings read) ↔
    source.uri = "" ∨ (Path.ofText source.uri).isAbsolute = true ∨
      source.uri.contains '\x00' = false ∧
        (tree.surroundings.resolve (Path.ofText path).parent).parts.rdrop
            (Path.ofText source.uri).climb =
          tree.surroundings.here.parts.rdrop (Path.ofText source.uri).climb := by
  have isPlain : tree.surroundings.IsPlainName source.uri := by
    rcases bind_eq_ok.mp named with ⟨normal, isNormal, made⟩
    have plain := Surroundings.isPlainName_of_normalize proper notAddress
      (mapError_eq_ok.mp isNormal)
    have sameName : source.uri = normal := by
      split at made
      · cases made
      · split at made
        · cases made
          rfl
        · cases made
      · cases made
    exact sameName ▸ plain
  rcases Source.exists_describes isDocument with ⟨descriptor, isUri, describes⟩
  have loaded := load_save describes known returns saved
  rw [isUri, Surroundings.normalize_plain _ isPlain] at loaded
  by_cases stays : source.uri = "" ∨ (Path.ofText source.uri).isAbsolute = true
  · rw [if_pos stays] at loaded
    exact ⟨fun _ => stays.elim .inl fun isAbsolute => .inr (.inl isAbsolute),
      fun _ => ⟨_, loaded, source.uri, rfl, rfl⟩⟩
  · rw [if_neg stays] at loaded
    rcases not_or.mp stays with ⟨notEmpty, notAbsolute⟩
    rw [or_iff_right notEmpty, or_iff_right notAbsolute]
    by_cases null : source.uri.contains '\x00' = true
    · rw [if_pos null] at loaded
      rw [null, loaded]
      constructor
      · rintro ⟨_, failed, _⟩
        cases failed
      · rintro ⟨isFalse, _⟩
        cases isFalse
    · rw [if_neg null] at loaded
      have relative : (Path.ofText source.uri).isAbsolute = false := Bool.eq_false_iff.mpr notAbsolute
      have plain : (tree.surroundings.resolve
          ((Path.ofText path).parent.join (Path.ofText source.uri))).Plain := by
        refine Surroundings.plain_resolve proper (Path.plain_join ?_ isPlain.2.1)
        exact fun part member => Path.plain_ofText path part (List.dropLast_subset _ member)
      rw [← Surroundings.resolve_join_eq_iff _ relative, and_iff_right (Bool.eq_false_iff.mpr null),
        ← Surroundings.resolve_resolve ((Path.ofText path).parent.join _)]
      constructor
      · rintro ⟨read, isRead, uri, hasUri, same⟩
        rw [loaded] at isRead
        cases isRead
        cases hasUri
        rwa [Path.ofText_text plain] at same
      · intro same
        refine ⟨_, loaded, _, rfl, ?_⟩
        rwa [Path.ofText_text plain]

/-- A working directory with another directory in it and one beside it. -/
def desk : FileTree where
  surroundings := ⟨[], ["desk"]⟩
  directories := [["desk", "notes"], ["shelf"]]

/-- A source above the working directory. -/
def people : Source := ⟨"../people.csv", .csv, .null⟩

def peopleDocument : Datum :=
  Datum.ofFields [("uri", .text "../people.csv"), ("type", .text "csv")]

theorem proper_desk : desk.surroundings.Proper := ⟨by decide, by decide⟩

/-- A document beside the working directory: its source is above both of them. -/
theorem isNamedBy_load_save_shelf :
    let steps : List Step := [.ofParams "select" [("columns", .list [.text "id"])]]
    (∃ after, save desk "../shelf/p.yaml" steps (some peopleDocument) = .ok after) ∧
    ∀ after, save desk "../shelf/p.yaml" steps (some peopleDocument) = .ok after →
      ∃ read, load after "../shelf/p.yaml" = .ok (steps, some read) ∧
        people.IsNamedBy desk.surroundings read := by
  intro steps
  refine ⟨exists_save rfl (by decide +kernel) fun bytes => ⟨_, FileTree.write_of_follow
    ["shelf", "p.yaml"] bytes ?_ (by decide) (by rfl) (by rfl)⟩, fun after saved => ?_⟩
  · have isText : (Path.ofText "../shelf/p.yaml").text = "../shelf/p.yaml" := by decide
    rw [isText]
    simp
  · have named : Source.ofName desk.surroundings "./..//people.csv" .null .null = .ok people := rfl
    have returns : ∀ document, ofSteps steps (some peopleDocument) = .ok document →
        Yaml.Returns document := by
      intro document isDocument
      rw [← Except.ok.inj isDocument]
      decide +kernel
    refine (isNamedBy_load_save_iff proper_desk (by decide) named rfl (by decide) returns saved).mpr
      (.inr (.inr ⟨?_, by decide⟩))
    change "../people.csv".contains '\x00' = false
    simp

/-- A document below the working directory: its source is looked for below it as well. -/
theorem not_isNamedBy_load_save_notes :
    Source.ofName desk.surroundings "../people.csv" .null .null = .ok people ∧
    people.document = .ok peopleDocument ∧
    (∀ document, ofSteps [] (some peopleDocument) = .ok document → Yaml.Returns document) ∧
    (∃ after, save desk "notes/p.yaml" [] (some peopleDocument) = .ok after) ∧
    ∀ after, save desk "notes/p.yaml" [] (some peopleDocument) = .ok after →
      (∃ read, load after "notes/p.yaml" = .ok ([], some read)) ∧
      ¬∃ read, load after "notes/p.yaml" = .ok ([], some read) ∧
        people.IsNamedBy desk.surroundings read := by
  have returns : ∀ document, ofSteps [] (some peopleDocument) = .ok document →
      Yaml.Returns document := by
    intro document isDocument
    rw [← Except.ok.inj isDocument]
    decide +kernel
  refine ⟨rfl, rfl, returns, exists_save rfl (by decide +kernel) fun bytes =>
    ⟨_, FileTree.write_of_follow ["desk", "notes", "p.yaml"] bytes ?_ (by decide) (by rfl)
      (by rfl)⟩, fun after saved => ?_⟩
  · have isText : (Path.ofText "notes/p.yaml").text = "notes/p.yaml" := by decide
    rw [isText]
    simp
  · have isNormal : desk.surroundings.normalize (some (Path.ofText "notes/p.yaml").parent)
        "../people.csv" = .ok "/desk/people.csv" := by
      have noNull : "../people.csv".contains '\x00' = false := by simp
      rw [Surroundings.normalize_plain _ ⟨by decide, Path.plain_ofText _, by decide, .inr (by decide)⟩,
        if_neg (by decide), noNull]
      decide
    have describes : SourceDescriptor.Describes ⟨"../people.csv", .text "csv", []⟩ peopleDocument :=
      ⟨⟨_, rfl, rfl⟩, rfl, .inr ⟨rfl, rfl⟩⟩
    have loaded := load_save describes (fun step member => by cases member) returns saved
    rw [isNormal] at loaded
    refine ⟨⟨_, loaded⟩, ?_⟩
    rintro ⟨read, isRead, uri, hasUri, same⟩
    rw [loaded] at isRead
    cases isRead
    cases hasUri
    revert same
    decide

end Document

end TableBrowser
