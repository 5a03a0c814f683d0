import TableBrowser.Pipeline.Document
import TableBrowser.Proofs.Outcome
/-!
# Documents that are read again

What is left out of a document when it is written is filled in when it is read.
Main statement: the steps of a document, and the source that it names, are those
that it was written from; and the steps of any document that can be read, written
again, are read again.
-/

namespace TableBrowser

/-- What a document says of the source of a base table; the type may be null. -/
structure SourceDescriptor where
  uri : String
  type : Datum
  options : List (Datum × Datum)

namespace SourceDescriptor

/-- The datum is a mapping with what the descriptor says, in any order; options may be left out. -/
def Describes (descriptor : SourceDescriptor) (source : Datum) : Prop :=
  (∃ entries, source = .mapping entries ∧
    Datum.valueAt? entries "uri" = some (.text descriptor.uri)) ∧
  source.get "type" = descriptor.type ∧
  (source.get "options" = .mapping descriptor.options ∨
    source.get "options" = .null ∧ descriptor.options = [])

/-- The source as it is read: with options, and without a type that is null. -/
def completed (descriptor : SourceDescriptor) : Datum :=
  Datum.ofFields ([("uri", .text descriptor.uri)] ++
    (if descriptor.type.isNull then [] else [("type", descriptor.type)]) ++
    [("options", .mapping descriptor.options)])

/-- The source as it is written: without options when there are none. -/
def written (descriptor : SourceDescriptor) : Datum :=
  Datum.ofFields ([("uri", .text descriptor.uri)] ++
    (if descriptor.type.isNull then [] else [("type", descriptor.type)]) ++
    (if descriptor.options.isEmpty then [] else [("options", .mapping descriptor.options)]))

end SourceDescriptor

namespace Document

variable {surroundings : Surroundings}

/-! ## Steps -/

/-- The name of an operation is one that documents may name. -/
def Known (step : Step) : Prop := operationNames.contains step.operation = true

instance : DecidablePred Known := fun _ => inferInstanceAs (Decidable (_ = true))

theorem toStep_ofStep {step : Step} (known : Known step) (index : Nat) :
    toStep index (ofStep step) = .ok step := by
  rcases step with ⟨operation, params⟩
  have isKnown : operationNames.contains operation = true := known
  cases params with
  | nil =>
      change (if operationNames.contains operation = true then _ else _) = _
      rw [if_pos isKnown]
      rfl
  | cons entry entries =>
      change (if operationNames.contains operation = true then _ else _) = _
      rw [if_pos isKnown]
      rfl

theorem known_of_toStep {index : Nat} {datum : Datum} {step : Step}
    (read : toStep index datum = .ok step) : Known step := by
  have unknown {given : Datum} : unknownOperation index given ≠ .ok step := by
    intro made
    rcases bind_eq_ok.mp made with ⟨_, _, failed⟩
    cases failed
  unfold toStep at read
  split at read
  · split at read
    · split at read
      · next isKnown =>
        split at read
        · cases read
          exact isKnown
        · cases read
          exact isKnown
        · cases read
      · exact absurd read unknown
    · exact absurd read unknown
  · cases read

/-- Whatever number the first step has, the steps are read as they were written. -/
theorem toStep_written {steps : List Step} (known : ∀ step ∈ steps, Known step) (first : Nat) :
    ((steps.map ofStep).zipIdx first).mapM (fun (item, index) => toStep index item) = .ok steps := by
  induction steps generalizing first with
  | nil => rfl
  | cons step steps induction =>
      have others := induction (fun other member => known other (List.mem_cons_of_mem step member))
        (first + 1)
      have isFirst := toStep_ofStep (known step List.mem_cons_self) first
      rw [List.map_cons, List.zipIdx_cons, List.mapM_cons, others]
      simp only [isFirst]
      rfl

theorem known_of_listed {items : List Datum} {steps : List Step} {first : Nat}
    (read : (items.zipIdx first).mapM (fun (item, index) => toStep index item) = .ok steps) :
    ∀ step ∈ steps, Known step := by
  have each := mapM_eq_ok.mp read
  intro step member
  rcases (List.forall₂_iff_get.mp each) with ⟨sameLength, reads⟩
  rcases List.getElem_of_mem member with ⟨place, inBounds, rfl⟩
  exact known_of_toStep (reads place (by omega) inBounds)

/-! ## Sources -/

theorem ofSource_of_describes {descriptor : SourceDescriptor} {source : Datum}
    (describes : descriptor.Describes source) : ofSource source = .ok descriptor.written := by
  rcases describes with ⟨⟨entries, rfl, isUri⟩, isType, areOptions⟩
  unfold ofSource SourceDescriptor.written
  simp only [isUri, isType]
  rcases areOptions with isMapping | ⟨isNull, none⟩
  · rw [isMapping]
    cases descriptor.options with
    | nil => rfl
    | cons entry entries => rfl
  · rw [isNull, none]
    rfl

/-- A source is read with its name in the form that it has from the directory of the document. -/
theorem toSource_written (base : Option Path) (descriptor : SourceDescriptor) :
    toSource surroundings base descriptor.written =
      ((surroundings.normalize base descriptor.uri).mapError Problem.fault).map fun normal =>
        { descriptor with uri := normal }.completed := by
  rcases descriptor with ⟨uri, type, options⟩
  unfold SourceDescriptor.written SourceDescriptor.completed
  simp only
  -- What is left out when it is written decides what is filled in.
  cases type.isNull <;> cases options
  all_goals
    change ((surroundings.normalize base uri).mapError Problem.fault >>= _) = _
    cases surroundings.normalize base uri <;> rfl

/-! ## Documents -/

theorem toSteps_written {steps : List Step} (known : ∀ step ∈ steps, Known step)
    (base : Option Path) : toSteps surroundings base (Datum.ofFields [
      ("gridlens", .integer formatVersion),
      ("pipeline", Datum.ofFields [("steps", .list (steps.map ofStep))])]) = .ok (steps, none) := by
  have listed := toStep_written known 0
  change ((steps.map ofStep).zipIdx.mapM (fun (item, index) => toStep index item) >>= _) = _
  rw [listed]
  rfl

theorem toSteps_written_source {steps : List Step} (known : ∀ step ∈ steps, Known step)
    (base : Option Path) (descriptor : SourceDescriptor) :
    toSteps surroundings base (Datum.ofFields [
      ("gridlens", .integer formatVersion),
      ("pipeline", Datum.ofFields [
        ("source", descriptor.written), ("steps", .list (steps.map ofStep))])]) =
      ((surroundings.normalize base descriptor.uri).mapError Problem.fault).map fun normal =>
        (steps, some { descriptor with uri := normal }.completed) := by
  have listed := toStep_written known 0
  have named := @toSource_written surroundings base descriptor
  have isMapping : ∃ entries, descriptor.written = .mapping entries := ⟨_, rfl⟩
  rcases isMapping with ⟨entries, isMapping⟩
  rw [isMapping] at named ⊢
  change (toSource surroundings base (.mapping entries) >>= fun source =>
    (steps.map ofStep).zipIdx.mapM (fun (item, index) => toStep index item) >>=
      fun steps => pure (steps, some source)) = _
  rw [named, listed]
  cases surroundings.normalize base descriptor.uri <;> rfl

/-- The items of the list of steps, which may be left out. -/
def listedItems (listed : Datum) : Outcome (List Datum) :=
  match listed with
  | .null => pure []
  | .list items => pure items
  | _ => fails .stepsNotAList

/-- The steps that are listed, with the source that has been read before them. -/
def listedSteps (listed : Datum) (source : Option Datum) : Outcome (List Step × Option Datum) := do
  let items ← listedItems listed
  let steps ← items.zipIdx.mapM fun (item, index) => toStep index item
  return (steps, source)

/-- What is read from the pipeline of a document: its source, and then its steps. -/
def pipelineSteps (surroundings : Surroundings) (base : Option Path) (pipeline : Datum) :
    Outcome (List Step × Option Datum) :=
  match pipeline.get "source" with
  | .null => listedSteps (pipeline.get "steps") none
  | source => toSource surroundings base source >>= fun source =>
      listedSteps (pipeline.get "steps") (some source)

theorem toSteps_mapping (base : Option Path) (fields : List (Datum × Datum)) :
    toSteps surroundings base (.mapping fields) =
      let version := (Datum.valueAt? fields "gridlens").getD (.integer formatVersion)
      if isKnownVersion version then
        match (Datum.mapping fields).get "pipeline" with
        | .mapping pipeline => pipelineSteps surroundings base (.mapping pipeline)
        | _ => fails .noPipeline
      else version.checkDigits.mapError .fault >>= fun _ => fails (.version version) := by
  unfold toSteps
  simp only
  cases isKnownVersion ((Datum.valueAt? fields "gridlens").getD (.integer formatVersion)) with
  | false => rfl
  | true =>
      cases (Datum.mapping fields).get "pipeline" with
      | mapping pipeline =>
          simp only [pipelineSteps, listedSteps]
          cases (Datum.mapping pipeline).get "source"
          all_goals
            cases (Datum.mapping pipeline).get "steps" <;> rfl
      | _ => rfl

/-- The steps are listed in a document, and their source is one of a document in its plain form. -/
structure Parts (surroundings : Surroundings) (base : Option Path) (steps : List Step)
    (source : Option Datum) : Prop where
  listed : ∃ items : List Datum, items.zipIdx.mapM (fun (item, index) => toStep index item) = .ok steps
  plain : ∀ plain, source = some plain → ∃ given, toSource surroundings base given = .ok plain

theorem parts_of_listedSteps {base : Option Path} (listed : Datum) {source : Option Datum}
    (plain : ∀ plain, source = some plain → ∃ given, toSource surroundings base given = .ok plain) :
    Yields (fun read => Parts surroundings base read.1 read.2) (listedSteps listed source) :=
  Yields.bind fun items _ => Yields.bind fun _ areRead => Yields.pure ⟨⟨items, areRead⟩, plain⟩

theorem parts_of_pipelineSteps (base : Option Path) (pipeline : Datum) :
    Yields (fun read => Parts surroundings base read.1 read.2)
      (pipelineSteps surroundings base pipeline) := by
  unfold pipelineSteps
  split
  · exact parts_of_listedSteps _ nofun
  · refine Yields.bind fun plain isPlain => parts_of_listedSteps _ ?_
    rintro _ ⟨⟩
    exact ⟨_, isPlain⟩

theorem parts_of_toSteps {base : Option Path} {document : Datum} {steps : List Step}
    {source : Option Datum} (read : toSteps surroundings base document = .ok (steps, source)) :
    Parts surroundings base steps source := by
  have yields : Yields (fun read => Parts surroundings base read.1 read.2)
      (toSteps surroundings base document) := by
    cases document with
    | mapping fields =>
        rw [toSteps_mapping]
        simp only
        split
        · split
          · exact parts_of_pipelineSteps base _
          · exact Yields.error _
        · exact Yields.bind fun _ _ => Yields.error _
    | _ => exact Yields.error _
  exact yields (steps, source) read

theorem known_of_toSteps {base : Option Path} {document : Datum} {steps : List Step}
    {source : Option Datum} (read : toSteps surroundings base document = .ok (steps, source)) :
    ∀ step ∈ steps, Known step := by
  rcases (parts_of_toSteps read).listed with ⟨items, areRead⟩
  exact known_of_listed areRead

/--
Steps of known operations are read from the document that they are written to, with
the same source. Steps that have been read from any document are written to one that
is read as these steps again.
-/
theorem toSteps_ofSteps (surroundings : Surroundings) :
    (∀ (steps : List Step) (source : Option Datum) (descriptor : Option SourceDescriptor),
      (∀ step ∈ steps, Known step) →
      Option.Rel (fun source descriptor => descriptor.Describes source ∧
        surroundings.normalize none descriptor.uri = .ok descriptor.uri) source descriptor →
      ∃ document, ofSteps steps source = .ok document ∧
        toSteps surroundings none document =
          .ok (steps, descriptor.map SourceDescriptor.completed)) ∧
    ∀ (base : Option Path) (document : Datum) (steps : List Step) (source : Option Datum),
      toSteps surroundings base document = .ok (steps, source) →
      ∃ again, ofSteps steps none = .ok again ∧
        toSteps surroundings none again = .ok (steps, none) := by
  refine ⟨fun steps source descriptor known related => ?_, fun base document steps source read => ?_⟩
  · cases related with
    | none => exact ⟨_, rfl, toSteps_written known none⟩
    | @some _ descriptor isSource =>
        rcases isSource with ⟨describes, normal⟩
        refine ⟨_, ?_, (toSteps_written_source known none descriptor).trans ?_⟩
        · rw [ofSteps, ofSource_of_describes describes]
          rfl
        · rw [normal]
          rfl
  · exact ⟨_, rfl, toSteps_written (known_of_toSteps read) none⟩

/-- A step with a nested parameter and one without parameters, on a source of a type not given. -/
theorem toSteps_ofSteps_people :
    let steps : List Step := [
      .ofParams "order" [("keys", .list [.list [.text "score", .text "desc"]])], ⟨"filter", []⟩]
    let given := Datum.ofFields [
      ("type", .null), ("uri", .text "data/people.csv"), ("options", .mapping [])]
    (∀ step ∈ steps, Known step) ∧
    Surroundings.normalize ⟨[], []⟩ none "data/people.csv" = .ok "data/people.csv" ∧
    ∃ document, ofSteps steps (some given) = .ok document ∧
      toSteps ⟨[], []⟩ none document = .ok (steps, some (Datum.ofFields [
        ("uri", .text "data/people.csv"), ("options", .mapping [])])) ∧
      ∃ again, ofSteps steps none = .ok again ∧ toSteps ⟨[], []⟩ none again = .ok (steps, none) := by
  intro steps given
  have known : ∀ step ∈ steps, Known step := by decide
  have normal : Surroundings.normalize ⟨[], []⟩ none "data/people.csv" = .ok "data/people.csv" := by
    decide
  have describes : (SourceDescriptor.mk "data/people.csv" .null []).Describes given :=
    ⟨⟨_, rfl, rfl⟩, rfl, .inl rfl⟩
  rcases (toSteps_ofSteps ⟨[], []⟩).1 steps (some given) (some ⟨"data/people.csv", .null, []⟩) known
    (.some ⟨describes, normal⟩) with ⟨document, written, read⟩
  exact ⟨known, normal, document, written, read, (toSteps_ofSteps ⟨[], []⟩).2 none document _ _ read⟩

end Document

end TableBrowser
