import TableBrowser.Proofs.Pipeline.Run
import TableBrowser.Proofs.Step.Checked
/-!
# What a pipeline knows before it evaluates

The schema that a pipeline tells without evaluating its steps starts from the
view as far as that is the result of the first steps, and from the base table
otherwise. Main statement: after every run this schema is that of the result,
and a step that is refused could not have been evaluated either, unless it is
refused because steps have no content key.
-/

namespace TableBrowser

/-- The first step without a key keeps steps from being compared and from having a key. -/
theorem stepsKey_of_sameAll_error {left right : List Step} {fault : Fault}
    (failed : Step.sameAll left right = .error fault) (rightKeyed : Keyed right)
    (more : List Step) : stepsKey (left ++ more) = .error fault := by
  have keys : (left ++ more).mapM Step.contentKey = .error fault := by
    induction left generalizing right with
    | nil => cases right <;> cases failed
    | cons first left induction =>
        cases right with
        | nil => cases failed
        | cons second right =>
            rw [List.cons_append, List.mapM_cons]
            rcases rightKeyed second List.mem_cons_self with ⟨secondKey, isSecond⟩
            cases isFirst : first.contentKey with
            | error other =>
                simp only [Step.sameAll, Step.sameAs, isFirst, bind, Except.bind] at failed
                cases failed
                rfl
            | ok firstKey =>
                simp only [Step.sameAll, Step.sameAs, isFirst, isSecond, bind, Except.bind, pure,
                  Except.pure] at failed
                split at failed
                · have rest := induction failed
                    (rightKeyed.of_subset (List.subset_cons_self ..))
                  rw [rest]
                  rfl
                · cases failed
  rw [stepsKey, keys]
  rfl

/-- A step that is not valid for what is known of a table is not applied to it. -/
theorem Step.apply_of_invalid {relation : String} {table : Table} {step : Step} {problem : Problem}
    {columns : Option (List String)} (known : columns = none ∨ columns = some table.header)
    (invalid : step.validate columns = .error problem) :
    step.apply relation table = .error problem := by
  rcases known with rfl | rfl
  · unfold validate at invalid
    unfold apply validate
    cases isStep : Operation.ofStep step with
    | error other =>
        rw [isStep] at invalid
        cases invalid
        rfl
    | ok operation =>
        rw [isStep] at invalid
        cases invalid
  · rw [apply, invalid]
    rfl

/-- A failure after steps that succeed is that of the step which follows them. -/
theorem applySteps_append_of_error {relation : String} {base table : Table} {steps : List Step}
    (applied : applySteps relation base steps = .ok table) {step : Step} {problem : Problem}
    (failed : step.apply relation table = .error problem) :
    applySteps relation base (steps ++ [step]) = .error (problem.atStep steps.length) := by
  rw [applySteps, applyFrom_append_of_ok applied, applyFrom, failed, Nat.zero_add]

namespace Pipeline

variable {pipeline : Pipeline}

/-- Once the steps succeed, their schema is unknown or known exactly, if it can be told at all. -/
theorem Consistent.schema_cases (consistent : pipeline.Consistent) {table : Table}
    (applied : applySteps pipeline.relation pipeline.base pipeline.steps = .ok table) :
    (∃ fault, pipeline.schema = .error fault ∧
        ∀ more, stepsKey (pipeline.steps ++ more) = .error fault) ∨
      pipeline.schema = .ok .null ∨ pipeline.schema = .ok (Schema.ofTable table) := by
  have parts := List.take_append_drop pipeline.committed.length pipeline.steps
  unfold schema
  simp only
  cases same : Step.sameAll (pipeline.steps.take pipeline.committed.length) pipeline.committed with
  | error fault =>
      refine .inl ⟨fault, rfl, fun more => ?_⟩
      have failed := stepsKey_of_sameAll_error same consistent.committedKeyed
        (pipeline.steps.drop pipeline.committed.length ++ more)
      rwa [← List.append_assoc, parts] at failed
  | ok isSame =>
      right
      cases isSame with
      | false => exact schemaAfter_of_applyFrom applied
      | true =>
          rw [applySteps, ← parts] at applied
          rcases applyFrom_append.mp applied with ⟨between, first, rest⟩
          have alike := Step.sameAll_eq_true_iff.mp same
          rw [applyFrom_congr alike (valid_of_applyFrom first)
            (valid_of_applyFrom consistent.shows)] at first
          cases first.symm.trans consistent.shows
          exact schemaAfter_of_applyFrom rest

theorem admits_of_schema {schema : Datum} (isSchema : pipeline.schema = .ok schema) (step : Step) :
    pipeline.admits step = (step.validate (Schema.names? schema)).map fun _ => () := by
  unfold admits
  rw [isSchema]
  simp only [Except.mapError, bind, Except.bind]
  cases step.validate (Schema.names? schema) <;> rfl

/-- What a pipeline knows of its columns is what they are, once its steps succeed. -/
theorem Consistent.names?_schema (consistent : pipeline.Consistent) {table : Table}
    (applied : applySteps pipeline.relation pipeline.base pipeline.steps = .ok table)
    {schema : Datum} (isSchema : pipeline.schema = .ok schema) :
    Schema.names? schema = none ∨ Schema.names? schema = some table.header := by
  rcases consistent.schema_cases applied with ⟨fault, failed, _⟩ | unknown | known
  · cases failed.symm.trans isSchema
  · cases unknown.symm.trans isSchema
    exact .inl rfl
  · cases known.symm.trans isSchema
    exact .inr (Schema.names?_ofTable table)

/-- A step that is refused fails after the steps too, or the steps with it have no key. -/
theorem Consistent.push_refused (consistent : pipeline.Consistent) {table : Table}
    (applied : applySteps pipeline.relation pipeline.base pipeline.steps = .ok table) {step : Step}
    {problem : Problem} (refused : (pipeline.push step).2 = .error problem) :
    applySteps pipeline.relation pipeline.base (pipeline.steps ++ [step]) =
        .error (problem.atStep pipeline.steps.length) ∨
      ∃ fault, problem = .fault fault ∧ stepsKey (pipeline.steps ++ [step]) = .error fault := by
  unfold push at refused
  cases admitted : pipeline.admits step with
  | ok _ =>
      right
      simp only [admitted] at refused
      rcases request_cases { pipeline with steps := pipeline.steps ++ [step] } with
        ⟨fault, noKey, made⟩ | ⟨_, _, _, _, _, made⟩ | ⟨_, _, _, made⟩ <;> rw [made] at refused
      · cases refused
        exact ⟨fault, rfl, noKey⟩
      · cases refused
      · cases refused
  | error other =>
      simp only [admitted] at refused
      cases refused
      cases isSchema : pipeline.schema with
      | error fault =>
          right
          rw [admits, isSchema] at admitted
          cases admitted
          rcases consistent.schema_cases applied with ⟨_, failed, noKey⟩ | unknown | known
          · cases failed.symm.trans isSchema
            exact ⟨fault, rfl, noKey [step]⟩
          · cases unknown.symm.trans isSchema
          · cases known.symm.trans isSchema
      | ok schema =>
          left
          apply applySteps_append_of_error applied
          apply Step.apply_of_invalid (consistent.names?_schema applied isSchema)
          rw [admits_of_schema isSchema] at admitted
          cases validated : step.validate (Schema.names? schema) with
          | error cause =>
              rw [validated] at admitted
              cases admitted
              rfl
          | ok operation =>
              rw [validated] at admitted
              cases admitted

/-- A step that was checked against the schema fails for the values of cells alone. -/
theorem Consistent.push_accepted (consistent : pipeline.Consistent) {table : Table}
    (applied : applySteps pipeline.relation pipeline.base pipeline.steps = .ok table) {step : Step}
    {answer : Option EvaluationRequest} (accepted : (pipeline.push step).2 = .ok answer)
    (noQuery : step.operation ≠ "sql") {schema : Datum} (isSchema : pipeline.schema = .ok schema)
    (known : schema ≠ .null) :
    Raises Problem.IsMismatch
      (applySteps pipeline.relation pipeline.base (pipeline.steps ++ [step])) := by
  have isExact : schema = Schema.ofTable table := by
    rcases consistent.schema_cases applied with ⟨fault, failed, _⟩ | unknown | exact
    · cases failed.symm.trans isSchema
    · cases unknown.symm.trans isSchema
      exact absurd rfl known
    · exact Except.ok.inj (isSchema.symm.trans exact)
  subst isExact
  have admitted : ∃ operation, step.validate (some table.header) = .ok operation := by
    rw [push, admits_of_schema isSchema, Schema.names?_ofTable] at accepted
    cases validated : step.validate (some table.header) with
    | ok operation => exact ⟨operation, rfl⟩
    | error problem =>
        rw [validated] at accepted
        cases accepted
  rcases admitted with ⟨operation, validated⟩
  intro problem failed
  rw [applySteps, applyFrom_append_of_ok applied, applyFrom] at failed
  cases result : step.apply pipeline.relation table with
  | ok next =>
      rw [result] at failed
      cases failed
  | error cause =>
      rw [result] at failed
      cases failed
      rw [Step.apply, validated] at result
      have isMismatch := Step.mismatch_run validated noQuery cause result
      cases cause with
      | failure => exact isMismatch
      | fault => trivial

/-- A step that can be evaluated after the others is accepted exactly when all of them have keys. -/
theorem Consistent.accepts_iff_keyed (consistent : pipeline.Consistent) {table : Table}
    (applied : applySteps pipeline.relation pipeline.base pipeline.steps = .ok table) {step : Step}
    (applies : Applies pipeline.relation pipeline.base (pipeline.steps ++ [step])) :
    (∃ answer, (pipeline.push step).2 = .ok answer) ↔ Keyed (pipeline.steps ++ [step]) := by
  constructor
  · rintro ⟨answer, accepted⟩
    exact keyed_iff.mpr (push_eq_request accepted).2
  · intro keyed
    cases pushed : (pipeline.push step).2 with
    | ok answer => exact ⟨answer, rfl⟩
    | error problem =>
        exfalso
        rcases consistent.push_refused applied pushed with failed | ⟨fault, _, noKey⟩
        · rcases applies with ⟨result, succeeded⟩
          cases failed.symm.trans succeeded
        · rcases keyed_iff.mp keyed with ⟨key, isKey⟩
          cases noKey.symm.trans isKey

/-! ## All reachable pipelines -/

namespace Run

/--
After every run whose steps succeed, a schema that is told is that of the
result. A step that is refused fails in the same way after the steps, or the
steps with it have no content key; and a step that is accepted while the schema
is known finds its columns.
-/
theorem foreseen_after (base : Table) (steps : List Step) (relation : String) (capacity : Nat)
    (events : List Event) :
    let pipeline := ((start base steps relation capacity).after events).pipeline
    ∀ table, applySteps relation base pipeline.steps = .ok table →
      (∀ schema, pipeline.schema = .ok schema → schema ≠ .null → schema = Schema.ofTable table) ∧
      ∀ step,
        (∀ problem, (pipeline.push step).2 = .error problem →
          applySteps relation base (pipeline.steps ++ [step]) =
              .error (problem.atStep pipeline.steps.length) ∨
            ∃ fault, problem = .fault fault ∧
              stepsKey (pipeline.steps ++ [step]) = .error fault) ∧
        (Applies relation base (pipeline.steps ++ [step]) →
          ((∃ answer, (pipeline.push step).2 = .ok answer) ↔ Keyed (pipeline.steps ++ [step]))) ∧
        ∀ answer schema, (pipeline.push step).2 = .ok answer →
          step.operation ∈ ["filter", "select", "order"] →
          pipeline.schema = .ok schema → schema ≠ .null →
          ∀ cause index, applySteps relation base (pipeline.steps ++ [step]) =
              .error (.failure cause index) →
            cause.report.code ≠ "E_UNKNOWN_COLUMN" := by
  intro pipeline table applied
  have sound : pipeline.Sound := ((sound_start base steps relation capacity).after events).pipeline
  have sameBase : pipeline.base = base := base_after base steps relation capacity events
  have sameRelation : pipeline.relation = relation :=
    relation_after base steps relation capacity events
  rw [← sameBase, ← sameRelation] at applied ⊢
  refine ⟨?_, fun step => ⟨?_, ?_, ?_⟩⟩
  · intro schema isSchema known
    rcases sound.schema_cases applied with ⟨fault, failed, _⟩ | unknown | exact
    · cases failed.symm.trans isSchema
    · cases unknown.symm.trans isSchema
      exact absurd rfl known
    · exact Except.ok.inj (isSchema.symm.trans exact)
  · exact fun problem refused => sound.push_refused applied refused
  · exact sound.accepts_iff_keyed applied
  · intro answer schema accepted isListed isSchema known cause index failed
    have noQuery : step.operation ≠ "sql" := by
      rintro isSql
      rw [isSql] at isListed
      simp at isListed
    have isMismatch := sound.push_accepted applied accepted noQuery isSchema known _ failed
    change cause.report.code = "E_TYPE_MISMATCH" at isMismatch
    rw [isMismatch]
    decide

/-- A selection with a note that has no order is refused, although it can be evaluated. -/
theorem refused_of_mixedNote :
    let pipeline := ((start .onlyId [] "df" 1).after []).pipeline
    Applies "df" .onlyId pipeline.steps ∧ Applies "df" .onlyId (pipeline.steps ++ [.mixedNote]) ∧
      ∃ problem, (pipeline.push .mixedNote).2 = .error problem := by
  intro pipeline
  have applies : Applies "df" .onlyId (pipeline.steps ++ [.mixedNote]) := applies_mixedNote
  refine ⟨Applies.nil, applies, ?_⟩
  cases pushed : (pipeline.push .mixedNote).2 with
  | error problem => exact ⟨problem, rfl⟩
  | ok answer =>
      have consistent := (Pipeline.sound_start .onlyId [] "df" 1).toConsistent
      have keyed := (consistent.accepts_iff_keyed rfl applies).mp ⟨answer, pushed⟩
      exact absurd keyed not_keyed_mixedNote

end Run

end Pipeline

end TableBrowser
