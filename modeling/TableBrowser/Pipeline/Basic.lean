import TableBrowser.Step.Application
/-!
# Pipelines

A pipeline is a base table with a list of steps and the latest view of them. An
edit of the steps starts a new generation: either the view is at once one that
was kept, or a request for an evaluation comes out. The outcome of a request is
taken only while its generation is the latest one, so that outcomes may arrive
late and in any order.
-/

namespace TableBrowser

/-! ## Results that are kept

Results of a pipeline are kept under what identifies their steps. When there are
more than the cache can hold, those that were not used for the longest time go.
-/

/-- What identifies a list of steps: the content of each step, ended by a null character. -/
def stepsKey (steps : List Step) : Except Fault String := do
  let keys ← steps.mapM Step.contentKey
  return String.join (keys.map (· ++ "\x00"))

structure ResultCache where
  capacity : Nat
  /-- The results, the least recently used one first. -/
  entries : List (String × Table)

namespace ResultCache

def empty (capacity : Nat) : ResultCache := ⟨capacity, []⟩

def find? (cache : ResultCache) (key : String) : Option Table := cache.entries.lookup key

def erase (cache : ResultCache) (key : String) : ResultCache :=
  { cache with entries := cache.entries.filter (·.1 ≠ key) }

/-- Keeps a result as the most recently used one. -/
def insert (cache : ResultCache) (key : String) (table : Table) : ResultCache :=
  let entries := (cache.erase key).entries ++ [(key, table)]
  { cache with entries := entries.drop (entries.length - cache.capacity) }

/-- Keeps the result of steps. Steps whose content cannot be written are never evaluated. -/
def remember (cache : ResultCache) (steps : List Step) (table : Table) : ResultCache :=
  match stepsKey steps with
  | .ok key => cache.insert key table
  | .error _ => cache

/-- The result under a key, which is thereby used. -/
def use? (cache : ResultCache) (key : String) : Option (Table × ResultCache) :=
  (cache.find? key).map fun table =>
    (table, { cache with entries := (cache.erase key).entries ++ [(key, table)] })

end ResultCache

/-! ## Requests -/

/-- All that is needed to evaluate one generation of a pipeline. -/
structure EvaluationRequest where
  generation : Nat
  base : Table
  steps : List Step
  relation : String

def EvaluationRequest.run (request : EvaluationRequest) : Outcome Table :=
  applySteps request.relation request.base request.steps

structure Pipeline where
  base : Table
  /-- The name under which queries read their input. -/
  relation : String
  generation : Nat
  steps : List Step
  /-- The steps that made the view. -/
  committed : List Step
  view : Table
  /-- The generation whose evaluation is awaited. -/
  pending : Option Nat
  cache : ResultCache

namespace Pipeline

/-- A pipeline that shows its base table; given steps are not evaluated yet. -/
def start (base : Table) (steps : List Step) (relation : String) (capacity : Nat) : Pipeline where
  base
  relation
  generation := 0
  steps
  committed := []
  view := base
  pending := none
  cache := (ResultCache.empty capacity).remember [] base

def isBusy (pipeline : Pipeline) : Bool := pipeline.pending.isSome

/-- The steps are not those of the view, and no evaluation is awaited. -/
def isDirty (pipeline : Pipeline) : Except Fault Bool := do
  return !(← Step.sameAll pipeline.steps pipeline.committed) && pipeline.pending.isNone

/-- The schema that steps make of a known one. -/
def schemaAfter (schema : Datum) : List Step → Except Fault Datum
  | [] => .ok schema
  | step :: steps =>
      if schema.isNull then .ok .null
      else do schemaAfter (← step.outputSchema schema) steps

/-- The schema that the steps make, as far as it is known without evaluating them. -/
def schema (pipeline : Pipeline) : Except Fault Datum := do
  let known := pipeline.committed.length
  if ← Step.sameAll (pipeline.steps.take known) pipeline.committed then
    schemaAfter (Schema.ofTable pipeline.view) (pipeline.steps.drop known)
  else schemaAfter (Schema.ofTable pipeline.base) pipeline.steps

def cached (pipeline : Pipeline) (steps : List Step) : Except Fault (Option Table) := do
  return pipeline.cache.find? (← stepsKey steps)

/-! ## Edits -/

/-- The pipeline that an edit leaves behind, also when it fails, and the request that it makes. -/
abbrev Edited := Pipeline × Outcome (Option EvaluationRequest)

/-- An edit that is refused before anything has changed. -/
def refused (pipeline : Pipeline) (problem : Problem) : Edited := (pipeline, .error problem)

/--
Starts a new generation: shows a kept result of the steps, or asks for their
evaluation. Neither is done for steps whose content cannot be written.
-/
def request (pipeline : Pipeline) : Edited :=
  let generation := pipeline.generation + 1
  match stepsKey pipeline.steps with
  | .error fault => ({ pipeline with generation }, .error (.fault fault))
  | .ok key =>
      match pipeline.cache.use? key with
      | some (view, cache) =>
          ({ pipeline with generation, view, cache, committed := pipeline.steps, pending := none },
            .ok none)
      | none =>
          ({ pipeline with generation, pending := some generation },
            .ok (some ⟨generation, pipeline.base, pipeline.steps, pipeline.relation⟩))

/-- Whether a step is valid for what is known of its input. -/
def admits (pipeline : Pipeline) (step : Step) : Outcome Unit := do
  let schema ← pipeline.schema.mapError .fault
  discard <| step.validate (Schema.names? schema)

/-- Adds a step that is valid for what is known of its input. -/
def push (pipeline : Pipeline) (step : Step) : Edited :=
  match pipeline.admits step with
  | .ok () => { pipeline with steps := pipeline.steps ++ [step] }.request
  | .error problem => pipeline.refused problem

/-- Takes the last step away and forgets its result. -/
def undo (pipeline : Pipeline) : Edited :=
  if pipeline.steps.isEmpty then pipeline.refused (.failure (.tab .nothingToUndo) none)
  else
    match stepsKey pipeline.steps with
    | .ok key =>
        { pipeline with
          cache := pipeline.cache.erase key
          steps := pipeline.steps.dropLast }.request
    | .error fault => pipeline.refused (.fault fault)

def reset (pipeline : Pipeline) : Edited := { pipeline with steps := [] }.request

def admitsAll (steps : List Step) : Outcome Unit :=
  steps.forM fun step => discard <| step.validate none

/-- Takes other steps, each of which is valid on its own. -/
def replace (pipeline : Pipeline) (steps : List Step) : Edited :=
  match admitsAll steps with
  | .ok () => { pipeline with steps }.request
  | .error problem => pipeline.refused problem

/-! ## Outcomes -/

/-- Takes the table of the latest generation as the view. -/
def install? (pipeline : Pipeline) (generation : Nat) (steps : List Step) (table : Table) :
    Option Pipeline :=
  if generation = pipeline.generation then
    some { pipeline with
      view := table
      committed := steps
      pending := none
      cache := pipeline.cache.remember steps table }
  else none

/-- The position of the step to blame; the last one when none is named. -/
def failedPosition (steps : List Step) (named : Option Nat) : Nat :=
  match named with
  | some index => if index < steps.length then index else steps.length - 1
  | none => steps.length - 1

/-- Drops the failing step of the latest generation and all steps after it. -/
def reject? (pipeline : Pipeline) (generation : Nat) (stepIndex : Option Nat) : Option Pipeline :=
  if generation = pipeline.generation then
    some { pipeline with
      steps := pipeline.steps.take (failedPosition pipeline.steps stepIndex)
      pending := none }
  else none

/-- The pipeline and its steps, one in a line. -/
def describe (pipeline : Pipeline) : Except Fault String := do
  let steps ← pipeline.steps.mapM Step.describe
  return "\n".intercalate
    (("Pipeline(base=" ++ pipeline.base.describe ++ ", generation=" ++
      Decimal.natText pipeline.generation ++ ")") :: steps.map ("  -> " ++ ·))

end Pipeline

end TableBrowser
