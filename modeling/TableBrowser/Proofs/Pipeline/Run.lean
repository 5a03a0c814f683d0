import TableBrowser.Proofs.Pipeline.Soundness
/-!
# Runs of a pipeline

A run edits a pipeline and delivers outcomes of the requests that came out, in
any order, late, more than once or never. Main statement: after every run the
view and the kept results are results of their steps, and what is awaited is the
latest generation exactly when the steps have content keys.
-/

namespace TableBrowser.Pipeline

/-- Takes the outcome of a request; a fault names no step. -/
def deliver (pipeline : Pipeline) (request : EvaluationRequest) : Pipeline :=
  match request.run with
  | .ok table => (pipeline.install? request.generation request.steps table).getD pipeline
  | .error problem => (pipeline.reject? request.generation problem.reported.2).getD pipeline

inductive Event where
  | push (step : Step)
  | undo
  | reset
  | replace (steps : List Step)
  | request
  /-- The outcome of the request that came out at a place arrives. -/
  | deliver (place : Nat)

/-- A pipeline with the requests that have come out of it, the oldest first. -/
structure Run where
  pipeline : Pipeline
  issued : List EvaluationRequest

namespace Run

def start (base : Table) (steps : List Step) (relation : String) (capacity : Nat) : Run :=
  ⟨.start base steps relation capacity, []⟩

def edit (run : Run) (change : Pipeline → Edited) : Run where
  pipeline := (change run.pipeline).1
  issued := run.issued ++ (asked (change run.pipeline)).toList

def step (run : Run) : Event → Run
  | .push step => run.edit (·.push step)
  | .undo => run.edit (·.undo)
  | .reset => run.edit (·.reset)
  | .replace steps => run.edit (·.replace steps)
  | .request => run.edit (·.request)
  | .deliver place =>
      match run.issued[place]? with
      | some request => { run with pipeline := run.pipeline.deliver request }
      | none => run

def after (run : Run) (events : List Event) : Run := events.foldl step run

/-! ## Sound runs -/

structure Sound (run : Run) : Prop where
  pipeline : run.pipeline.Sound
  issued : ∀ request ∈ run.issued, run.pipeline.Issued request
  /-- The requests of one generation are one and the same. -/
  single : ∀ first ∈ run.issued, ∀ second ∈ run.issued,
    first.generation = second.generation → first = second
  /-- Until it fails, the latest generation evaluates the steps of the pipeline. -/
  latest : ∀ request ∈ run.issued, request.generation = run.pipeline.generation →
    ∀ table, request.run = .ok table → request.steps = run.pipeline.steps

theorem sound_start (base : Table) (steps : List Step) (relation : String) (capacity : Nat) :
    (start base steps relation capacity).Sound where
  pipeline := Pipeline.sound_start base steps relation capacity
  issued _ member := by cases member
  single _ member := by cases member
  latest _ member := by cases member

variable {run : Run}

theorem Sound.edit (sound : run.Sound) {change : Pipeline → Edited} (isEdit : IsEdit change) :
    (run.edit change).Sound := by
  rcases isEdit run.pipeline with ⟨problem, refused⟩ | ⟨prepared, prepares, made⟩
  · have same : run.edit change = run := by
      simp [Run.edit, refused, Pipeline.refused, asked, Except.toOption]
    rw [same]
    exact sound
  have pipelineSound := sound.pipeline.edit isEdit
  -- An earlier request is of an older generation; a new one is for the latest.
  have older {request : EvaluationRequest} (member : request ∈ run.issued) :
      request.generation < prepared.request.1.generation := by
    rw [generation_request, prepares.generation]
    exact Nat.lt_succ_of_le (sound.issued request member).known
  have new {request : EvaluationRequest} (member : request ∈ (asked prepared.request).toList) :
      request = prepared.request.1.latest ∧ Keyed prepared.request.1.steps := by
    rw [Option.mem_toList] at member
    rcases (sound.pipeline.toConsistent.prepared prepares).request_answer with
      ⟨noRequest, _⟩ | ⟨noRequest, _⟩ | ⟨isRequest, keyed, _⟩
    · rw [noRequest] at member
      cases member
    · rw [noRequest] at member
      cases member
    · exact ⟨(Option.some.inj (isRequest.symm.trans member)).symm, keyed⟩
  unfold Run.edit
  rw [made] at pipelineSound ⊢
  constructor
  · exact pipelineSound
  · intro request member
    rcases List.mem_append.mp member with old | isNew
    · exact ((sound.issued request old).prepared prepares).request
    · rw [(new isNew).1]
      exact issued_latest (new isNew).2
  · intro first firstMember second secondMember same
    rcases List.mem_append.mp firstMember with firstOld | firstNew
    · rcases List.mem_append.mp secondMember with secondOld | secondNew
      · exact sound.single first firstOld second secondOld same
      · rw [(new secondNew).1] at same
        exact absurd same (older firstOld).ne
    · rcases List.mem_append.mp secondMember with secondOld | secondNew
      · rw [(new firstNew).1] at same
        exact absurd same.symm (older secondOld).ne
      · rw [(new firstNew).1, (new secondNew).1]
  · intro request member isLatest table _
    rcases List.mem_append.mp member with old | isNew
    · exact absurd isLatest (older old).ne
    · rw [(new isNew).1]
      rfl

theorem Sound.deliver (sound : run.Sound) {request : EvaluationRequest}
    (member : request ∈ run.issued) :
    Sound { run with pipeline := run.pipeline.deliver request } := by
  have issued := sound.issued request member
  unfold Pipeline.deliver
  cases made : request.run with
  | ok table =>
      simp only
      cases installed : run.pipeline.install? request.generation request.steps table with
      | none => exact sound
      | some after =>
          have isLatest := (install?_eq_some installed).1
          have steps := sound.latest request member isLatest table made
          rw [issued.run_eq, steps] at made
          have keyed := steps ▸ issued.keyed
          rw [steps] at installed
          have pipelineSound := (sound.pipeline.installed keyed made installed).1
          rcases install?_eq_some installed with ⟨_, rfl⟩
          exact {
            pipeline := pipelineSound
            issued := fun request member => { sound.issued request member with }
            single := sound.single
            latest := sound.latest }
  | error problem =>
      simp only
      cases rejected : run.pipeline.reject? request.generation problem.reported.2 with
      | none => exact sound
      | some after =>
          have pipelineSound := sound.pipeline.rejected rejected
          rcases reject?_eq_some rejected with ⟨isLatest, rfl⟩
          exact {
            pipeline := pipelineSound
            issued := fun request member => { sound.issued request member with }
            single := sound.single
            latest := fun other otherMember otherLatest table otherMade => by
              -- The latest request has failed, and so no other one succeeds.
              have same := sound.single other otherMember request member
                (otherLatest.trans isLatest.symm)
              rw [same, made] at otherMade
              cases otherMade }

theorem Sound.step (sound : run.Sound) (event : Event) : (run.step event).Sound := by
  cases event with
  | push step => exact sound.edit (isEdit_push step)
  | undo => exact sound.edit isEdit_undo
  | reset => exact sound.edit isEdit_reset
  | replace steps => exact sound.edit (isEdit_replace steps)
  | request => exact sound.edit isEdit_request
  | deliver place =>
      unfold Run.step
      simp only
      split
      · next request found => exact sound.deliver (List.mem_of_getElem? found)
      · exact sound

theorem Sound.after (sound : run.Sound) (events : List Event) : (run.after events).Sound := by
  induction events generalizing run with
  | nil => exact sound
  | cons event events induction => exact induction (sound.step event)

/-! ## What never changes -/

/-- Base table, name and capacity, which a pipeline keeps for ever. -/
def frame (run : Run) : Table × String × Nat :=
  (run.pipeline.base, run.pipeline.relation, run.pipeline.cache.capacity)

theorem frame_edit {change : Pipeline → Edited} (isEdit : IsEdit change) :
    (run.edit change).frame = run.frame := by
  unfold frame Run.edit
  rcases isEdit run.pipeline with ⟨problem, refused⟩ | ⟨prepared, prepares, made⟩
  · rw [refused]
    rfl
  · simp only [made, base_request, relation_request, capacity_request, prepares.base,
      prepares.relation, prepares.capacity]

theorem frame_deliver (request : EvaluationRequest) :
    frame { run with pipeline := run.pipeline.deliver request } = run.frame := by
  unfold frame Pipeline.deliver
  cases request.run with
  | ok table =>
      simp only
      cases installed : run.pipeline.install? request.generation request.steps table with
      | none => rfl
      | some after =>
          rw [(install?_eq_some installed).2]
          simp
  | error problem =>
      simp only
      cases rejected : run.pipeline.reject? request.generation problem.reported.2 with
      | none => rfl
      | some after =>
          rw [(reject?_eq_some rejected).2]
          rfl

theorem frame_step (event : Event) : (run.step event).frame = run.frame := by
  cases event with
  | push step => exact frame_edit (isEdit_push step)
  | undo => exact frame_edit isEdit_undo
  | reset => exact frame_edit isEdit_reset
  | replace steps => exact frame_edit (isEdit_replace steps)
  | request => exact frame_edit isEdit_request
  | deliver place =>
      unfold Run.step
      simp only
      split
      · exact frame_deliver _
      · rfl

theorem frame_after (events : List Event) : (run.after events).frame = run.frame := by
  induction events generalizing run with
  | nil => rfl
  | cons event events induction => exact induction.trans (frame_step event)

section Started

variable (base : Table) (steps : List Step) (relation : String) (capacity : Nat)
  (events : List Event)

theorem base_after : ((start base steps relation capacity).after events).pipeline.base = base :=
  congrArg (·.1) (frame_after events)

theorem relation_after :
    ((start base steps relation capacity).after events).pipeline.relation = relation :=
  congrArg (·.2.1) (frame_after events)

theorem capacity_after :
    ((start base steps relation capacity).after events).pipeline.cache.capacity = capacity :=
  (congrArg (·.2.2) (frame_after events)).trans
    (ResultCache.capacity_remember (.empty capacity) [] base)

end Started

/-! ## The invariant -/

/--
After every run the view is the result of the committed steps, and so is what is
kept for any valid steps. What is awaited is the latest generation, unless the
steps have no content key.
-/
theorem invariant_after (base : Table) (steps : List Step) (relation : String) (capacity : Nat)
    (events : List Event) :
    let pipeline := ((start base steps relation capacity).after events).pipeline
    applySteps relation base pipeline.committed = .ok pipeline.view ∧
      (∀ entry ∈ pipeline.cache.entries,
        (∃ kept, stepsKey kept = .ok entry.1 ∧ applySteps relation base kept = .ok entry.2) ∧
          ∀ kept, stepsKey kept = .ok entry.1 → (∀ step ∈ kept, step.Valid) →
            applySteps relation base kept = .ok entry.2) ∧
      pipeline.cache.entries.length ≤ capacity ∧
      ((pipeline.pending = none ∨ pipeline.pending = some pipeline.generation) ↔
        (pipeline.pending = none ∨ Keyed pipeline.steps)) := by
  intro pipeline
  have sound : pipeline.Sound := ((sound_start base steps relation capacity).after events).pipeline
  have sameBase : pipeline.base = base := base_after base steps relation capacity events
  have sameRelation : pipeline.relation = relation :=
    relation_after base steps relation capacity events
  have sameCapacity : pipeline.cache.capacity = capacity :=
    capacity_after base steps relation capacity events
  have cache := sound.cache
  rw [sameBase, sameRelation] at cache
  refine ⟨?_, ?_, ?_, ?_⟩
  · have shows := sound.shows
    rwa [sameBase, sameRelation] at shows
  · intro entry member
    exact ⟨cache.keeps entry member, fun kept isKey valid => cache.result isKey member valid⟩
  · rw [← sameCapacity]
    exact cache.fits
  · apply or_congr_right'
    intro awaited
    rcases Option.ne_none_iff_exists'.mp awaited with ⟨generation, isAwaited⟩
    rw [← sound.current generation isAwaited, isAwaited, Option.some.injEq]

end Run

/-! ## Steps without a key -/

namespace Run

/-- Replacing steps while their evaluation is awaited can leave an older generation awaited. -/
theorem stale_pending_after_replace :
    let pipeline := ((start .empty [.selection] "df" 1).after
      [.request, .replace [.mixedNote]]).pipeline
    ¬ (pipeline.pending = none ∨ pipeline.pending = some pipeline.generation) := by
  intro pipeline
  have awaited := pending_start_request .empty "df" 1 keyed_selection (by simp)
  have replaced : pipeline = { (Pipeline.start .empty [.selection] "df" 1).request.1 with
      steps := [.mixedNote]
      generation := (Pipeline.start .empty [.selection] "df" 1).request.1.generation + 1 } :=
    replace_of_not_keyed admitsAll_mixedNote not_keyed_mixedNote
  rw [replaced]
  simp only [awaited, generation_request]
  change ¬ (some 1 = none ∨ some 1 = some 2)
  decide

end Run

end TableBrowser.Pipeline
