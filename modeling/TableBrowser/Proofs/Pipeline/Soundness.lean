import TableBrowser.Proofs.Pipeline.ResultCache
/-!
# Sound pipelines

In a sound pipeline the view is the result of the committed steps, the kept
results are results of their steps, and what is awaited is the latest generation
whenever the steps have content keys. Each edit is either refused or prepares
other steps and then starts a new generation, so that one lemma about the start
of a generation stands behind all edits.
-/

namespace TableBrowser.Pipeline

/-- What holds of a pipeline also in the middle of an edit. -/
structure Consistent (pipeline : Pipeline) : Prop where
  shows : applySteps pipeline.relation pipeline.base pipeline.committed = .ok pipeline.view
  committedKeyed : Keyed pipeline.committed
  cache : pipeline.cache.Sound pipeline.relation pipeline.base
  /-- Steps that were not checked are those of a pipeline that has evaluated nothing yet. -/
  checked : (∀ step ∈ pipeline.steps, step.Valid) ∨
    (pipeline.committed = [] ∧ ∀ entry ∈ pipeline.cache.entries, entry.1 = "")
  known : ∀ generation, pipeline.pending = some generation → generation ≤ pipeline.generation

structure Sound (pipeline : Pipeline) : Prop extends Consistent pipeline where
  /-- What is awaited is the latest generation, unless an edit left steps without a key. -/
  current : ∀ generation, pipeline.pending = some generation →
    (generation = pipeline.generation ↔ Keyed pipeline.steps)

/-- The view is that of the steps, and nothing is awaited. -/
structure Settled (pipeline : Pipeline) : Prop where
  idle : pipeline.pending = none
  committed : Step.sameAll pipeline.steps pipeline.committed = .ok true
  shows : applySteps pipeline.relation pipeline.base pipeline.steps = .ok pipeline.view

/-- The request for the evaluation of the latest generation. -/
def latest (pipeline : Pipeline) : EvaluationRequest :=
  ⟨pipeline.generation, pipeline.base, pipeline.steps, pipeline.relation⟩

theorem sound_start (base : Table) (steps : List Step) (relation : String) (capacity : Nat) :
    (start base steps relation capacity).Sound where
  shows := rfl
  committedKeyed := Keyed.nil
  cache := ResultCache.sound_start relation base capacity
  checked := by
    right
    refine ⟨rfl, ?_⟩
    intro entry member
    rcases ResultCache.mem_insert member with rfl | old
    · rfl
    · cases old
  known _ awaited := by cases awaited
  current _ awaited := by cases awaited

/-! ## Starting a generation -/

/-- The request that comes out of an edit. -/
def asked (result : Edited) : Option EvaluationRequest := result.2.toOption.join

/-- A new generation fails, shows a kept result, or asks for an evaluation. -/
theorem request_cases (pipeline : Pipeline) :
    (∃ fault, stepsKey pipeline.steps = .error fault ∧
      pipeline.request =
        ({ pipeline with generation := pipeline.generation + 1 }, .error (.fault fault))) ∨
    (∃ key view cache, stepsKey pipeline.steps = .ok key ∧
      pipeline.cache.use? key = some (view, cache) ∧
      pipeline.request =
        ({ pipeline with
            generation := pipeline.generation + 1
            view, cache
            committed := pipeline.steps
            pending := none }, .ok none)) ∨
    (∃ key, stepsKey pipeline.steps = .ok key ∧ pipeline.cache.use? key = none ∧
      pipeline.request =
        ({ pipeline with
            generation := pipeline.generation + 1
            pending := some (pipeline.generation + 1) },
          .ok (some ⟨pipeline.generation + 1, pipeline.base, pipeline.steps, pipeline.relation⟩))) := by
  unfold request
  cases isKey : stepsKey pipeline.steps with
  | error fault => exact .inl ⟨fault, rfl, rfl⟩
  | ok key =>
      cases used : pipeline.cache.use? key with
      | none => exact .inr (.inr ⟨key, rfl, used, by simp [used]⟩)
      | some result =>
          rcases result with ⟨view, cache⟩
          exact .inr (.inl ⟨key, view, cache, rfl, used, by simp [used]⟩)

@[simp] theorem base_request (pipeline : Pipeline) :
    pipeline.request.1.base = pipeline.base := by
  rcases pipeline.request_cases with ⟨_, _, made⟩ | ⟨_, _, _, _, _, made⟩ | ⟨_, _, _, made⟩ <;> rw [made]

@[simp] theorem relation_request (pipeline : Pipeline) :
    pipeline.request.1.relation = pipeline.relation := by
  rcases pipeline.request_cases with ⟨_, _, made⟩ | ⟨_, _, _, _, _, made⟩ | ⟨_, _, _, made⟩ <;> rw [made]

@[simp] theorem generation_request (pipeline : Pipeline) :
    pipeline.request.1.generation = pipeline.generation + 1 := by
  rcases pipeline.request_cases with ⟨_, _, made⟩ | ⟨_, _, _, _, _, made⟩ | ⟨_, _, _, made⟩ <;> rw [made]

@[simp] theorem steps_request (pipeline : Pipeline) :
    pipeline.request.1.steps = pipeline.steps := by
  rcases pipeline.request_cases with ⟨_, _, made⟩ | ⟨_, _, _, _, _, made⟩ | ⟨_, _, _, made⟩ <;> rw [made]

@[simp] theorem capacity_request (pipeline : Pipeline) :
    pipeline.request.1.cache.capacity = pipeline.cache.capacity := by
  rcases pipeline.request_cases with ⟨_, _, made⟩ | ⟨_, _, _, _, used, made⟩ | ⟨_, _, _, made⟩ <;> rw [made]
  rw [(ResultCache.use?_eq_some used).2]

variable {pipeline : Pipeline}

/-- Steps without a key make a new generation fail, and nothing but the generation changes. -/
theorem request_fails_of_not_keyed (unkeyed : ¬ Keyed pipeline.steps) :
    ∃ fault, pipeline.request =
      ({ pipeline with generation := pipeline.generation + 1 }, .error (.fault fault)) := by
  rcases pipeline.request_cases with
    ⟨fault, _, made⟩ | ⟨key, _, _, isKey, _, _⟩ | ⟨key, isKey, _, _⟩
  · exact ⟨fault, made⟩
  · exact absurd (keyed_iff.mpr ⟨key, isKey⟩) unkeyed
  · exact absurd (keyed_iff.mpr ⟨key, isKey⟩) unkeyed

theorem request_ok (keyed : Keyed pipeline.steps) : ∃ asked, pipeline.request.2 = .ok asked := by
  rcases keyed_iff.mp keyed with ⟨key, isKey⟩
  rcases pipeline.request_cases with ⟨fault, noKey, _⟩ | ⟨_, _, _, _, _, made⟩ | ⟨_, _, _, made⟩
  · cases isKey.symm.trans noKey
  · exact ⟨none, by rw [made]⟩
  · exact ⟨_, by rw [made]⟩

/-- Steps whose result is kept are valid, or there are none. -/
theorem Consistent.valid_of_kept (consistent : pipeline.Consistent) {key : String} {table : Table}
    (isKey : stepsKey pipeline.steps = .ok key) (member : (key, table) ∈ pipeline.cache.entries) :
    ∀ step ∈ pipeline.steps, step.Valid := by
  rcases consistent.checked with valid | ⟨_, unnamed⟩
  · exact valid
  · have noSteps : stepsKey [] = .ok key := by
      have isEmpty : key = "" := unnamed _ member
      rw [isEmpty]
      rfl
    have alike := alike_of_stepsKey isKey noSteps
    generalize pipeline.steps = steps at alike
    cases alike
    simp

/-- The first evaluation of steps is awaited, as nothing but the base table is kept. -/
theorem pending_start_request (base : Table) {steps : List Step} (relation : String) (capacity : Nat)
    (keyed : Keyed steps) (given : steps ≠ []) :
    (start base steps relation capacity).request.1.pending = some 1 := by
  rcases (start base steps relation capacity).request_cases with
    ⟨fault, noKey, _⟩ | ⟨key, view, cache, isKey, used, _⟩ | ⟨key, _, _, made⟩
  · rcases keyed_iff.mp keyed with ⟨key, isKey⟩
    exact absurd (isKey.symm.trans noKey) (by simp)
  · have member := (ResultCache.use?_eq_some used).1
    have noSteps : stepsKey [] = .ok key := by
      rcases ResultCache.mem_insert member with isBase | old
      · rw [(Prod.mk.inj isBase).1]
        rfl
      · cases old
    have alike := alike_of_stepsKey isKey noSteps
    change List.Forall₂ _ steps [] at alike
    cases alike
    exact absurd rfl given
  · rw [made]
    rfl

/-- A pipeline that starts with steps shows its base and awaits their result. -/
theorem start_request (base : Table) {steps : List Step} (relation : String) (capacity : Nat)
    (keyed : Keyed steps) (given : steps ≠ []) :
    ∃ generation pending, (start base steps relation capacity).request.1 =
      { start base steps relation capacity with generation, pending } := by
  have awaited := pending_start_request base relation capacity keyed given
  rcases (start base steps relation capacity).request_cases with
    ⟨fault, _, made⟩ | ⟨_, _, _, _, _, made⟩ | ⟨_, _, _, made⟩
  · exact ⟨_, _, by rw [made]⟩
  · rw [made] at awaited
    cases awaited
  · exact ⟨_, _, by rw [made]⟩

theorem Consistent.request_settled (consistent : pipeline.Consistent) {after : Pipeline}
    (shown : pipeline.request = (after, .ok none)) : after.Settled := by
  rcases pipeline.request_cases with ⟨_, _, made⟩ | ⟨key, view, cache, isKey, used, made⟩ | ⟨_, _, _, made⟩
  · rw [made] at shown
    cases shown
  · rw [made] at shown
    cases shown
    have member := (ResultCache.use?_eq_some used).1
    exact {
      idle := rfl
      committed := Step.sameAll_self (keyed_iff.mpr ⟨key, isKey⟩)
      shows := consistent.cache.result isKey member (consistent.valid_of_kept isKey member) }
  · rw [made] at shown
    cases shown

theorem Consistent.request (consistent : pipeline.Consistent) : pipeline.request.1.Sound := by
  rcases pipeline.request_cases with
    ⟨fault, noKey, made⟩ | ⟨key, view, cache, isKey, used, made⟩ | ⟨key, isKey, _, made⟩
  · rw [made]
    exact { consistent with
      known := fun generation awaited => (consistent.known generation awaited).trans (Nat.le_succ _)
      current := fun generation awaited => by
        have known := consistent.known generation awaited
        constructor
        · intro latest
          exact absurd known (latest ▸ Nat.not_succ_le_self _)
        · intro keyed
          rcases keyed_iff.mp keyed with ⟨key, isKey⟩
          rw [isKey] at noKey
          cases noKey }
  · have settled := consistent.request_settled made
    rw [made]
    rcases ResultCache.use?_eq_some used with ⟨member, _⟩
    exact {
      shows := settled.shows
      committedKeyed := keyed_iff.mpr ⟨key, isKey⟩
      cache := consistent.cache.use used
      checked := .inl (consistent.valid_of_kept isKey member)
      known := fun _ awaited => by cases awaited
      current := fun _ awaited => by cases awaited }
  · rw [made]
    exact { consistent with
      known := fun generation awaited => by
        cases awaited
        exact Nat.le_refl _
      current := fun generation awaited => by
        cases awaited
        exact iff_of_true rfl (keyed_iff.mpr ⟨key, isKey⟩) }

/--
After the start of a generation the steps have no key, or they are shown, or
their evaluation is asked for and awaited.
-/
theorem Consistent.request_answer (consistent : pipeline.Consistent) :
    (asked pipeline.request = none ∧ ¬ Keyed pipeline.request.1.steps) ∨
    (asked pipeline.request = none ∧ pipeline.request.1.Settled) ∨
    (asked pipeline.request = some pipeline.request.1.latest ∧ Keyed pipeline.request.1.steps ∧
      pipeline.request.1.pending = some pipeline.request.1.generation) := by
  rcases pipeline.request_cases with
    ⟨fault, noKey, made⟩ | ⟨key, view, cache, isKey, used, made⟩ | ⟨key, isKey, _, made⟩
  · refine .inl ⟨by rw [made]; rfl, ?_⟩
    rw [steps_request]
    intro keyed
    rcases keyed_iff.mp keyed with ⟨key, isKey⟩
    rw [isKey] at noKey
    cases noKey
  · have settled := consistent.request_settled made
    exact .inr (.inl (by rw [made]; exact ⟨rfl, settled⟩))
  · exact .inr (.inr (by rw [made]; exact ⟨rfl, keyed_iff.mpr ⟨key, isKey⟩, rfl⟩))

/-- The first evaluation of steps is asked for. -/
theorem asked_start_request (base : Table) {steps : List Step} (relation : String) (capacity : Nat)
    (keyed : Keyed steps) (given : steps ≠ []) :
    asked (start base steps relation capacity).request =
      some (start base steps relation capacity).request.1.latest := by
  have awaited := pending_start_request base relation capacity keyed given
  rcases (sound_start base steps relation capacity).toConsistent.request_answer with
    ⟨_, unkeyed⟩ | ⟨_, settled⟩ | ⟨isAsked, _⟩
  · rw [steps_request] at unkeyed
    exact absurd keyed unkeyed
  · rw [settled.idle] at awaited
    cases awaited
  · exact isAsked

/-- Another view comes at once or not at all. -/
theorem view_request (pipeline : Pipeline) :
    pipeline.request.1.view = pipeline.view ∨ pipeline.request.2 = .ok none := by
  rcases pipeline.request_cases with ⟨_, _, made⟩ | ⟨_, _, _, _, _, made⟩ | ⟨_, _, _, made⟩
  · exact .inl (by rw [made])
  · exact .inr (by rw [made])
  · exact .inl (by rw [made])

/-- Steps with keys are awaited, or a kept result of these very steps is shown. -/
theorem Consistent.request_keyed (consistent : pipeline.Consistent) (keyed : Keyed pipeline.steps) :
    pipeline.request.1.pending = some pipeline.request.1.generation ∨
      (pipeline.request.1.Settled ∧ pipeline.request.1.committed = pipeline.steps) := by
  rcases pipeline.request_cases with
    ⟨_, noKey, _⟩ | ⟨_, _, _, _, _, made⟩ | ⟨_, _, _, made⟩
  · rcases keyed_iff.mp keyed with ⟨key, isKey⟩
    cases isKey.symm.trans noKey
  · have settled := consistent.request_settled made
    rw [made]
    exact .inr ⟨settled, rfl⟩
  · rw [made]
    exact .inl rfl

/-- Starting a generation keeps no other results. -/
theorem lacks_request {key : String} (lacks : pipeline.cache.Lacks key) :
    pipeline.request.1.cache.Lacks key := by
  rcases pipeline.request_cases with ⟨_, _, made⟩ | ⟨_, _, _, _, used, made⟩ | ⟨_, _, _, made⟩
  · rwa [made]
  · rw [made]
    exact lacks.use used
  · rwa [made]

/-! ## Edits -/

/-- What an edit may change before it starts a generation. -/
structure Prepares (before after : Pipeline) : Prop where
  rest : after = { before with steps := after.steps, cache := after.cache }
  entries : after.cache.entries.Sublist before.cache.entries
  capacity : after.cache.capacity = before.cache.capacity
  valid : (∀ step ∈ before.steps, step.Valid) → ∀ step ∈ after.steps, step.Valid

theorem Prepares.base {before after : Pipeline} (prepares : before.Prepares after) :
    after.base = before.base := by rw [prepares.rest]

theorem Prepares.relation {before after : Pipeline} (prepares : before.Prepares after) :
    after.relation = before.relation := by rw [prepares.rest]

theorem Prepares.generation {before after : Pipeline} (prepares : before.Prepares after) :
    after.generation = before.generation := by rw [prepares.rest]

theorem Prepares.refl (pipeline : Pipeline) : pipeline.Prepares pipeline :=
  ⟨rfl, List.Sublist.refl _, rfl, id⟩

/-- Edits that are refused or start a generation of prepared steps. -/
def IsEdit (change : Pipeline → Edited) : Prop :=
  ∀ pipeline, (∃ problem, change pipeline = pipeline.refused problem) ∨
    ∃ prepared, pipeline.Prepares prepared ∧ change pipeline = prepared.request

theorem IsEdit.view {change : Pipeline → Edited} (isEdit : IsEdit change) (pipeline : Pipeline) :
    (change pipeline).1.view = pipeline.view ∨ (change pipeline).2 = .ok none := by
  rcases isEdit pipeline with ⟨problem, refused⟩ | ⟨prepared, prepares, made⟩
  · rw [refused]
    exact .inl rfl
  · rw [made]
    refine prepared.view_request.imp_left fun same => ?_
    rw [same, prepares.rest]

theorem isEdit_request : IsEdit request := fun pipeline =>
  .inr ⟨pipeline, Prepares.refl pipeline, rfl⟩

theorem valid_of_validate {step : Step} {columns : Option (List String)}
    (admitted : (discard <| step.validate columns : Outcome Unit) = .ok ()) : step.Valid := by
  cases validated : step.validate columns with
  | error problem =>
      rw [validated] at admitted
      cases admitted
  | ok operation =>
      rcases bind_eq_ok.mp validated with ⟨named, isNamed, _⟩
      exact ⟨named, isNamed⟩

theorem isEdit_push (step : Step) : IsEdit (·.push step) := by
  intro pipeline
  simp only [push]
  cases admitted : pipeline.admits step with
  | error problem => exact .inl ⟨problem, rfl⟩
  | ok _ =>
      refine .inr ⟨{ pipeline with steps := pipeline.steps ++ [step] },
        ⟨rfl, List.Sublist.refl _, rfl, ?_⟩, rfl⟩
      intro valid other member
      rcases List.mem_append.mp member with old | new
      · exact valid other old
      · rw [List.mem_singleton.mp new]
        rcases bind_eq_ok.mp admitted with ⟨schema, _, validated⟩
        exact valid_of_validate validated

/-- Steps may be taken away, and a result forgotten. -/
theorem prepares_erase {kept : List Step} (within : kept ⊆ pipeline.steps) (key : String) :
    pipeline.Prepares { pipeline with cache := pipeline.cache.erase key, steps := kept } :=
  ⟨rfl, pipeline.cache.erase_sublist key, rfl, fun valid step member => valid step (within member)⟩

theorem isEdit_undo : IsEdit undo := by
  intro pipeline
  unfold undo
  split
  · exact .inl ⟨_, rfl⟩
  split
  · next key _ => exact .inr ⟨_, prepares_erase (List.dropLast_subset _) key, rfl⟩
  · exact .inl ⟨_, rfl⟩

/-- A step that is accepted starts a generation, and so the steps have a key. -/
theorem push_eq_request {step : Step} {answer : Option EvaluationRequest}
    (accepted : (pipeline.push step).2 = .ok answer) :
    pipeline.push step = { pipeline with steps := pipeline.steps ++ [step] }.request ∧
      ∃ key, stepsKey (pipeline.steps ++ [step]) = .ok key := by
  unfold push at accepted ⊢
  cases admitted : pipeline.admits step with
  | error problem =>
      rw [admitted] at accepted
      cases accepted
  | ok _ =>
      rw [admitted] at accepted
      refine ⟨rfl, ?_⟩
      rcases request_cases { pipeline with steps := pipeline.steps ++ [step] } with
        ⟨_, _, made⟩ | ⟨key, _, _, isKey, _, _⟩ | ⟨key, isKey, _, _⟩
      · rw [made] at accepted
        cases accepted
      · exact ⟨key, isKey⟩
      · exact ⟨key, isKey⟩

/-- The last step is taken away and its result forgotten before a generation is started. -/
theorem undo_eq_request {kept : List Step} {last : Step} {key : String}
    (steps : pipeline.steps = kept ++ [last]) (isKey : stepsKey (kept ++ [last]) = .ok key) :
    pipeline.undo = { pipeline with cache := pipeline.cache.erase key, steps := kept }.request := by
  simp [undo, steps, isKey]

theorem isEdit_reset : IsEdit reset := fun pipeline =>
  .inr ⟨{ pipeline with steps := [] }, ⟨rfl, List.Sublist.refl _, rfl, by simp⟩, rfl⟩

theorem valid_of_admitsAll {steps : List Step} (admitted : admitsAll steps = .ok ()) :
    ∀ step ∈ steps, step.Valid := by
  induction steps with
  | nil => simp
  | cons first steps induction =>
      change ((discard <| first.validate none : Outcome Unit) >>= fun _ => admitsAll steps) =
        .ok () at admitted
      rcases bind_eq_ok.mp admitted with ⟨_, validated, others⟩
      intro step member
      rcases List.mem_cons.mp member with isFirst | later
      · exact isFirst ▸ valid_of_validate validated
      · exact induction others step later

theorem isEdit_replace (steps : List Step) : IsEdit (·.replace steps) := by
  intro pipeline
  simp only [replace]
  cases admitted : admitsAll steps with
  | error problem => exact .inl ⟨problem, rfl⟩
  | ok _ =>
      exact .inr ⟨{ pipeline with steps },
        ⟨rfl, List.Sublist.refl _, rfl, fun _ => valid_of_admitsAll admitted⟩, rfl⟩

theorem replace_fails_of_not_keyed (pipeline : Pipeline) {steps : List Step}
    (admitted : admitsAll steps = .ok ()) (unkeyed : ¬ Keyed steps) :
    ∃ fault, pipeline.replace steps =
      ({ pipeline with steps, generation := pipeline.generation + 1 }, .error (.fault fault)) := by
  simp only [replace, admitted]
  exact request_fails_of_not_keyed unkeyed

theorem replace_of_not_keyed {steps : List Step} (admitted : admitsAll steps = .ok ())
    (unkeyed : ¬ Keyed steps) :
    (pipeline.replace steps).1 =
      { pipeline with steps, generation := pipeline.generation + 1 } := by
  rcases pipeline.replace_fails_of_not_keyed admitted unkeyed with ⟨fault, made⟩
  rw [made]

theorem admitsAll_mixedNote : admitsAll [.mixedNote] = .ok () := by
  simp [admitsAll, Step.validate, ofStep_mixedNote]
  rfl

theorem Consistent.prepared {after : Pipeline} (consistent : pipeline.Consistent)
    (prepares : pipeline.Prepares after) : after.Consistent := by
  rcases prepares with ⟨rest, entries, capacity, valid⟩
  have cache := consistent.cache.of_sublist entries capacity
  rw [rest]
  exact { consistent with
    cache := cache
    checked := by
      rcases consistent.checked with checked | ⟨uncommitted, unnamed⟩
      · exact .inl (valid checked)
      · exact .inr ⟨uncommitted, fun entry member => unnamed entry (entries.subset member)⟩ }

theorem Sound.edit (sound : pipeline.Sound) {change : Pipeline → Edited} (isEdit : IsEdit change) :
    (change pipeline).1.Sound := by
  rcases isEdit pipeline with ⟨problem, refused⟩ | ⟨prepared, prepares, made⟩
  · rw [refused]
    exact sound
  · rw [made]
    exact (sound.toConsistent.prepared prepares).request

/-! ## Outcomes -/

/-- A request that the pipeline has made in this or in an earlier generation. -/
structure Issued (pipeline : Pipeline) (request : EvaluationRequest) : Prop where
  base : request.base = pipeline.base
  relation : request.relation = pipeline.relation
  keyed : Keyed request.steps
  known : request.generation ≤ pipeline.generation

theorem Issued.prepared {before after : Pipeline} {request : EvaluationRequest}
    (issued : before.Issued request) (prepares : before.Prepares after) :
    after.Issued request where
  base := by rw [prepares.base, issued.base]
  relation := by rw [prepares.relation, issued.relation]
  keyed := issued.keyed
  known := by
    rw [prepares.generation]
    exact issued.known

theorem Issued.request {request : EvaluationRequest} (issued : pipeline.Issued request) :
    pipeline.request.1.Issued request where
  base := by rw [base_request, issued.base]
  relation := by rw [relation_request, issued.relation]
  keyed := issued.keyed
  known := by
    rw [generation_request]
    exact issued.known.trans (Nat.le_succ _)

theorem issued_latest (keyed : Keyed pipeline.steps) : pipeline.Issued pipeline.latest where
  base := rfl
  relation := rfl
  keyed := keyed
  known := Nat.le_refl _

theorem Issued.run_eq {request : EvaluationRequest} (issued : pipeline.Issued request) :
    request.run = applySteps pipeline.relation pipeline.base request.steps := by
  rw [EvaluationRequest.run, issued.base, issued.relation]

theorem install?_eq_some {generation : Nat} {steps : List Step} {table : Table} {after : Pipeline}
    (installed : pipeline.install? generation steps table = some after) :
    generation = pipeline.generation ∧
      after = { pipeline with
        view := table
        committed := steps
        pending := none
        cache := pipeline.cache.remember steps table } := by
  unfold install? at installed
  split at installed
  · next latest => exact ⟨latest, (Option.some.inj installed).symm⟩
  · cases installed

theorem reject?_eq_some {generation : Nat} {stepIndex : Option Nat} {after : Pipeline}
    (rejected : pipeline.reject? generation stepIndex = some after) :
    generation = pipeline.generation ∧
      after = { pipeline with
        steps := pipeline.steps.take (failedPosition pipeline.steps stepIndex)
        pending := none } := by
  unfold reject? at rejected
  split at rejected
  · next latest => exact ⟨latest, (Option.some.inj rejected).symm⟩
  · cases rejected

/-- The result of the steps of the pipeline is taken. -/
theorem Consistent.installed (consistent : pipeline.Consistent) (keyed : Keyed pipeline.steps)
    {table : Table}
    (made : applySteps pipeline.relation pipeline.base pipeline.steps = .ok table)
    {generation : Nat} {after : Pipeline}
    (installed : pipeline.install? generation pipeline.steps table = some after) :
    after.Sound ∧ after.Settled := by
  rcases install?_eq_some installed with ⟨_, rfl⟩
  constructor
  · exact {
      shows := made
      committedKeyed := keyed
      cache := consistent.cache.remember made
      checked := .inl (valid_of_applyFrom made)
      known := fun _ awaited => by cases awaited
      current := fun _ awaited => by cases awaited }
  · exact {
      idle := rfl
      committed := Step.sameAll_self keyed
      shows := made }

theorem Consistent.rejected (consistent : pipeline.Consistent) {generation : Nat}
    {stepIndex : Option Nat} {after : Pipeline}
    (rejected : pipeline.reject? generation stepIndex = some after) : after.Sound := by
  rcases reject?_eq_some rejected with ⟨_, rfl⟩
  exact { consistent with
    checked := consistent.checked.imp_left fun valid step member =>
      valid step (List.mem_of_mem_take member)
    known := fun _ awaited => by cases awaited
    current := fun _ awaited => by cases awaited }

/-! ## Steps that are left -/

/-- Steps that are those of the view are shown. -/
theorem Consistent.settled (consistent : pipeline.Consistent) (idle : pipeline.pending = none)
    (same : Step.sameAll pipeline.steps pipeline.committed = .ok true) : pipeline.Settled where
  idle := idle
  committed := same
  shows := by
    have alike := Step.sameAll_eq_true_iff.mp same
    have valid : ∀ step ∈ pipeline.steps, step.Valid := by
      rcases consistent.checked with valid | ⟨uncommitted, _⟩
      · exact valid
      · rw [uncommitted] at alike
        generalize pipeline.steps = steps at alike
        cases alike
        simp
    rw [applySteps, applyFrom_congr alike valid (valid_of_applyFrom consistent.shows)]
    exact consistent.shows

/-- Idle steps with keys are shown, or they are to be evaluated. -/
theorem Consistent.isDirty_cases (consistent : pipeline.Consistent) (idle : pipeline.pending = none)
    (keyed : Keyed pipeline.steps) :
    (pipeline.isDirty = .ok false ∧ pipeline.Settled) ∨ pipeline.isDirty = .ok true := by
  unfold isDirty
  rcases Step.sameAll_of_keyed keyed consistent.committedKeyed with ⟨same, isSame⟩
  rw [isSame, idle]
  cases same with
  | true => exact .inl ⟨rfl, consistent.settled idle isSame⟩
  | false => exact .inr rfl

end TableBrowser.Pipeline
