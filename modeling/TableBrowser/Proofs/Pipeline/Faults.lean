import TableBrowser.Proofs.Pipeline.Soundness
import TableBrowser.Proofs.Step.Faults
/-!
# Where edits of pipelines meet faults

An edit of a pipeline is refused for a reason that is reported, or it goes
through. Main statement: a fault comes only from steps without a content key and
from numbers that are too long.
-/

namespace TableBrowser

theorem Keyed.append {steps others : List Step} (keyed : Keyed steps) (othersKeyed : Keyed others) :
    Keyed (steps ++ others) := fun step member =>
  (List.mem_append.mp member).elim (keyed step) (othersKeyed step)

namespace Pipeline

variable {pipeline : Pipeline}

/-- What is known of the schema of valid steps can be told when the steps have keys. -/
theorem Consistent.exists_schema (consistent : pipeline.Consistent)
    (valid : ∀ step ∈ pipeline.steps, step.Valid) (keyed : Keyed pipeline.steps) :
    ∃ schema, pipeline.schema = .ok schema := by
  rcases Step.sameAll_of_keyed
    (keyed.of_subset (List.take_subset pipeline.committed.length pipeline.steps))
    consistent.committedKeyed with ⟨same, isSame⟩
  simp only [schema, isSame, bind, Except.bind]
  cases same with
  | true =>
      refine exists_schemaAfter (fun step member => ?_) (Schema.wellFormed_ofTable _)
      exact valid step (List.drop_subset _ _ member)
  | false => exact exists_schemaAfter valid (Schema.wellFormed_ofTable _)

theorem faults_request (pipeline : Pipeline) :
    pipeline.request.2.FaultsOnly (¬ Keyed pipeline.steps) := by
  intro problem failed
  by_contra expected
  have keyed : Keyed pipeline.steps := by
    by_contra unkeyed
    cases problem with
    | failure cause stepIndex => exact expected trivial
    | fault fault => exact expected unkeyed
  rcases request_ok keyed with ⟨asked, made⟩
  cases made.symm.trans failed

theorem Consistent.faults_push (consistent : pipeline.Consistent)
    (valid : ∀ step ∈ pipeline.steps, step.Valid) {step : Step} {key : String}
    (isKey : step.contentKey = .ok key) :
    (pipeline.push step).2.FaultsOnly (step.Overlong ∨ ¬ Keyed pipeline.steps) := by
  by_cases keyed : Keyed pipeline.steps
  · rcases consistent.exists_schema valid keyed with ⟨schema, isSchema⟩
    have admitted : (pipeline.admits step).FaultsOnly step.Overlong := by
      unfold admits
      rw [isSchema]
      exact step.faults_validate _
    unfold push
    split
    · refine Outcome.FaultsOnly.weaken (faults_request _) fun unkeyed => ?_
      refine absurd (keyed.append fun other member => ?_) unkeyed
      rw [List.mem_singleton.mp member]
      exact ⟨key, isKey⟩
    · next refused =>
      exact Outcome.FaultsOnly.weaken (Raises.error (admitted _ refused)) .inl
  · intro problem _
    cases problem with
    | failure cause stepIndex => trivial
    | fault fault => exact .inr keyed

theorem faults_undo (pipeline : Pipeline) :
    pipeline.undo.2.FaultsOnly (¬ Keyed pipeline.steps) := by
  unfold undo
  split
  · exact Raises.error trivial
  · split
    · refine Outcome.FaultsOnly.weaken (faults_request _) fun unkeyed keyed => unkeyed ?_
      exact keyed.of_subset (List.dropLast_subset _)
    · next noKey =>
      refine Raises.error fun keyed => ?_
      rcases keyed_iff.mp keyed with ⟨key, isKey⟩
      cases noKey.symm.trans isKey

theorem faultless_reset (pipeline : Pipeline) : pipeline.reset.2.Faultless :=
  Outcome.FaultsOnly.weaken (faults_request _) fun unkeyed => unkeyed Keyed.nil

theorem faults_admitsAll (steps : List Step) :
    (admitsAll steps).FaultsOnly (∃ step ∈ steps, step.Overlong) := by
  induction steps with
  | nil => exact Raises.pure _
  | cons step steps induction =>
      refine Raises.bind ?_ fun _ => ?_
      · exact Outcome.FaultsOnly.weaken (step.faults_validate none)
          fun long => ⟨step, List.mem_cons_self, long⟩
      · exact Outcome.FaultsOnly.weaken induction fun ⟨other, member, long⟩ =>
          ⟨other, List.mem_cons_of_mem step member, long⟩

theorem faults_replace (pipeline : Pipeline) (steps : List Step) :
    (pipeline.replace steps).2.FaultsOnly ((∃ step ∈ steps, step.Overlong) ∨ ¬ Keyed steps) := by
  unfold replace
  split
  · exact Outcome.FaultsOnly.weaken (faults_request _) .inr
  · next refused =>
    exact Outcome.FaultsOnly.weaken (Raises.error (faults_admitsAll steps _ refused)) .inl

end Pipeline

end TableBrowser
