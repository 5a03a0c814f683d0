import TableBrowser.Proofs.Expression.Clashes
import TableBrowser.Proofs.Step.Schema
/-!
# Steps that were checked

A step names columns, and it is checked against those of its input before it
runs. Main statement: a filter, a selection or a sort that passed this check
fails, if it does at all, because values of cells do not go together.
-/

namespace TableBrowser

/-- A failure, if it is one, that tells of values which do not go together. -/
def Problem.IsMismatch : Problem → Prop
  | .failure cause _ => cause.report.code = "E_TYPE_MISMATCH"
  | .fault _ => True

/-! ## Conditions -/

theorem Problem.IsMismatchOr.isMismatch {faulty : Prop} {problem : Problem}
    (expected : problem.IsMismatchOr faulty) : problem.IsMismatch := by
  cases problem with
  | failure cause stepIndex => exact expected.2.1
  | fault cause => trivial

/-- Once its columns are there, a condition fails for the values in them alone. -/
theorem Expression.mismatch_evaluate (strict : Bool) (cell : String → Datum)
    (expression : Expression) : Raises Problem.IsMismatch (evaluate strict cell expression) :=
  (faultsIff_evaluate strict cell expression).raises.mono fun _ => Problem.IsMismatchOr.isMismatch

theorem mismatch_satisfying (strict : Bool) (condition : Expression) (table : Table) :
    Raises Problem.IsMismatch (satisfying strict condition table) := by
  refine Raises.bind (Raises.filterM fun numbered _ => ?_) fun _ => Raises.pure _
  exact Raises.bind (Expression.mismatch_evaluate strict _ condition) fun _ => Raises.pure _

/-! ## Sorts and selections -/

theorem mismatch_sortedIndices {table : Table} {keys : List SortKey}
    (known : ∀ key ∈ keys, key.column ∈ table.header) :
    Raises Problem.IsMismatch (Ordering.sortedIndices table keys) := by
  induction keys with
  | nil => exact Raises.pure _
  | cons key keys induction =>
      refine Raises.bind (induction fun other member => known other (List.mem_cons_of_mem key member))
        fun indices => ?_
      rcases Table.exists_column?_of_mem (known key List.mem_cons_self) with ⟨column, found⟩
      rw [found]
      simp only
      split
      · exact Raises.pure _
      · exact Raises.error rfl

theorem nodup_of_repeatedNames {names : List String}
    (noneRepeated : Operation.repeatedNames names = []) : names.Nodup := by
  rw [List.nodup_iff_count_le_one]
  intro name
  by_contra repeated
  have counted : 1 < names.count name := by omega
  have member : name ∈ Operation.repeatedNames names := by
    rw [Operation.repeatedNames, List.mem_mergeSort, List.mem_eraseDups, List.mem_filter]
    exact ⟨List.count_pos_iff.mp (by omega), by simpa using counted⟩
  rw [noneRepeated] at member
  cases member

namespace Table

variable {table : Table} {names : List String}

theorem exists_columns_of_known (known : ∀ name ∈ names, name ∈ table.header) :
    ∃ columns, List.Forall₂ (fun name column => table.column? name = some column) names columns := by
  induction names with
  | nil => exact ⟨[], .nil⟩
  | cons name names induction =>
      rcases exists_column?_of_mem (known name List.mem_cons_self) with ⟨column, found⟩
      rcases induction fun other member => known other (List.mem_cons_of_mem name member) with
        ⟨columns, others⟩
      exact ⟨column :: columns, .cons found others⟩

theorem names_of_found {columns : List Column}
    (found : List.Forall₂ (fun name column => table.column? name = some column) names columns) :
    columns.map (·.name) = names := by
  induction found with
  | nil => rfl
  | cons first _ induction => rw [List.map_cons, induction, (column?_eq_some first).2]

/-- Columns that are there can be taken, each of them once. -/
theorem exists_project (known : ∀ name ∈ names, name ∈ table.header) (distinct : names.Nodup) :
    ∃ result, table.project names = .ok result := by
  rcases exists_columns_of_known known with ⟨columns, found⟩
  have sameNames := names_of_found found
  have aligned : Aligned columns := by
    apply aligned_of_length table.rowCount
    intro column member
    rcases (List.forall₂_iff_get.mp found) with ⟨sameLength, each⟩
    rcases List.getElem_of_mem member with ⟨index, within, rfl⟩
    exact table.aligned _ (column?_eq_some (each index (sameLength ▸ within) within)).1
  refine ⟨⟨columns, aligned, sameNames ▸ distinct⟩, ?_⟩
  refine bind_eq_ok.mpr ⟨columns, mapM_eq_ok.mpr (found.imp fun name column isFound => ?_), ?_⟩
  · rw [isFound]
    rfl
  · rw [ofColumns, dif_pos aligned, dif_pos (sameNames ▸ distinct)]
    rfl

end Table

/-! ## All operations -/

theorem Operation.known_of_checkColumns {operation : Operation} {columns : List String}
    (checked : operation.checkColumns columns = .ok ()) :
    ∀ name ∈ operation.namedColumns.2, name ∈ columns := by
  intro name member
  unfold checkColumns at checked
  simp only at checked
  split at checked
  · cases checked
  · next noneUnknown =>
    simpa using List.find?_eq_none.mp noneUnknown name member

/-- Among the columns that it was checked against a step finds all that it names. -/
theorem Step.mismatch_run {step : Step} {operation : Operation} {relation : String} {table : Table}
    (validated : step.validate (some table.header) = .ok operation)
    (noQuery : step.operation ≠ "sql") :
    Raises Problem.IsMismatch (operation.run relation table) := by
  rcases bind_eq_ok.mp validated with ⟨given, isStep, rest⟩
  rcases bind_eq_ok.mp rest with ⟨_, checked, made⟩
  cases made
  have known := Operation.known_of_checkColumns checked
  rcases Operation.ofStep_cases isStep with ⟨_, condition, strict, rfl⟩ |
    ⟨_, columns, rfl, _, noneRepeated⟩ | ⟨_, keys, rfl⟩ | ⟨isSql, _⟩
  · exact Raises.bind (mismatch_satisfying strict condition table) fun _ => Raises.pure _
  · have columnsKnown : ∀ name ∈ columns, name ∈ table.header := known
    rcases Table.exists_project columnsKnown (nodup_of_repeatedNames noneRepeated) with
      ⟨result, projected⟩
    rw [Operation.run, projected]
    exact Raises.pure _
  · refine Raises.bind (mismatch_sortedIndices fun key member => ?_) fun _ => Raises.pure _
    exact known _ (List.mem_map_of_mem member)
  · exact absurd isSql noQuery

end TableBrowser
