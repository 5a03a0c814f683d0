import TableBrowser.Proofs.Step.Filtering
import TableBrowser.Proofs.Step.Sorting
/-!
# Filters and sorts

The order of picked rows is the one that they have in the table. Main statement:
what a filter makes of a sorted table, a sort makes of the filtered one.
-/

namespace TableBrowser

namespace Ordering

variable {table : Table} {keys : List SortKey} {places : List Nat}

/-! ## Sorts of picked rows -/

theorem cellsOf_pick {key : SortKey} (known : key.column ∈ table.header) :
    cellsOf (table.pick places) key = places.map (cellOf (cellsOf table key)) := by
  rcases Table.exists_column?_of_mem known with ⟨column, found⟩
  rw [cellsOf, cellsOf, Table.column?_pick found, found]
  rfl

theorem comparable_pick {key : SortKey} (known : key.column ∈ table.header)
    (comparable : Comparable (cellsOf table key)) : Comparable (cellsOf (table.pick places) key) := by
  rcases comparable with ⟨scale, each⟩
  refine ⟨scale, fun cell member => ?_⟩
  rw [cellsOf_pick known] at member
  rcases List.mem_map.mp member with ⟨place, _, rfl⟩
  exact standsOn_cellOf each place

theorem cellOf_pick {key : SortKey} (known : key.column ∈ table.header) {index : Nat}
    (inside : index < places.length) :
    cellOf (cellsOf (table.pick places) key) index = cellOf (cellsOf table key) (places.getD index 0) := by
  rw [cellsOf_pick known, cellOf]
  simp [inside]

theorem isScalar_cellOf {values : List Datum} (each : ∀ cell ∈ values, cell.IsScalar) (row : Nat) :
    (cellOf values row).IsScalar := by
  unfold cellOf
  cases found : values[row]? with
  | none => exact .inl rfl
  | some cell => exact each cell (List.mem_of_getElem? found)

/-- Rows that are picked in the order of the table precede each other as in it. -/
theorem precedes_pick_iff (known : ∀ key ∈ keys, key.column ∈ table.header)
    (rising : places.Pairwise (· < ·)) {left right : Nat} (leftInside : left < places.length)
    (rightInside : right < places.length) :
    Precedes (table.pick places) keys left right ↔
      Precedes table keys (places.getD left 0) (places.getD right 0) := by
  induction keys with
  | nil =>
      rw [List.getD_eq_getElem _ _ leftInside, List.getD_eq_getElem _ _ rightInside]
      have inOrder := List.pairwise_iff_getElem.mp rising
      refine ⟨inOrder left right leftInside rightInside, fun earlier => ?_⟩
      rcases Nat.lt_trichotomy left right with before | rfl | after
      · exact before
      · exact absurd earlier (Nat.lt_irrefl _)
      · exact absurd earlier (Nat.lt_asymm (inOrder right left rightInside leftInside after))
  | cons key keys induction =>
      rcases List.forall_mem_cons.mp known with ⟨isKnown, later⟩
      simp only [Precedes, cellOf_pick isKnown leftInside, cellOf_pick isKnown rightInside,
        induction later]

/-- The rows of a sort are the only arrangement of the places in the order of the keys. -/
theorem eq_of_pairwise_precedes (comparable : ∀ key ∈ keys, Comparable (cellsOf table key))
    {first second : List Nat} (same : first.Perm second)
    (firstInOrder : first.Pairwise (Precedes table keys))
    (secondInOrder : second.Pairwise (Precedes table keys)) : first = second :=
  same.eq_of_pairwise (fun _ _ _ _ precedes reversed =>
    absurd reversed (not_precedes_of_precedes comparable precedes)) firstInOrder secondInOrder

section Kept

variable (known : ∀ key ∈ keys, key.column ∈ table.header)
  (scalar : ∀ column ∈ table.columns, ∀ cell ∈ column.values, cell.IsScalar)
  {order : List Nat} (sorted : sortedIndices table keys = .ok order)

include known scalar

theorem isScalar_cellsOf {key : SortKey} (member : key ∈ keys) :
    ∀ cell ∈ cellsOf table key, cell.IsScalar := by
  rcases Table.exists_column?_of_mem (known key member) with ⟨column, found⟩
  rw [cellsOf, found]
  exact scalar column (Table.column?_eq_some found).1

include sorted

theorem comparable_of_sorted : ∀ key ∈ keys, Comparable (cellsOf table key) :=
  (sortedIndices_succeeds_iff known fun _ => isScalar_cellsOf known scalar).mp ⟨order, sorted⟩

/-- Where a table can be sorted, what is left of it can be, and comes in the same order. -/
theorem sortedIndices_pick_filter (holds : Nat → Bool) :
    ∃ indices, sortedIndices (table.pick ((List.range table.rowCount).filter holds)) keys = .ok indices ∧
      (table.pick ((List.range table.rowCount).filter holds)).pick indices =
        table.pick (order.filter holds) := by
  let places := (List.range table.rowCount).filter holds
  have within : ∀ place ∈ places, place < table.rowCount :=
    fun place member => List.mem_range.mp (List.mem_filter.mp member).1
  have rising : places.Pairwise (· < ·) := List.pairwise_lt_range.filter _
  have comparable := comparable_of_sorted known scalar sorted
  have knownPicked : ∀ key ∈ keys, key.column ∈ (table.pick places).header := by
    rwa [Table.header_pick]
  have comparablePicked : ∀ key ∈ keys, Comparable (cellsOf (table.pick places) key) :=
    fun key member => comparable_pick (known key member) (comparable key member)
  have scalarPicked : ∀ key ∈ keys, ∀ cell ∈ cellsOf (table.pick places) key, cell.IsScalar := by
    intro key member cell isCell
    rw [cellsOf_pick (known key member)] at isCell
    rcases List.mem_map.mp isCell with ⟨place, _, rfl⟩
    exact isScalar_cellOf (isScalar_cellsOf known scalar member) place
  rcases (sortedIndices_succeeds_iff knownPicked scalarPicked).mpr comparablePicked with
    ⟨indices, indicesSorted⟩
  have arranged := perm_sortedIndices knownPicked indicesSorted
  rw [Table.rowCount_pick within] at arranged
  have inside : ∀ index ∈ indices, index < places.length :=
    fun index member => List.mem_range.mp (arranged.subset member)
  refine ⟨indices, indicesSorted, (Table.pick_pick inside).trans (congrArg table.pick ?_)⟩
  refine eq_of_pairwise_precedes comparable ?_ ?_ ?_
  · calc indices.map (fun index => places.getD index 0)
        |>.Perm ((List.range places.length).map fun index => places.getD index 0) := arranged.map _
      _ = places := Table.map_getD_range places
      _ |>.Perm (order.filter holds) := ((perm_sortedIndices known sorted).filter holds).symm
  · refine List.pairwise_map.mpr ((pairwise_sortedIndices knownPicked comparablePicked indicesSorted).imp_of_mem ?_)
    intro left right isLeft isRight precedes
    exact (precedes_pick_iff known rising (inside left isLeft) (inside right isRight)).mp precedes
  · exact (pairwise_sortedIndices known comparable sorted).filter holds

end Kept

end Ordering

/-! ## Steps in either order -/

theorem Operation.run_order_eq_ok {relation : String} {table result : Table} {keys : List SortKey} :
    (Operation.order keys).run relation table = .ok result ↔
      ∃ indices, Ordering.sortedIndices table keys = .ok indices ∧ result = table.pick indices := by
  rw [Operation.run, bind_eq_ok]
  refine exists_congr fun indices => and_congr_right fun _ => ?_
  exact ⟨fun made => by cases made; rfl, fun same => by rw [same]; rfl⟩

theorem Operation.exists_filter {step : Step} (isFilter : step.operation = "filter")
    {operation : Operation} (isStep : ofStep step = .ok operation) :
    ∃ condition strict, operation = .filter condition strict := by
  rcases ofStep_cases isStep with ⟨_, isOperation⟩ | ⟨other, _⟩ | ⟨other, _⟩ | ⟨other, _⟩
  · exact isOperation
  all_goals exact absurd (isFilter.symm.trans other) (by decide)

theorem Operation.exists_order {step : Step} (isOrder : step.operation = "order")
    {operation : Operation} (isStep : ofStep step = .ok operation) :
    ∃ keys, operation = .order keys := by
  rcases ofStep_cases isStep with ⟨other, _⟩ | ⟨other, _⟩ | ⟨_, isOperation⟩ | ⟨other, _⟩
  · exact absurd (isOrder.symm.trans other) (by decide)
  · exact absurd (isOrder.symm.trans other) (by decide)
  · exact isOperation
  · exact absurd (isOrder.symm.trans other) (by decide)

/--
Where scalar cells are sorted and then filtered, they can be filtered and then sorted,
and the tables are equal.
-/
theorem applySteps_filter_order (relation : String) {table result : Table} {filter order : Step}
    (isFilter : filter.operation = "filter") (isOrder : order.operation = "order")
    (scalar : ∀ column ∈ table.columns, ∀ cell ∈ column.values, cell.IsScalar)
    (applied : applySteps relation table [order, filter] = .ok result) :
    applySteps relation table [filter, order] = .ok result := by
  rcases applySteps_pair_eq_ok.mp applied with ⟨sorted, ordered, filtered⟩
  rcases bind_eq_ok.mp ordered with ⟨ordering, orderValid, orderRan⟩
  rcases bind_eq_ok.mp filtered with ⟨filtering, filterValid, filterRan⟩
  rcases Step.validate_eq_ok.mp orderValid with ⟨isOrdering, keysKnown⟩
  rcases Step.validate_eq_ok.mp filterValid with ⟨isFiltering, columnsKnown⟩
  rcases Operation.exists_order isOrder isOrdering with ⟨keys, rfl⟩
  rcases Operation.exists_filter isFilter isFiltering with ⟨condition, strict, rfl⟩
  rcases Operation.run_order_eq_ok.mp orderRan with ⟨places, isSorted, rfl⟩
  rcases Operation.run_filter_eq_ok.mp filterRan with ⟨isDefined, rfl⟩
  have known : ∀ key ∈ keys, key.column ∈ table.header :=
    fun key member => keysKnown _ (List.mem_map_of_mem member)
  have arranged := Ordering.perm_sortedIndices known isSorted
  have within : ∀ place ∈ places, place < table.rowCount :=
    fun place member => List.mem_range.mp (arranged.subset member)
  rw [Table.header_pick] at columnsKnown
  rw [Expression.defined_pick_iff within] at isDefined
  rcases Ordering.sortedIndices_pick_filter known scalar isSorted
    fun place => passes (condition.holdsAt strict table place) with ⟨indices, indicesSorted, same⟩
  refine applySteps_pair_eq_ok.mpr ⟨table.pick (condition.kept strict table), ?_, ?_⟩
  · refine bind_eq_ok.mpr ⟨_, Step.validate_eq_ok.mpr ⟨isFiltering, columnsKnown⟩, ?_⟩
    refine Operation.run_filter_eq_ok.mpr ⟨fun place inside => ?_, rfl⟩
    exact isDefined place (arranged.symm.subset (List.mem_range.mpr inside))
  · refine bind_eq_ok.mpr ⟨_, Step.validate_eq_ok.mpr ⟨isOrdering, ?_⟩, ?_⟩
    · rwa [Table.header_pick]
    · refine Operation.run_order_eq_ok.mpr ⟨indices, indicesSorted, ?_⟩
      rw [Expression.pick_kept_pick within]
      exact same.symm

/-- Ratings without those of one name, in either order of the steps. -/
theorem applySteps_filter_order_ratings :
    (∀ column ∈ rated.columns, ∀ cell ∈ column.values, cell.IsScalar) ∧
    applySteps "df" rated [.sorting byRatingAndName, .filtering "name != 'Cy'" none] =
      .ok (rated.pick [3, 2, 1]) ∧
    applySteps "df" rated [.filtering "name != 'Cy'" none, .sorting byRatingAndName] =
      .ok (rated.pick [3, 2, 1]) := by
  have known : ∀ key ∈ byRatingAndName, key.column ∈ rated.header := by decide
  have scalar : ∀ column ∈ rated.columns, ∀ cell ∈ column.values, cell.IsScalar := by decide
  have comparable : ∀ key ∈ byRatingAndName, Ordering.Comparable (Ordering.cellsOf rated key) := by
    simp only [byRatingAndName, List.forall_mem_cons]
    exact ⟨⟨.numbers, by decide⟩, ⟨.texts, by decide⟩, by simp⟩
  have sorted : Ordering.sortedIndices rated byRatingAndName = .ok [3, 0, 2, 1] := by
    rcases (Ordering.sortedIndices_succeeds_iff known
      fun _ => Ordering.isScalar_cellsOf known scalar).mpr comparable with ⟨order, sorted⟩
    have arranged : order.Perm [3, 0, 2, 1] :=
      (Ordering.perm_sortedIndices known sorted).trans (by decide)
    rw [sorted, Ordering.eq_of_pairwise_precedes comparable arranged
      (Ordering.pairwise_sortedIndices known comparable sorted) (by decide +kernel)]
  have ordered : (Step.sorting byRatingAndName).apply "df" rated = .ok (rated.pick [3, 0, 2, 1]) :=
    bind_eq_ok.mpr ⟨_, Step.validate_sorting (by decide) known,
      Operation.run_order_eq_ok.mpr ⟨_, sorted, rfl⟩⟩
  have filtered : (Step.filtering "name != 'Cy'" none).apply "df" (rated.pick [3, 0, 2, 1]) =
      .ok (rated.pick [3, 2, 1]) := by
    decide +kernel
  have applied := applySteps_pair_eq_ok.mpr ⟨_, ordered, filtered⟩
  exact ⟨scalar, applied, applySteps_filter_order "df" rfl rfl scalar applied⟩

end TableBrowser
