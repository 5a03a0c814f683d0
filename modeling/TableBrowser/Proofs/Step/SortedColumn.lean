import TableBrowser.Proofs.Step.FilteredSort
import TableBrowser.Proofs.Step.FilterFaults
import TableBrowser.Proofs.Table.Bounds
/-!
# Sorted columns

A sort leaves the cells of its column on one scale, with none that comes before an
earlier one. Main statements: where a condition has a common form for two of them, its
orderings say the same of the two as their places; and the range of the column goes from
the first to the last of them, unless it holds both dates and moments.
-/

namespace TableBrowser

namespace Ordering

/-- Cells as a sort leaves them: on one scale, and none comes before an earlier one. -/
structure IsSorted (direction : Direction) (cells : List Datum) : Prop where
  comparable : Comparable cells
  inOrder : cells.Pairwise fun earlier later => ¬ Before direction later earlier

theorem map_cellOf_range (values : List Datum) :
    (List.range values.length).map (cellOf values) = values :=
  List.ext_getElem (by simp) fun index _ inBounds => by simp [cellOf, inBounds]

section Column

variable {table : Table} {key : SortKey} {rows : List Nat} (known : key.column ∈ table.header)

include known

theorem isSorted_of_sortedIndices (comparable : Comparable (cellsOf table key))
    (sorted : sortedIndices table [key] = .ok rows) :
    IsSorted key.direction (rows.map (cellOf (cellsOf table key))) where
  comparable := cellsOf_pick known ▸ comparable_pick known comparable
  inOrder := by
    have each : ∀ other ∈ [key], Comparable (cellsOf table other) := by simpa using comparable
    refine List.pairwise_map.mpr ?_
    refine (pairwise_sortedIndices (by simpa using known) each sorted).imp fun precedes before => ?_
    exact not_precedes_of_precedes each precedes (.inl before)

theorem perm_cells_of_sortedIndices (sorted : sortedIndices table [key] = .ok rows) :
    (rows.map (cellOf (cellsOf table key))).Perm (cellsOf table key) := by
  have arranged := (perm_sortedIndices (by simpa using known) sorted).map (cellOf (cellsOf table key))
  rwa [← length_cellsOf known, map_cellOf_range] at arranged

end Column

/-- The one arrangement of all rows in the order of the keys is what a sort makes. -/
theorem sortedIndices_eq_of_pairwise {table : Table} {keys : List SortKey} {order : List Nat}
    (known : ∀ key ∈ keys, key.column ∈ table.header)
    (scalar : ∀ key ∈ keys, ∀ cell ∈ cellsOf table key, cell.IsScalar)
    (comparable : ∀ key ∈ keys, Comparable (cellsOf table key))
    (arranged : order.Perm (List.range table.rowCount)) (inOrder : order.Pairwise (Precedes table keys)) :
    sortedIndices table keys = .ok order := by
  rcases (sortedIndices_succeeds_iff known scalar).mpr comparable with ⟨rows, sorted⟩
  rw [sorted, eq_of_pairwise_precedes comparable
    ((perm_sortedIndices known sorted).trans arranged.symm)
    (pairwise_sortedIndices known comparable sorted) inOrder]

end Ordering

/-- A sort by one column that succeeds leaves its cells sorted. -/
theorem Step.exists_sorted {relation : String} {table result : Table} {name : String}
    {direction : Direction} {column : Column} (found : table.column? name = some column)
    (scalar : ∀ cell ∈ column.values, cell.IsScalar)
    (applied : (Step.sorting [⟨name, direction⟩]).apply relation table = .ok result) :
    ∃ cells, result.column? name = some { column with values := cells } ∧
      cells.Perm column.values ∧ Ordering.IsSorted direction cells := by
  let key : SortKey := ⟨name, direction⟩
  have known : key.column ∈ table.header := Table.mem_header_of_column? found
  have areCells : Ordering.cellsOf table key = column.values := by
    rw [Ordering.cellsOf, found]
    rfl
  have eachKnown : ∀ other ∈ [key], other.column ∈ table.header := by simpa using known
  have eachScalar : ∀ other ∈ [key], ∀ cell ∈ Ordering.cellsOf table other, cell.IsScalar := by
    simpa [areCells] using scalar
  rcases bind_eq_ok.mp applied with ⟨operation, valid, ran⟩
  cases valid.symm.trans (Step.validate_sorting (List.cons_ne_nil _ _) eachKnown)
  rcases Operation.run_order_eq_ok.mp ran with ⟨rows, sorted, rfl⟩
  have comparable :=
    (Ordering.sortedIndices_succeeds_iff eachKnown eachScalar).mp ⟨rows, sorted⟩ key List.mem_cons_self
  refine ⟨rows.map (Ordering.cellOf column.values), Table.column?_pick found, ?_, ?_⟩
  · exact areCells ▸ Ordering.perm_cells_of_sortedIndices known sorted
  · exact areCells ▸ Ordering.isSorted_of_sortedIndices known comparable sorted

namespace Expression

/-! ## Orderings of sorted cells -/

/--
An ordering of two operands that has one answer, strict or not, unless they have no
common form. Then it is a type mismatch where the evaluation is strict, or a fault if an
operand is too long for the message.
-/
inductive Answers (operator : ComparisonOperator) (left right : Datum) (answer : Bool) : Prop
  | undefined {problem : Problem} (unlike : Unlike left right)
      (failed : compareOperands true operator left right = .error problem)
      (isMismatch : problem.IsMismatchOr (Overlong left right))
  | defined (same : ∀ strict, compareOperands strict operator left right = .ok (.boolean answer))

/-- Orderings say of two operands that the first is not the larger one, if they say anything. -/
structure NotLarger (smaller larger : Datum) : Prop where
  less : Answers .less larger smaller false
  lessOrEqual : Answers .lessOrEqual smaller larger true

variable {operator : ComparisonOperator} {left right formedLeft formedRight : Datum} {scale : Scale}

theorem answers_of_ordered {answer : Bool} (ordering : operator.isOrdering = true)
    (present : (left.isNull || right.isNull) = false)
    (told : ∀ formedLeft formedRight, Formed left right formedLeft formedRight →
      ordered operator formedLeft formedRight = .ok answer) : Answers operator left right answer := by
  cases formed : commonForm? left right with
  | none =>
      have unlike : Unlike left right := ⟨present, formed⟩
      rcases unlike.exists_error ordering with ⟨problem, failed⟩
      refine .undefined unlike failed ?_
      have expected := (faultsIff_compareOperands true operator left right).raises problem failed
      refine expected.weaken fun faults => ?_
      exact ((comparisonFaults_of_commonForm?_none true formed ordering).mp faults).2
  | some forms =>
      refine .defined fun strict => ?_
      rw [compareOperands_of_ordering ordering, present, formed]
      simp only [told _ _ (commonForm?_eq_some_iff.mp formed)]
      rfl

theorem sortValue_of_isNumber {datum : Datum} (number : isNumber datum = true) :
    Ordering.sortValue datum = datum := by
  cases datum with
  | integer value => rfl
  | number value => rfl
  | _ => cases number

/-- Only a text is an instant for a condition that it is not for a sort. -/
theorem sortValue_of_asTemporal? {datum : Datum} {moment : Moment}
    (isMoment : asTemporal? datum = some (.moment moment)) :
    Ordering.sortValue datum = .moment moment ∨ (Ordering.sortValue datum).scale? = some .texts := by
  cases datum with
  | text value => exact .inr rfl
  | moment value => cases isMoment; exact .inl rfl
  | date value => cases isMoment; exact .inl rfl
  | _ => cases isMoment

theorem not_temporal_of_texts {datum : Datum}
    (isText : (Ordering.sortValue datum).scale? = some .texts) : isTemporal datum = false := by
  cases datum with
  | text value => rfl
  | number value =>
      rcases Datum.kind_of_scale? isText with ⟨value, isText⟩
      cases isText
  | _ => cases isText

/-- The common form of cells that are sorted together is that of the sort. -/
theorem Formed.eq_sortValue (formed : Formed left right formedLeft formedRight)
    (isLeft : (Ordering.sortValue left).scale? = some scale)
    (isRight : (Ordering.sortValue right).scale? = some scale) :
    formedLeft = Ordering.sortValue left ∧ formedRight = Ordering.sortValue right := by
  cases formed with
  | numbers areNumbers =>
      rw [Bool.and_eq_true] at areNumbers
      exact ⟨(sortValue_of_isNumber areNumbers.1).symm, (sortValue_of_isNumber areNumbers.2).symm⟩
  | booleans areLeft areRight => cases areLeft; cases areRight; exact ⟨rfl, rfl⟩
  | texts areLeft areRight => cases areLeft; cases areRight; exact ⟨rfl, rfl⟩
  | times areLeft areRight => cases areLeft; cases areRight; exact ⟨rfl, rfl⟩
  | moments temporal leftMoment rightMoment =>
      -- A text stands on the scale of texts, and no moment is beside it there.
      have notTexts : scale ≠ .texts := by
        rintro rfl
        rw [not_temporal_of_texts isLeft, not_temporal_of_texts isRight] at temporal
        cases temporal
      rcases sortValue_of_asTemporal? leftMoment with leftSame | leftText
      · rcases sortValue_of_asTemporal? rightMoment with rightSame | rightText
        · exact ⟨leftSame.symm, rightSame.symm⟩
        · exact absurd (Option.some.inj (isRight.symm.trans rightText)) notTexts
      · exact absurd (Option.some.inj (isLeft.symm.trans leftText)) notTexts

theorem isNull_of_scale_sortValue {datum : Datum}
    (stands : (Ordering.sortValue datum).scale? = some scale) : datum.isNull = false := by
  cases datum with
  | null => cases stands
  | _ => rfl

/-- Of cells that are sorted together, one that does not come after the other is not the larger one. -/
theorem notLarger_of_scale (isLeft : (Ordering.sortValue left).scale? = some scale)
    (isRight : (Ordering.sortValue right).scale? = some scale)
    (notBefore : (Ordering.sortValue right).less (Ordering.sortValue left) ≠ .ok true) :
    NotLarger left right := by
  have leftPresent := isNull_of_scale_sortValue isLeft
  have rightPresent := isNull_of_scale_sortValue isRight
  have rightNotLess := Datum.less_eq_false_of_ne isRight isLeft notBefore
  refine ⟨answers_of_ordered rfl (by simp [leftPresent, rightPresent]) ?_,
    answers_of_ordered rfl (by simp [leftPresent, rightPresent]) ?_⟩
  · intro formedRight formedLeft formed
    rcases formed.eq_sortValue isRight isLeft with ⟨rfl, rfl⟩
    exact rightNotLess
  · intro formedLeft formedRight formed
    rcases formed.eq_sortValue isLeft isRight with ⟨rfl, rfl⟩
    rcases Datum.exists_less_of_scale isLeft isRight with ⟨before, compared⟩
    simp only [ordered, compared]
    cases before with
    | true => rfl
    | false => exact congrArg _ ((Datum.equal_iff_of_scale isLeft isRight).mpr ⟨compared, rightNotLess⟩)

end Expression

/-- Orderings do not contradict that one cell is before another one in a sorted column. -/
def Ordering.NotReversed (direction : Direction) (earlier later : Datum) : Prop :=
  match direction with
  | .ascending => Expression.NotLarger earlier later
  | .descending => Expression.NotLarger later earlier

theorem Ordering.IsSorted.notReversed {direction : Direction} {cells : List Datum}
    (isSorted : IsSorted direction cells) : cells.Pairwise fun earlier later =>
      earlier.isNull = false → later.isNull = false → NotReversed direction earlier later := by
  rcases isSorted.comparable with ⟨scale, stand⟩
  refine isSorted.inOrder.imp_of_mem fun isEarlier isLater notBefore earlierPresent laterPresent => ?_
  have earlierStands := stand _ isEarlier earlierPresent
  have laterStands := stand _ isLater laterPresent
  cases direction with
  | ascending =>
      exact Expression.notLarger_of_scale earlierStands laterStands fun before => notBefore (.inr before)
  | descending =>
      exact Expression.notLarger_of_scale laterStands earlierStands fun before => notBefore (.inr before)

/--
The orderings of a condition say the same of two cells as their places in a column that
was sorted: of two that are not null the one that comes first is not the larger one where
the column rises, and not the smaller one where it falls, unless they have no common form.
-/
theorem Step.sorting_agrees_with_orderings (relation : String) {table result : Table} {name : String}
    {direction : Direction} {column : Column} (found : table.column? name = some column)
    (scalar : ∀ cell ∈ column.values, cell.IsScalar)
    (applied : (Step.sorting [⟨name, direction⟩]).apply relation table = .ok result) :
    ∃ cells, result.column? name = some { column with values := cells } ∧
      cells.Perm column.values ∧ cells.Pairwise fun earlier later =>
        earlier.isNull = false → later.isNull = false →
          Ordering.NotReversed direction earlier later := by
  rcases Step.exists_sorted found scalar applied with ⟨cells, isColumn, arranged, isSorted⟩
  exact ⟨cells, isColumn, arranged, isSorted.notReversed⟩

/-- The day of the second visit is told with the time of day, and that of the third is missing. -/
def visitDays : Column :=
  ⟨"day", .datetime, [.date ⟨2024, 1, 2, by decide⟩,
    .moment ⟨⟨2024, 1, 1, by decide⟩, ⟨10, 0, 0, 0, none, by decide⟩⟩, .null]⟩

def visits : Table where
  columns := [visitDays]
  aligned := by decide
  distinct := by decide

theorem apply_sorting_visits :
    (Step.sorting [⟨"day", .ascending⟩]).apply "df" visits = .ok (visits.pick [1, 0, 2]) := by
  have known : ∀ key ∈ [(⟨"day", .ascending⟩ : SortKey)], key.column ∈ visits.header := by decide
  refine bind_eq_ok.mpr ⟨_, Step.validate_sorting (List.cons_ne_nil _ _) known, ?_⟩
  refine Operation.run_order_eq_ok.mpr ⟨_, ?_, rfl⟩
  refine Ordering.sortedIndices_eq_of_pairwise known (by decide) ?_ (by decide) (by decide +kernel)
  intro key member
  cases List.mem_singleton.mp member
  exact ⟨.moments false, by decide⟩

/-- The visit in the course of a day is not later than the one on the next day. -/
theorem Step.sorting_agrees_on_visits :
    visits.column? "day" = some visitDays ∧ (∀ cell ∈ visitDays.values, cell.IsScalar) ∧
    (Step.sorting [⟨"day", .ascending⟩]).apply "df" visits = .ok (visits.pick [1, 0, 2]) ∧
    Expression.NotLarger (.moment ⟨⟨2024, 1, 1, by decide⟩, ⟨10, 0, 0, 0, none, by decide⟩⟩)
      (.date ⟨2024, 1, 2, by decide⟩) := by
  have scalar : ∀ cell ∈ visitDays.values, cell.IsScalar := by decide
  refine ⟨rfl, scalar, apply_sorting_visits, ?_⟩
  rcases Step.sorting_agrees_with_orderings "df" rfl scalar apply_sorting_visits with
    ⟨cells, isColumn, _, agree⟩
  have areCells : [.moment ⟨⟨2024, 1, 1, by decide⟩, ⟨10, 0, 0, 0, none, by decide⟩⟩,
      .date ⟨2024, 1, 2, by decide⟩, .null] = cells :=
    congrArg Column.values (Option.some.inj isColumn)
  rw [← areCells, List.pairwise_cons] at agree
  exact agree.1 _ List.mem_cons_self rfl rfl

/-! ## Ranges of sorted columns

The range of a column compares cells as they are, where a sort takes a date to be the
start of its day. Main statement: the range of a column that can be sorted goes from the
first to the last of its sorted cells, unless it holds both dates and moments.
-/

namespace Ordering

variable {left right cell : Datum} {scale : Scale} {cells : List Datum}

/-! ## Cells as they are -/

theorem sortValue_of_scale (isScale : cell.scale? = some scale) (notDates : scale ≠ .dates) :
    sortValue cell = cell := by
  cases cell with
  | date value => exact absurd (Option.some.inj isScale).symm notDates
  | _ => rfl

/-- Cells of one scale are sorted in their own order. -/
theorem less_sortValue (isLeft : left.scale? = some scale) (isRight : right.scale? = some scale) :
    (sortValue left).less (sortValue right) = left.less right := by
  by_cases areDates : scale = .dates
  · subst areDates
    rcases Datum.kind_of_scale? isLeft with ⟨leftDate, rfl⟩
    rcases Datum.kind_of_scale? isRight with ⟨rightDate, rfl⟩
    have onOneClock : ((Moment.ofDate leftDate).time.offset.map UtcOffset.microseconds).isSome =
        ((Moment.ofDate rightDate).time.offset.map UtcOffset.microseconds).isSome := rfl
    simp only [sortValue, Datum.less, Moment.comparable?, Datum.lessInstants_onOneClock onOneClock]
    simp [Moment.ofDate, Time.midnight, ← Moment.clockMicroseconds_ofDate_lt_iff]
  · rw [sortValue_of_scale isLeft areDates, sortValue_of_scale isRight areDates]

/-! ## The ends of sorted cells -/

/-- No cell is before the first of the sorted cells that are not null, and the last one is before none. -/
theorem IsSorted.exists_ends (isSorted : IsSorted .ascending cells)
    (present : ∃ cell ∈ cells, cell.isNull = false) :
    ∃ first last, (cells.filter (!·.isNull)).head? = some first ∧
      (cells.filter (!·.isNull)).getLast? = some last ∧
      (first ∈ cells ∧ first.isNull = false) ∧ (last ∈ cells ∧ last.isNull = false) ∧
      ∀ cell ∈ cells, cell.isNull = false →
        (sortValue cell).less (sortValue first) = .ok false ∧
          (sortValue last).less (sortValue cell) = .ok false := by
  rcases isSorted.comparable with ⟨scale, stand⟩
  have stands {cell : Datum} (member : cell ∈ cells.filter (!·.isNull)) :
      (sortValue cell).scale? = some scale :=
    stand cell (Datum.mem_filter_present.mp member).1 (Datum.mem_filter_present.mp member).2
  have inOrder : (cells.filter (!·.isNull)).Pairwise fun earlier later =>
      (sortValue later).less (sortValue earlier) = .ok false :=
    (isSorted.inOrder.filter _).imp_of_mem fun isEarlier isLater notBefore =>
      Datum.less_eq_false_of_ne (stands isLater) (stands isEarlier) fun before => notBefore (.inr before)
  have notEmpty : cells.filter (!·.isNull) ≠ [] := by
    rcases present with ⟨cell, isCell⟩
    exact List.ne_nil_of_mem (Datum.mem_filter_present.mpr isCell)
  refine ⟨_, _, List.head?_eq_some_head notEmpty, List.getLast?_eq_some_getLast notEmpty,
    Datum.mem_filter_present.mp (List.head_mem notEmpty),
    Datum.mem_filter_present.mp (List.getLast_mem notEmpty), ?_⟩
  intro cell isCell notNull
  have member := Datum.mem_filter_present.mpr ⟨isCell, notNull⟩
  exact ⟨inOrder.rel_head_of_rel_head_head member (Datum.less_self (stands (List.head_mem notEmpty))),
    inOrder.rel_getLast_of_rel_getLast_getLast member
      (Datum.less_self (stands (List.getLast_mem notEmpty)))⟩

end Ordering

namespace Column

variable {column : Column} {cells : List Datum} {scale : Scale}

/-- There is a range, and its ends equal those of some cells as a sort compares them. -/
def RangesOver (column : Column) (cells : List Datum) : Prop :=
  ∃ smallest largest first last, column.bounds = some (smallest, largest) ∧
    (cells.filter (!·.isNull)).head? = some first ∧
    (cells.filter (!·.isNull)).getLast? = some last ∧
    (Ordering.sortValue smallest).equal (Ordering.sortValue first) = true ∧
    (Ordering.sortValue largest).equal (Ordering.sortValue last) = true

/-- There are days with the time of day, and days without it. -/
def MixesDays (column : Column) : Prop :=
  (∃ date, .date date ∈ column.values) ∧ ∃ moment, .moment moment ∈ column.values

/-- Cells that can be sorted stand on one scale as they are, if they do not mix days. -/
theorem exists_onScale_iff (comparable : Ordering.Comparable column.values) :
    (∃ scale, column.OnScale scale) ↔ ¬ column.MixesDays := by
  constructor
  · rintro ⟨scale, onScale⟩ ⟨⟨date, isDate⟩, moment, isMoment⟩
    cases onScale _ isDate rfl
    cases onScale _ isMoment rfl
  · intro notMixed
    rcases comparable with ⟨scale, stand⟩
    by_cases dates : ∃ date, .date date ∈ column.values
    · rcases dates with ⟨date, isDate⟩
      cases stand _ isDate rfl
      refine ⟨.dates, fun cell isCell notNull => ?_⟩
      rcases Datum.kind_of_scale? (stand cell isCell notNull) with ⟨value, isMoment, _⟩
      cases cell with
      | date day => rfl
      | moment moment => exact absurd ⟨⟨date, isDate⟩, moment, isCell⟩ notMixed
      | _ => cases isMoment
    · refine ⟨scale, fun cell isCell notNull => ?_⟩
      cases cell with
      | date day => exact absurd ⟨day, isCell⟩ dates
      | _ => exact stand _ isCell notNull

theorem rangesOver_of_onScale (onScale : column.OnScale scale)
    (isSorted : Ordering.IsSorted .ascending cells) (arranged : cells.Perm column.values)
    (present : ∃ cell ∈ column.values, cell.isNull = false) : column.RangesOver cells := by
  have mem_cells {cell : Datum} : cell ∈ cells ↔ cell ∈ column.values := arranged.mem_iff
  rcases exists_bounds onScale present with ⟨smallest, largest, isBounds, isRange⟩
  rcases isSorted.exists_ends (by simpa only [mem_cells] using present) with
    ⟨first, last, isFirst, isLast, first_mem, last_mem, ends⟩
  rw [mem_cells] at first_mem last_mem
  rcases isSorted.comparable with ⟨sortScale, stand⟩
  have stands {cell : Datum} (member : cell ∈ column.values ∧ cell.isNull = false) :
      (Ordering.sortValue cell).scale? = some sortScale :=
    stand cell (mem_cells.mpr member.1) member.2
  have scaled {cell : Datum} (member : cell ∈ column.values ∧ cell.isNull = false) :
      cell.scale? = some scale :=
    onScale cell member.1 member.2
  refine ⟨smallest, largest, first, last, isBounds, isFirst, isLast, ?_, ?_⟩
  · refine (Datum.equal_iff_of_scale (stands isRange.smallest_mem) (stands first_mem)).mpr ⟨?_, ?_⟩
    · exact (ends smallest (mem_cells.mpr isRange.smallest_mem.1) isRange.smallest_mem.2).1
    · rw [Ordering.less_sortValue (scaled first_mem) (scaled isRange.smallest_mem)]
      exact isRange.notBelow first first_mem.1 first_mem.2
  · refine (Datum.equal_iff_of_scale (stands isRange.largest_mem) (stands last_mem)).mpr ⟨?_, ?_⟩
    · rw [Ordering.less_sortValue (scaled isRange.largest_mem) (scaled last_mem)]
      exact isRange.notAbove last last_mem.1 last_mem.2
    · exact (ends largest (mem_cells.mpr isRange.largest_mem.1) isRange.largest_mem.2).2

end Column

/--
The range of a column of scalar cells that are not all null goes from the first to the
last of its sorted cells exactly when it does not mix days with and without the time of
day. There is no range if it does, although it can be sorted.
-/
theorem Step.range_agrees_with_sorting_iff (relation : String) {table result : Table} {name : String}
    {column : Column} (found : table.column? name = some column)
    (scalar : ∀ cell ∈ column.values, cell.IsScalar)
    (present : ∃ cell ∈ column.values, cell.isNull = false)
    (applied : (Step.sorting [⟨name, .ascending⟩]).apply relation table = .ok result) :
    ∃ cells, result.column? name = some { column with values := cells } ∧
      cells.Perm column.values ∧ (column.RangesOver cells ↔ ¬ column.MixesDays) ∧
      (column.MixesDays → column.bounds = none) := by
  rcases Step.exists_sorted found scalar applied with ⟨cells, isColumn, arranged, isSorted⟩
  have comparable : Ordering.Comparable column.values :=
    isSorted.comparable.imp fun _ stand cell member => stand cell (arranged.mem_iff.mpr member)
  have notMixed {ends : Datum × Datum} (isBounds : column.bounds = some ends) : ¬ column.MixesDays :=
    (Column.exists_onScale_iff comparable).mp (Column.onScale_of_bounds scalar isBounds)
  refine ⟨cells, isColumn, arranged, ⟨?_, fun oneKind => ?_⟩, fun mixed => ?_⟩
  · rintro ⟨smallest, largest, _, _, isBounds, _⟩
    exact notMixed isBounds
  · rcases (Column.exists_onScale_iff comparable).mpr oneKind with ⟨scale, onScale⟩
    exact Column.rangesOver_of_onScale onScale isSorted arranged present
  · cases isBounds : column.bounds with
    | none => rfl
    | some ends => exact absurd mixed (notMixed isBounds)

/-- The truth value is the smallest of the ratings, and first when they are sorted. -/
theorem Step.range_agrees_with_ratings :
    rated.column? "rating" = some ⟨"rating", .integer, [.integer 2, .null, .boolean true, .integer 2]⟩ ∧
    (Step.sorting [⟨"rating", .ascending⟩]).apply "df" rated = .ok (rated.pick [2, 0, 3, 1]) ∧
    (⟨"rating", .integer, [.integer 2, .null, .boolean true, .integer 2]⟩ : Column).RangesOver
      [.boolean true, .integer 2, .integer 2, .null] := by
  have known : ∀ key ∈ [(⟨"rating", .ascending⟩ : SortKey)], key.column ∈ rated.header := by decide
  have sorted : Ordering.sortedIndices rated [⟨"rating", .ascending⟩] = .ok [2, 0, 3, 1] := by
    refine Ordering.sortedIndices_eq_of_pairwise known (by decide) ?_ (by decide) (by decide +kernel)
    intro key member
    cases List.mem_singleton.mp member
    exact ⟨.numbers, by decide⟩
  have applied : (Step.sorting [⟨"rating", .ascending⟩]).apply "df" rated =
      .ok (rated.pick [2, 0, 3, 1]) :=
    bind_eq_ok.mpr ⟨_, Step.validate_sorting (List.cons_ne_nil _ _) known,
      Operation.run_order_eq_ok.mpr ⟨_, sorted, rfl⟩⟩
  have found : rated.column? "rating" =
      some ⟨"rating", .integer, [.integer 2, .null, .boolean true, .integer 2]⟩ := rfl
  refine ⟨found, applied, ?_⟩
  rcases Step.range_agrees_with_sorting_iff "df" found (by decide) ⟨.integer 2, by decide⟩ applied with
    ⟨cells, isColumn, _, ranges_iff, _⟩
  have areCells : [.boolean true, .integer 2, .integer 2, .null] = cells :=
    congrArg Column.values (Option.some.inj isColumn)
  rw [areCells]
  refine ranges_iff.mpr ?_
  rintro ⟨⟨date, isDate⟩, _⟩
  simp at isDate

/-- The visits can be sorted by their days, but the days have no range. -/
theorem Step.no_range_of_visits :
    visits.column? "day" = some visitDays ∧ (∀ cell ∈ visitDays.values, cell.IsScalar) ∧
    (∃ cell ∈ visitDays.values, cell.isNull = false) ∧
    (Step.sorting [⟨"day", .ascending⟩]).apply "df" visits = .ok (visits.pick [1, 0, 2]) ∧
    visitDays.bounds = none ∧ ∀ cells, ¬ visitDays.RangesOver cells := by
  have noBounds : visitDays.bounds = none := by decide +kernel
  refine ⟨rfl, by decide, ⟨_, List.mem_cons_self, rfl⟩, apply_sorting_visits, noBounds, ?_⟩
  rintro cells ⟨_, _, _, _, isBounds, _⟩
  cases noBounds.symm.trans isBounds

end TableBrowser
