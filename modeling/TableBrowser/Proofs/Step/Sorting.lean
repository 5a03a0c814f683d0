import Mathlib.Data.List.Pairwise
import TableBrowser.Proofs.Datum.Scale
import TableBrowser.Proofs.StableSort
import TableBrowser.Proofs.Step.Checked
import TableBrowser.Proofs.Step.Faults
import TableBrowser.Proofs.Table.Rows
/-!
# Sorts

A sort makes one pass for each of its keys, the least significant one first. A pass
is a stable sort of the rows whose cell is not null, with the others after them, in
either direction. Main statement: a sort of scalar cells succeeds exactly when the
cells of every key stand on one scale, and then its rows are the only arrangement
of all rows that is in the order of the keys, with ties in the order of the table.
-/

namespace TableBrowser

namespace Ordering

/-! ## Comparisons that meet every clash -/

section Comparisons

variable {scale : Scale} {data : List Datum}

theorem exists_runLength (falling : Bool) {previous : Datum}
    (isPrevious : previous.scale? = some scale) (each : ∀ datum ∈ data, datum.scale? = some scale) :
    ∃ length, runLength falling previous data = .ok length := by
  induction data generalizing previous with
  | nil => exact ⟨0, rfl⟩
  | cons datum data induction =>
      have isDatum := each datum List.mem_cons_self
      rcases Datum.exists_less_of_scale isDatum isPrevious with ⟨before, compared⟩
      rcases induction isDatum fun other member => each other (List.mem_cons_of_mem datum member) with
        ⟨length, counted⟩
      rw [runLength, compared, counted]
      by_cases goesOn : (before == falling) = true
      · exact ⟨length + 1, if_pos goesOn⟩
      · exact ⟨0, if_neg goesOn⟩

/-- A run that was counted stands on the scale of what comes before it. -/
theorem scale_of_runLength {falling : Bool} {previous : Datum} {length : Nat}
    (isPrevious : previous.scale? = some scale) (stand : ∀ datum ∈ data, datum.scale?.isSome = true)
    (counted : runLength falling previous data = .ok length) :
    ∀ datum ∈ data.take length, datum.scale? = some scale := by
  induction data generalizing previous length with
  | nil => simp
  | cons datum data induction =>
      rcases Option.isSome_iff_exists.mp (stand datum List.mem_cons_self) with ⟨other, isDatum⟩
      rw [runLength] at counted
      rcases bind_eq_ok.mp counted with ⟨before, compared, rest⟩
      cases Datum.scale_eq_of_less compared isDatum isPrevious
      split at rest
      · rcases bind_eq_ok.mp rest with ⟨shorter, later, made⟩
        cases made
        rw [List.take_succ_cons, List.forall_mem_cons]
        exact ⟨isDatum, induction isDatum
          (fun other member => stand other (List.mem_cons_of_mem datum member)) later⟩
      · cases rest
        simp

variable {sorted : Array Datum} {datum : Datum}

theorem getD_mem {index : Nat} (inBounds : index < sorted.size) : sorted.getD index .null ∈ sorted := by
  simp [Array.getD, inBounds]

theorem exists_placeBetween (each : ∀ other ∈ sorted, other.scale? = some scale)
    (isDatum : datum.scale? = some scale) {steps low high : Nat} (inBounds : high ≤ sorted.size) :
    ∃ place, placeBetween sorted datum steps low high = .ok place := by
  induction steps generalizing low high with
  | zero => exact ⟨low, rfl⟩
  | succ steps induction =>
      rw [placeBetween]
      split
      · exact ⟨low, rfl⟩
      next open' =>
        have middle : low + (high - low) / 2 < sorted.size := by omega
        rcases Datum.exists_less_of_scale isDatum (each _ (getD_mem middle)) with ⟨before, compared⟩
        simp only [compared, bind, Except.bind]
        split
        · exact induction (by omega)
        · exact induction inBounds

/-- To find a place among sorted data is to compare with one of them at least. -/
theorem scale_of_placeBetween {other : Scale} (each : ∀ other ∈ sorted, other.scale? = some scale)
    (isDatum : datum.scale? = some other) (notEmpty : 0 < sorted.size) {place : Nat}
    (placed : placeBetween sorted datum (sorted.size + 1) 0 sorted.size = .ok place) :
    other = scale := by
  rw [placeBetween, if_neg (by omega)] at placed
  rcases bind_eq_ok.mp placed with ⟨before, compared, _⟩
  exact Datum.scale_eq_of_less compared isDatum (each _ (getD_mem (by omega)))

theorem mem_insertIdxIfInBounds {place : Nat} {other : Datum}
    (member : other ∈ sorted.insertIdxIfInBounds place datum) : other = datum ∨ other ∈ sorted := by
  unfold Array.insertIdxIfInBounds at member
  split at member
  · exact Array.mem_insertIdx.mp member
  · exact .inr member

theorem size_insertIdxIfInBounds (place : Nat) :
    sorted.size ≤ (sorted.insertIdxIfInBounds place datum).size := by
  unfold Array.insertIdxIfInBounds
  split
  · simp
  · exact Nat.le_refl _

/-- Data can be inserted exactly when they stand on the scale of those that are sorted. -/
theorem insertAll_succeeds_iff (each : ∀ other ∈ sorted, other.scale? = some scale)
    (notEmpty : 0 < sorted.size) (stand : ∀ datum ∈ data, datum.scale?.isSome = true) :
    insertAll sorted data = .ok () ↔ ∀ datum ∈ data, datum.scale? = some scale := by
  induction data generalizing sorted with
  | nil => simp [insertAll]
  | cons datum data induction =>
      rcases Option.isSome_iff_exists.mp (stand datum List.mem_cons_self) with ⟨other, isDatum⟩
      have standLater : ∀ later ∈ data, later.scale?.isSome = true :=
        fun later member => stand later (List.mem_cons_of_mem datum member)
      have larger (place : Nat) : 0 < (sorted.insertIdxIfInBounds place datum).size :=
        Nat.lt_of_lt_of_le notEmpty (size_insertIdxIfInBounds place)
      have eachInserted (isDatum : datum.scale? = some scale) (place : Nat) :
          ∀ other ∈ sorted.insertIdxIfInBounds place datum, other.scale? = some scale := by
        intro other member
        rcases mem_insertIdxIfInBounds member with rfl | earlier
        · exact isDatum
        · exact each other earlier
      rw [insertAll, bind_eq_ok, List.forall_mem_cons]
      constructor
      · rintro ⟨place, placed, inserted⟩
        cases scale_of_placeBetween each isDatum notEmpty placed
        exact ⟨isDatum, (induction (eachInserted isDatum place) (larger place) standLater).mp inserted⟩
      · rintro ⟨onScale, others⟩
        rcases exists_placeBetween each onScale (Nat.le_refl _) with ⟨place, placed⟩
        exact ⟨place, placed,
          (induction (eachInserted onScale place) (larger place) standLater).mpr others⟩

/-- A sort compares enough to meet a clash whenever data stand on more than one scale. -/
theorem compareAll_succeeds_iff (stand : ∀ datum ∈ data, datum.scale?.isSome = true) :
    compareAll data = .ok () ↔ ∃ scale, ∀ datum ∈ data, datum.scale? = some scale := by
  match data with
  | [] => exact ⟨fun _ => ⟨.numbers, by simp⟩, fun _ => rfl⟩
  | [datum] =>
      rcases Option.isSome_iff_exists.mp (stand datum List.mem_cons_self) with ⟨scale, isDatum⟩
      exact ⟨fun _ => ⟨scale, by simp [isDatum]⟩, fun _ => rfl⟩
  | first :: second :: rest =>
      rw [List.forall_mem_cons, List.forall_mem_cons] at stand
      rcases stand with ⟨firstStands, secondStands, restStands⟩
      rcases Option.isSome_iff_exists.mp firstStands with ⟨scale, isFirst⟩
      rcases Option.isSome_iff_exists.mp secondStands with ⟨other, isSecond⟩
      -- The run is in order before anything is inserted, and its members stand on one scale.
      have inserts (falling : Bool) (length : Nat) (isSecond : second.scale? = some scale)
          (isRun : ∀ datum ∈ rest.take length, datum.scale? = some scale) :
          insertAll (if falling then (first :: second :: rest.take length).reverse
              else first :: second :: rest.take length).toArray (rest.drop length) = .ok () ↔
            ∀ datum ∈ rest.drop length, datum.scale? = some scale := by
        apply insertAll_succeeds_iff
        · intro datum member
          have inRun : datum ∈ first :: second :: rest.take length := by
            cases falling with
            | true => exact List.mem_reverse.mp (List.mem_toArray.mp member)
            | false => exact List.mem_toArray.mp member
          rcases List.mem_cons.mp inRun with rfl | inRun
          · exact isFirst
          rcases List.mem_cons.mp inRun with rfl | inRun
          · exact isSecond
          · exact isRun datum inRun
        · cases falling <;> simp
        · exact fun datum member => restStands datum (List.mem_of_mem_drop member)
      simp only [compareAll, bind_eq_ok, List.forall_mem_cons]
      constructor
      · rintro ⟨falling, compared, length, counted, inserted⟩
        cases Datum.scale_eq_of_less compared isSecond isFirst
        have isRun := scale_of_runLength isSecond restStands counted
        have isLater := (inserts falling length isSecond isRun).mp inserted
        refine ⟨_, isFirst, isSecond, fun datum member => ?_⟩
        rw [← List.take_append_drop length rest] at member
        exact (List.mem_append.mp member).elim (isRun datum) (isLater datum)
      · rintro ⟨common, isFirst', isSecond, others⟩
        cases isFirst.symm.trans isFirst'
        rcases Datum.exists_less_of_scale isSecond isFirst with ⟨falling, compared⟩
        rcases exists_runLength falling isSecond others with ⟨length, counted⟩
        refine ⟨falling, compared, length, counted, ?_⟩
        exact (inserts falling length isSecond fun datum member =>
          others datum (List.mem_of_mem_take member)).mpr fun datum member =>
            others datum (List.mem_of_mem_drop member)

end Comparisons

/-! ## The order of cells -/

/-- A cell stands on a scale by the value that is sorted; null stands on all of them. -/
def StandsOn (scale : Scale) (cell : Datum) : Prop :=
  cell.isNull = false → (sortValue cell).scale? = some scale

/-- Cells that stand on one scale can be sorted. -/
def Comparable (cells : List Datum) : Prop := ∃ scale, ∀ cell ∈ cells, StandsOn scale cell

/-- Whether a cell comes before another one in a column that is sorted. Null comes last. -/
def Before (direction : Direction) (left right : Datum) : Prop :=
  (left.isNull = false ∧ right.isNull = true) ∨
    match direction with
    | .ascending => (sortValue left).less (sortValue right) = .ok true
    | .descending => (sortValue right).less (sortValue left) = .ok true

instance (scale : Scale) (cell : Datum) : Decidable (StandsOn scale cell) :=
  inferInstanceAs (Decidable (_ → _))

instance : (direction : Direction) → (left right : Datum) → Decidable (Before direction left right)
  | .ascending, left, right =>
      inferInstanceAs (Decidable (_ ∨ (sortValue left).less (sortValue right) = .ok true))
  | .descending, left, right =>
      inferInstanceAs (Decidable (_ ∨ (sortValue right).less (sortValue left) = .ok true))

@[simp] theorem isNull_sortValue (cell : Datum) : (sortValue cell).isNull = cell.isNull := by
  cases cell <;> rfl

theorem eq_null_of_isNull {cell : Datum} (isNull : cell.isNull = true) : cell = .null := by
  cases cell <;> first | rfl | cases isNull

theorem not_before_null (direction : Direction) {left right : Datum} (isNull : left.isNull = true) :
    ¬ Before direction left right := by
  cases eq_null_of_isNull isNull
  cases direction <;> cases right <;> simp [Before, sortValue, Datum.less, Datum.numeric?, Datum.isNull]

theorem comesBefore_iff (left right : Datum) :
    comesBefore left right = true ↔ left.less right = .ok true := by
  unfold comesBefore
  cases left.less right <;> simp

theorem inOrder_iff (direction : Direction) {left : Datum} (present : left.isNull = false)
    (right : Datum) :
    inOrder direction (sortValue left) (sortValue right) = true ↔ ¬ Before direction right left := by
  cases direction <;>
    simp [inOrder, Before, present, ← comesBefore_iff]

/-- Ranks of the cells that are not null are extended by a last one, that of null. -/
theorem exists_rank_withNull {scale : Scale} {direction : Direction} {Rank : Type}
    [LinearOrder Rank] (rank : Datum → Rank)
    (isRank : ∀ left right : Datum, left.isNull = false → right.isNull = false →
      StandsOn scale left → StandsOn scale right →
        (Before direction left right ↔ rank left < rank right)) :
    ∃ (Rank : Type) (_ : LinearOrder Rank) (rank : Datum → Rank), ∀ left right : Datum,
      StandsOn scale left → StandsOn scale right →
        (Before direction left right ↔ rank left < rank right) := by
  refine ⟨WithTop Rank, inferInstance, fun cell => if cell.isNull then ⊤ else rank cell,
    fun left right isLeft isRight => ?_⟩
  cases leftNull : left.isNull with
  | true => simp [leftNull, not_before_null direction leftNull]
  | false =>
      cases rightNull : right.isNull with
      | true => simp [Before, leftNull, rightNull]
      | false => simpa [leftNull, rightNull] using isRank left right leftNull rightNull isLeft isRight

/-- The order of a sorted column is that of ranks in a linear order. -/
theorem exists_columnRank (scale : Scale) (direction : Direction) :
    ∃ (Rank : Type) (_ : LinearOrder Rank) (rank : Datum → Rank), ∀ left right : Datum,
      StandsOn scale left → StandsOn scale right →
        (Before direction left right ↔ rank left < rank right) := by
  rcases Datum.exists_rank scale with ⟨Rank, linear, rank, compared⟩
  have less_iff {left right : Datum} (leftPresent : left.isNull = false)
      (rightPresent : right.isNull = false) (isLeft : StandsOn scale left)
      (isRight : StandsOn scale right) :
      (sortValue left).less (sortValue right) = .ok true ↔
        rank (sortValue left) < rank (sortValue right) := by
    rcases (compared _ _ (isLeft leftPresent) (isRight rightPresent)).1 with
      ⟨before, isBefore, ranked⟩
    rw [isBefore, ← ranked, Except.ok.injEq]
  cases direction with
  | ascending =>
      refine exists_rank_withNull (fun cell => rank (sortValue cell))
        fun left right leftPresent rightPresent isLeft isRight => ?_
      simp [Before, rightPresent, less_iff leftPresent rightPresent isLeft isRight]
  | descending =>
      refine exists_rank_withNull (fun cell => OrderDual.toDual (rank (sortValue cell)))
        fun left right leftPresent rightPresent isLeft isRight => ?_
      simp [Before, rightPresent, less_iff rightPresent leftPresent isRight isLeft]

/-! ## Passes -/

/-- The cell of a row, null when there is none. -/
def cellOf (values : List Datum) (row : Nat) : Datum := values[row]?.getD .null

section Passes

variable {values : List Datum} {direction : Direction} {indices : List Nat}

def present (values : List Datum) (indices : List Nat) : List Nat :=
  indices.filter fun row => !(cellOf values row).isNull

def missing (values : List Datum) (indices : List Nat) : List Nat :=
  indices.filter fun row => (cellOf values row).isNull

def presentInOrder (values : List Datum) (direction : Direction) (indices : List Nat) : List Nat :=
  (present values indices).mergeSort fun left right =>
    inOrder direction (sortValue (cellOf values left)) (sortValue (cellOf values right))

/-- A pass puts the rows with cells in order and the others after them, unless it meets a clash. -/
theorem sortBy_cases (values : List Datum) (direction : Direction) (indices : List Nat) :
    let data := (present values indices).map fun row => sortValue (cellOf values row)
    (clash? direction data = none ∧ sortBy values direction indices =
        .ok (presentInOrder values direction indices ++ missing values indices)) ∨
      ∃ clash, clash? direction data = some clash ∧
        sortBy values direction indices = .error clash := by
  have sameCell (row : Nat) :
      (values.map sortValue).toArray[row]?.getD .null = sortValue (cellOf values row) := by
    rw [cellOf, List.getElem?_toArray, List.getElem?_map]
    cases values[row]? <;> rfl
  simp only [sortBy, sameCell, isNull_sortValue]
  split
  · next clash found => exact .inr ⟨clash, found, rfl⟩
  · next noClash => exact .inl ⟨noClash, rfl⟩

theorem eq_of_sortBy {rows : List Nat} (passed : sortBy values direction indices = .ok rows) :
    rows = presentInOrder values direction indices ++ missing values indices := by
  rcases sortBy_cases values direction indices with ⟨_, made⟩ | ⟨clash, _, failed⟩
  · exact Except.ok.inj (passed.symm.trans made)
  · cases failed.symm.trans passed

theorem clash?_eq_none_iff (direction : Direction) {data : List Datum}
    (stand : ∀ datum ∈ data, datum.scale?.isSome = true) :
    clash? direction data = none ↔ ∃ scale, ∀ datum ∈ data, datum.scale? = some scale := by
  cases direction with
  | ascending =>
      rw [← compareAll_succeeds_iff stand, clash?]
      cases compareAll data <;> simp
  | descending =>
      have same (datum : Datum) : datum ∈ data.reverse ↔ datum ∈ data := List.mem_reverse
      simp only [← same] at stand ⊢
      rw [← compareAll_succeeds_iff stand, clash?]
      cases compareAll data.reverse <;> simp

theorem mem_cellOf (rows : indices.Perm (List.range values.length)) {row : Nat}
    (member : row ∈ indices) : cellOf values row ∈ values := by
  have inBounds : row < values.length := List.mem_range.mp (rows.subset member)
  rw [cellOf, List.getElem?_eq_getElem inBounds]
  exact List.getElem_mem inBounds

theorem exists_row (rows : indices.Perm (List.range values.length)) {cell : Datum}
    (member : cell ∈ values) : ∃ row ∈ indices, cellOf values row = cell := by
  rcases List.getElem_of_mem member with ⟨row, inBounds, rfl⟩
  refine ⟨row, rows.symm.subset (List.mem_range.mpr inBounds), ?_⟩
  rw [cellOf, List.getElem?_eq_getElem inBounds]
  rfl

theorem isSome_scale?_sortValue {cell : Datum} (scalar : cell.IsScalar)
    (present : cell.isNull = false) : (sortValue cell).scale?.isSome = true := by
  rcases scalar with isNull | stands
  · cases isNull.symm.trans present
  · cases cell <;> first | rfl | exact stands

/-- A pass over scalar cells succeeds exactly when they compare. -/
theorem sortBy_succeeds_iff (rows : indices.Perm (List.range values.length))
    (scalar : ∀ cell ∈ values, cell.IsScalar) :
    (∃ sorted, sortBy values direction indices = .ok sorted) ↔ Comparable values := by
  have stand : ∀ datum ∈ (present values indices).map fun row => sortValue (cellOf values row),
      datum.scale?.isSome = true := by
    simp only [present, List.forall_mem_map, List.mem_filter, Bool.not_eq_true']
    exact fun row member => isSome_scale?_sortValue (scalar _ (mem_cellOf rows member.1)) member.2
  have compared := clash?_eq_none_iff direction stand
  have onScale (scale : Scale) :
      (∀ datum ∈ (present values indices).map fun row => sortValue (cellOf values row),
        datum.scale? = some scale) ↔ ∀ cell ∈ values, StandsOn scale cell := by
    simp only [present, List.forall_mem_map, List.mem_filter, Bool.not_eq_true']
    constructor
    · intro each cell member present
      rcases exists_row rows member with ⟨row, isRow, rfl⟩
      exact each row ⟨isRow, present⟩
    · exact fun each row member => each _ (mem_cellOf rows member.1) member.2
  simp only [onScale] at compared
  rw [Comparable, ← compared]
  rcases sortBy_cases values direction indices with ⟨noClash, sorted⟩ | ⟨clash, found, failed⟩
  · simp [noClash, sorted]
  · simp [found, failed]

theorem perm_presentInOrder :
    (presentInOrder values direction indices ++ missing values indices).Perm indices := by
  refine ((List.mergeSort_perm _ _).append_right _).trans ?_
  simpa [present, missing] using
    List.filter_append_perm (fun row => !(cellOf values row).isNull) indices

theorem standsOn_cellOf {scale : Scale} (each : ∀ cell ∈ values, StandsOn scale cell) (row : Nat) :
    StandsOn scale (cellOf values row) := by
  unfold cellOf
  cases found : values[row]? with
  | none => exact nofun
  | some cell => exact each cell (List.mem_of_getElem? found)

/-- A pass orders rows by their cells, and keeps the order of those with equal cells. -/
theorem pairwise_presentInOrder (comparable : Comparable values) (distinct : indices.Nodup)
    {earlier : Nat → Nat → Prop} (given : indices.Pairwise earlier) :
    (presentInOrder values direction indices ++ missing values indices).Pairwise fun left right =>
      Before direction (cellOf values left) (cellOf values right) ∨
        ¬ Before direction (cellOf values right) (cellOf values left) ∧ earlier left right := by
  rcases comparable with ⟨scale, each⟩
  rcases exists_columnRank scale direction with ⟨Rank, _, rank, isRank⟩
  have before_iff (left right : Nat) : Before direction (cellOf values left) (cellOf values right) ↔
      rank (cellOf values left) < rank (cellOf values right) :=
    isRank _ _ (standsOn_cellOf each left) (standsOn_cellOf each right)
  have isPresent {row : Nat} (member : row ∈ present values indices) :
      (cellOf values row).isNull = false := by
    simpa using (List.mem_filter.mp member).2
  have isMissing {row : Nat} (member : row ∈ missing values indices) :
      (cellOf values row).isNull = true := by
    simpa using (List.mem_filter.mp member).2
  refine List.pairwise_append.mpr ⟨?_, ?_, ?_⟩
  · simp only [before_iff]
    refine pairwise_mergeSort_of_rank (fun row => rank (cellOf values row))
      (fun left isLeft right _ => ?_) (distinct.filter _) (given.filter _)
    rw [Bool.eq_iff_iff, inOrder_iff direction (isPresent isLeft), before_iff, not_lt,
      decide_eq_true_iff]
  · refine (given.filter _).imp_of_mem fun _ isRight isEarlier => .inr ⟨?_, isEarlier⟩
    exact not_before_null direction (isMissing isRight)
  · intro left isLeft right isRight
    exact .inl (.inl ⟨isPresent (List.mem_mergeSort.mp isLeft), isMissing isRight⟩)

end Passes

/-! ## The order of rows -/

/-- The cells of the column of a key. -/
def cellsOf (table : Table) (key : SortKey) : List Datum :=
  ((table.column? key.column).map (·.values)).getD []

/--
Whether a row comes before another one: by the first key that tells their cells
apart, and by their places when none does.
-/
def Precedes (table : Table) : List SortKey → Nat → Nat → Prop
  | [], left, right => left < right
  | key :: keys, left, right =>
      Before key.direction (cellOf (cellsOf table key) left) (cellOf (cellsOf table key) right) ∨
        ¬ Before key.direction (cellOf (cellsOf table key) right)
            (cellOf (cellsOf table key) left) ∧ Precedes table keys left right

instance decidablePrecedes (table : Table) : (keys : List SortKey) → (left right : Nat) →
    Decidable (Precedes table keys left right)
  | [], left, right => inferInstanceAs (Decidable (left < right))
  | _ :: keys, left, right =>
      have := decidablePrecedes table keys left right
      inferInstanceAs (Decidable (_ ∨ _))

section Rows

variable {table : Table} {keys : List SortKey}

theorem not_precedes_of_precedes (comparable : ∀ key ∈ keys, Comparable (cellsOf table key))
    {left right : Nat} (precedes : Precedes table keys left right) :
    ¬ Precedes table keys right left := by
  induction keys with
  | nil => exact Nat.lt_asymm precedes
  | cons key keys induction =>
      rcases List.forall_mem_cons.mp comparable with ⟨⟨scale, each⟩, later⟩
      rcases exists_columnRank scale key.direction with ⟨Rank, _, rank, isRank⟩
      simp only [Precedes, isRank _ _ (standsOn_cellOf each left) (standsOn_cellOf each right),
        isRank _ _ (standsOn_cellOf each right) (standsOn_cellOf each left)] at precedes ⊢
      rintro (reversed | ⟨notBefore, reversed⟩)
      · rcases precedes with before | ⟨notReversed, _⟩
        · exact lt_asymm before reversed
        · exact notReversed reversed
      · rcases precedes with before | ⟨_, precedes⟩
        · exact notBefore before
        · exact induction later precedes reversed

theorem sortedIndices_cons {key : SortKey} {rows : List Nat} (known : key.column ∈ table.header) :
    sortedIndices table (key :: keys) = .ok rows ↔
      ∃ indices, sortedIndices table keys = .ok indices ∧
        sortBy (cellsOf table key) key.direction indices = .ok rows := by
  rcases Table.exists_column?_of_mem known with ⟨column, found⟩
  rw [sortedIndices, bind_eq_ok]
  simp only [found, cellsOf, Option.map_some, Option.getD_some]
  refine exists_congr fun indices => and_congr_right fun _ => ?_
  cases sortBy column.values key.direction indices <;>
    simp [Operation.stepFails, Outcome.fail, pure, Except.pure]

theorem length_cellsOf {key : SortKey} (known : key.column ∈ table.header) :
    (cellsOf table key).length = table.rowCount := by
  rcases Table.exists_column?_of_mem known with ⟨column, found⟩
  rw [cellsOf, found]
  exact table.aligned column (Table.column?_eq_some found).1

/-- A sort is a permutation of all rows. -/
theorem perm_sortedIndices (known : ∀ key ∈ keys, key.column ∈ table.header) {rows : List Nat}
    (sorted : sortedIndices table keys = .ok rows) : rows.Perm (List.range table.rowCount) := by
  induction keys generalizing rows with
  | nil =>
      cases sorted
      exact .refl _
  | cons key keys induction =>
      rcases List.forall_mem_cons.mp known with ⟨isKnown, later⟩
      rcases (sortedIndices_cons isKnown).mp sorted with ⟨indices, given, passed⟩
      rw [eq_of_sortBy passed]
      exact perm_presentInOrder.trans (induction later given)

/-- A sort of scalar cells succeeds exactly when those of each key compare. -/
theorem sortedIndices_succeeds_iff (known : ∀ key ∈ keys, key.column ∈ table.header)
    (scalar : ∀ key ∈ keys, ∀ cell ∈ cellsOf table key, cell.IsScalar) :
    (∃ rows, sortedIndices table keys = .ok rows) ↔
      ∀ key ∈ keys, Comparable (cellsOf table key) := by
  induction keys with
  | nil => exact ⟨fun _ => by simp, fun _ => ⟨_, rfl⟩⟩
  | cons key keys induction =>
      rcases List.forall_mem_cons.mp known with ⟨isKnown, knownLater⟩
      rcases List.forall_mem_cons.mp scalar with ⟨isScalar, scalarLater⟩
      have passes {indices : List Nat} (given : sortedIndices table keys = .ok indices) :
          (∃ rows, sortBy (cellsOf table key) key.direction indices = .ok rows) ↔
            Comparable (cellsOf table key) := by
        refine sortBy_succeeds_iff ?_ isScalar
        rw [length_cellsOf isKnown]
        exact perm_sortedIndices knownLater given
      rw [List.forall_mem_cons, ← induction knownLater scalarLater]
      simp only [sortedIndices_cons isKnown]
      constructor
      · rintro ⟨rows, indices, given, passed⟩
        exact ⟨(passes given).mp ⟨rows, passed⟩, indices, given⟩
      · rintro ⟨comparable, indices, given⟩
        rcases (passes given).mpr comparable with ⟨rows, passed⟩
        exact ⟨rows, indices, given, passed⟩

/-- The rows of a sort come one after the other in the order of its keys. -/
theorem pairwise_sortedIndices (known : ∀ key ∈ keys, key.column ∈ table.header)
    (comparable : ∀ key ∈ keys, Comparable (cellsOf table key)) {rows : List Nat}
    (sorted : sortedIndices table keys = .ok rows) : rows.Pairwise (Precedes table keys) := by
  induction keys generalizing rows with
  | nil =>
      cases sorted
      exact List.pairwise_lt_range
  | cons key keys induction =>
      rcases List.forall_mem_cons.mp known with ⟨isKnown, knownLater⟩
      rcases List.forall_mem_cons.mp comparable with ⟨isComparable, comparableLater⟩
      rcases (sortedIndices_cons isKnown).mp sorted with ⟨indices, given, passed⟩
      -- A pass keeps the order of ties, and theirs is the one of the keys after it.
      have distinct := (perm_sortedIndices knownLater given).nodup_iff.mpr List.nodup_range
      rw [eq_of_sortBy passed]
      exact pairwise_presentInOrder isComparable distinct (induction knownLater comparableLater given)

theorem sortedIndices_error (known : ∀ key ∈ keys, key.column ∈ table.header) {problem : Problem}
    (failed : sortedIndices table keys = .error problem) :
    ∃ column clash, problem = .failure (.step (.unorderable column clash)) none := by
  induction keys with
  | nil => cases failed
  | cons key keys induction =>
      rcases List.forall_mem_cons.mp known with ⟨isKnown, later⟩
      rcases Table.exists_column?_of_mem isKnown with ⟨column, found⟩
      rw [sortedIndices] at failed
      cases given : sortedIndices table keys with
      | error earlier =>
          rw [given] at failed
          cases failed
          exact induction later given
      | ok indices =>
          simp only [given, found, bind, Except.bind] at failed
          split at failed
          · cases failed
          · cases failed
            exact ⟨key.column, _, rfl⟩

end Rows

end Ordering

/-! ## Steps that sort -/

/-- The step that sorts by some keys. -/
def Step.sorting (keys : List SortKey) : Step :=
  .ofParams "order" [("keys", .list (keys.map fun key =>
    .list [.text key.column, .text key.direction.word]))]

theorem Step.validate_sorting {keys : List SortKey} {columns : List String} (given : keys ≠ [])
    (known : ∀ key ∈ keys, key.column ∈ columns) :
    (Step.sorting keys).validate (some columns) = .ok (.order keys) := by
  have param : (Step.sorting keys).param "keys" = .list (keys.map fun key =>
      .list [.text key.column, .text key.direction.word]) := by
    simp [sorting, ofParams, Step.param, param?, Datum.valueAt?]
  have readBack : (keys.map fun key => Datum.list [.text key.column, .text key.direction.word]).mapM
      Operation.sortKey = .ok keys := by
    rw [mapM_eq_ok, List.forall₂_map_left_iff, List.forall₂_same]
    rintro ⟨column, direction⟩ _
    cases direction <;> rfl
  have isStep : Operation.ofStep (Step.sorting keys) = .ok (.order keys) := by
    rw [Operation.ofStep_of_order rfl, Operation.ofOrder, param]
    cases keys with
    | nil => exact absurd rfl given
    | cons key keys =>
        rw [List.map_cons] at readBack ⊢
        simp only [readBack]
        rfl
  have checked : (Operation.order keys).checkColumns columns = .ok () := by
    have noneUnknown : (keys.map (·.column)).find? (!columns.contains ·) = none := by
      simpa [List.find?_eq_none] using known
    simp only [Operation.checkColumns, Operation.namedColumns, noneUnknown]
    rfl
  rw [Step.validate, isStep]
  simp only [bind, Except.bind, checked]
  rfl

/--
A step that sorts scalar cells succeeds exactly when the cells of each key compare.
Its result has the columns of the table, and its rows are the one arrangement of
all rows that is in the order of the keys. Otherwise the failure is a mismatch of
types.
-/
theorem Step.sorting_sorts_stably (relation : String) (table : Table) (keys : List SortKey)
    (given : keys ≠ []) (known : ∀ key ∈ keys, key.column ∈ table.header)
    (scalar : ∀ column ∈ table.columns, ∀ cell ∈ column.values, cell.IsScalar) :
    ((∃ result, (Step.sorting keys).apply relation table = .ok result) ↔
      ∀ key ∈ keys, Ordering.Comparable (Ordering.cellsOf table key)) ∧
    (∀ result, (Step.sorting keys).apply relation table = .ok result →
      result.types = table.types ∧
      ∃ order : List Nat, order.Perm (List.range table.rowCount) ∧
        order.Pairwise (Ordering.Precedes table keys) ∧
        (∀ other : List Nat, other.Perm (List.range table.rowCount) →
          other.Pairwise (Ordering.Precedes table keys) → other = order) ∧
        result.rows = order.map fun row => table.rows.getD row []) ∧
    ∀ problem, (Step.sorting keys).apply relation table = .error problem →
      ∃ cause, problem = .failure cause none ∧ cause.report.code = "E_TYPE_MISMATCH" := by
  have applied : (Step.sorting keys).apply relation table =
      (Ordering.sortedIndices table keys).map table.pick := by
    rw [Step.apply, Step.validate_sorting given known]
    cases sorted : Ordering.sortedIndices table keys <;>
      simp [Operation.run, sorted, bind, Except.bind, pure, Except.pure, Except.map]
  have scalarCells : ∀ key ∈ keys, ∀ cell ∈ Ordering.cellsOf table key, cell.IsScalar := by
    intro key member
    rcases Table.exists_column?_of_mem (known key member) with ⟨column, found⟩
    rw [Ordering.cellsOf, found]
    exact scalar column (Table.column?_eq_some found).1
  have succeeds := Ordering.sortedIndices_succeeds_iff known scalarCells
  rw [applied]
  cases sorted : Ordering.sortedIndices table keys with
  | error problem =>
      rw [← succeeds, sorted]
      refine ⟨by simp [Except.map], fun result made => (by cases made), fun other failed => ?_⟩
      cases failed
      rcases Ordering.sortedIndices_error known sorted with ⟨column, clash, rfl⟩
      exact ⟨_, rfl, rfl⟩
  | ok order =>
      have comparable := succeeds.mp ⟨order, sorted⟩
      have arranged := Ordering.perm_sortedIndices known sorted
      have inOrder := Ordering.pairwise_sortedIndices known comparable sorted
      refine ⟨⟨fun _ => comparable, fun _ => ⟨_, rfl⟩⟩, fun result made => ?_,
        fun other failed => (by cases failed)⟩
      cases made
      refine ⟨Table.types_pick table order, order, arranged, inOrder, ?_,
        Table.rows_pick fun row member => List.mem_range.mp (arranged.subset member)⟩
      intro other otherArranged otherInOrder
      refine List.Perm.eq_of_pairwise (fun left right _ _ precedes reversed => ?_) otherInOrder
        inOrder (otherArranged.trans arranged.symm)
      exact absurd reversed (Ordering.not_precedes_of_precedes comparable precedes)

/-- Ratings of which one is missing and two are the same. -/
def rated : Table where
  columns := [
    ⟨"name", .string, [.text "Cy", .text "Bo", .text "Di", .text "Al"]⟩,
    ⟨"rating", .integer, [.integer 2, .null, .boolean true, .integer 2]⟩]
  aligned := by decide
  distinct := by decide

def byRatingAndName : List SortKey := [⟨"rating", .descending⟩, ⟨"name", .ascending⟩]

theorem Step.sorting_sorts_ratings :
    (byRatingAndName ≠ [] ∧ (∀ key ∈ byRatingAndName, key.column ∈ rated.header) ∧
      ∀ column ∈ rated.columns, ∀ cell ∈ column.values, cell.IsScalar) ∧
    ∃ result, (Step.sorting byRatingAndName).apply "df" rated = .ok result ∧
      result.rows = [[.text "Al", .integer 2], [.text "Cy", .integer 2],
        [.text "Di", .boolean true], [.text "Bo", .null]] := by
  have known : ∀ key ∈ byRatingAndName, key.column ∈ rated.header := by decide
  have scalar : ∀ column ∈ rated.columns, ∀ cell ∈ column.values, cell.IsScalar := by decide
  have comparable : ∀ key ∈ byRatingAndName,
      Ordering.Comparable (Ordering.cellsOf rated key) := by
    simp only [byRatingAndName, List.forall_mem_cons]
    exact ⟨⟨.numbers, by decide⟩, ⟨.texts, by decide⟩, by simp⟩
  rcases Step.sorting_sorts_stably "df" rated byRatingAndName (by decide) known scalar with
    ⟨succeeds, sorts, _⟩
  rcases succeeds.mpr comparable with ⟨result, applied⟩
  rcases sorts result applied with ⟨_, order, _, _, only, rows⟩
  refine ⟨⟨by decide, known, scalar⟩, result, applied, ?_⟩
  rw [rows, ← only [3, 0, 2, 1] (by decide) (by decide +kernel)]
  decide

end TableBrowser
