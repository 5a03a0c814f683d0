import TableBrowser.Proofs.Datum.Scale
import TableBrowser.Proofs.Outcome
import TableBrowser.Table.Basic
/-!
# Ranges of columns

The smallest and the largest cell of a column are found exactly when its cells stand
on one scale. Main statement: then no cell comes before the smallest one, and the
largest one comes before no cell.
-/

namespace TableBrowser

theorem Datum.mem_filter_present {data : List Datum} {datum : Datum} :
    datum ∈ data.filter (!·.isNull) ↔ datum ∈ data ∧ datum.isNull = false := by
  rw [List.mem_filter, Bool.not_eq_true']

namespace Column

section Least

variable {before : Datum → Datum → Except Clash Bool} {scale : Scale}

/-- Data of one scale have a first one in the order of ranks. -/
theorem exists_least {Rank : Type} [LinearOrder Rank] {rank : Datum → Rank}
    (compared : ∀ left right : Datum, left.scale? = some scale → right.scale? = some scale →
      ∃ isBefore, before left right = .ok isBefore ∧ (isBefore = true ↔ rank left < rank right))
    {best : Datum} {data : List Datum} (stand : ∀ datum ∈ best :: data, datum.scale? = some scale) :
    ∃ datum ∈ best :: data, least before best data = .ok datum ∧
      ∀ other ∈ best :: data, before other datum = .ok false := by
  have notBefore {left right : Datum} (isLeft : left.scale? = some scale)
      (isRight : right.scale? = some scale) (notBelow : rank right ≤ rank left) :
      before left right = .ok false := by
    rcases compared left right isLeft isRight with ⟨isBefore, same, before_iff⟩
    rw [same, Bool.eq_false_of_not_eq_true fun below => notBelow.not_gt (before_iff.mp below)]
  suffices found : ∃ datum ∈ best :: data, least before best data = .ok datum ∧
      ∀ other ∈ best :: data, rank datum ≤ rank other by
    rcases found with ⟨datum, member, isLeast, lowest⟩
    exact ⟨datum, member, isLeast, fun other isOther =>
      notBefore (stand other isOther) (stand datum member) (lowest other isOther)⟩
  induction data generalizing best with
  | nil => exact ⟨best, List.mem_cons_self, rfl, by simp⟩
  | cons next data induction =>
      simp only [List.forall_mem_cons] at stand
      rcases stand with ⟨isBest, isNext, later⟩
      rcases compared next best isNext isBest with ⟨isBefore, same, before_iff⟩
      rw [least, same]
      cases isBefore with
      | true =>
          rcases induction (List.forall_mem_cons.mpr ⟨isNext, later⟩) with
            ⟨datum, member, isLeast, lowest⟩
          refine ⟨datum, List.mem_cons_of_mem _ member, isLeast, List.forall_mem_cons.mpr ⟨?_, lowest⟩⟩
          exact (lowest next List.mem_cons_self).trans (before_iff.mp rfl).le
      | false =>
          rcases induction (List.forall_mem_cons.mpr ⟨isBest, later⟩) with
            ⟨datum, member, isLeast, lowest⟩
          rw [List.forall_mem_cons] at lowest
          have nextAbove : rank best ≤ rank next := not_lt.mp fun below => by cases before_iff.mpr below
          refine ⟨datum, ?_, isLeast, ?_⟩
          · exact (List.mem_cons.mp member).elim (by rintro rfl; simp) (by simp +contextual)
          · simp only [List.forall_mem_cons]
            exact ⟨lowest.1, lowest.1.trans nextAbove, lowest.2⟩

/-- To find the first of some data is to compare each of them with one that was found before. -/
theorem scale_of_least {best datum : Datum} {data : List Datum} (isBest : best.scale? = some scale)
    (stand : ∀ other ∈ data, other.scale?.isSome = true)
    (isLeast : least Datum.less best data = .ok datum) :
    ∀ other ∈ data, other.scale? = some scale := by
  induction data generalizing best with
  | nil => simp
  | cons next data induction =>
      rw [List.forall_mem_cons] at stand
      rcases Option.isSome_iff_exists.mp stand.1 with ⟨nextScale, isNext⟩
      rcases bind_eq_ok.mp isLeast with ⟨isBefore, compared, rest⟩
      cases Datum.scale_eq_of_less compared isNext isBest
      refine List.forall_mem_cons.mpr ⟨isNext, ?_⟩
      cases isBefore with
      | true => exact induction isNext stand.2 rest
      | false => exact induction isBest stand.2 rest

end Least

variable {column : Column}

/-- All cells that are not null stand on the scale. -/
def OnScale (scale : Scale) (column : Column) : Prop :=
  ∀ cell ∈ column.values, cell.isNull = false → cell.scale? = some scale

/-- No cell that is not null lies beyond two of them. -/
structure IsRange (column : Column) (smallest largest : Datum) : Prop where
  smallest_mem : smallest ∈ column.values ∧ smallest.isNull = false
  largest_mem : largest ∈ column.values ∧ largest.isNull = false
  notBelow : ∀ cell ∈ column.values, cell.isNull = false → cell.less smallest = .ok false
  notAbove : ∀ cell ∈ column.values, cell.isNull = false → largest.less cell = .ok false

theorem exists_bounds {scale : Scale} (onScale : column.OnScale scale)
    (present : ∃ cell ∈ column.values, cell.isNull = false) :
    ∃ smallest largest, column.bounds = some (smallest, largest) ∧ column.IsRange smallest largest := by
  have mem_present {cell : Datum} : cell ∈ column.values.filter (!·.isNull) ↔
      cell ∈ column.values ∧ cell.isNull = false :=
    Datum.mem_filter_present
  rcases Datum.exists_rank scale with ⟨Rank, _, rank, compared⟩
  unfold bounds
  cases isPresent : column.values.filter (!·.isNull) with
  | nil =>
      rcases present with ⟨cell, isCell⟩
      rw [← mem_present, isPresent] at isCell
      cases isCell
  | cons first rest =>
      rw [isPresent] at mem_present
      have stand : ∀ cell ∈ first :: rest, cell.scale? = some scale := by
        intro cell member
        exact onScale cell (mem_present.mp member).1 (mem_present.mp member).2
      have greaterCompared (left right : Datum) (isLeft : left.scale? = some scale)
          (isRight : right.scale? = some scale) : ∃ isBefore, right.less left = .ok isBefore ∧
            (isBefore = true ↔ OrderDual.toDual (rank left) < OrderDual.toDual (rank right)) :=
        (compared right left isRight isLeft).1
      rcases exists_least (fun left right isLeft isRight => (compared left right isLeft isRight).1) stand
        with ⟨smallest, smallest_mem, isSmallest, notBelow⟩
      rcases exists_least greaterCompared stand with ⟨largest, largest_mem, isLargest, notAbove⟩
      refine ⟨smallest, largest, by simp only [isSmallest, isLargest], mem_present.mp smallest_mem,
        mem_present.mp largest_mem, ?_, ?_⟩
      · exact fun cell isCell notNull => notBelow cell (mem_present.mpr ⟨isCell, notNull⟩)
      · exact fun cell isCell notNull => notAbove cell (mem_present.mpr ⟨isCell, notNull⟩)

/-- A column with a range has its cells on one scale. -/
theorem onScale_of_bounds (scalar : ∀ cell ∈ column.values, cell.IsScalar) {ends : Datum × Datum}
    (found : column.bounds = some ends) : ∃ scale, column.OnScale scale := by
  have stand : ∀ cell ∈ column.values.filter (!·.isNull), cell.scale?.isSome = true := by
    intro cell member
    rw [Datum.mem_filter_present] at member
    exact (scalar cell member.1).resolve_left (by simp [member.2])
  unfold bounds at found
  cases isPresent : column.values.filter (!·.isNull) with
  | nil =>
      rw [isPresent] at found
      cases found
  | cons first rest =>
      rw [isPresent, List.forall_mem_cons] at stand
      simp only [isPresent] at found
      split at found
      · next smallest _ isSmallest _ =>
        rcases Option.isSome_iff_exists.mp stand.1 with ⟨scale, isFirst⟩
        refine ⟨scale, fun cell isCell notNull => ?_⟩
        have member : cell ∈ column.values.filter (!·.isNull) :=
          Datum.mem_filter_present.mpr ⟨isCell, notNull⟩
        rw [isPresent] at member
        rcases List.mem_cons.mp member with rfl | later
        · exact isFirst
        · exact scale_of_least isFirst stand.2 isSmallest cell later
      · cases found

end Column

end TableBrowser
