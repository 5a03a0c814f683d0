import Mathlib.Data.List.Basic
import TableBrowser.Proofs.Datum.Scale
import TableBrowser.Proofs.Outcome
import TableBrowser.Proofs.StableSort
import TableBrowser.Proofs.Table.Rows
import TableBrowser.Proofs.Text.Similarity
import TableBrowser.Search
/-!
# Cells that are found

The cells of a view are gone through row by row, and those that hold a text or match a
pattern are found in this order. Similar cells come by falling score, in whatever
arithmetic their scores are computed. Main statement: with exact scores and a threshold
of at most one half, similarity finds every cell that contains the query, and the cells
that are equal to it before all others.
-/

namespace TableBrowser

/-! ## The order of cells -/

namespace Coordinate

variable {first second : Coordinate}

theorem before_iff : first.before second = true ↔
    first.row < second.row ∨ first.row = second.row ∧ first.column < second.column := by
  simp [before]

theorem ne_of_before (isBefore : first.before second = true) : first ≠ second := by
  rintro rfl
  simp [before] at isBefore

end Coordinate

namespace Table

def HasCell (view : Table) (cell : Coordinate) : Prop :=
  cell.row < view.rowCount ∧ cell.column < view.columnCount

def textAt (view : Table) (cell : Coordinate) : String :=
  (view.cellAt cell.row cell.column).cellText

end Table

/-! ## Parts of texts -/

theorem Text.occursIn_iff {part chars : List Char} :
    Text.occursIn part chars = true ↔ part <:+: chars := by
  induction chars with
  | nil => simp [Text.occursIn]
  | cons char chars induction =>
      simp [Text.occursIn, induction, List.infix_cons_iff]

/-! ## The order of scores -/

/-- Where a number stands on the line; what is not a number stands at its lower end. -/
def Binary64.rank (number : Binary64) : Datum.Line := number.place?.elim ⊥ Datum.rankOfPlace

namespace Text.Arithmetic

variable {Number Rank : Type} [LinearOrder Rank]

/-- Numbers that reach one threshold are compared by their ranks. -/
def Ordered (arithmetic : Arithmetic Number) (rank : Number → Rank) : Prop :=
  ∀ {least left right : Number}, arithmetic.lessEq least left = true →
    arithmetic.lessEq least right = true →
      arithmetic.lessEq left right = decide (rank left ≤ rank right)

theorem ordered_exact : exact.Ordered id := fun _ _ => rfl

theorem exists_place_of_lessEq {least number : Binary64} (reaches : least.lessEq number = true) :
    ∃ place, number.place? = some place := by
  cases isPlace : number.place? with
  | some place => exact ⟨place, rfl⟩
  | none =>
      cases isLeast : least.place? <;> simp [Binary64.lessEq, isPlace, isLeast] at reaches

theorem ordered_rounded : rounded.Ordered Binary64.rank := by
  intro least left right reachesLeft reachesRight
  rcases exists_place_of_lessEq reachesLeft with ⟨leftPlace, isLeft⟩
  rcases exists_place_of_lessEq reachesRight with ⟨rightPlace, isRight⟩
  rw [Bool.eq_iff_iff, decide_eq_true_iff, ← not_lt, Binary64.rank, Binary64.rank]
  simp only [rounded, Binary64.lessEq, isLeft, isRight, Option.elim_some, Bool.not_eq_true',
    ← Bool.not_eq_true, Datum.lt_iff_rankOfPlace]

end Text.Arithmetic

namespace Search

open Text (Arithmetic exactScore folded)

variable {view : Table}

/-! ## Row by row -/

theorem cells_eq (view : Table) : cells view =
    (List.range view.rowCount).flatMap fun row => (List.range view.columnCount).map fun column =>
      (⟨row, column⟩, view.textAt ⟨row, column⟩) := by
  rw [cells, Table.zipIdx_rows, List.flatMap_map]
  refine List.flatMap_congr fun row isRow => ?_
  rw [Table.rowAt_eq_map (List.mem_range.mp isRow)]
  refine List.ext_getElem (by simp [Table.columnCount]) fun column inBounds _ => ?_
  have isColumn : column < view.columns.length := by simpa using inBounds
  simp [Table.textAt, Table.cellAt, isColumn]

theorem mem_cells_iff {cell : Coordinate} {text : String} :
    (cell, text) ∈ cells view ↔ view.HasCell cell ∧ view.textAt cell = text := by
  rw [cells_eq]
  simp only [List.mem_flatMap, List.mem_map, List.mem_range, Prod.mk.injEq]
  constructor
  · rintro ⟨row, isRow, column, isColumn, rfl, isText⟩
    exact ⟨⟨isRow, isColumn⟩, isText⟩
  · rintro ⟨⟨isRow, isColumn⟩, isText⟩
    exact ⟨cell.row, isRow, cell.column, isColumn, rfl, isText⟩

theorem pairwise_cells (view : Table) :
    (cells view).Pairwise fun left right => left.1.before right.1 = true := by
  simp only [cells_eq, List.pairwise_flatMap, List.pairwise_map, Coordinate.before_iff]
  refine ⟨fun row _ => List.pairwise_lt_range.imp fun earlier => .inr ⟨trivial, earlier⟩, ?_⟩
  refine List.pairwise_lt_range.imp fun {row later} earlier left isLeft right isRight => .inl ?_
  rcases List.mem_map.mp isLeft with ⟨_, _, rfl⟩
  rcases List.mem_map.mp isRight with ⟨_, _, rfl⟩
  exact earlier

/-! ## Cells with a text -/

theorem mem_cellsWhere_iff {holds : String → Bool} {cell : Coordinate} :
    cell ∈ cellsWhere holds view ↔ view.HasCell cell ∧ holds (view.textAt cell) = true := by
  simp only [cellsWhere, List.mem_map, List.mem_filter, Prod.exists, mem_cells_iff]
  constructor
  · rintro ⟨_, _, ⟨⟨isCell, rfl⟩, isHeld⟩, rfl⟩
    exact ⟨isCell, isHeld⟩
  · rintro ⟨isCell, isHeld⟩
    exact ⟨cell, _, ⟨⟨isCell, rfl⟩, isHeld⟩, rfl⟩

theorem pairwise_cellsWhere (holds : String → Bool) (view : Table) :
    (cellsWhere holds view).Pairwise fun left right => left.before right = true :=
  List.pairwise_map.mpr ((pairwise_cells view).filter _)

theorem nodup_of_pairwise_before {found : List Coordinate}
    (inOrder : found.Pairwise fun left right => left.before right = true) : found.Nodup :=
  inOrder.imp Coordinate.ne_of_before

theorem containing_eq (caseSensitive : Bool) (query : String) (view : Table) :
    containing caseSensitive query view = cellsWhere (fun text =>
      Text.occursIn (Text.folded caseSensitive query) (Text.folded caseSensitive text)) view := rfl

variable {Number Rank : Type} [LinearOrder Rank]

/-! ## Searching in an arithmetic -/

def similarToIn (arithmetic : Arithmetic Number) (caseSensitive : Bool) (query : String)
    (threshold : Number) (view : Table) : List Coordinate :=
  let scored := ((cells view).filter fun (_, text) => !text.isEmpty).map
    fun (coordinate, text) => (arithmetic.similarity caseSensitive query text, coordinate)
  let good := scored.filter fun (score, _) => arithmetic.lessEq threshold score
  (good.mergeSort fun left right => arithmetic.lessEq right.1 left.1).map (·.2)

/-- The cells that a query finds when scores are computed in some arithmetic. -/
def findIn (arithmetic : Arithmetic Number) (threshold : Number) (query : Query) (view : Table) :
    Outcome (List Coordinate) :=
  if query.text.isEmpty then return []
  else match query.mode with
    | .literal => return containing query.caseSensitive query.text view
    | .regex => do
        let pattern ← pattern query.caseSensitive query.text
        return cellsWhere pattern.occursIn view
    | .fuzzy => return similarToIn arithmetic query.caseSensitive query.text threshold view

theorem similarToIn_rounded (caseSensitive : Bool) (query : String) (threshold : Binary64)
    (view : Table) :
    similarToIn .rounded caseSensitive query threshold view =
      similarTo caseSensitive query threshold view := by
  simp only [similarToIn, Arithmetic.similarity_rounded]
  rfl

/-- A search computes its scores in the arithmetic of the 64-bit format. -/
theorem findIn_rounded (threshold : Binary64) (query : Query) (view : Table) :
    findIn .rounded threshold query view = find threshold query view := by
  simp only [findIn, similarToIn_rounded]
  rfl

/-- What is found are the cells where something holds of the text, or similar cells. -/
theorem find_cases {threshold : Binary64} {query : Query} {found : List Coordinate}
    (finds : find threshold query view = .ok found) (notEmpty : found ≠ []) :
    (query.mode ≠ .fuzzy ∧ ∃ holds, found = cellsWhere holds view) ∨
      (query.mode = .fuzzy ∧
        found = similarToIn .rounded query.caseSensitive query.text threshold view) := by
  rw [find] at finds
  split at finds
  · exact absurd (Except.ok.inj finds).symm notEmpty
  · split at finds
    · next isLiteral =>
      exact .inl ⟨by simp [isLiteral], _, (Except.ok.inj finds).symm.trans (containing_eq _ _ view)⟩
    · next isRegex =>
      rcases bind_eq_ok.mp finds with ⟨pattern, _, made⟩
      exact .inl ⟨by simp [isRegex], _, (Except.ok.inj made).symm⟩
    · next isFuzzy =>
      rw [similarToIn_rounded]
      exact .inr ⟨isFuzzy, (Except.ok.inj finds).symm⟩

/-! ## By falling score -/

section Ranked

variable {arithmetic : Arithmetic Number} {caseSensitive : Bool} {query : String}
variable {threshold : Number} {view : Table}

/-- The score of a cell. -/
def scoreIn (arithmetic : Arithmetic Number) (caseSensitive : Bool) (query : String) (view : Table)
    (cell : Coordinate) : Number :=
  arithmetic.similarity caseSensitive query (view.textAt cell)

/-- Cells that are not empty and reach the threshold, with their scores, row by row. -/
def scored (arithmetic : Arithmetic Number) (caseSensitive : Bool) (query : String)
    (threshold : Number) (view : Table) : List (Number × Coordinate) :=
  (((cells view).filter fun (_, text) => !text.isEmpty).map fun (coordinate, text) =>
    (arithmetic.similarity caseSensitive query text, coordinate)).filter fun (score, _) =>
      arithmetic.lessEq threshold score

theorem mem_scored_iff {score : Number} {cell : Coordinate} :
    (score, cell) ∈ scored arithmetic caseSensitive query threshold view ↔
      view.HasCell cell ∧ view.textAt cell ≠ "" ∧
        score = scoreIn arithmetic caseSensitive query view cell ∧
          arithmetic.lessEq threshold score = true := by
  simp only [scored, List.mem_filter, List.mem_map, Prod.exists, Prod.mk.injEq, mem_cells_iff]
  constructor
  · rintro ⟨⟨_, text, ⟨⟨isCell, isText⟩, notEmpty⟩, isScore, rfl⟩, reaches⟩
    rw [← isText] at notEmpty isScore
    exact ⟨isCell, by simpa using notEmpty, isScore.symm, reaches⟩
  · rintro ⟨isCell, notEmpty, isScore, reaches⟩
    exact ⟨⟨cell, _, ⟨⟨isCell, rfl⟩, by simpa using notEmpty⟩, isScore.symm, rfl⟩, reaches⟩

theorem pairwise_scored : (scored arithmetic caseSensitive query threshold view).Pairwise
    fun left right => left.2.before right.2 = true :=
  (List.pairwise_map.mpr ((pairwise_cells view).filter _)).filter _

theorem mem_similarToIn_iff {cell : Coordinate} :
    cell ∈ similarToIn arithmetic caseSensitive query threshold view ↔
      view.HasCell cell ∧ view.textAt cell ≠ "" ∧
        arithmetic.lessEq threshold (scoreIn arithmetic caseSensitive query view cell) = true := by
  change cell ∈ ((scored arithmetic caseSensitive query threshold view).mergeSort _).map _ ↔ _
  simp only [List.mem_map, List.mem_mergeSort, Prod.exists, mem_scored_iff]
  constructor
  · rintro ⟨_, _, ⟨isCell, notEmpty, rfl, reaches⟩, rfl⟩
    exact ⟨isCell, notEmpty, reaches⟩
  · rintro ⟨isCell, notEmpty, reaches⟩
    exact ⟨_, cell, ⟨isCell, notEmpty, rfl, reaches⟩, rfl⟩

/-- A higher score comes first, and of one score what stands first in the view. -/
theorem pairwise_similarToIn {rank : Number → Rank} (ordered : arithmetic.Ordered rank) :
    let score := scoreIn arithmetic caseSensitive query view
    (similarToIn arithmetic caseSensitive query threshold view).Pairwise fun left right =>
      rank (score right) < rank (score left) ∨
        rank (score left) = rank (score right) ∧ left.before right = true := by
  intro score
  have isScore {item : Number × Coordinate}
      (member : item ∈ scored arithmetic caseSensitive query threshold view) :
      item.1 = score item.2 ∧ arithmetic.lessEq threshold item.1 = true :=
    (mem_scored_iff.mp member).2.2
  have distinct : (scored arithmetic caseSensitive query threshold view).Nodup := by
    refine pairwise_scored.imp fun isBefore same => ?_
    exact Coordinate.ne_of_before isBefore (congrArg Prod.snd same)
  have isRank : ∀ left ∈ scored arithmetic caseSensitive query threshold view,
      ∀ right ∈ scored arithmetic caseSensitive query threshold view,
        arithmetic.lessEq right.1 left.1 =
          decide (OrderDual.toDual (rank left.1) ≤ OrderDual.toDual (rank right.1)) :=
    fun left isLeft right isRight => ordered (isScore isRight).2 (isScore isLeft).2
  have sorted := pairwise_mergeSort_of_rank (fun item => OrderDual.toDual (rank item.1)) isRank
    distinct pairwise_scored
  refine List.pairwise_map.mpr (sorted.imp_of_mem fun {left right} isLeft isRight earlier => ?_)
  rw [← (isScore (List.mem_mergeSort.mp isLeft)).1, ← (isScore (List.mem_mergeSort.mp isRight)).1]
  rcases earlier with higher | ⟨notHigher, isBefore⟩
  · exact .inl higher
  · have notLower : rank right.1 ≤ rank left.1 := not_lt.mp notHigher
    exact notLower.lt_or_eq.imp id fun same => ⟨same.symm, isBefore⟩

theorem nodup_similarToIn {rank : Number → Rank} (ordered : arithmetic.Ordered rank) :
    (similarToIn arithmetic caseSensitive query threshold view).Nodup := by
  refine (pairwise_similarToIn ordered).imp fun earlier same => ?_
  rcases earlier with higher | ⟨_, isBefore⟩
  · rw [same] at higher
    exact lt_irrefl _ higher
  · exact Coordinate.ne_of_before isBefore same

end Ranked

/-- Whatever the query, cells are found once each, and all are in the view. -/
theorem nodup_and_hasCell_of_find {threshold : Binary64} {query : Query}
    {found : List Coordinate} (finds : find threshold query view = .ok found) :
    found.Nodup ∧ ∀ cell ∈ found, view.HasCell cell := by
  by_cases isEmpty : found = []
  · simp [isEmpty]
  · rcases find_cases finds isEmpty with ⟨_, holds, rfl⟩ | ⟨_, rfl⟩
    · exact ⟨nodup_of_pairwise_before (pairwise_cellsWhere holds view),
        fun cell member => (mem_cellsWhere_iff.mp member).1⟩
    · exact ⟨nodup_similarToIn Arithmetic.ordered_rounded,
        fun cell member => (mem_similarToIn_iff.mp member).1⟩

/-! ## Exact scores -/

section Exact

variable {caseSensitive : Bool} {query : String} {threshold : ℚ} {view : Table} {cell : Coordinate}

/-- The text of a cell is the query, up to letters that do not count. -/
def Equals (caseSensitive : Bool) (query : String) (view : Table) (cell : Coordinate) : Prop :=
  folded caseSensitive query = folded caseSensitive (view.textAt cell)

theorem scoreIn_exact (caseSensitive : Bool) (query : String) (view : Table) (cell : Coordinate) :
    scoreIn .exact caseSensitive query view cell =
      (exactScore (folded caseSensitive query) (folded caseSensitive (view.textAt cell))).value :=
  Arithmetic.score_exact _ _

theorem scoreIn_exact_le_one (given : query ≠ "") (view : Table) (cell : Coordinate) :
    scoreIn .exact caseSensitive query view cell ≤ 1 :=
  (scoreIn_exact ..).trans_le
    (Text.value_exactScore_le_one (Text.folded_eq_nil_iff.not.mpr given) _)

theorem scoreIn_exact_eq_one_iff (given : query ≠ "") :
    scoreIn .exact caseSensitive query view cell = 1 ↔ Equals caseSensitive query view cell := by
  rw [scoreIn_exact]
  exact Text.value_exactScore_eq_one_iff (Text.folded_eq_nil_iff.not.mpr given)

/-- A part of a text is spread over it, and so it scores above one half. -/
theorem mem_similarToIn_of_containing (given : query ≠ "") (low : threshold ≤ 1 / 2)
    (contains : cell ∈ containing caseSensitive query view) :
    cell ∈ similarToIn .exact caseSensitive query threshold view := by
  rw [containing_eq, mem_cellsWhere_iff, Text.occursIn_iff] at contains
  rcases contains with ⟨isCell, isPart⟩
  have isGiven : folded caseSensitive query ≠ [] := Text.folded_eq_nil_iff.not.mpr given
  refine mem_similarToIn_iff.mpr ⟨isCell, ?_, decide_eq_true ?_⟩
  · intro isEmpty
    rw [isEmpty, Text.folded_eq_nil_iff.mpr rfl] at isPart
    exact isGiven (List.infix_nil.mp isPart)
  · rw [scoreIn_exact]
    exact low.trans (Text.half_lt_value_exactScore isGiven isPart.sublist).le

end Exact

/--
With exact scores and a threshold of at most one half, every cell that contains the query
is similar to it. Similar cells are found once each and by falling score, those with the
text of the query before all others and cells of one score row by row.
-/
theorem similar_covers_containing (view : Table) {query : String} (given : query ≠ "")
    (caseSensitive : Bool) {threshold : ℚ} (low : threshold ≤ 1 / 2) :
    let score := scoreIn .exact caseSensitive query view
    ∃ literal fuzzy, findIn .exact threshold ⟨query, .literal, caseSensitive⟩ view = .ok literal ∧
      findIn .exact threshold ⟨query, .fuzzy, caseSensitive⟩ view = .ok fuzzy ∧
      (∀ cell ∈ literal, cell ∈ fuzzy) ∧ fuzzy.Nodup ∧
      fuzzy.Pairwise (fun earlier later => score later ≤ score earlier) ∧
      fuzzy.Pairwise (fun earlier later =>
        Equals caseSensitive query view later → Equals caseSensitive query view earlier) ∧
      fuzzy.Pairwise (fun earlier later =>
        score earlier = score later → earlier.before later = true) := by
  intro score
  have notEmpty : query.isEmpty = false := by simpa using given
  have ranked : (similarToIn .exact caseSensitive query threshold view).Pairwise fun left right =>
      score right < score left ∨ score left = score right ∧ left.before right = true :=
    pairwise_similarToIn Arithmetic.ordered_exact
  refine ⟨containing caseSensitive query view, similarToIn .exact caseSensitive query threshold view,
    by simp [findIn, notEmpty, pure, Except.pure], by simp [findIn, notEmpty, pure, Except.pure],
    fun cell contains => mem_similarToIn_of_containing given low contains,
    nodup_similarToIn Arithmetic.ordered_exact, ?_, ?_, ?_⟩
  · exact ranked.imp fun earlier => earlier.elim (·.le) (·.1.ge)
  · refine ranked.imp fun {left right} earlier isEqual => ?_
    have isOne : score right = 1 := (scoreIn_exact_eq_one_iff given).mpr isEqual
    have atMost : score left ≤ 1 := scoreIn_exact_le_one given view left
    refine (scoreIn_exact_eq_one_iff given).mp (le_antisymm atMost ?_)
    rw [← isOne]
    exact earlier.elim (·.le) (·.1.ge)
  · exact ranked.imp fun earlier same => (earlier.resolve_left fun higher => higher.ne' same).2

def names : Table where
  columns := [⟨"name", .string, [.text "John", .text "Jo", .text "Banjo", .null]⟩]
  aligned := by decide
  distinct := by decide

/-- All names that hold the query are similar to it, also the one that is longest. -/
theorem similar_covers_names : "jo" ≠ "" ∧ (1 / 2 : ℚ) ≤ 1 / 2 ∧
    ∃ fuzzy, findIn .exact (1 / 2) ⟨"jo", .fuzzy, false⟩ names = .ok fuzzy ∧
      ⟨0, 0⟩ ∈ fuzzy ∧ ⟨1, 0⟩ ∈ fuzzy ∧ ⟨2, 0⟩ ∈ fuzzy ∧ fuzzy.Nodup ∧
      fuzzy.Pairwise fun earlier later => Equals false "jo" names later →
        Equals false "jo" names earlier := by
  have given : "jo" ≠ "" := by decide
  have low : (1 / 2 : ℚ) ≤ 1 / 2 := le_refl _
  rcases similar_covers_containing names given false low with
    ⟨literal, fuzzy, isLiteral, isFuzzy, covers, distinct, _, equalFirst, _⟩
  have isContaining : literal = [⟨0, 0⟩, ⟨1, 0⟩, ⟨2, 0⟩] := by
    rw [← Except.ok.inj isLiteral]
    decide
  rw [isContaining] at covers
  exact ⟨given, low, fuzzy, isFuzzy, covers _ (by simp), covers _ (by simp), covers _ (by simp),
    distinct, equalFirst⟩

end Search

end TableBrowser
