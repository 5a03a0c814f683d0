import TableBrowser.Proofs.Storage.Retyping
import TableBrowser.Storage.Source
/-!
# Well-typed tables

The cells of a column are nulls or what its type says; a column of text may hold
anything. Types that are found from cells admit these cells, so the tables that
sources are loaded as are well-typed, and so is what is picked from them.
-/

namespace TableBrowser

namespace ColumnType

/-- The cells that a column of a type may hold. -/
def admits : ColumnType → Datum → Bool
  | _, .null => true
  | .string, _ => true
  | .integer, .integer _ => true
  | .number, .integer _ | .number, .number _ => true
  | .boolean, .boolean _ => true
  | .datetime, .date _ | .datetime, .moment _ | .datetime, .time _ => true
  | _, _ => false

example : number.admits (.integer 1) = true := rfl
example : integer.admits (.boolean true) = false := rfl

/-- A column of the first type may hold all that one of the second may. -/
def covers (wide narrow : ColumnType) : Bool :=
  narrow == .null || wide == .string || wide == narrow || (wide == .number && narrow == .integer)

theorem admits_eq_covers (type : ColumnType) (datum : Datum) :
    type.admits datum = type.covers (ofDatum datum) := by
  cases type <;> cases datum <;> rfl

theorem covers_self (type : ColumnType) : type.covers type = true := by
  cases type <;> rfl

theorem covers_join_left (left right : ColumnType) : (left.join right).covers left = true := by
  cases left <;> cases right <;> rfl

theorem covers_join_right (left right : ColumnType) : (left.join right).covers right = true := by
  cases left <;> cases right <;> rfl

theorem covers_trans {wide middle narrow : ColumnType} (first : wide.covers middle = true)
    (second : middle.covers narrow = true) : wide.covers narrow = true := by
  revert first second
  cases wide <;> cases middle <;> cases narrow <;> decide

theorem foldl_join_covers (start : ColumnType) (data : List Datum) :
    (data.foldl (fun joined datum => joined.join (ofDatum datum)) start).covers start = true ∧
      ∀ datum ∈ data, (data.foldl (fun joined datum => joined.join (ofDatum datum)) start).covers
        (ofDatum datum) = true := by
  induction data generalizing start with
  | nil => exact ⟨covers_self start, nofun⟩
  | cons first data induction =>
      rcases induction (start.join (ofDatum first)) with ⟨later, each⟩
      refine ⟨covers_trans later (covers_join_left ..), fun datum member => ?_⟩
      rcases List.mem_cons.mp member with rfl | member
      · exact covers_trans later (covers_join_right ..)
      · exact each datum member

/-- The type that is found from data admits them. -/
theorem admits_ofData {data : List Datum} {datum : Datum} (member : datum ∈ data) :
    (ofData data).admits datum = true := by
  rw [admits_eq_covers]
  exact (foldl_join_covers .null data).2 datum member

theorem admits_null (type : ColumnType) : type.admits .null = true := by
  cases type <;> rfl

theorem isNull_of_admits {datum : Datum} (admitted : null.admits datum = true) :
    datum = .null := by
  cases datum <;> first | rfl | cases admitted

end ColumnType

/-! ## Columns and tables -/

/-- Every cell is one that the type of the column admits. -/
def Column.WellTyped (column : Column) : Prop :=
  ∀ cell ∈ column.values, column.type.admits cell = true

instance (column : Column) : Decidable column.WellTyped :=
  inferInstanceAs (Decidable (∀ cell ∈ column.values, _))

def Table.WellTyped (table : Table) : Prop := ∀ column ∈ table.columns, column.WellTyped

instance (table : Table) : Decidable table.WellTyped :=
  inferInstanceAs (Decidable (∀ column ∈ table.columns, _))

/-- The type that is found for a column of raw cells admits the cells that are made of them. -/
theorem Inference.admits_column (given : List Datum) :
    ∀ cell ∈ (column given).2, (column given).1.admits cell = true := by
  have typing : Typing given (column given) := typing_iff.mpr rfl
  generalize column given = result at typing
  cases typing with
  | blank nulls =>
      intro cell member
      have isNull := List.all_eq_true.mp nulls cell member
      cases cell <;> first | rfl | cases isNull
  | mixed => exact fun cell => ColumnType.admits_ofData
  | read _ _ placed isRead =>
      rcases Reading.column?_eq_some.mp isRead with ⟨values, areRead, accepted, rfl⟩
      intro cell member
      rcases null_or_keeps placed areRead accepted cell member with rfl | keeps
      · exact ColumnType.admits_null _
      · rw [ColumnType.admits_eq_covers, ofDatum_of_read (by simp [placed]) keeps.reads]
        exact ColumnType.covers_self _
  | kept =>
      intro cell _
      cases cell <;> rfl

namespace Table

theorem wellTyped_of_ofColumns {columns : List Column} {table : Table}
    (made : ofColumns columns = .ok table) (typed : ∀ column ∈ columns, column.WellTyped) :
    table.WellTyped := by
  unfold ofColumns at made
  split at made
  · split at made
    · cases made
      exact typed
    · cases made
  · cases made

/-- Rows whose types are not given are well-typed. -/
theorem wellTyped_of_ofRows {header : List String} {rows : List (List Datum)} {table : Table}
    (made : ofRows header rows [] = .ok table) : table.WellTyped := by
  refine wellTyped_of_ofColumns made fun column member => ?_
  rcases List.mem_mapIdx.mp member with ⟨index, inBounds, rfl⟩
  exact fun cell => ColumnType.admits_ofData

theorem WellTyped.pick {table : Table} (typed : table.WellTyped) (indices : List Nat) :
    (table.pick indices).WellTyped := by
  intro column member
  rcases List.mem_map.mp member with ⟨given, isGiven, rfl⟩
  intro cell isCell
  rcases List.mem_map.mp isCell with ⟨index, _, rfl⟩
  rw [List.getElem?_toArray]
  cases found : given.values[index]? with
  | none => exact ColumnType.admits_null _
  | some value => exact typed given isGiven value (List.mem_of_getElem? found)

theorem WellTyped.project {table result : Table} (typed : table.WellTyped) {names : List String}
    (made : table.project names = .ok result) : result.WellTyped := by
  rcases bind_eq_ok.mp made with ⟨columns, found, isTable⟩
  have fromTable : ∀ column ∈ columns, column.WellTyped := by
    intro column member
    rcases exists_of_forall₂ (mapM_eq_ok.mp found).flip member with ⟨name, _, isFound⟩
    cases inTable : table.column? name with
    | none =>
        simp only [inTable] at isFound
        cases isFound
    | some other =>
        simp only [inTable] at isFound
        cases isFound
        exact typed column (List.mem_of_find?_eq_some inTable)
  split at isTable
  next projected =>
    cases isTable
    exact wellTyped_of_ofColumns projected fromTable
  next => cases isTable

end Table

/-! ## Sources -/

namespace Source

theorem admits_typed (format : Format) (cells : List Datum) :
    ∀ cell ∈ (typed format cells).2, (typed format cells).1.admits cell = true := by
  have datums : ∀ cell ∈ (if ColumnType.ofData cells = .string then Inference.column cells
      else (ColumnType.ofData cells, cells)).2, (if ColumnType.ofData cells = .string then
        Inference.column cells else (ColumnType.ofData cells, cells)).1.admits cell = true := by
    split
    · exact Inference.admits_column cells
    · exact fun cell => ColumnType.admits_ofData
  cases format with
  | csv | tsv => exact Inference.admits_column cells
  | json | sqlite => exact datums

/-- Whatever a source holds, the table that it is loaded as is well-typed. -/
theorem wellTyped_of_load {tree : FileTree} {source : Source} {table : Table}
    (loaded : source.load tree = .ok table) : table.WellTyped := by
  rcases bind_eq_ok.mp loaded with ⟨_, _, later⟩
  rcases bind_eq_ok.mp later with ⟨rows, _, made⟩
  unfold tableOfRows at made
  split at made
  next =>
    cases made
    exact nofun
  next header rows =>
    split at made
    next isTable =>
      cases made
      refine Table.wellTyped_of_ofColumns isTable fun column member => ?_
      rcases List.mem_mapIdx.mp member with ⟨index, inBounds, rfl⟩
      exact admits_typed source.format _
    next => cases made

end Source

end TableBrowser
