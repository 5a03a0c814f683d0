import TableBrowser.Proofs.Expression.Sources
import TableBrowser.Proofs.Expression.Spelling
import TableBrowser.Proofs.Step.Application
import TableBrowser.Proofs.Step.Checked
import TableBrowser.Proofs.Table.Rows
/-!
# Filters

A filter keeps the rows in which its condition holds, in their order, when the
condition has a value in every row. Main statement: one filter after another does
what the filter by both conditions does, each in parentheses.
-/

namespace TableBrowser

/-- Whether a test gives yes. -/
def passes {ε : Type} : Except ε Bool → Bool
  | .ok holds => holds
  | .error _ => false

section FilterM

variable {ε α : Type} {test : α → Except ε Bool} {items kept : List α} {problem : ε}

theorem filterAuxM_eq_ok {before : List α} : items.filterAuxM test before = .ok kept ↔
    (∀ item ∈ items, ∃ holds, test item = .ok holds) ∧
      kept = (items.filter fun item => passes (test item)).reverse ++ before := by
  induction items generalizing before with
  | nil => simp [List.filterAuxM, pure, Except.pure, eq_comm]
  | cons item items induction =>
      rw [List.filterAuxM, bind_eq_ok, List.forall_mem_cons]
      simp only [induction]
      constructor
      · rintro ⟨holds, tested, others, rfl⟩
        refine ⟨⟨⟨holds, tested⟩, others⟩, ?_⟩
        cases holds <;> simp [tested, passes]
      · rintro ⟨⟨⟨holds, tested⟩, others⟩, rfl⟩
        refine ⟨holds, tested, others, ?_⟩
        cases holds <;> simp [tested, passes]

/-- A filter succeeds when each of its tests does, and keeps the items that pass. -/
theorem filterM_eq_ok : items.filterM test = .ok kept ↔
    (∀ item ∈ items, ∃ holds, test item = .ok holds) ∧
      kept = items.filter fun item => passes (test item) := by
  rw [List.filterM, bind_eq_ok]
  simp only [filterAuxM_eq_ok, List.append_nil]
  constructor
  · rintro ⟨_, ⟨each, rfl⟩, made⟩
    cases made
    exact ⟨each, List.reverse_reverse _⟩
  · rintro ⟨each, rfl⟩
    exact ⟨_, ⟨each, rfl⟩, congrArg Except.ok (List.reverse_reverse _)⟩

theorem filterAuxM_eq_error {before : List α} : items.filterAuxM test before = .error problem ↔
    ∃ (index : Nat) (inside : index < items.length),
      (∀ (earlier : Nat) (isEarlier : earlier < index), ∃ holds, test items[earlier] = .ok holds) ∧
        test items[index] = .error problem := by
  induction items generalizing before with
  | nil => simp [List.filterAuxM, pure, Except.pure]
  | cons item items induction =>
      rw [List.filterAuxM]
      cases tested : test item with
      | error other =>
          constructor
          · intro failed
            cases failed
            exact ⟨0, Nat.succ_pos _, nofun, tested⟩
          · rintro ⟨index, inside, passed, failed⟩
            cases index with
            | zero => exact congrArg Except.error (Except.error.inj (tested.symm.trans failed))
            | succ index =>
                rcases passed 0 (Nat.succ_pos _) with ⟨holds, isPassed⟩
                cases tested.symm.trans isPassed
      | ok holds =>
          refine induction.trans ?_
          constructor
          · rintro ⟨index, inside, passed, failed⟩
            refine ⟨index + 1, Nat.succ_lt_succ inside, fun earlier isEarlier => ?_, failed⟩
            cases earlier with
            | zero => exact ⟨holds, tested⟩
            | succ earlier => exact passed earlier (Nat.lt_of_succ_lt_succ isEarlier)
          · rintro ⟨index, inside, passed, failed⟩
            cases index with
            | zero => cases tested.symm.trans failed
            | succ index =>
                exact ⟨index, Nat.lt_of_succ_lt_succ inside,
                  fun earlier isEarlier => passed (earlier + 1) (Nat.succ_lt_succ isEarlier), failed⟩

/-- A filter fails with the first of its tests that does. -/
theorem filterM_eq_error : items.filterM test = .error problem ↔
    ∃ (index : Nat) (inside : index < items.length),
      (∀ (earlier : Nat) (isEarlier : earlier < index), ∃ holds, test items[earlier] = .ok holds) ∧
        test items[index] = .error problem :=
  bind_pure_eq_error.trans filterAuxM_eq_error

end FilterM

/-! ## Conditions in rows -/

namespace Expression

/-- Places mean nothing to the value of an expression. -/
theorem evaluate_unplaced (strict : Bool) (cell : String → Datum) (expression : Expression) :
    evaluate strict cell expression.unplaced = evaluate strict cell expression := by
  induction expression <;> simp_all [unplaced, evaluate]

theorem columns_unplaced (expression : Expression) : expression.unplaced.columns = expression.columns := by
  induction expression <;> simp_all [unplaced, columns]

/-- Whether the condition holds in the row at a place. -/
def holdsAt (strict : Bool) (table : Table) (condition : Expression) (place : Nat) : Outcome Bool :=
  condition.holds strict (cellNamed table.header (table.rowAt place))

section Rows

variable {strict : Bool} {table : Table} {condition : Expression}

theorem holdsAt_congr {other : Expression} (same : condition.unplaced = other.unplaced) (place : Nat) :
    condition.holdsAt strict table place = other.holdsAt strict table place := by
  rw [holdsAt, holds, ← evaluate_unplaced, same, evaluate_unplaced, ← holds, ← holdsAt]

theorem holdsAt_and (left right : Expression) (place : Nat) :
    (Expression.and left right).holdsAt strict table place = (do
      if ← left.holdsAt strict table place then right.holdsAt strict table place
      else return false) := by
  simp only [holdsAt, holds, evaluate]
  cases evaluate strict (cellNamed table.header (table.rowAt place)) left with
  | error problem => rfl
  | ok value =>
      simp only [bind, Except.bind, pure, Except.pure]
      cases isTrue value with
      | false => rfl
      | true =>
          cases evaluate strict (cellNamed table.header (table.rowAt place)) right <;> rfl

theorem holdsAt_pick {places : List Nat} (within : ∀ place ∈ places, place < table.rowCount)
    {index : Nat} (inside : index < places.length) :
    condition.holdsAt strict (table.pick places) index =
      condition.holdsAt strict table places[index] := by
  rw [holdsAt, Table.header_pick, Table.rowAt_pick within inside, ← holdsAt]

/-- The condition has a value in every row. -/
def Defined (strict : Bool) (table : Table) (condition : Expression) : Prop :=
  ∀ place < table.rowCount, ∃ holds, condition.holdsAt strict table place = .ok holds

theorem defined_pick_iff {places : List Nat} (within : ∀ place ∈ places, place < table.rowCount) :
    condition.Defined strict (table.pick places) ↔
      ∀ place ∈ places, ∃ holds, condition.holdsAt strict table place = .ok holds := by
  rw [Defined, Table.rowCount_pick within]
  constructor
  · intro each place member
    rcases List.getElem_of_mem member with ⟨index, inside, rfl⟩
    rw [← holdsAt_pick within inside]
    exact each index inside
  · intro each index inside
    rw [holdsAt_pick within inside]
    exact each _ (List.getElem_mem inside)

/-- The places of the rows in which the condition holds. -/
def kept (strict : Bool) (table : Table) (condition : Expression) : List Nat :=
  (List.range table.rowCount).filter fun place => passes (condition.holdsAt strict table place)

section Congruence

variable {other : Expression} (same : condition.unplaced = other.unplaced)

include same

theorem defined_congr : condition.Defined strict table ↔ other.Defined strict table := by
  simp only [Defined, holdsAt_congr same]

theorem kept_congr : condition.kept strict table = other.kept strict table := by
  simp only [kept, holdsAt_congr same]

end Congruence

theorem lt_of_mem_kept {place : Nat} (member : place ∈ kept strict table condition) :
    place < table.rowCount :=
  List.mem_range.mp (List.mem_filter.mp member).1

theorem satisfying_eq_ok {places : List Nat} : satisfying strict condition table = .ok places ↔
    condition.Defined strict table ∧ places = condition.kept strict table := by
  have keptRows : ((List.range table.rowCount).map fun place => (table.rowAt place, place)).filter
      (fun numbered => passes (condition.holds strict (cellNamed table.header numbered.1))) =
        (condition.kept strict table).map fun place => (table.rowAt place, place) := by
    rw [List.filter_map]
    rfl
  rw [satisfying, bind_eq_ok, Table.zipIdx_rows]
  simp only [filterM_eq_ok, List.forall_mem_map, List.mem_range, keptRows]
  constructor
  · rintro ⟨_, ⟨each, rfl⟩, made⟩
    cases made
    exact ⟨each, by simp [Function.comp_def]⟩
  · rintro ⟨each, rfl⟩
    exact ⟨_, ⟨each, rfl⟩, by simp [pure, Except.pure, Function.comp_def]⟩

theorem holdsAt_eq_error {place : Nat} {problem : Problem} :
    condition.holdsAt strict table place = .error problem ↔
      evaluate strict (cellNamed table.header (table.rowAt place)) condition = .error problem :=
  bind_pure_eq_error

/-- A filter fails with the first row in which its condition has no value. -/
theorem satisfying_eq_error {problem : Problem} : satisfying strict condition table = .error problem ↔
    ∃ place < table.rowCount,
      (∀ earlier < place, ∃ holds, condition.holdsAt strict table earlier = .ok holds) ∧
        condition.holdsAt strict table place = .error problem := by
  rw [satisfying, bind_pure_eq_error, Table.zipIdx_rows, filterM_eq_error]
  simp only [List.getElem_map, List.getElem_range, List.length_map, List.length_range, exists_prop]
  rfl

end Rows

end Expression

theorem Operation.run_filter_eq_ok {relation : String} {table result : Table} {condition : Expression}
    {strict : Bool} : (Operation.filter condition strict).run relation table = .ok result ↔
      condition.Defined strict table ∧ result = table.pick (condition.kept strict table) := by
  rw [Operation.run, bind_eq_ok]
  simp only [Expression.satisfying_eq_ok]
  constructor
  · rintro ⟨_, ⟨isDefined, rfl⟩, made⟩
    cases made
    exact ⟨isDefined, rfl⟩
  · rintro ⟨isDefined, rfl⟩
    exact ⟨_, ⟨isDefined, rfl⟩, rfl⟩

/-! ## Conjunctions -/

namespace Expression

/-- What is kept of picked rows, as places of the table. -/
theorem kept_pick {strict : Bool} {table : Table} {condition : Expression} {places : List Nat}
    (within : ∀ place ∈ places, place < table.rowCount) :
    (condition.kept strict (table.pick places)).map (fun index => places.getD index 0) =
      places.filter fun place => passes (condition.holdsAt strict table place) := by
  let holds (place : Nat) : Bool := passes (condition.holdsAt strict table place)
  have keptIndices : condition.kept strict (table.pick places) =
      (List.range places.length).filter fun index => holds (places.getD index 0) := by
    rw [kept, Table.rowCount_pick within]
    refine List.filter_congr fun index member => ?_
    have inside := List.mem_range.mp member
    rw [holdsAt_pick within inside, List.getD_eq_getElem _ _ inside]
  calc (condition.kept strict (table.pick places)).map (fun index => places.getD index 0)
      = ((List.range places.length).map fun index => places.getD index 0).filter holds := by
        rw [keptIndices, List.filter_map]
        rfl
    _ = places.filter holds := by rw [Table.map_getD_range]

/-- To filter picked rows is to pick those of them in which the condition holds. -/
theorem pick_kept_pick {strict : Bool} {table : Table} {condition : Expression} {places : List Nat}
    (within : ∀ place ∈ places, place < table.rowCount) :
    (table.pick places).pick (condition.kept strict (table.pick places)) =
      table.pick (places.filter fun place => passes (condition.holdsAt strict table place)) := by
  rw [Table.pick_pick fun index member => ?_, kept_pick within]
  rw [← Table.rowCount_pick within]
  exact lt_of_mem_kept member

section Conjunctions

variable {strict : Bool} {table : Table} {left right : Expression}

/-- What is kept of the rows that are kept is what the conjunction keeps. -/
theorem pick_kept_and : (table.pick (left.kept strict table)).pick
    (right.kept strict (table.pick (left.kept strict table))) =
      table.pick (kept strict table (.and left right)) := by
  rw [pick_kept_pick fun _ => lt_of_mem_kept, kept, kept, List.filter_filter]
  refine congrArg table.pick (List.filter_congr fun place _ => ?_)
  rw [holdsAt_and]
  cases left.holdsAt strict table place with
  | error problem => cases passes (right.holdsAt strict table place) <;> rfl
  | ok holds => cases holds <;> simp [passes, bind, Except.bind, pure, Except.pure]

theorem exists_holdsAt_and_iff {place : Nat} :
    (∃ holds, (Expression.and left right).holdsAt strict table place = .ok holds) ↔
      (∃ holds, left.holdsAt strict table place = .ok holds) ∧
        (passes (left.holdsAt strict table place) = true →
          ∃ holds, right.holdsAt strict table place = .ok holds) := by
  rw [holdsAt_and]
  cases left.holdsAt strict table place with
  | error problem => simp [bind, Except.bind]
  | ok holds => cases holds <;> simp [passes, bind, Except.bind, pure, Except.pure]

/-- The second condition needs a value only where the first one holds. -/
theorem defined_and_iff : (Expression.and left right).Defined strict table ↔
    left.Defined strict table ∧ right.Defined strict (table.pick (left.kept strict table)) := by
  rw [defined_pick_iff fun place => lt_of_mem_kept]
  simp only [Defined, exists_holdsAt_and_iff, kept, List.mem_filter, List.mem_range, and_imp]
  exact ⟨fun each => ⟨fun place inside => (each place inside).1,
      fun place inside => (each place inside).2⟩,
    fun ⟨leftDefined, rightDefined⟩ place inside =>
      ⟨leftDefined place inside, rightDefined place inside⟩⟩

end Conjunctions

/-- A source that is read is not blank. -/
theorem isAllBlank_of_parse {source : String} {condition : Expression}
    (isRead : parse source = .ok condition) : Text.isAllBlank source = false := by
  rcases exists_parse_iff.mp ⟨condition, isRead, rfl⟩ with ⟨tokens, spelled, derived⟩
  rcases derived.starts with ⟨first, others, isTokens, _⟩
  have some : tokens ≠ [] := by
    rintro rfl
    cases isTokens
  rcases spelled.exists_visible some with ⟨char, member, visible⟩
  rw [Text.isAllBlank, List.all_eq_false]
  exact ⟨char, member, by simp [visible]⟩

/-- Two sources, each in parentheses, with the word between them are read as the conjunction. -/
theorem parse_conjunction {first second : String} {left right : Expression}
    (firstRead : parse first = .ok left) (secondRead : parse second = .ok right) :
    ∃ read, parse ("(" ++ first ++ ") and (" ++ second ++ ")") = .ok read ∧
      read.unplaced = (Expression.and left right).unplaced := by
  rcases exists_parse_iff.mp ⟨left, firstRead, rfl⟩ with ⟨lefts, leftsSpelled, leftDerived⟩
  rcases exists_parse_iff.mp ⟨right, secondRead, rfl⟩ with ⟨rights, rightsSpelled, rightDerived⟩
  refine exists_parse_iff.mpr ⟨(.symbol .openParenthesis :: lefts ++ [.symbol .closeParenthesis]) ++
    .keyword .and :: (.symbol .openParenthesis :: rights ++ [.symbol .closeParenthesis]), ?_, ?_⟩
  · have secondSpelled : Spelled ('(' :: (second.toList ++ [')']))
        (.symbol .openParenthesis :: (rights ++ [.symbol .closeParenthesis])) :=
      .token rfl rfl (rightsSpelled.append (endsTokens_closing []) (.token rfl rfl .nil))
    have wordSpelled := (spells_keyword .and).spelled.append (endsTokens_blank _)
      (.blank rfl secondSpelled)
    have spelled : Spelled ('(' :: (first.toList ++ ')' :: ' ' :: _)) _ :=
      .token rfl rfl (leftsSpelled.append (endsTokens_closing _)
        (.token rfl rfl (.blank rfl wordSpelled)))
    simpa [Keyword.word] using spelled
  · have both : Derives .and (bare (.symbol .openParenthesis :: lefts ++ [.symbol .closeParenthesis]) ++
        ⟨.keyword .and, 0⟩ :: bare (.symbol .openParenthesis :: rights ++ [.symbol .closeParenthesis]))
          (Expression.and left.unplaced right.unplaced) :=
      .chain rfl (derives_parenthesized .and leftDerived) (derives_parenthesized .not rightDerived)
    rw [bare_append]
    exact both.loosen (Nat.zero_le _)

end Expression

/-! ## Steps that filter -/

/-- The step that filters by a source; it is strict if it does not say. -/
def Step.filtering (source : String) (strict : Option Bool) : Step :=
  .ofParams "filter" (("where", .text source) ::
    strict.toList.map fun strict => ("strict", .boolean strict))

theorem Step.ofStep_filtering_eq (source : String) (strict : Option Bool) :
    Operation.ofStep (Step.filtering source strict) =
      if Text.isAllBlank source then Operation.stepFails .noExpression
      else do return .filter (← Expression.parse source) (strict.getD true) := by
  have whereParam : (Step.filtering source strict).param "where" = .text source := by
    simp [filtering, ofParams, Step.param, param?, Datum.valueAt?]
  have strictParam : ((Step.filtering source strict).param? "strict").getD (.boolean true) =
      .boolean (strict.getD true) := by
    cases strict <;> simp [filtering, ofParams, param?, Datum.valueAt?]
  have isFilter : (Step.filtering source strict).operation = "filter" := rfl
  rw [Operation.ofStep, if_pos isFilter, Operation.ofFilter, whereParam]
  simp only [strictParam]

theorem Step.ofStep_filtering {source : String} (strict : Option Bool) {condition : Expression}
    (isRead : Expression.parse source = .ok condition) :
    Operation.ofStep (Step.filtering source strict) = .ok (.filter condition (strict.getD true)) := by
  rw [Step.ofStep_filtering_eq, Expression.isAllBlank_of_parse isRead, isRead]
  rfl

theorem Operation.checkColumns_eq_ok {operation : Operation} {columns : List String} :
    operation.checkColumns columns = .ok () ↔ ∀ name ∈ operation.namedColumns.2, name ∈ columns := by
  refine ⟨known_of_checkColumns, fun known => ?_⟩
  have noneUnknown : operation.namedColumns.2.find? (!columns.contains ·) = none := by
    simpa [List.find?_eq_none] using known
  simp only [checkColumns, noneUnknown]
  rfl

theorem Step.validate_eq_ok {step : Step} {columns : List String} {operation : Operation} :
    step.validate (some columns) = .ok operation ↔ Operation.ofStep step = .ok operation ∧
      ∀ name ∈ operation.namedColumns.2, name ∈ columns := by
  rw [Step.validate, bind_eq_ok]
  constructor
  · rintro ⟨given, isStep, rest⟩
    rcases bind_eq_ok.mp rest with ⟨_, checked, made⟩
    cases made
    exact ⟨isStep, Operation.checkColumns_eq_ok.mp checked⟩
  · rintro ⟨isStep, known⟩
    exact ⟨operation, isStep, bind_eq_ok.mpr ⟨(), Operation.checkColumns_eq_ok.mpr known, rfl⟩⟩

/-- A filter makes a table of the rows that it keeps if it knows its columns and is defined in all rows. -/
theorem Step.apply_filtering_eq_ok {relation : String} {table result : Table} {source : String}
    {strict : Option Bool} {condition : Expression}
    (isRead : Expression.parse source = .ok condition) :
    (Step.filtering source strict).apply relation table = .ok result ↔
      (∀ name ∈ condition.columns, name ∈ table.header) ∧
        condition.Defined (strict.getD true) table ∧
          result = table.pick (condition.kept (strict.getD true) table) := by
  rw [Step.apply, bind_eq_ok]
  simp only [validate_eq_ok, ofStep_filtering strict isRead]
  constructor
  · rintro ⟨operation, ⟨made, known⟩, ran⟩
    cases made
    exact ⟨known, Operation.run_filter_eq_ok.mp ran⟩
  · rintro ⟨known, ran⟩
    exact ⟨_, ⟨rfl, known⟩, Operation.run_filter_eq_ok.mpr ran⟩

section Steps

variable {relation : String} {table result : Table}

theorem applyFrom_singleton_eq_ok {position : Nat} {step : Step} :
    applyFrom relation position table [step] = .ok result ↔
      step.apply relation table = .ok result := by
  rw [applyFrom_cons_eq_ok]
  simp [applyFrom, pure, Except.pure]

theorem applySteps_singleton_eq_ok {step : Step} :
    applySteps relation table [step] = .ok result ↔ step.apply relation table = .ok result :=
  applyFrom_singleton_eq_ok

theorem applySteps_pair_eq_ok {first second : Step} :
    applySteps relation table [first, second] = .ok result ↔
      ∃ next, first.apply relation table = .ok next ∧ second.apply relation next = .ok result := by
  rw [applySteps, applyFrom_cons_eq_ok]
  simp only [applyFrom_singleton_eq_ok]

end Steps

/--
A filter after another one makes a table exactly when the filter by the conjunction of
their sources does, both as strict, and it makes the same table.
-/
theorem applySteps_filtering_filtering (relation : String) (table : Table) (strict : Option Bool)
    {first second : String} {left right : Expression}
    (firstRead : Expression.parse first = .ok left)
    (secondRead : Expression.parse second = .ok right) (result : Table) :
    applySteps relation table [.filtering first strict, .filtering second strict] = .ok result ↔
      applySteps relation table
        [.filtering ("(" ++ first ++ ") and (" ++ second ++ ")") strict] = .ok result := by
  rcases Expression.parse_conjunction firstRead secondRead with ⟨both, bothRead, same⟩
  have columns : both.columns = left.columns ++ right.columns := by
    rw [← Expression.columns_unplaced, same, Expression.columns_unplaced, Expression.columns]
  simp only [applySteps_singleton_eq_ok, applySteps_pair_eq_ok,
    Step.apply_filtering_eq_ok firstRead, Step.apply_filtering_eq_ok secondRead,
    Step.apply_filtering_eq_ok bothRead, columns, List.forall_mem_append,
    Expression.defined_congr same, Expression.kept_congr same, Expression.defined_and_iff,
    ← Expression.pick_kept_and]
  constructor
  · rintro ⟨next, ⟨leftKnown, leftDefined, rfl⟩, rightKnown, rightDefined, rfl⟩
    rw [Table.header_pick] at rightKnown
    exact ⟨⟨leftKnown, rightKnown⟩, ⟨leftDefined, rightDefined⟩, rfl⟩
  · rintro ⟨⟨leftKnown, rightKnown⟩, ⟨leftDefined, rightDefined⟩, rfl⟩
    refine ⟨_, ⟨leftKnown, leftDefined, rfl⟩, ?_, rightDefined, rfl⟩
    rwa [Table.header_pick]

/-- Ratings, one of which cannot be compared with a number. -/
def unevenRatings : Table where
  columns := [⟨"name", .string, [.text "Al", .text "Bo", .text "Cy"]⟩,
    ⟨"rating", .string, [.integer 3, .integer 1, .text "none"]⟩]
  aligned := by decide
  distinct := by decide

/-- The second condition is not asked where the first one fails, neither way. -/
theorem applySteps_filtering_ratings : ∃ left right : Expression,
    Expression.parse "name < 'C'" = .ok left ∧ Expression.parse "rating > 2 or false" = .ok right ∧
      applySteps "df" unevenRatings [.filtering "name < 'C'" none, .filtering "rating > 2 or false" none] =
        .ok (unevenRatings.pick [0]) ∧
      applySteps "df" unevenRatings
        [.filtering ("(" ++ "name < 'C'" ++ ") and (" ++ "rating > 2 or false" ++ ")") none] =
          .ok (unevenRatings.pick [0]) := by
  have applied : applySteps "df" unevenRatings
      [.filtering "name < 'C'" none, .filtering "rating > 2 or false" none] =
        .ok (unevenRatings.pick [0]) := by
    decide +kernel
  exact ⟨_, _, rfl, rfl, applied,
    (applySteps_filtering_filtering "df" unevenRatings none rfl rfl _).mp applied⟩

end TableBrowser
