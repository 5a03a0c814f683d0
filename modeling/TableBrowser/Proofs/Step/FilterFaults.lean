import TableBrowser.Proofs.Expression.Clashes
import TableBrowser.Proofs.Step.Filtering
/-!
# Failures of filters

A filter that was checked against the columns of its input fails in the first row in
which its condition has no value. Main statements: it fails with a type mismatch only,
unless the condition meets operands that clash in this row; and a filter that is not
strict makes the table that the strict one makes, and goes on where a strict condition
orders operands without a common form.
-/

namespace TableBrowser

/-- A failure of a query that tells of values which do not go together. -/
abbrev Problem.IsTypeMismatch : Problem → Prop := Problem.IsMismatchOr False

namespace Expression

variable {strict : Bool} {table : Table} {condition : Expression}

/-- In the first row in which the condition has no value it meets operands that clash. -/
def ClashesIn (strict : Bool) (table : Table) (condition : Expression) : Prop :=
  ∃ place < table.rowCount,
    (∀ earlier < place, ∃ holds, condition.holdsAt strict table earlier = .ok holds) ∧
      condition.MeetsClash strict (cellNamed table.header (table.rowAt place))

theorem faultsIff_satisfying (strict : Bool) (condition : Expression) (table : Table) :
    (satisfying strict condition table).FaultsIff (condition.ClashesIn strict table) where
  raises := by
    intro problem failed
    rcases satisfying_eq_error.mp failed with ⟨place, inside, passed, failedHere⟩
    have expected := (faultsIff_evaluate ..).raises problem (holdsAt_eq_error.mp failedHere)
    exact expected.weaken fun meets => ⟨place, inside, passed, meets⟩
  exists_fault := by
    rintro ⟨place, inside, passed, meets⟩
    rcases (faultsIff_evaluate ..).exists_fault meets with ⟨cause, failed⟩
    exact ⟨cause, satisfying_eq_error.mpr ⟨place, inside, passed, holdsAt_eq_error.mpr failed⟩⟩

end Expression

/-- A step that was checked does what its operation does. -/
theorem Step.apply_of_validate {step : Step} {operation : Operation} {relation : String} {table : Table}
    (validated : step.validate (some table.header) = .ok operation) :
    step.apply relation table = operation.run relation table := by
  rw [Step.apply, validated]
  rfl

theorem Step.faultsIff_apply_filter {step : Step} {condition : Expression} {strict : Bool}
    {table : Table} (validated : step.validate (some table.header) = .ok (.filter condition strict))
    (relation : String) : (step.apply relation table).FaultsIff (condition.ClashesIn strict table) := by
  rw [Step.apply_of_validate validated]
  have faults := Expression.faultsIff_satisfying strict condition table
  exact {
    raises := fun problem failed => faults.raises problem (bind_pure_eq_error.mp failed)
    exists_fault := fun clashes => (faults.exists_fault clashes).imp fun _ => bind_pure_eq_error.mpr }

/--
A filter that was checked fails with a type mismatch only, unless the first row in which
its condition has no value is one in which operands clash: then it ends with a fault. A
filter that is not strict compares all that is not on two clocks.
-/
theorem Step.apply_filter_mismatches_iff {step : Step} {condition : Expression} {strict : Bool}
    {table : Table} (validated : step.validate (some table.header) = .ok (.filter condition strict))
    (relation : String) :
    (Raises Problem.IsTypeMismatch (step.apply relation table) ↔ ¬condition.ClashesIn strict table) ∧
      (condition.ClashesIn strict table →
        ∃ cause, step.apply relation table = .error (.fault cause)) ∧
      ∀ (operator : ComparisonOperator) (left right : Datum),
        (∃ problem, Expression.compareOperands false operator left right = .error problem) ↔
          operator.isOrdering = true ∧ Expression.OnTwoClocks left right := by
  have faults := Step.faultsIff_apply_filter validated relation
  refine ⟨⟨fun raises clashes => ?_, fun calm => ?_⟩, faults.exists_fault,
    fun _ _ _ => Expression.compareOperands_lenient_fails_iff⟩
  · rcases faults.exists_fault clashes with ⟨cause, failed⟩
    exact raises _ failed
  · exact faults.raises.mono fun _ expected => expected.weaken calm

/-- A number divided by zero is null, which is no more than one; the third rating is no number. -/
theorem Step.apply_filter_mismatches_ratings : ∃ condition : Expression,
    (Step.filtering "rating / 0 > 1 or rating > 2" none).validate (some unevenRatings.header) =
        .ok (.filter condition true) ∧
      (Step.filtering "rating / 0 > 1 or rating > 2" none).apply "df" unevenRatings =
        .error (.failure (.step (.arithmetic "/" (.text "none") (.integer 0))) none) ∧
      ¬condition.ClashesIn true unevenRatings ∧
      Raises Problem.IsTypeMismatch
        ((Step.filtering "rating / 0 > 1 or rating > 2" none).apply "df" unevenRatings) := by
  have failed : (Step.filtering "rating / 0 > 1 or rating > 2" none).apply "df" unevenRatings =
      .error (.failure (.step (.arithmetic "/" (.text "none") (.integer 0))) none) := by
    decide +kernel
  obtain ⟨condition, validated⟩ : ∃ condition : Expression,
      (Step.filtering "rating / 0 > 1 or rating > 2" none).validate (some unevenRatings.header) =
        .ok (.filter condition true) := ⟨_, rfl⟩
  have stated := Step.apply_filter_mismatches_iff validated "df"
  have calm : ¬condition.ClashesIn true unevenRatings := by
    intro clashes
    rcases stated.2.1 clashes with ⟨cause, faulted⟩
    cases failed.symm.trans faulted
  exact ⟨condition, validated, failed, calm, stated.1.mpr calm⟩

/-- One moment at noon in universal time. -/
def noons : Table where
  columns := [⟨"at", .datetime, [
    .moment ⟨⟨2024, 1, 31, by decide⟩, 12, 0, 0, 0, some .utc, by decide⟩]⟩]
  aligned := by decide
  distinct := by decide

/-- Not strict, and yet no table comes of it: the text is read as a moment without an offset. -/
theorem Step.apply_filter_faults_noon :
    ∃ operation, (Step.filtering "at > '2024-01-01'" (some false)).validate (some noons.header) =
        .ok operation ∧
      (Step.filtering "at > '2024-01-01'" (some false)).apply "df" noons =
        .error (.fault (.incomparable .momentOffsets)) := by
  exact ⟨_, rfl, by decide +kernel⟩

/-! ## Strict and lenient filters

A filter that is not strict takes an ordering of operands without a common form to be
false where a strict one fails, and evaluates everything else alike. Main statement: it
makes the table that the strict filter makes, and where only the strict filter fails,
the condition orders such operands in the row that stops it.
-/

/-- Two computations in which the first parts and then the second parts are the same, or something holds. -/
theorem bind_eq_or {ε α β : Type} {otherwise : Prop} {first other : Except ε α}
    {next later : α → Except ε β} (same : other = first ∨ otherwise)
    (each : ∀ value, first = .ok value → later value = next value ∨ otherwise) :
    other >>= later = first >>= next ∨ otherwise := by
  rcases same with rfl | holds
  · cases other with
    | error problem => exact .inl rfl
    | ok value => exact each value rfl
  · exact .inr holds

namespace Expression

/-! ## Operands without a common form -/

/-- Two operands, neither of them null, that have no common form. -/
structure Unlike (left right : Datum) : Prop where
  present : (left.isNull || right.isNull) = false
  noForm : commonForm? left right = none

section Operands

variable {operator : ComparisonOperator} {left right : Datum}

theorem compareOperands_lenient (operator : ComparisonOperator) (left right : Datum) :
    compareOperands false operator left right = compareOperands true operator left right ∨
      (operator.isOrdering = true ∧ Unlike left right) := by
  cases ordering : operator.isOrdering with
  | false => cases operator <;> cases ordering <;> exact .inl rfl
  | true =>
      rw [compareOperands_of_ordering ordering, compareOperands_of_ordering ordering]
      cases present : left.isNull || right.isNull with
      | true => exact .inl rfl
      | false =>
          cases formed : commonForm? left right with
          | none => exact .inr ⟨rfl, present, formed⟩
          | some forms => exact .inl rfl

theorem Unlike.exists_error (unlike : Unlike left right) (ordering : operator.isOrdering = true) :
    ∃ problem, compareOperands true operator left right = .error problem := by
  rw [compareOperands_of_ordering ordering, unlike.present, unlike.noForm]
  simp only [Bool.false_eq_true, if_false, if_true, failWith_eq]
  split
  · exact ⟨_, rfl⟩
  · exact ⟨_, rfl⟩

end Operands

/-! ## Expressions -/

section Evaluation

variable (cell : String → Datum)

/-- An ordering of operands that have no common form. -/
inductive OrdersUnlike : Expression → Prop
  | comparison {operator : ComparisonOperator} {left right : Expression} {leftValue rightValue : Datum}
      (ordering : operator.isOrdering = true) (isLeft : evaluate true cell left = .ok leftValue)
      (isRight : evaluate true cell right = .ok rightValue) (unlike : Unlike leftValue rightValue) :
      OrdersUnlike (.comparison operator left right)

/-- Somewhere in what its value needs, a strict expression orders operands without a common form. -/
def MeetsUnlike (expression : Expression) : Prop :=
  ∃ part, Relation.ReflTransGen (Needs true cell) expression part ∧ OrdersUnlike cell part

variable {cell} {whole part : Expression}

theorem MeetsUnlike.of_needs (needs : Needs true cell whole part) (meets : MeetsUnlike cell part) :
    MeetsUnlike cell whole := by
  rcases meets with ⟨last, reached, orders⟩
  exact ⟨last, .head needs reached, orders⟩

theorem OrdersUnlike.exists_error (orders : OrdersUnlike cell whole) :
    ∃ problem, evaluate true cell whole = .error problem := by
  rcases orders with ⟨ordering, isLeft, isRight, unlike⟩
  rw [evaluate, isLeft, isRight]
  exact unlike.exists_error ordering

theorem MeetsUnlike.exists_error (meets : MeetsUnlike cell whole) :
    ∃ problem, evaluate true cell whole = .error problem := by
  rcases meets with ⟨last, reached, orders⟩
  rcases orders.exists_error with ⟨problem, failed⟩
  exact ⟨problem, error_of_reached reached failed⟩

/-- Strict or not, an expression is evaluated alike unless it orders operands without a common form. -/
theorem evaluate_lenient (cell : String → Datum) (expression : Expression) :
    evaluate false cell expression = evaluate true cell expression ∨ MeetsUnlike cell expression := by
  induction expression with
  | literal value => exact .inl rfl
  | column name position => exact .inl rfl
  | not operand same => exact bind_eq_or (same.imp_right (.of_needs (.first rfl))) fun _ _ => .inl rfl
  | negation operand same =>
      exact bind_eq_or (same.imp_right (.of_needs (.first rfl))) fun _ _ => .inl rfl
  | and left right leftSame rightSame =>
      refine bind_eq_or (leftSame.imp_right (.of_needs (.first rfl))) fun value isValue => ?_
      cases goesOn : isTrue value with
      | false => exact .inl rfl
      | true =>
          have needs : Needs true cell (.and left right) right :=
            .second rfl isValue (by simp [settledBy, goesOn])
          exact bind_eq_or (rightSame.imp_right (.of_needs needs)) fun _ _ => .inl rfl
  | or left right leftSame rightSame =>
      refine bind_eq_or (leftSame.imp_right (.of_needs (.first rfl))) fun value isValue => ?_
      cases settled : isTrue value with
      | true => exact .inl rfl
      | false =>
          have needs : Needs true cell (.or left right) right := .second rfl isValue settled
          exact bind_eq_or (rightSame.imp_right (.of_needs needs)) fun _ _ => .inl rfl
  | comparison operator left right leftSame rightSame =>
      refine bind_eq_or (leftSame.imp_right (.of_needs (.first rfl))) fun leftValue isLeft => ?_
      refine bind_eq_or (rightSame.imp_right (.of_needs (.second rfl isLeft rfl))) fun rightValue isRight => ?_
      refine (compareOperands_lenient operator leftValue rightValue).imp_right fun orders => ?_
      exact ⟨_, .refl, .comparison orders.1 isLeft isRight orders.2⟩
  | arithmetic operator left right leftSame rightSame =>
      refine bind_eq_or (leftSame.imp_right (.of_needs (.first rfl))) fun leftValue isLeft => ?_
      exact bind_eq_or (rightSame.imp_right (.of_needs (.second rfl isLeft rfl))) fun _ _ => .inl rfl
  | textTest operator left right leftSame rightSame =>
      refine bind_eq_or (leftSame.imp_right (.of_needs (.first rfl))) fun leftValue isLeft => ?_
      exact bind_eq_or (rightSame.imp_right (.of_needs (.second rfl isLeft rfl))) fun _ _ => .inl rfl

end Evaluation

/-! ## Rows -/

section Rows

variable {table : Table} {condition : Expression}

theorem holdsAt_lenient (table : Table) (condition : Expression) (place : Nat) :
    condition.holdsAt false table place = condition.holdsAt true table place ∨
      condition.MeetsUnlike (cellNamed table.header (table.rowAt place)) :=
  bind_eq_or (evaluate_lenient _ condition) fun _ _ => .inl rfl

theorem holdsAt_lenient_of_ok {place : Nat} {holds : Bool}
    (passed : condition.holdsAt true table place = .ok holds) :
    condition.holdsAt false table place = .ok holds := by
  rcases holdsAt_lenient table condition place with same | meets
  · exact same.trans passed
  · rcases meets.exists_error with ⟨problem, failed⟩
    cases passed.symm.trans (holdsAt_eq_error.mpr failed)

/-- The first row in which a strict condition has no value is one in which it orders unlike operands. -/
def StopsAtUnlike (table : Table) (condition : Expression) : Prop :=
  ∃ place < table.rowCount,
    (∀ earlier < place, ∃ holds, condition.holdsAt true table earlier = .ok holds) ∧
      condition.MeetsUnlike (cellNamed table.header (table.rowAt place))

theorem StopsAtUnlike.exists_error (stops : condition.StopsAtUnlike table) :
    ∃ problem, satisfying true condition table = .error problem := by
  rcases stops with ⟨place, inside, passed, meets⟩
  rcases meets.exists_error with ⟨problem, failed⟩
  exact ⟨problem, satisfying_eq_error.mpr ⟨place, inside, passed, holdsAt_eq_error.mpr failed⟩⟩

theorem satisfying_lenient (table : Table) (condition : Expression) :
    satisfying false condition table = satisfying true condition table ∨
      condition.StopsAtUnlike table := by
  cases strict : satisfying true condition table with
  | ok places =>
      rcases satisfying_eq_ok.mp strict with ⟨isDefined, rfl⟩
      refine .inl (satisfying_eq_ok.mpr ⟨fun place inside => ?_, List.filter_congr fun place member => ?_⟩)
      · rcases isDefined place inside with ⟨holds, passed⟩
        exact ⟨holds, holdsAt_lenient_of_ok passed⟩
      · rcases isDefined place (List.mem_range.mp member) with ⟨holds, passed⟩
        rw [passed, holdsAt_lenient_of_ok passed]
  | error problem =>
      rcases satisfying_eq_error.mp strict with ⟨place, inside, passed, failed⟩
      rcases holdsAt_lenient table condition place with same | meets
      · refine .inl (satisfying_eq_error.mpr
          ⟨place, inside, fun earlier isEarlier => ?_, same.trans failed⟩)
        exact (passed earlier isEarlier).imp fun _ => holdsAt_lenient_of_ok
      · exact .inr ⟨place, inside, passed, meets⟩

end Rows

end Expression

/-! ## Filters -/

/-- The condition of a filter is read and checked alike, strict or not. -/
theorem Step.exists_checked (source : String) (table : Table) : ∃ checked : Outcome Expression,
    (∀ condition, checked = .ok condition → Expression.parse source = .ok condition) ∧
      ∀ (relation : String) (strict : Bool), (Step.filtering source (some strict)).apply relation table =
        checked >>= fun condition => table.pick <$> satisfying strict condition table := by
  cases blank : Text.isAllBlank source with
  | true =>
      refine ⟨Operation.stepFails .noExpression, fun _ checked => (by cases checked),
        fun relation strict => ?_⟩
      rw [Step.apply, Step.validate, Step.ofStep_filtering_eq, blank]
      rfl
  | false =>
      cases isRead : Expression.parse source with
      | error problem =>
          refine ⟨.error problem, fun _ checked => (by cases checked), fun relation strict => ?_⟩
          rw [Step.apply, Step.validate, Step.ofStep_filtering_eq, blank, isRead]
          rfl
      | ok condition =>
          refine ⟨do Operation.checkColumns (.filter condition true) table.header; return condition,
            fun other checked => ?_, fun relation strict => ?_⟩
          · rcases bind_eq_ok.mp checked with ⟨_, _, made⟩
            exact made
          · rw [Step.apply, Step.validate, Step.ofStep_filtering _ isRead]
            change (Operation.checkColumns (.filter condition true) table.header >>= _) >>= _ = _
            cases Operation.checkColumns (.filter condition true) table.header <;> rfl

theorem Step.apply_lenient (relation : String) (table : Table) (source : String) :
    (Step.filtering source (some false)).apply relation table =
        (Step.filtering source (some true)).apply relation table ∨
      ∃ condition, Expression.parse source = .ok condition ∧ condition.StopsAtUnlike table ∧
        ∃ problem, (Step.filtering source (some true)).apply relation table = .error problem := by
  rcases Step.exists_checked source table with ⟨checked, isRead, applied⟩
  rw [applied, applied]
  cases checked with
  | error problem => exact .inl rfl
  | ok condition =>
      refine (Expression.satisfying_lenient table condition).imp (congrArg (table.pick <$> ·)) fun stops => ?_
      rcases stops.exists_error with ⟨problem, failed⟩
      exact ⟨condition, isRead condition rfl, stops, problem, congrArg (table.pick <$> ·) failed⟩

/--
Where a strict filter makes a table, the filter that is not strict makes the same table.
Where a strict filter ends with an error that the other does not end with, its condition
orders operands without a common form in the first row in which it has no value.
-/
theorem Step.lenient_extends_strict (relation : String) (table : Table) (source : String) :
    (∀ result, (Step.filtering source (some true)).apply relation table = .ok result →
      (Step.filtering source (some false)).apply relation table = .ok result) ∧
    ∀ problem, (Step.filtering source (some true)).apply relation table = .error problem →
      (Step.filtering source (some false)).apply relation table ≠ .error problem →
        ∃ condition, Expression.parse source = .ok condition ∧ condition.StopsAtUnlike table := by
  rcases Step.apply_lenient relation table source with same | ⟨condition, isRead, stops, problem, failed⟩
  · rw [same]
    exact ⟨fun _ made => made, fun _ failed other => absurd failed other⟩
  · refine ⟨fun result made => ?_, fun _ _ _ => ⟨condition, isRead, stops⟩⟩
    cases failed.symm.trans made

/-- Where a text is to be more than a number, the strict filter fails and the other one goes on. -/
theorem Step.lenient_extends_ratings :
    (Step.filtering "name < 'C' and rating > 2" (some true)).apply "df" unevenRatings =
      .ok (unevenRatings.pick [0]) ∧
    (Step.filtering "name < 'C' and rating > 2" (some false)).apply "df" unevenRatings =
      .ok (unevenRatings.pick [0]) ∧
    (Step.filtering "rating > 2 or name == 'Bo'" (some true)).apply "df" unevenRatings =
      .error (.failure (.step (.comparison ">" (.text "none") (.integer 2))) none) ∧
    (Step.filtering "rating > 2 or name == 'Bo'" (some false)).apply "df" unevenRatings =
      .ok (unevenRatings.pick [0, 1]) ∧
    ∃ condition, Expression.parse "rating > 2 or name == 'Bo'" = .ok condition ∧
      condition.StopsAtUnlike unevenRatings := by
  have made : (Step.filtering "name < 'C' and rating > 2" (some true)).apply "df" unevenRatings =
      .ok (unevenRatings.pick [0]) := by
    decide +kernel
  have failed : (Step.filtering "rating > 2 or name == 'Bo'" (some true)).apply "df" unevenRatings =
      .error (.failure (.step (.comparison ">" (.text "none") (.integer 2))) none) := by
    decide +kernel
  have goesOn : (Step.filtering "rating > 2 or name == 'Bo'" (some false)).apply "df" unevenRatings =
      .ok (unevenRatings.pick [0, 1]) := by
    decide +kernel
  refine ⟨made, (Step.lenient_extends_strict "df" unevenRatings _).1 _ made, failed, goesOn, ?_⟩
  exact (Step.lenient_extends_strict "df" unevenRatings _).2 _ failed (by simp [goesOn])

end TableBrowser
