import TableBrowser.Expression.Evaluation
import TableBrowser.Proofs.Datum.Scale
import TableBrowser.Proofs.Number.Overflow
import TableBrowser.Proofs.Outcome
/-!
# Operands

An operation fails with a type mismatch on operands that do not go together. Some
operands stop it with a fault: instants on two clocks that are to be ordered, whole
numbers beyond the 64-bit format, and those too long for a message or a text. Main
statements: each operation ends with a fault exactly on those operands.
-/

namespace TableBrowser

/-- A type mismatch, or a fault where one is expected. -/
def Problem.IsMismatchOr (faulty : Prop) : Problem → Prop
  | .failure cause stepIndex => cause.report.category = .query ∧
      cause.report.code = "E_TYPE_MISMATCH" ∧ stepIndex = none
  | .fault _ => faulty

/-- Work that ends with a fault under some condition, and fails with type mismatches only otherwise. -/
structure Outcome.FaultsIff {α : Type} (faulty : Prop) (outcome : Outcome α) : Prop where
  raises : Raises (Problem.IsMismatchOr faulty) outcome
  exists_fault : faulty → ∃ cause, outcome = .error (.fault cause)

section Faults

variable {α : Type} {faulty other : Prop} {outcome : Outcome α}

theorem Problem.IsMismatchOr.weaken {problem : Problem} (isMismatch : problem.IsMismatchOr faulty)
    (weakened : faulty → other) : problem.IsMismatchOr other := by
  cases problem with
  | failure cause stepIndex => exact isMismatch
  | fault cause => exact weakened isMismatch

theorem Outcome.FaultsIff.congr (faults : outcome.FaultsIff faulty) (same : faulty ↔ other) :
    outcome.FaultsIff other where
  raises := faults.raises.mono fun _ expected => expected.weaken same.mp
  exists_fault := fun expected => faults.exists_fault (same.mpr expected)

theorem Outcome.faultsIff_pure (value : α) (never : ¬faulty) :
    Outcome.FaultsIff faulty (.ok value : Outcome α) where
  raises := Raises.pure value
  exists_fault := fun expected => absurd expected never

theorem Outcome.faultsIff_fault (cause : Fault) (expected : faulty) :
    (Outcome.fault cause : Outcome α).FaultsIff faulty where
  raises := Raises.error expected
  exists_fault := fun _ => ⟨cause, rfl⟩

end Faults

/-! ## Operands -/

/-- Less, greater, and either of them or equal. -/
def ComparisonOperator.isOrdering : ComparisonOperator → Bool
  | .equal | .notEqual => false
  | _ => true

namespace Expression

section Operands

variable (left right : Datum)

/-- Two moments, or two times, of which just one has an offset from universal time. -/
inductive OnTwoClocks : Prop
  | moments {leftMoment rightMoment : Moment} (temporal : (isTemporal left || isTemporal right) = true)
      (isLeft : asTemporal? left = some (.moment leftMoment))
      (isRight : asTemporal? right = some (.moment rightMoment))
      (differ : leftMoment.time.offset.isSome ≠ rightMoment.time.offset.isSome)
  | times {leftTime rightTime : Time} (isLeft : left = .time leftTime)
      (isRight : right = .time rightTime)
      (differ : leftTime.offset.isSome ≠ rightTime.offset.isSome)

/-- Neither operand is null, and one has a whole number that is too long to be written. -/
structure Overlong : Prop where
  left_present : left.isNull = false
  right_present : right.isNull = false
  long : left.hasLongInteger = true ∨ right.hasLongInteger = true

inductive ComparisonFaults (strict : Bool) (operator : ComparisonOperator) : Prop
  | clocks (ordering : operator.isOrdering = true) (apart : OnTwoClocks left right)
  /-- The failure of the comparison cannot be told. -/
  | overlong (ordering : operator.isOrdering = true) (isStrict : strict = true)
      (notNumbers : (isNumber left && isNumber right) = false) (overlong : Overlong left right)

end Operands

inductive ArithmeticFaults (operator : ArithmeticOperator) : Datum → Datum → Prop
  /-- The failure of the operation cannot be told. -/
  | overlong {left right : Datum} (notNumbers : (isNumber left && isNumber right) = false)
      (overlong : Overlong left right) : ArithmeticFaults operator left right
  | quotient {left right : Int} (divides : operator = .divide) (nonzero : right ≠ 0)
      (large : Binary64.overflow * right.natAbs ≤ left.natAbs) :
      ArithmeticFaults operator (.integer left) (.integer right)
  | left {left : Int} {right : Binary64} (large : Binary64.overflow ≤ left.natAbs)
      (defined : ¬(operator = .divide ∧ right.isZero = true)) :
      ArithmeticFaults operator (.integer left) (.number right)
  | right {left : Binary64} {right : Int} (large : Binary64.overflow ≤ right.natAbs) :
      ArithmeticFaults operator (.number left) (.integer right)

/-! ## Failures -/

theorem failWith_eq (problem : StepProblem) (operands : List Datum) :
    failWith problem operands = if operands.any Datum.hasLongInteger then Outcome.fault .longInteger
      else Outcome.fail (.step problem) := by
  have checked : operands.forM Datum.checkDigits =
      if operands.any Datum.hasLongInteger then .error .longInteger else .ok () := by
    induction operands with
    | nil => rfl
    | cons operand operands induction =>
        change (operand.checkDigits >>= fun _ => operands.forM Datum.checkDigits) = _
        rw [induction, Datum.checkDigits, List.any_cons]
        cases operand.hasLongInteger <;> rfl
  rw [failWith, checked]
  cases operands.any Datum.hasLongInteger <;> rfl

theorem faultsIff_failWith {problem : StepProblem} (operands : List Datum)
    (isQuery : problem.report.category = .query)
    (isMismatch : problem.report.code = "E_TYPE_MISMATCH") :
    (failWith problem operands).FaultsIff (operands.any Datum.hasLongInteger = true) := by
  rw [failWith_eq]
  split
  · next long => exact Outcome.faultsIff_fault _ long
  · next short => exact ⟨Raises.error ⟨isQuery, isMismatch, rfl⟩, fun long => absurd long short⟩

/-! ## Comparisons -/

section Comparisons

variable {operator : ComparisonOperator} {left right formedLeft formedRight : Datum}

theorem present_of_asTemporal? {datum instant : Datum} (isInstant : asTemporal? datum = some instant) :
    datum.isNull = false := by
  cases datum with
  | null => cases isInstant
  | _ => rfl

theorem OnTwoClocks.present (apart : OnTwoClocks left right) :
    (left.isNull || right.isNull) = false := by
  rcases apart with ⟨_, isLeft, isRight, _⟩ | ⟨rfl, rfl, _⟩
  · rw [present_of_asTemporal? isLeft, present_of_asTemporal? isRight, Bool.or_false]
  · rfl

/-- The common form of two operands: their own if they are of one kind, or that of two instants. -/
inductive Formed (left right : Datum) : Datum → Datum → Prop
  | numbers (areNumbers : (isNumber left && isNumber right) = true) : Formed left right left right
  | booleans {leftValue rightValue : Bool} (isLeft : left = .boolean leftValue)
      (isRight : right = .boolean rightValue) : Formed left right left right
  | texts {leftValue rightValue : String} (isLeft : left = .text leftValue)
      (isRight : right = .text rightValue) : Formed left right left right
  | moments {leftMoment rightMoment : Moment} (temporal : (isTemporal left || isTemporal right) = true)
      (isLeft : asTemporal? left = some (.moment leftMoment))
      (isRight : asTemporal? right = some (.moment rightMoment)) :
      Formed left right (.moment leftMoment) (.moment rightMoment)
  | times {leftTime rightTime : Time} (isLeft : left = .time leftTime)
      (isRight : right = .time rightTime) : Formed left right left right

theorem eq_time_of_asTemporal? {datum : Datum} {time : Time}
    (isTime : asTemporal? datum = some (.time time)) : datum = .time time := by
  cases datum with
  | text value =>
      rcases Option.map_eq_some_iff.mp isTime with ⟨_, _, made⟩
      cases made
  | time value => cases isTime; rfl
  | _ => cases isTime

theorem not_temporal_of_numbers (areNumbers : (isNumber left && isNumber right) = true) :
    (isTemporal left || isTemporal right) = false := by
  rw [Bool.and_eq_true] at areNumbers
  cases left <;> cases areNumbers.1 <;> cases right <;> cases areNumbers.2 <;> rfl

theorem commonForm?_eq_some_iff :
    commonForm? left right = some (formedLeft, formedRight) ↔
      Formed left right formedLeft formedRight := by
  constructor
  · intro formed
    unfold commonForm? at formed
    split at formed
    · next areNumbers => cases formed; exact .numbers areNumbers
    · split at formed
      · cases formed; exact .booleans rfl rfl
      · cases formed; exact .texts rfl rfl
      · split at formed
        · next temporal =>
          unfold temporalPair? at formed
          split at formed
          · next isLeft isRight => cases formed; exact .moments temporal isLeft isRight
          · next isLeft isRight =>
            cases eq_time_of_asTemporal? isLeft
            cases eq_time_of_asTemporal? isRight
            cases formed
            exact .times rfl rfl
          · cases formed
        · cases formed
  · rintro (areNumbers | ⟨rfl, rfl⟩ | ⟨rfl, rfl⟩ | ⟨temporal, isLeft, isRight⟩ | ⟨rfl, rfl⟩)
    · unfold commonForm?
      rw [if_pos areNumbers]
    · rfl
    · rfl
    · unfold commonForm?
      split
      · next areNumbers => simp [not_temporal_of_numbers areNumbers] at temporal
      · split
        · cases isLeft
        · cases temporal
        · rw [temporalPair?, isLeft, isRight]
    · rfl

theorem less_numbers (areNumbers : (isNumber left && isNumber right) = true) :
    ∃ before, left.less right = .ok before := by
  rw [Bool.and_eq_true] at areNumbers
  cases left <;> cases areNumbers.1 <;> cases right <;> cases areNumbers.2 <;> exact ⟨_, rfl⟩

theorem OnTwoClocks.temporal (apart : OnTwoClocks left right) :
    (isTemporal left || isTemporal right) = true := by
  rcases apart with ⟨temporal, _, _, _⟩ | ⟨rfl, _, _⟩
  · exact temporal
  · rfl

theorem OnTwoClocks.exists_commonForm? (apart : OnTwoClocks left right) :
    ∃ formed, commonForm? left right = some formed := by
  rcases apart with ⟨temporal, isLeft, isRight, _⟩ | ⟨isLeft, isRight, _⟩
  · exact ⟨_, commonForm?_eq_some_iff.mpr (.moments temporal isLeft isRight)⟩
  · exact ⟨_, commonForm?_eq_some_iff.mpr (.times isLeft isRight)⟩

theorem error_of_scale_ne {leftScale rightScale : Scale} (isLeft : left.scale? = some leftScale)
    (isRight : right.scale? = some rightScale) (differ : leftScale ≠ rightScale) :
    ∃ clash, left.less right = .error clash := by
  cases compared : left.less right with
  | ok before => exact absurd (Datum.scale_eq_of_less compared isLeft isRight) differ
  | error clash => exact ⟨clash, rfl⟩

/-- The operands in common form have an order either way, unless they are on two clocks. -/
def Told (left right formedLeft formedRight : Datum) : Prop :=
  (¬OnTwoClocks left right ∧ (∃ before, formedLeft.less formedRight = .ok before) ∧
      ∃ before, formedRight.less formedLeft = .ok before) ∨
    (OnTwoClocks left right ∧ (∃ clash, formedLeft.less formedRight = .error clash) ∧
      ∃ clash, formedRight.less formedLeft = .error clash)

theorem told_of_scales {leftScale rightScale : Scale} (isLeft : formedLeft.scale? = some leftScale)
    (isRight : formedRight.scale? = some rightScale)
    (apart : OnTwoClocks left right ↔ leftScale ≠ rightScale) :
    Told left right formedLeft formedRight := by
  by_cases same : leftScale = rightScale
  · subst same
    exact .inl ⟨fun onTwo => apart.mp onTwo rfl, Datum.exists_less_of_scale isLeft isRight,
      Datum.exists_less_of_scale isRight isLeft⟩
  · exact .inr ⟨apart.mpr same, error_of_scale_ne isLeft isRight same,
      error_of_scale_ne isRight isLeft (Ne.symm same)⟩

theorem onTwoClocks_moments_iff {leftMoment rightMoment : Moment}
    (temporal : (isTemporal left || isTemporal right) = true)
    (isLeft : asTemporal? left = some (.moment leftMoment))
    (isRight : asTemporal? right = some (.moment rightMoment)) :
    OnTwoClocks left right ↔
      leftMoment.time.offset.isSome ≠ rightMoment.time.offset.isSome := by
  constructor
  · rintro (⟨_, otherLeft, otherRight, differ⟩ | ⟨rfl, _, _⟩)
    · cases isLeft.symm.trans otherLeft
      cases isRight.symm.trans otherRight
      exact differ
    · cases isLeft
  · exact .moments temporal isLeft isRight

theorem onTwoClocks_times_iff {leftTime rightTime : Time} :
    OnTwoClocks (.time leftTime) (.time rightTime) ↔
      leftTime.offset.isSome ≠ rightTime.offset.isSome := by
  constructor
  · rintro (⟨_, isLeft, _, _⟩ | ⟨isLeft, isRight, differ⟩)
    · cases isLeft
    · cases isLeft
      cases isRight
      exact differ
  · exact .times rfl rfl

theorem Formed.told (formed : Formed left right formedLeft formedRight) :
    Told left right formedLeft formedRight := by
  cases formed with
  | numbers areNumbers =>
      refine .inl ⟨fun apart => ?_, less_numbers areNumbers, less_numbers (by rwa [Bool.and_comm])⟩
      exact absurd apart.temporal (by simp [not_temporal_of_numbers areNumbers])
  | booleans isLeft isRight =>
      subst isLeft isRight
      exact told_of_scales rfl rfl (iff_of_false (nomatch ·.temporal) (· rfl))
  | texts isLeft isRight =>
      subst isLeft isRight
      exact told_of_scales rfl rfl (iff_of_false (nomatch ·.temporal) (· rfl))
  | moments temporal isLeft isRight =>
      refine told_of_scales rfl rfl ((onTwoClocks_moments_iff temporal isLeft isRight).trans ?_)
      simp
  | times isLeft isRight =>
      subst isLeft isRight
      refine told_of_scales rfl rfl (onTwoClocks_times_iff.trans ?_)
      simp

theorem short_of_asTemporal? {datum instant : Datum} (isInstant : asTemporal? datum = some instant) :
    datum.hasLongInteger = false := by
  cases datum with
  | text _ | date _ | moment _ | time _ => rfl
  | _ => cases isInstant

theorem Formed.short (formed : Formed left right formedLeft formedRight)
    (notNumbers : (isNumber left && isNumber right) = false) :
    left.hasLongInteger = false ∧ right.hasLongInteger = false := by
  cases formed with
  | numbers areNumbers => rw [areNumbers] at notNumbers; cases notNumbers
  | moments temporal isLeft isRight =>
      exact ⟨short_of_asTemporal? isLeft, short_of_asTemporal? isRight⟩
  | _ isLeft isRight =>
      subst isLeft isRight
      exact ⟨rfl, rfl⟩

/-- An order that is asked for is told when both orders are. -/
theorem ordered_of_told (told : Told left right formedLeft formedRight)
    (ordering : operator.isOrdering = true) :
    (¬OnTwoClocks left right ∧ ∃ result, ordered operator formedLeft formedRight = .ok result) ∨
      (OnTwoClocks left right ∧ ∃ clash, ordered operator formedLeft formedRight = .error clash) := by
  rcases told with ⟨onOne, ⟨before, isBefore⟩, after, isAfter⟩ |
    ⟨apart, ⟨clash, isClash⟩, other, isOther⟩
  · refine .inl ⟨onOne, ?_⟩
    cases operator <;> cases ordering <;> simp only [ordered, isBefore, isAfter] <;> exact ⟨_, rfl⟩
  · refine .inr ⟨apart, ?_⟩
    cases operator <;> cases ordering <;> simp only [ordered, isClash, isOther] <;> exact ⟨_, rfl⟩

theorem compareOperands_of_ordering (ordering : operator.isOrdering = true) (strict : Bool) :
    compareOperands strict operator left right =
      if left.isNull || right.isNull then return .boolean false
      else match commonForm? left right with
        | none =>
            if strict then failWith (.comparison operator.symbol left right) [left, right]
            else return .boolean false
        | some (formedLeft, formedRight) =>
            match ordered operator formedLeft formedRight with
            | .ok result => return .boolean result
            | .error clash => Outcome.fault (.incomparable clash) := by
  cases operator <;> cases ordering <;> rfl

theorem overlong_iff (present : (left.isNull || right.isNull) = false) : Overlong left right ↔
    [left, right].any Datum.hasLongInteger = true := by
  rw [Bool.or_eq_false_iff] at present
  constructor
  · rintro ⟨_, _, long⟩
    simpa using long
  · exact fun long => ⟨present.1, present.2, by simpa using long⟩

theorem ComparisonFaults.ordering {strict : Bool}
    (faults : ComparisonFaults left right strict operator) : operator.isOrdering = true := by
  rcases faults with ⟨ordering, _⟩ | ⟨ordering, _⟩ <;> exact ordering

theorem ComparisonFaults.present {strict : Bool}
    (faults : ComparisonFaults left right strict operator) :
    (left.isNull || right.isNull) = false := by
  rcases faults with ⟨_, apart⟩ | ⟨_, _, _, overlong⟩
  · exact apart.present
  · rw [overlong.left_present, overlong.right_present, Bool.or_false]

/-- Without a common form there is a failure to be told, if it is asked for. -/
theorem comparisonFaults_of_commonForm?_none (strict : Bool) (noForm : commonForm? left right = none)
    (ordering : operator.isOrdering = true) :
    ComparisonFaults left right strict operator ↔ strict = true ∧ Overlong left right := by
  constructor
  · rintro (⟨_, apart⟩ | ⟨_, isStrict, _, overlong⟩)
    · rcases apart.exists_commonForm? with ⟨formed, isFormed⟩
      cases noForm.symm.trans isFormed
    · exact ⟨isStrict, overlong⟩
  · rintro ⟨isStrict, overlong⟩
    refine .overlong ordering isStrict ?_ overlong
    rw [Bool.eq_false_iff]
    intro areNumbers
    cases noForm.symm.trans (commonForm?_eq_some_iff.mpr (.numbers areNumbers))

/-- With a common form only the clocks are left to fail: operands that are too long are numbers. -/
theorem Formed.comparisonFaults_iff (formed : Formed left right formedLeft formedRight) (strict : Bool)
    (ordering : operator.isOrdering = true) :
    ComparisonFaults left right strict operator ↔ OnTwoClocks left right := by
  refine ⟨?_, .clocks ordering⟩
  rintro (⟨_, apart⟩ | ⟨_, _, notNumbers, overlong⟩)
  · exact apart
  · have short := formed.short notNumbers
    exact absurd overlong.long (by simp [short])

theorem faultsIff_compareOperands (strict : Bool) (operator : ComparisonOperator)
    (left right : Datum) :
    (compareOperands strict operator left right).FaultsIff
      (ComparisonFaults left right strict operator) := by
  cases ordering : operator.isOrdering with
  | false =>
      have never : ¬ComparisonFaults left right strict operator := fun faults => by
        cases ordering.symm.trans faults.ordering
      cases operator <;> cases ordering <;> exact Outcome.faultsIff_pure _ never
  | true =>
      rw [compareOperands_of_ordering ordering]
      split
      · next absent =>
        exact Outcome.faultsIff_pure _ fun faults => by cases faults.present.symm.trans absent
      · next present =>
        split
        · next noForm =>
          have faulty := comparisonFaults_of_commonForm?_none strict noForm ordering
          split
          · next isStrict =>
            refine (faultsIff_failWith _ rfl rfl).congr ?_
            rw [faulty, and_iff_right isStrict, overlong_iff (Bool.eq_false_of_not_eq_true present)]
          · next lenient => exact Outcome.faultsIff_pure _ fun faults => lenient (faulty.mp faults).1
        · next formed =>
          have isFormed := commonForm?_eq_some_iff.mp formed
          have faulty := isFormed.comparisonFaults_iff strict ordering
          rcases ordered_of_told isFormed.told ordering with
            ⟨onOne, result, isResult⟩ | ⟨apart, clash, isClash⟩
          · rw [isResult]
            exact Outcome.faultsIff_pure _ (mt faulty.mp onOne)
          · rw [isClash]
            exact Outcome.faultsIff_fault _ (faulty.mpr apart)

theorem exists_fault_of_lenient {problem : Problem}
    (failed : compareOperands false operator left right = .error problem) :
    ∃ cause, problem = .fault cause := by
  unfold compareOperands at failed
  split at failed
  · cases failed
  · cases failed
  · split at failed
    · cases failed
    · split at failed
      · rw [if_neg Bool.false_ne_true] at failed
        cases failed
      · split at failed
        · cases failed
        · cases failed
          exact ⟨_, rfl⟩

/-- An order that need not be told is refused to instants on two clocks alone. -/
theorem compareOperands_lenient_fails_iff :
    (∃ problem, compareOperands false operator left right = .error problem) ↔
      operator.isOrdering = true ∧ OnTwoClocks left right := by
  have faults := faultsIff_compareOperands false operator left right
  constructor
  · rintro ⟨problem, failed⟩
    rcases exists_fault_of_lenient failed with ⟨cause, rfl⟩
    have expected : ComparisonFaults left right false operator := faults.raises _ failed
    rcases expected with ⟨ordering, apart⟩ | ⟨_, isStrict, _, _⟩
    · exact ⟨ordering, apart⟩
    · cases isStrict
  · rintro ⟨ordering, apart⟩
    rcases faults.exists_fault (.clocks ordering apart) with ⟨cause, failed⟩
    exact ⟨_, failed⟩

end Comparisons

/-! ## Arithmetic -/

section Arithmetic

variable {operator : ArithmeticOperator} {left right : Datum}

theorem ArithmeticFaults.present (faults : ArithmeticFaults operator left right) :
    (left.isNull || right.isNull) = false := by
  rcases faults with ⟨_, overlong⟩ | _ | _ | _
  · rw [overlong.left_present, overlong.right_present, Bool.or_false]
  · rfl
  · rfl
  · rfl

theorem overlong_of_arithmeticFaults (faults : ArithmeticFaults operator left right)
    (notNumbers : (isNumber left && isNumber right) = false) : Overlong left right := by
  rcases faults with ⟨_, overlong⟩ | _ | _ | _
  · exact overlong
  · cases notNumbers
  · cases notNumbers
  · cases notNumbers

theorem not_faults_by_zero (isZero : isZeroNumber right = true)
    (areNumbers : (isNumber left && isNumber right) = true) :
    ¬ArithmeticFaults .divide left right := by
  rintro (⟨notNumbers, _⟩ | ⟨_, nonzero, _⟩ | ⟨_, defined⟩ | ⟨large⟩)
  · cases notNumbers.symm.trans areNumbers
  · exact nonzero (of_decide_eq_true isZero)
  · exact defined ⟨rfl, isZero⟩
  · cases of_decide_eq_true isZero
    exact absurd large (Nat.not_le.mpr Binary64.overflow_pos)

theorem numberArithmetic_left (left : Int) (right : Binary64) :
    numberArithmetic operator (.integer left) (.number right) =
      if (Binary64.ofInt left).isFinite then
        .ok (.number (binaryArithmetic operator (Binary64.ofInt left) right))
      else .error .largeInteger := by
  simp only [numberArithmetic, asBinary64]
  split <;> rfl

theorem numberArithmetic_right (left : Binary64) (right : Int) :
    numberArithmetic operator (.number left) (.integer right) =
      if (Binary64.ofInt right).isFinite then
        .ok (.number (binaryArithmetic operator left (Binary64.ofInt right)))
      else .error .largeInteger := by
  simp only [numberArithmetic, asBinary64]
  split <;> rfl

theorem exists_fault_ite_iff {finite : Bool} {value : Datum} {fault : Fault} :
    (∃ cause, (if finite then .ok value else .error fault : Except Fault Datum) = .error cause) ↔
      finite = false := by
  cases finite <;> simp

/-- Of two numbers, one may be too large for the other, or their quotient too large. -/
theorem exists_fault_numberArithmetic_iff (areNumbers : (isNumber left && isNumber right) = true)
    (defined : ¬(operator = .divide ∧ isZeroNumber right = true)) :
    (∃ fault, numberArithmetic operator left right = .error fault) ↔
      ArithmeticFaults operator left right := by
  rw [Bool.and_eq_true] at areNumbers
  cases left with
  | integer left =>
      cases right with
      | integer right =>
          rw [numberArithmetic]
          cases operator with
          | divide =>
              have nonzero : right ≠ 0 := fun zero => defined ⟨rfl, decide_eq_true zero⟩
              rw [integerArithmetic, exists_fault_ite_iff,
                Binary64.isFinite_ofRatio_eq_false_iff _ (Int.natAbs_pos.mpr nonzero)]
              constructor
              · exact .quotient rfl nonzero
              · rintro (⟨notNumbers, _⟩ | ⟨_, _, large⟩)
                · cases notNumbers
                · exact large
          | _ =>
              refine iff_of_false (fun ⟨_, failed⟩ => by cases failed) ?_
              rintro (⟨notNumbers, _⟩ | ⟨divides, _, _⟩)
              · cases notNumbers
              · cases divides
      | number right =>
          rw [numberArithmetic_left, exists_fault_ite_iff, Binary64.isFinite_ofInt_eq_false_iff]
          constructor
          · exact fun large => .left large defined
          · rintro (⟨notNumbers, _⟩ | _ | ⟨large, _⟩)
            · cases notNumbers
            · exact large
      | _ => cases areNumbers.2
  | number left =>
      cases right with
      | integer right =>
          rw [numberArithmetic_right, exists_fault_ite_iff, Binary64.isFinite_ofInt_eq_false_iff]
          constructor
          · exact .right
          · rintro (⟨notNumbers, _⟩ | _ | _ | ⟨large⟩)
            · cases notNumbers
            · exact large
      | number right =>
          refine iff_of_false (fun ⟨_, failed⟩ => by cases failed) ?_
          rintro ⟨notNumbers, _⟩
          cases notNumbers
      | _ => cases areNumbers.2
  | _ => cases areNumbers.1

theorem faultsIff_calculate (operator : ArithmeticOperator) (left right : Datum) :
    (calculate operator left right).FaultsIff (ArithmeticFaults operator left right) := by
  unfold calculate
  split
  · next absent =>
    exact Outcome.faultsIff_pure _ fun faults => by cases faults.present.symm.trans absent
  · next present =>
    split
    · next areNumbers =>
      split
      · next byZero =>
        rw [Bool.and_eq_true, decide_eq_true_iff] at byZero
        rcases byZero with ⟨rfl, isZero⟩
        exact Outcome.faultsIff_pure _ (not_faults_by_zero isZero areNumbers)
      · next defined =>
        rw [← exists_fault_numberArithmetic_iff areNumbers (by simpa using defined)]
        cases numberArithmetic operator left right with
        | ok result => exact Outcome.faultsIff_pure _ nofun
        | error fault => exact Outcome.faultsIff_fault _ ⟨fault, rfl⟩
    · next notBoth =>
      have notNumbers := Bool.eq_false_of_not_eq_true notBoth
      split
      · exact Outcome.faultsIff_pure _ fun faults => by
          rcases (overlong_of_arithmeticFaults faults rfl).long with long | long <;> cases long
      · refine (faultsIff_failWith _ rfl rfl).congr ?_
        rw [← overlong_iff (Bool.eq_false_of_not_eq_true present)]
        exact ⟨.overlong notNumbers, (overlong_of_arithmeticFaults · notNumbers)⟩

end Arithmetic

/-! ## Other operations -/

theorem faultsIff_negate (value : Datum) : (negate value).FaultsIff
    (isNumber value = false ∧ value.hasLongInteger = true) := by
  unfold negate
  split
  · exact Outcome.faultsIff_pure _ fun faults => by cases faults.2
  · exact Outcome.faultsIff_pure _ fun faults => by cases faults.1
  · exact Outcome.faultsIff_pure _ fun faults => by cases faults.1
  · next notNull notInteger notNumber =>
    have other : isNumber value = false := by
      cases value with
      | integer value => exact absurd rfl (notInteger value)
      | number value => exact absurd rfl (notNumber value)
      | _ => rfl
    refine (faultsIff_failWith _ rfl rfl).congr ?_
    simp [other]

theorem operandText_eq (datum : Datum) : operandText datum =
    if datum.hasLongInteger then .error .longInteger else .ok datum.cellText.toList := by
  rw [operandText, Datum.checkDigits]
  cases datum.hasLongInteger <;> rfl

theorem faultsIff_testText (operator : TextOperator) (left right : Datum) :
    (testText operator left right).FaultsIff (Overlong left right) := by
  unfold testText
  split
  · next absent =>
    refine Outcome.faultsIff_pure _ fun overlong => ?_
    simp [overlong.left_present, overlong.right_present] at absent
  · next present =>
    rw [overlong_iff (Bool.eq_false_of_not_eq_true present)]
    simp only [operandText_eq]
    cases leftLong : left.hasLongInteger with
    | true => exact Outcome.faultsIff_fault _ (by simp [leftLong])
    | false =>
        cases rightLong : right.hasLongInteger with
        | true => exact Outcome.faultsIff_fault _ (by simp [rightLong])
        | false => exact Outcome.faultsIff_pure _ (by simp [leftLong, rightLong])

end Expression

end TableBrowser
