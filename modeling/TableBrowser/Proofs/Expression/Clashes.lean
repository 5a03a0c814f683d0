import Mathlib.Logic.Relation
import TableBrowser.Proofs.Expression.Operands
/-!
# Operands that clash in an expression

The value of an expression needs those of its parts as far as nothing is settled
before. Main statement: an expression ends with a fault exactly when its value needs
that of an operation on operands that clash, and with a type mismatch if it fails
otherwise.
-/

namespace TableBrowser.Expression

/-- The parts that an expression is made of. -/
def operands : Expression → List Expression
  | literal _ | column _ _ => []
  | not operand | negation operand => [operand]
  | or left right | and left right | comparison _ left right | textTest _ left right
  | arithmetic _ left right => [left, right]

/-- The value of the first part settles that of the expression. -/
def settledBy : Expression → Datum → Bool
  | and _ _, value => !isTrue value
  | or _ _, value => isTrue value
  | _, _ => false

section Reach

variable (strict : Bool) (cell : String → Datum)

/-- The value of an expression needs that of its first part, and of the second if that settles nothing. -/
inductive Needs (whole : Expression) : Expression → Prop
  | first {part : Expression} {others : List Expression}
      (areParts : whole.operands = part :: others) : Needs whole part
  | second {first part : Expression} {value : Datum} (areParts : whole.operands = [first, part])
      (isValue : evaluate strict cell first = .ok value) (unsettled : whole.settledBy value = false) :
      Needs whole part

/-- An operation on operands that clash. -/
inductive Clashes : Expression → Prop
  | comparison {operator : ComparisonOperator} {left right : Expression} {leftValue rightValue : Datum}
      (isLeft : evaluate strict cell left = .ok leftValue)
      (isRight : evaluate strict cell right = .ok rightValue)
      (faults : ComparisonFaults leftValue rightValue strict operator) :
      Clashes (.comparison operator left right)
  | arithmetic {operator : ArithmeticOperator} {left right : Expression} {leftValue rightValue : Datum}
      (isLeft : evaluate strict cell left = .ok leftValue)
      (isRight : evaluate strict cell right = .ok rightValue)
      (faults : ArithmeticFaults operator leftValue rightValue) :
      Clashes (.arithmetic operator left right)
  | textTest {operator : TextOperator} {left right : Expression} {leftValue rightValue : Datum}
      (isLeft : evaluate strict cell left = .ok leftValue)
      (isRight : evaluate strict cell right = .ok rightValue)
      (overlong : Overlong leftValue rightValue) : Clashes (.textTest operator left right)
  | negation {operand : Expression} {value : Datum} (isValue : evaluate strict cell operand = .ok value)
      (notNumber : isNumber value = false) (long : value.hasLongInteger = true) :
      Clashes (.negation operand)

/-- Somewhere in what its value needs, an expression has operands that clash. -/
def MeetsClash (expression : Expression) : Prop :=
  ∃ part, Relation.ReflTransGen (Needs strict cell) expression part ∧ Clashes strict cell part

end Reach

section Evaluation

variable {strict : Bool} {cell : String → Datum} {whole part : Expression}

theorem MeetsClash.of_clashes (clashes : Clashes strict cell whole) : MeetsClash strict cell whole :=
  ⟨whole, .refl, clashes⟩

theorem MeetsClash.of_needs (needs : Needs strict cell whole part)
    (meets : MeetsClash strict cell part) : MeetsClash strict cell whole := by
  rcases meets with ⟨last, reached, clashes⟩
  exact ⟨last, .head needs reached, clashes⟩

/-- What is needed and fails makes the whole fail. -/
theorem Needs.error {problem : Problem} (needs : Needs strict cell whole part)
    (failed : evaluate strict cell part = .error problem) :
    evaluate strict cell whole = .error problem := by
  cases needs with
  | first areParts =>
      cases whole <;> cases areParts <;> rw [evaluate, failed] <;> rfl
  | @second _ _ value areParts isValue unsettled =>
      cases whole with
      | literal => cases areParts
      | column => cases areParts
      | not => cases areParts
      | negation => cases areParts
      | and left right =>
          cases areParts
          have goesOn : isTrue value = true := by simpa [settledBy] using unsettled
          rw [evaluate, isValue]
          simp [bind, Except.bind, goesOn, failed]
      | or left right =>
          cases areParts
          have goesOn : isTrue value = false := unsettled
          rw [evaluate, isValue]
          simp [bind, Except.bind, goesOn, failed]
      | _ =>
          cases areParts
          rw [evaluate, isValue, failed]
          rfl

theorem error_of_reached {problem : Problem}
    (reached : Relation.ReflTransGen (Needs strict cell) whole part)
    (failed : evaluate strict cell part = .error problem) :
    evaluate strict cell whole = .error problem := by
  induction reached using Relation.ReflTransGen.head_induction_on with
  | refl => exact failed
  | head needs _ induction => exact needs.error induction

theorem Clashes.exists_fault (clashes : Clashes strict cell whole) :
    ∃ cause, evaluate strict cell whole = .error (.fault cause) := by
  cases clashes with
  | comparison isLeft isRight faults =>
      rw [evaluate, isLeft, isRight]
      exact (faultsIff_compareOperands ..).exists_fault faults
  | arithmetic isLeft isRight faults =>
      rw [evaluate, isLeft, isRight]
      exact (faultsIff_calculate ..).exists_fault faults
  | textTest isLeft isRight overlong =>
      rw [evaluate, isLeft, isRight]
      exact (faultsIff_testText ..).exists_fault overlong
  | negation isValue notNumber long =>
      rw [evaluate, isValue]
      exact (faultsIff_negate _).exists_fault ⟨notNumber, long⟩

theorem MeetsClash.exists_fault (meets : MeetsClash strict cell whole) :
    ∃ cause, evaluate strict cell whole = .error (.fault cause) := by
  rcases meets with ⟨last, reached, clashes⟩
  exact clashes.exists_fault.imp fun _ => error_of_reached reached

/-- The failures of a part are those of the whole. -/
theorem Needs.raises (needs : Needs strict cell whole part)
    (raises : Raises (Problem.IsMismatchOr (MeetsClash strict cell part)) (evaluate strict cell part)) :
    Raises (Problem.IsMismatchOr (MeetsClash strict cell whole)) (evaluate strict cell part) :=
  raises.mono fun _ expected => expected.weaken (.of_needs needs)

theorem raises_evaluate (strict : Bool) (cell : String → Datum) (expression : Expression) :
    Raises (Problem.IsMismatchOr (MeetsClash strict cell expression))
      (evaluate strict cell expression) := by
  induction expression with
  | literal value => exact Raises.pure value
  | column name position => exact Raises.pure _
  | and left right leftRaises rightRaises =>
      refine ((Needs.first rfl).raises leftRaises).bind_ok fun value isValue => ?_
      split
      · next goesOn =>
        have needs : Needs strict cell (.and left right) right :=
          .second rfl isValue (by simp [settledBy, goesOn])
        exact (needs.raises rightRaises).bind fun _ => Raises.pure _
      · exact Raises.pure _
  | or left right leftRaises rightRaises =>
      refine ((Needs.first rfl).raises leftRaises).bind_ok fun value isValue => ?_
      split
      · exact Raises.pure _
      · next unsettled =>
        have needs : Needs strict cell (.or left right) right :=
          .second rfl isValue (Bool.eq_false_of_not_eq_true unsettled)
        exact (needs.raises rightRaises).bind fun _ => Raises.pure _
  | not operand raises => exact ((Needs.first rfl).raises raises).bind fun _ => Raises.pure _
  | negation operand raises =>
      refine ((Needs.first rfl).raises raises).bind_ok fun value isValue => ?_
      exact (faultsIff_negate value).raises.mono fun _ expected =>
        expected.weaken fun faults => .of_clashes (.negation isValue faults.1 faults.2)
  | comparison operator left right leftRaises rightRaises =>
      refine ((Needs.first rfl).raises leftRaises).bind_ok fun leftValue isLeft => ?_
      refine ((Needs.second rfl isLeft rfl).raises rightRaises).bind_ok fun rightValue isRight => ?_
      exact (faultsIff_compareOperands ..).raises.mono fun _ expected =>
        expected.weaken fun faults => .of_clashes (.comparison isLeft isRight faults)
  | arithmetic operator left right leftRaises rightRaises =>
      refine ((Needs.first rfl).raises leftRaises).bind_ok fun leftValue isLeft => ?_
      refine ((Needs.second rfl isLeft rfl).raises rightRaises).bind_ok fun rightValue isRight => ?_
      exact (faultsIff_calculate ..).raises.mono fun _ expected =>
        expected.weaken fun faults => .of_clashes (.arithmetic isLeft isRight faults)
  | textTest operator left right leftRaises rightRaises =>
      refine ((Needs.first rfl).raises leftRaises).bind_ok fun leftValue isLeft => ?_
      refine ((Needs.second rfl isLeft rfl).raises rightRaises).bind_ok fun rightValue isRight => ?_
      exact (faultsIff_testText ..).raises.mono fun _ expected =>
        expected.weaken fun overlong => .of_clashes (.textTest isLeft isRight overlong)

theorem faultsIff_evaluate (strict : Bool) (cell : String → Datum) (expression : Expression) :
    (evaluate strict cell expression).FaultsIff (MeetsClash strict cell expression) where
  raises := raises_evaluate strict cell expression
  exists_fault := MeetsClash.exists_fault

end Evaluation

end TableBrowser.Expression
