import TableBrowser.Proofs.Expression.Grammar
import TableBrowser.Proofs.Expression.Lexemes
/-!
# Sources of expressions

An expression knows where in its source its columns stand, and nothing else of it.
Main statement: which expression a source is read as, up to these places, depends
on its tokens only.
-/

namespace TableBrowser.Expression

/-- The expression without the places of its columns. -/
def unplaced : Expression → Expression
  | literal value => literal value
  | column name _ => column name 0
  | or left right => or left.unplaced right.unplaced
  | and left right => and left.unplaced right.unplaced
  | not operand => not operand.unplaced
  | comparison operator left right => comparison operator left.unplaced right.unplaced
  | textTest operator left right => textTest operator left.unplaced right.unplaced
  | arithmetic operator left right => arithmetic operator left.unplaced right.unplaced
  | negation operand => negation operand.unplaced

/-- Tokens that do not tell where they stand. -/
def bare (tokens : List Token) : List PlacedToken := tokens.map (⟨·, 0⟩)

theorem bare_append (left right : List Token) : bare (left ++ right) = bare left ++ bare right :=
  List.map_append

variable {level : Level} {placed : List PlacedToken} {tokens : List Token}
  {make : Expression → Expression → Expression} {expression shape : Expression}

theorem unplaced_of_operator? {token : Token} (isOperator : level.operator? token = some make)
    (left right : Expression) : (make left right).unplaced = make left.unplaced right.unplaced := by
  rcases cases_of_operator? isOperator with ⟨_, rfl⟩ | ⟨_, rfl⟩ | ⟨_, _, rfl⟩ <;> rfl

theorem unplaced_of_comparisonOperator? {token : Token}
    (isOperator : comparisonOperator? token = some make) (left right : Expression) :
    (make left right).unplaced = make left.unplaced right.unplaced := by
  rcases cases_of_comparisonOperator? isOperator with ⟨_, rfl⟩ | ⟨_, rfl⟩ <;> rfl

theorem unplaced_of_atom? {first second : PlacedToken} (same : first.token = second.token)
    (isAtom : atom? first = some expression) :
    ∃ other, atom? second = some other ∧ other.unplaced = expression.unplaced := by
  unfold atom? at isAtom ⊢
  rw [← same]
  split at isAtom
  case h_1 =>
    cases isAtom
    exact ⟨_, rfl, rfl⟩
  all_goals exact ⟨expression, isAtom, rfl⟩

theorem parse_eq_ok_iff {source : String} : parse source = .ok expression ↔
    ∃ placed, Expression.tokens source = .ok placed ∧ Derives .or placed expression := by
  unfold parse
  rw [bind_eq_ok]
  refine exists_congr fun placed => and_congr_right fun _ => ?_
  rw [← parseTokens_eq_ok_iff]
  cases parseTokens placed with
  | ok read => simp [pure, Except.pure]
  | error stop => simp [Outcome.fail]

/-- The same tokens have the operator and its operands at the same places. -/
theorem exists_operands {others lefts rights : List PlacedToken} {operator : PlacedToken}
    (same : others.map (·.token) = (lefts ++ operator :: rights).map (·.token)) :
    ∃ left between right, others = left ++ between :: right ∧
      left.map (·.token) = lefts.map (·.token) ∧ between.token = operator.token ∧
      right.map (·.token) = rights.map (·.token) := by
  rw [List.map_append, List.map_cons] at same
  rcases List.map_eq_append_iff.mp same with ⟨left, more, rfl, areLefts, isMore⟩
  rcases List.map_eq_cons_iff.mp isMore with ⟨between, right, rfl, sameOperator, areRights⟩
  exact ⟨left, between, right, rfl, areLefts, sameOperator, areRights⟩

/-- An expression is derived of its tokens wherever they stand. -/
theorem Derives.replaced (derived : Derives level placed expression) {others : List PlacedToken}
    (same : others.map (·.token) = placed.map (·.token)) :
    ∃ other, Derives level others other ∧ other.unplaced = expression.unplaced := by
  induction derived generalizing others with
  | atom isAtom =>
      rcases List.map_eq_singleton_iff.mp same with ⟨first, rfl, isFirst⟩
      rcases unplaced_of_atom? isFirst.symm isAtom with ⟨other, isOther, isSame⟩
      exact ⟨other, .atom isOther, isSame⟩
  | parentheses opens closes _ induction =>
      rcases exists_operands same with ⟨before, closing, last, rfl, areBefore, sameClosing, isLast⟩
      rcases List.map_eq_cons_iff.mp areBefore with ⟨opening, inner, rfl, sameOpening, areInner⟩
      obtain rfl := List.map_eq_nil_iff.mp isLast
      rcases induction areInner with ⟨other, derived, isSame⟩
      exact ⟨other, .parentheses (sameOpening.trans opens) (sameClosing.trans closes) derived, isSame⟩
  | negation isSign _ induction =>
      rcases List.map_eq_cons_iff.mp same with ⟨sign, operand, rfl, sameSign, areOperand⟩
      rcases induction areOperand with ⟨other, derived, isSame⟩
      exact ⟨_, .negation (sameSign.trans isSign) derived, congrArg Expression.negation isSame⟩
  | not isWord _ induction =>
      rcases List.map_eq_cons_iff.mp same with ⟨word, operand, rfl, sameWord, areOperand⟩
      rcases induction areOperand with ⟨other, derived, isSame⟩
      exact ⟨_, .not (sameWord.trans isWord) derived, congrArg Expression.not isSame⟩
  | comparison isOperator _ _ left right =>
      rcases exists_operands same with ⟨_, _, _, rfl, areLefts, sameOperator, areRights⟩
      rcases left areLefts with ⟨left, leftDerived, sameLeft⟩
      rcases right areRights with ⟨right, rightDerived, sameRight⟩
      refine ⟨_, .comparison (sameOperator ▸ isOperator) leftDerived rightDerived, ?_⟩
      rw [unplaced_of_comparisonOperator? isOperator, unplaced_of_comparisonOperator? isOperator,
        sameLeft, sameRight]
  | chain isOperator _ _ left right =>
      rcases exists_operands same with ⟨_, _, _, rfl, areLefts, sameOperator, areRights⟩
      rcases left areLefts with ⟨left, leftDerived, sameLeft⟩
      rcases right areRights with ⟨right, rightDerived, sameRight⟩
      refine ⟨_, .chain (sameOperator ▸ isOperator) leftDerived rightDerived, ?_⟩
      rw [unplaced_of_operator? isOperator, unplaced_of_operator? isOperator, sameLeft, sameRight]
  | tighter _ induction =>
      rcases induction same with ⟨other, derived, isSame⟩
      exact ⟨other, .tighter derived, isSame⟩

/-- In parentheses an expression stands anywhere. -/
theorem derives_parenthesized (level : Level) (derived : Derives .or (bare tokens) shape) : Derives level
    (bare (.symbol .openParenthesis :: tokens ++ [.symbol .closeParenthesis])) shape := by
  have whole : Derives .atom (⟨.symbol .openParenthesis, 0⟩ :: bare tokens ++
      [⟨.symbol .closeParenthesis, 0⟩]) shape := .parentheses rfl rfl derived
  have anywhere := whole.loosen (Nat.lt_succ_iff.mp level.rank_lt)
  simpa [bare] using anywhere

theorem map_token_bare (tokens : List Token) : (bare tokens).map (·.token) = tokens := by
  rw [bare, List.map_map]
  exact List.map_id tokens

theorem position_of_mem_bare {token : PlacedToken} (member : token ∈ bare tokens) :
    token.position = 0 := by
  rcases List.mem_map.mp member with ⟨_, _, rfl⟩
  rfl

theorem Derives.unplaced_eq (derived : Derives level placed expression)
    (atStart : ∀ token ∈ placed, token.position = 0) : expression.unplaced = expression := by
  induction derived with
  | @atom placed _ isAtom =>
      have isStart := atStart placed List.mem_cons_self
      rcases cases_of_atom? isAtom with ⟨_, _, rfl⟩ | ⟨_, _, rfl⟩ | ⟨_, _, rfl⟩ | ⟨_, _, _, _, rfl⟩
      · rw [unplaced, isStart]
      all_goals rfl
  | parentheses _ _ _ induction =>
      exact induction fun token member => atStart token (by simp [member])
  | negation _ _ induction =>
      exact congrArg Expression.negation
        (induction fun token member => atStart token (List.mem_cons_of_mem _ member))
  | not _ _ induction =>
      exact congrArg Expression.not
        (induction fun token member => atStart token (List.mem_cons_of_mem _ member))
  | comparison isOperator _ _ left right =>
      rw [unplaced_of_comparisonOperator? isOperator,
        left fun token member => atStart token (by simp [member]),
        right fun token member => atStart token (by simp [member])]
  | chain isOperator _ _ left right =>
      rw [unplaced_of_operator? isOperator,
        left fun token member => atStart token (by simp [member]),
        right fun token member => atStart token (by simp [member])]
  | tighter _ induction => exact induction atStart

/-- Up to places, a source is read as the expression that its tokens derive. -/
theorem exists_parse_iff {source : String} :
    (∃ read, parse source = .ok read ∧ read.unplaced = shape) ↔
      ∃ tokens, Spelled source.toList tokens ∧ Derives .or (bare tokens) shape := by
  constructor
  · rintro ⟨read, isRead, rfl⟩
    rcases parse_eq_ok_iff.mp isRead with ⟨placed, arePlaced, derived⟩
    rcases derived.replaced (map_token_bare _) with ⟨other, otherDerived, isSame⟩
    rw [← isSame, otherDerived.unplaced_eq fun _ => position_of_mem_bare]
    exact ⟨_, exists_tokens_iff.mp ⟨placed, arePlaced, rfl⟩, otherDerived⟩
  · rintro ⟨tokens, spelled, derived⟩
    rcases exists_tokens_iff.mpr spelled with ⟨placed, arePlaced, rfl⟩
    rcases derived.replaced (map_token_bare _).symm with ⟨read, readDerived, isSame⟩
    rw [derived.unplaced_eq fun _ => position_of_mem_bare] at isSame
    exact ⟨read, parse_eq_ok_iff.mpr ⟨placed, arePlaced, readDerived⟩, isSame⟩

end TableBrowser.Expression
