import TableBrowser.Proofs.Expression.Sources
import TableBrowser.Proofs.Expression.Spelling
/-!
# Expressions that are written

An expression is written with its tokens apart and as few parentheses as its
levels allow. Main statements: parentheses are written only where the grammar
reads nothing without them, and what is written is read as the same expression.
-/

namespace TableBrowser

/-- A datum that an expression has a token for; a sign is an operator. -/
def Datum.IsLiteral : Datum → Prop
  | .null | .boolean _ | .text _ => True
  | value => value.IsNumeral

theorem Datum.isLiteral_of_isNumeral {value : Datum} (isNumeral : value.IsNumeral) :
    value.IsLiteral := by
  cases value <;> trivial

namespace Expression

def literals : Expression → List Datum
  | literal value => [value]
  | column _ _ => []
  | or left right | and left right | comparison _ left right | textTest _ left right
  | arithmetic _ left right => left.literals ++ right.literals
  | not operand | negation operand => operand.literals

/-- The level of the operator that is applied last. -/
def outerLevel : Expression → Level
  | literal _ | column _ _ => .atom
  | or _ _ => .or
  | and _ _ => .and
  | not _ => .not
  | comparison _ _ _ | textTest _ _ _ => .comparison
  | arithmetic operator _ _ => operator.level
  | negation _ => .negation

/-! ## Tokens of an expression -/

def literalToken : Datum → Token
  | .null => .keyword .null
  | .boolean true => .keyword .true
  | .boolean false => .keyword .false
  | .text value => .text value
  | value => .number value

/-- The tokens of an operand, in parentheses if its operator is too loose for the place. -/
def enclosed (place : Level) (operand : Expression) (tokens : List Token) : List Token :=
  if operand.outerLevel.rank < place.rank then
    .symbol .openParenthesis :: tokens ++ [.symbol .closeParenthesis]
  else tokens

def writtenTokens : Expression → List Token
  | literal value => [literalToken value]
  | column name _ => [.name name]
  | or left right =>
      enclosed .or left left.writtenTokens ++ .keyword .or ::
        enclosed .and right right.writtenTokens
  | and left right =>
      enclosed .and left left.writtenTokens ++ .keyword .and ::
        enclosed .not right right.writtenTokens
  | not operand => .keyword .not :: enclosed .not operand operand.writtenTokens
  | comparison operator left right =>
      enclosed .sum left left.writtenTokens ++ .symbol (.comparison operator) ::
        enclosed .sum right right.writtenTokens
  | textTest operator left right =>
      enclosed .sum left left.writtenTokens ++ .keyword (.text operator) ::
        enclosed .sum right right.writtenTokens
  | arithmetic operator left right =>
      enclosed operator.level left left.writtenTokens ++ .symbol (.arithmetic operator) ::
        enclosed operator.level.tighter right right.writtenTokens
  | negation operand =>
      .symbol (.arithmetic .subtract) :: enclosed .negation operand operand.writtenTokens

def written (quote : Char) (expression : Expression) : String :=
  " ".intercalate (expression.writtenTokens.map (Token.spelled quote))

example : written '"' (not (comparison .less (column "a b" 0)
    (arithmetic .multiply (arithmetic .add (literal .null) (column "c" 9))
      (literal (.text "say \"x\""))))) =
    "not \x60a b\x60 < ( null + \x60c\x60 ) * \"say \\\"x\\\"\"" := by
  decide

/-! ## The grammar derives them -/

section Derivations

variable {level : Level} {placed : List PlacedToken} {expression : Expression}

theorem derives_enclosed (place : Level) {operand shape : Expression} {tokens : List Token}
    (derived : Derives operand.outerLevel (bare tokens) shape) :
    Derives place (bare (enclosed place operand tokens)) shape := by
  unfold enclosed
  split
  · exact derives_parenthesized _ (derived.loosen (Nat.zero_le _))
  · next tight => exact derived.loosen (Nat.not_lt.mp tight)

theorem atom?_literalToken (value : Datum) : atom? ⟨literalToken value, 0⟩ = some (.literal value) := by
  cases value with
  | boolean value => cases value <;> rfl
  | _ => rfl

theorem operator?_level (operator : ArithmeticOperator) :
    operator.level.operator? (.symbol (.arithmetic operator)) = some (.arithmetic operator) := by
  cases operator <;> rfl

theorem derives_writtenTokens (expression : Expression) :
    Derives expression.outerLevel (bare expression.writtenTokens) expression.unplaced := by
  induction expression with
  | literal value => exact .atom (atom?_literalToken value)
  | column name position => exact .atom rfl
  | or left right leftDerived rightDerived =>
      rw [writtenTokens, bare_append]
      exact .chain rfl (derives_enclosed _ leftDerived) (derives_enclosed .and rightDerived)
  | and left right leftDerived rightDerived =>
      rw [writtenTokens, bare_append]
      exact .chain rfl (derives_enclosed _ leftDerived) (derives_enclosed .not rightDerived)
  | not operand derived => exact .not rfl (derives_enclosed _ derived)
  | comparison operator left right leftDerived rightDerived =>
      rw [writtenTokens, bare_append]
      exact .comparison rfl (derives_enclosed _ leftDerived) (derives_enclosed _ rightDerived)
  | textTest operator left right leftDerived rightDerived =>
      rw [writtenTokens, bare_append]
      exact .comparison rfl (derives_enclosed _ leftDerived) (derives_enclosed _ rightDerived)
  | arithmetic operator left right leftDerived rightDerived =>
      rw [writtenTokens, bare_append]
      exact .chain (operator?_level operator) (derives_enclosed _ leftDerived)
        (derives_enclosed operator.level.tighter rightDerived)
  | negation operand derived => exact .negation rfl (derives_enclosed _ derived)

/-! ## Parentheses -/

theorem outerLevel_of_operator? {token : Token} {make : Expression → Expression → Expression}
    (isOperator : level.operator? token = some make) (left right : Expression) :
    (make left right).outerLevel = level := by
  rcases cases_of_operator? isOperator with ⟨rfl, rfl⟩ | ⟨rfl, rfl⟩ | ⟨_, rfl, rfl⟩ <;> rfl

theorem outerLevel_of_comparisonOperator? {token : Token}
    {make : Expression → Expression → Expression}
    (isOperator : comparisonOperator? token = some make) (left right : Expression) :
    (make left right).outerLevel = .comparison := by
  rcases cases_of_comparisonOperator? isOperator with ⟨_, rfl⟩ | ⟨_, rfl⟩ <;> rfl

theorem outerLevel_of_atom? {placed : PlacedToken} (isAtom : atom? placed = some expression) :
    expression.outerLevel = .atom := by
  rcases cases_of_atom? isAtom with ⟨_, _, rfl⟩ | ⟨_, _, rfl⟩ | ⟨_, _, rfl⟩ | ⟨_, _, _, _, rfl⟩ <;> rfl

/-- Where the operator of an expression is too loose, nothing derives it but parentheses around it. -/
theorem Derives.exists_parentheses (derived : Derives level placed expression)
    (looser : expression.outerLevel.rank < level.rank) :
    ∃ opening inner closing, placed = opening :: inner ++ [closing] ∧
      opening.token = .symbol .openParenthesis ∧ closing.token = .symbol .closeParenthesis ∧
        Derives .or inner expression := by
  induction derived with
  | atom isAtom => simp [outerLevel_of_atom? isAtom] at looser
  | parentheses opens closes inner => exact ⟨_, _, _, rfl, opens, closes, inner⟩
  | negation => simp [outerLevel] at looser
  | not => simp [outerLevel] at looser
  | comparison isOperator =>
      simp [outerLevel_of_comparisonOperator? isOperator] at looser
  | chain isOperator => simp [outerLevel_of_operator? isOperator] at looser
  | @tighter level _ _ _ induction =>
      exact induction (Nat.lt_of_lt_of_le looser level.rank_le_tighter)

end Derivations

/-! ## Reading what is written -/

theorem isWritable_literalToken {value : Datum} (isLiteral : value.IsLiteral) :
    (literalToken value).IsWritable := by
  cases value with
  | boolean value => cases value <;> trivial
  | null => trivial
  | text value => trivial
  | _ => exact isLiteral

theorem isWritable_enclosed {place : Level} {operand : Expression} {tokens : List Token}
    (writable : ∀ token ∈ tokens, token.IsWritable) :
    ∀ token ∈ enclosed place operand tokens, token.IsWritable := by
  unfold enclosed
  split
  · simp only [List.cons_append, List.forall_mem_cons, List.forall_mem_append]
    exact ⟨trivial, writable, trivial, nofun⟩
  · exact writable

theorem isWritable_writtenTokens {expression : Expression}
    (literals : ∀ value ∈ expression.literals, value.IsLiteral) :
    ∀ token ∈ expression.writtenTokens, token.IsWritable := by
  have binary {lefts rights : List Token} {operator : Token} (isOperator : operator.IsWritable)
      (left : ∀ token ∈ lefts, token.IsWritable) (right : ∀ token ∈ rights, token.IsWritable) :
      ∀ token ∈ lefts ++ operator :: rights, token.IsWritable := by
    rw [List.forall_mem_append, List.forall_mem_cons]
    exact ⟨left, isOperator, right⟩
  induction expression with
  | literal value =>
      intro token member
      rw [List.mem_singleton.mp member]
      exact isWritable_literalToken (literals value List.mem_cons_self)
  | column name position =>
      intro token member
      rw [List.mem_singleton.mp member]
      trivial
  | or left right leftWritable rightWritable | and left right leftWritable rightWritable
  | comparison operator left right leftWritable rightWritable
  | textTest operator left right leftWritable rightWritable
  | arithmetic operator left right leftWritable rightWritable =>
      rcases List.forall_mem_append.mp literals with ⟨leftLiterals, rightLiterals⟩
      exact binary trivial (isWritable_enclosed (leftWritable leftLiterals))
        (isWritable_enclosed (rightWritable rightLiterals))
  | not operand writable | negation operand writable =>
      exact List.forall_mem_cons.mpr ⟨trivial, isWritable_enclosed (writable literals)⟩

theorem literals_of_operator? {level : Level} {token : Token}
    {make : Expression → Expression → Expression} (isOperator : level.operator? token = some make)
    (left right : Expression) : (make left right).literals = left.literals ++ right.literals := by
  rcases cases_of_operator? isOperator with ⟨_, rfl⟩ | ⟨_, rfl⟩ | ⟨_, _, rfl⟩ <;> rfl

theorem literals_of_comparisonOperator? {token : Token}
    {make : Expression → Expression → Expression} (isOperator : comparisonOperator? token = some make)
    (left right : Expression) : (make left right).literals = left.literals ++ right.literals := by
  rcases cases_of_comparisonOperator? isOperator with ⟨_, rfl⟩ | ⟨_, rfl⟩ <;> rfl

/-- A literal is an atom among the tokens that it was derived from. -/
theorem Derives.exists_atom {level : Level} {placed : List PlacedToken} {expression : Expression}
    (derived : Derives level placed expression) {value : Datum} (member : value ∈ expression.literals) :
    ∃ token ∈ placed, atom? token = some (.literal value) := by
  have either {lefts rights : List PlacedToken} {operator : PlacedToken}
      (isAtom : (∃ token ∈ lefts, atom? token = some (.literal value)) ∨
        ∃ token ∈ rights, atom? token = some (.literal value)) :
      ∃ token ∈ lefts ++ operator :: rights, atom? token = some (.literal value) := by
    rcases isAtom with ⟨token, isThere, isAtom⟩ | ⟨token, isThere, isAtom⟩
    · exact ⟨token, by simp [isThere], isAtom⟩
    · exact ⟨token, by simp [isThere], isAtom⟩
  induction derived with
  | @atom placed expression isAtom =>
      refine ⟨placed, List.mem_cons_self, ?_⟩
      rw [isAtom]
      rcases cases_of_atom? isAtom with ⟨_, _, rfl⟩ | ⟨_, _, rfl⟩ | ⟨_, _, rfl⟩ | ⟨_, _, _, _, rfl⟩
      · cases member
      all_goals rw [List.mem_singleton.mp member]
  | parentheses _ _ _ induction =>
      rcases induction member with ⟨token, isThere, isAtom⟩
      exact ⟨token, by simp [isThere], isAtom⟩
  | negation _ _ induction | not _ _ induction =>
      rcases induction member with ⟨token, isThere, isAtom⟩
      exact ⟨token, List.mem_cons_of_mem _ isThere, isAtom⟩
  | comparison isOperator _ _ left right =>
      rw [literals_of_comparisonOperator? isOperator, List.mem_append] at member
      exact either (member.imp left right)
  | chain isOperator _ _ left right =>
      rw [literals_of_operator? isOperator, List.mem_append] at member
      exact either (member.imp left right)
  | tighter _ induction => exact induction member

/-- An expression, written and read again, is the same up to the places of its columns. -/
def IsReread (quote : Char) (expression : Expression) : Prop :=
  ∃ read, parse (expression.written quote) = .ok read ∧ read.unplaced = expression.unplaced

theorem isReread_of_literals {quote : Char} (isQuote : quote = '\'' ∨ quote = '"')
    {expression : Expression} (literals : ∀ value ∈ expression.literals, value.IsLiteral) :
    expression.IsReread quote :=
  exists_parse_iff.mpr ⟨expression.writtenTokens,
    spelled_intercalate isQuote (isWritable_writtenTokens literals),
    (derives_writtenTokens expression).loosen (Nat.zero_le _)⟩

/-- The literals of an expression that was read can be written if its numbers are finite. -/
theorem isLiteral_of_parse {source : String} {expression : Expression}
    (isRead : parse source = .ok expression)
    (finite : ∀ number, .number number ∈ expression.literals → number.isFinite = true) :
    ∀ value ∈ expression.literals, value.IsLiteral := by
  rcases parse_eq_ok_iff.mp isRead with ⟨placed, arePlaced, derived⟩
  have spelled := exists_tokens_iff.mp ⟨placed, arePlaced, rfl⟩
  intro value member
  rcases derived.exists_atom member with ⟨token, isThere, isAtom⟩
  have inTokens : token.token ∈ placed.map (·.token) := List.mem_map_of_mem isThere
  rcases cases_of_atom? isAtom with ⟨_, _, same⟩ | ⟨_, _, same⟩ | ⟨value, isToken, same⟩ |
    ⟨keyword, value, _, isValue, same⟩
  · cases same
  · cases same
    trivial
  · cases same
    refine Datum.isLiteral_of_isNumeral (spelled.isNumeral (isToken ▸ inTokens) ?_)
    rintro number rfl
    exact finite number member
  · cases same
    cases keyword <;> cases isValue <;> trivial

/--
An expression whose literals can be written is read as it is written, in quotes of
either kind; and so is every expression that was read, if its numbers are finite.
-/
theorem parse_written {quote : Char} (isQuote : quote = '\'' ∨ quote = '"') :
    (∀ expression : Expression, (∀ value ∈ expression.literals, value.IsLiteral) →
      expression.IsReread quote) ∧
      ∀ (source : String) (expression : Expression), parse source = .ok expression →
        (∀ number, .number number ∈ expression.literals → number.isFinite = true) →
          expression.IsReread quote :=
  ⟨fun _ literals => isReread_of_literals isQuote literals, fun _ _ isRead finite =>
    isReread_of_literals isQuote (isLiteral_of_parse isRead finite)⟩

/-- A tree with each kind of literal, and a source in words of capitals with a fraction. -/
theorem parse_written_mixed :
    (or (not (comparison .lessOrEqual (column "a `" 7) (negation (literal (.integer 12)))))
      (arithmetic .subtract (literal .null) (arithmetic .subtract (literal (.boolean true))
        (literal (.text "'"))))).IsReread '\'' ∧
    (and (textTest .contains (column "c.d" 0) (literal (.text "x y")))
      (comparison .greater (column "e" 23) (literal (.number (Binary64.ofDecimal false 15 (-1)))))
      ).IsReread '\'' := by
  constructor
  · refine (parse_written (.inl rfl)).1 _ ?_
    have few : (Decimal.digits 12).length ≤ 2 := Decimal.length_digits_le (by decide) (by decide)
    have short : (Decimal.digits 12).length ≤ Numeral.digitLimit := Nat.le_trans few (by decide)
    simp only [literals, List.nil_append, List.cons_append, List.forall_mem_cons]
    exact ⟨⟨by decide, short⟩, trivial, trivial, trivial, nofun⟩
  · refine (parse_written (.inl rfl)).2 "c.d contains \"x y\" AND e > 1.5" _ (by decide +kernel) ?_
    intro number member
    simp only [literals, List.nil_append, List.cons_append, List.mem_cons, List.not_mem_nil, or_false,
      reduceCtorEq, false_or, Datum.number.injEq] at member
    rw [member]
    decide +kernel

end Expression

end TableBrowser
