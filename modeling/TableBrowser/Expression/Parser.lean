import TableBrowser.Expression.Token
/-!
# Parsing expressions

From the loosest to the tightest, the levels are `or`, `and`, `not`, one
comparison or test of text, sums, products, negation, and atoms. Operators of
one level group from the left.
-/

namespace TableBrowser.Expression

/-- How tightly an operator binds. -/
inductive Level where
  | or
  | and
  | not
  | comparison
  | sum
  | product
  | negation
  | atom
deriving DecidableEq, Repr

def Level.tighter : Level → Level
  | .or => .and
  | .and => .not
  | .not => .comparison
  | .comparison => .sum
  | .sum => .product
  | .product => .negation
  | .negation => .atom
  | .atom => .atom

/-- The operator of a level that groups from the left, when a token is one. -/
def Level.operator? : Level → Token → Option (Expression → Expression → Expression)
  | .or, .keyword .or => some .or
  | .and, .keyword .and => some .and
  | .sum, .symbol (.arithmetic .add) => some (.arithmetic .add)
  | .sum, .symbol (.arithmetic .subtract) => some (.arithmetic .subtract)
  | .product, .symbol (.arithmetic .multiply) => some (.arithmetic .multiply)
  | .product, .symbol (.arithmetic .divide) => some (.arithmetic .divide)
  | _, _ => none

/-- The operator of the comparison level, when a token is one. -/
def comparisonOperator? : Token → Option (Expression → Expression → Expression)
  | .symbol (.comparison operator) => some (.comparison operator)
  | .keyword (.text operator) => some (.textTest operator)
  | _ => none

def keywordValue? : Keyword → Option Datum
  | .true => some (.boolean true)
  | .false => some (.boolean false)
  | .null => some .null
  | _ => none

/-- The tokens that are an expression by themselves. -/
def atom? (placed : PlacedToken) : Option Expression :=
  match placed.token with
  | .name name => some (.column name placed.position)
  | .text value => some (.literal (.text value))
  | .number value => some (.literal value)
  | .keyword keyword => (keywordValue? keyword).map .literal
  | .symbol _ => none

/-- Where parsing stopped: the rest of the tokens begins with the one at fault. -/
structure ParseStop where
  problem : ExpressionProblem
  rest : List PlacedToken

abbrev Parsed := Except ParseStop (Expression × List PlacedToken)

def unexpected : List PlacedToken → ParseStop
  | [] => ⟨.unexpected "end of expression", []⟩
  | rest@(placed :: _) => ⟨.unexpected ("token '" ++ placed.token.shown ++ "'"), rest⟩

def expected (wanted : String) : List PlacedToken → ParseStop
  | [] => ⟨.expected wanted "end of expression", []⟩
  | rest@(placed :: _) => ⟨.expected wanted ("'" ++ placed.token.shown ++ "'"), rest⟩

mutual

/-- An expression of a level, and the tokens after it. -/
def parseLevel : (steps : Nat) → Level → List PlacedToken → Parsed
  | 0, _, tokens => .error (unexpected tokens)
  | steps + 1, .not, tokens =>
      match tokens with
      | ⟨.keyword .not, _⟩ :: rest => do
          let (operand, rest) ← parseLevel steps .not rest
          return (.not operand, rest)
      | _ => parseLevel steps .comparison tokens
  | steps + 1, .comparison, tokens => do
      let (left, rest) ← parseLevel steps .sum tokens
      match rest with
      | placed :: afterOperator =>
          match comparisonOperator? placed.token with
          | some make => do
              let (right, rest) ← parseLevel steps .sum afterOperator
              return (make left right, rest)
          | none => return (left, rest)
      | [] => return (left, rest)
  | steps + 1, .negation, tokens =>
      match tokens with
      | ⟨.symbol (.arithmetic .subtract), _⟩ :: rest => do
          let (operand, rest) ← parseLevel steps .negation rest
          return (.negation operand, rest)
      | _ => parseLevel steps .atom tokens
  | steps + 1, .atom, tokens =>
      match tokens with
      | ⟨.symbol .openParenthesis, _⟩ :: rest => do
          let (inner, rest) ← parseLevel steps .or rest
          match rest with
          | ⟨.symbol .closeParenthesis, _⟩ :: rest => return (inner, rest)
          | rest => throw (expected "')'" rest)
      | placed :: rest =>
          match atom? placed with
          | some atom => return (atom, rest)
          | none => throw (unexpected tokens)
      | [] => throw (unexpected [])
  | steps + 1, level, tokens => do
      let (left, rest) ← parseLevel steps level.tighter tokens
      parseMore steps level left rest

/-- The operators of a level that follow an expression of it, and their right operands. -/
def parseMore : (steps : Nat) → Level → Expression → List PlacedToken → Parsed
  | 0, _, left, tokens => .ok (left, tokens)
  | steps + 1, level, left, tokens =>
      match tokens with
      | placed :: rest =>
          match level.operator? placed.token with
          | some make => do
              let (right, rest) ← parseLevel steps level.tighter rest
              parseMore steps level (make left right) rest
          | none => .ok (left, tokens)
      | [] => .ok (left, [])

end

/-- Each token is passed on through the eight levels at most once. -/
def stepsFor (tokens : List PlacedToken) : Nat := 10 * (tokens.length + 1)

def parseTokens (tokens : List PlacedToken) : Except ParseStop Expression := do
  let (expression, rest) ← parseLevel (stepsFor tokens) .or tokens
  if rest.isEmpty then return expression else throw (expected "eof" rest)

def parse (source : String) : Outcome Expression := do
  match parseTokens (← tokens source) with
  | .ok expression => return expression
  | .error stop =>
      let position := (stop.rest.head?.map PlacedToken.position).getD source.toList.length
      Outcome.fail (.expression ⟨stop.problem, source, position⟩)

end TableBrowser.Expression
