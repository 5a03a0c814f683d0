import TableBrowser.Expression.Parser
import TableBrowser.Proofs.Outcome
/-!
# The grammar of conditions

Which tokens make an expression of a level is said without a parser: operators of
four levels group from the left, one comparison stands between sums, and whatever
is in parentheses is an atom. Main statement: the parser reads the expressions that
the grammar derives, and no others.
-/

namespace TableBrowser

def ArithmeticOperator.level : ArithmeticOperator → Expression.Level
  | .add | .subtract => .sum
  | .multiply | .divide => .product

namespace Expression

/-! ## Levels -/

/-- How many levels are looser. -/
def Level.rank : Level → Nat
  | .or => 0
  | .and => 1
  | .not => 2
  | .comparison => 3
  | .sum => 4
  | .product => 5
  | .negation => 6
  | .atom => 7

/-- The level at which a token stands between two operands. -/
def Token.level? : Token → Option Level
  | .keyword .or => some .or
  | .keyword .and => some .and
  | .keyword (.text _) => some .comparison
  | .symbol (.comparison _) => some .comparison
  | .symbol (.arithmetic .add) => some .sum
  | .symbol (.arithmetic .subtract) => some .sum
  | .symbol (.arithmetic .multiply) => some .product
  | .symbol (.arithmetic .divide) => some .product
  | _ => none

/-- Operators of the level group from the left. -/
def Level.Chains (level : Level) : Prop :=
  level = .or ∨ level = .and ∨ level = .sum ∨ level = .product

section Levels

variable {level : Level} {token : Token} {make : Expression → Expression → Expression}

theorem Level.rank_tighter_of_chains (chains : level.Chains) :
    level.tighter.rank = level.rank + 1 := by
  rcases chains with rfl | rfl | rfl | rfl <;> rfl

theorem Level.rank_lt (level : Level) : level.rank < 8 := by cases level <;> decide

theorem Level.rank_le_tighter (level : Level) : level.rank ≤ level.tighter.rank := by
  cases level <;> decide

theorem Level.eq_of_rank_eq {level other : Level} (same : level.rank = other.rank) : level = other := by
  cases level <;> cases other <;> first | rfl | cases same

theorem Level.rank_tighter (level : Level) (notLast : level.rank < 7) :
    level.tighter.rank = level.rank + 1 := by
  cases level <;> first | rfl | exact absurd notLast (by decide)

theorem level?_of_operator? (isOperator : level.operator? token = some make) :
    token.level? = some level ∧ level.Chains := by
  unfold Level.operator? at isOperator
  split at isOperator
  all_goals first | exact ⟨rfl, by simp [Level.Chains]⟩ | cases isOperator

theorem level?_of_comparisonOperator? (isOperator : comparisonOperator? token = some make) :
    token.level? = some .comparison := by
  unfold comparisonOperator? at isOperator
  split at isOperator <;> first | rfl | cases isOperator

/-- What the operators that group from the left make, and at which level. -/
theorem cases_of_operator? (isOperator : level.operator? token = some make) :
    level = .or ∧ make = .or ∨ level = .and ∧ make = .and ∨
      ∃ operator : ArithmeticOperator, level = operator.level ∧ make = .arithmetic operator := by
  unfold Level.operator? at isOperator
  split at isOperator
  case h_1 =>
    cases isOperator
    exact .inl ⟨rfl, rfl⟩
  case h_2 =>
    cases isOperator
    exact .inr (.inl ⟨rfl, rfl⟩)
  case h_7 => cases isOperator
  all_goals
    cases isOperator
    exact .inr (.inr ⟨_, rfl, rfl⟩)

theorem cases_of_comparisonOperator? (isOperator : comparisonOperator? token = some make) :
    (∃ operator, make = .comparison operator) ∨ ∃ operator, make = .textTest operator := by
  unfold comparisonOperator? at isOperator
  split at isOperator
  · cases isOperator
    exact .inl ⟨_, rfl⟩
  · cases isOperator
    exact .inr ⟨_, rfl⟩
  · cases isOperator

/-- A token by itself is a column at its place, or a literal. -/
theorem cases_of_atom? {placed : PlacedToken} {expression : Expression}
    (isAtom : atom? placed = some expression) :
    (∃ name, placed.token = .name name ∧ expression = .column name placed.position) ∨
      (∃ value, placed.token = .text value ∧ expression = .literal (.text value)) ∨
      (∃ value, placed.token = .number value ∧ expression = .literal value) ∨
      ∃ keyword value, placed.token = .keyword keyword ∧ keywordValue? keyword = some value ∧
        expression = .literal value := by
  unfold atom? at isAtom
  split at isAtom
  · next name isToken =>
    cases isAtom
    exact .inl ⟨name, isToken, rfl⟩
  · next value isToken =>
    cases isAtom
    exact .inr (.inl ⟨value, isToken, rfl⟩)
  · next value isToken =>
    cases isAtom
    exact .inr (.inr (.inl ⟨value, isToken, rfl⟩))
  · next keyword isToken =>
    rcases Option.map_eq_some_iff.mp isAtom with ⟨value, isValue, rfl⟩
    exact .inr (.inr (.inr ⟨keyword, value, isToken, isValue, rfl⟩))
  · cases isAtom

theorem operator?_of_level?_ne (other : token.level? ≠ some level) : level.operator? token = none := by
  cases found : level.operator? token with
  | none => rfl
  | some make => exact absurd (level?_of_operator? found).1 other

theorem comparisonOperator?_of_level?_ne (other : token.level? ≠ some .comparison) :
    comparisonOperator? token = none := by
  cases found : comparisonOperator? token with
  | none => rfl
  | some make => exact absurd (level?_of_comparisonOperator? found) other

end Levels

/-! ## Steps of the parser -/

section Steps

variable (steps : Nat) (tokens : List PlacedToken)

theorem parseLevel_chain {level : Level} (chains : level.Chains) :
    parseLevel (steps + 1) level tokens = (do
      let (left, rest) ← parseLevel steps level.tighter tokens
      parseMore steps level left rest) := by
  rcases chains with rfl | rfl | rfl | rfl <;> rfl

theorem parseLevel_not :
    parseLevel (steps + 1) .not tokens = match tokens with
      | ⟨.keyword .not, _⟩ :: rest => do
          let (operand, rest) ← parseLevel steps .not rest
          return (.not operand, rest)
      | _ => parseLevel steps .comparison tokens := rfl

theorem parseLevel_comparison :
    parseLevel (steps + 1) .comparison tokens = (do
      let (left, rest) ← parseLevel steps .sum tokens
      match rest with
      | placed :: afterOperator =>
          match comparisonOperator? placed.token with
          | some make => do
              let (right, rest) ← parseLevel steps .sum afterOperator
              return (make left right, rest)
          | none => return (left, rest)
      | [] => return (left, rest)) := rfl

theorem parseLevel_negation :
    parseLevel (steps + 1) .negation tokens = match tokens with
      | ⟨.symbol (.arithmetic .subtract), _⟩ :: rest => do
          let (operand, rest) ← parseLevel steps .negation rest
          return (.negation operand, rest)
      | _ => parseLevel steps .atom tokens := rfl

theorem parseLevel_atom :
    parseLevel (steps + 1) .atom tokens = match tokens with
      | ⟨.symbol .openParenthesis, _⟩ :: rest => do
          let (inner, rest) ← parseLevel steps .or rest
          match rest with
          | ⟨.symbol .closeParenthesis, _⟩ :: rest => return (inner, rest)
          | rest => throw (expected "')'" rest)
      | placed :: rest =>
          match atom? placed with
          | some atom => return (atom, rest)
          | none => throw (unexpected tokens)
      | [] => throw (unexpected []) := rfl

theorem parseMore_succ (level : Level) (left : Expression) :
    parseMore (steps + 1) level left tokens = match tokens with
      | placed :: rest =>
          match level.operator? placed.token with
          | some make => do
              let (right, rest) ← parseLevel steps level.tighter rest
              parseMore steps level (make left right) rest
          | none => .ok (left, tokens)
      | [] => .ok (left, []) := rfl

end Steps

/-! ## Derivations -/

/-- The tokens are an expression of the level. -/
inductive Derives : Level → List PlacedToken → Expression → Prop
  | atom {placed : PlacedToken} {expression : Expression} (isAtom : atom? placed = some expression) :
      Derives .atom [placed] expression
  | parentheses {opening closing : PlacedToken} {inner : List PlacedToken} {expression : Expression}
      (opens : opening.token = .symbol .openParenthesis)
      (closes : closing.token = .symbol .closeParenthesis)
      (derived : Derives .or inner expression) :
      Derives .atom (opening :: inner ++ [closing]) expression
  | negation {sign : PlacedToken} {tokens : List PlacedToken} {operand : Expression}
      (isSign : sign.token = .symbol (.arithmetic .subtract))
      (derived : Derives .negation tokens operand) :
      Derives .negation (sign :: tokens) (.negation operand)
  | not {word : PlacedToken} {tokens : List PlacedToken} {operand : Expression}
      (isWord : word.token = .keyword .not) (derived : Derives .not tokens operand) :
      Derives .not (word :: tokens) (.not operand)
  | comparison {operator : PlacedToken} {lefts rights : List PlacedToken} {left right : Expression}
      {make : Expression → Expression → Expression}
      (isOperator : comparisonOperator? operator.token = some make)
      (leftDerived : Derives .sum lefts left) (rightDerived : Derives .sum rights right) :
      Derives .comparison (lefts ++ operator :: rights) (make left right)
  | chain {level : Level} {operator : PlacedToken} {lefts rights : List PlacedToken}
      {left right : Expression} {make : Expression → Expression → Expression}
      (isOperator : level.operator? operator.token = some make)
      (leftDerived : Derives level lefts left) (rightDerived : Derives level.tighter rights right) :
      Derives level (lefts ++ operator :: rights) (make left right)
  | tighter {level : Level} {tokens : List PlacedToken} {expression : Expression}
      (derived : Derives level.tighter tokens expression) : Derives level tokens expression

/-- An expression of a level is one of every looser level. -/
theorem Derives.loosen {level looser : Level} {tokens : List PlacedToken} {expression : Expression}
    (derived : Derives level tokens expression) (isLooser : looser.rank ≤ level.rank) :
    Derives looser tokens expression := by
  generalize steps : level.rank - looser.rank = distance
  induction distance generalizing looser with
  | zero =>
      have same : looser = level := Level.eq_of_rank_eq (by omega)
      cases same
      exact derived
  | succ distance induction =>
      have high := level.rank_lt
      have next := looser.rank_tighter (by omega)
      exact .tighter (induction (by omega) (by omega))

/-! ## What is read is derived -/

/-- An expression that was read is derived from the tokens that it took. -/
def Accounts (level : Level) (tokens : List PlacedToken) (parsed : Parsed) : Prop :=
  ∀ expression rest, parsed = .ok (expression, rest) →
    ∃ used, tokens = used ++ rest ∧ Derives level used expression

/-- The same of operators that go on from an expression, whatever tokens this one took. -/
def AccountsAfter (level : Level) (left : Expression) (tokens : List PlacedToken) (parsed : Parsed) :
    Prop :=
  ∀ before, Derives level before left → ∀ expression rest, parsed = .ok (expression, rest) →
    ∃ used, tokens = used ++ rest ∧ Derives level (before ++ used) expression

section Soundness

variable {steps : Nat} {level : Level}

theorem Accounts.tighter {tokens : List PlacedToken} {parsed : Parsed}
    (accounts : Accounts level.tighter tokens parsed) : Accounts level tokens parsed := by
  intro expression rest isParsed
  rcases accounts expression rest isParsed with ⟨used, isTokens, derived⟩
  exact ⟨used, isTokens, .tighter derived⟩

variable (levels : ∀ level tokens, Accounts level tokens (parseLevel steps level tokens))
  (more : ∀ level left tokens, AccountsAfter level left tokens (parseMore steps level left tokens))

include levels

theorem accounts_not (tokens : List PlacedToken) :
    Accounts .not tokens (parseLevel (steps + 1) .not tokens) := by
  rw [parseLevel_not]
  split
  · intro expression rest isParsed
    rcases bind_eq_ok.mp isParsed with ⟨⟨operand, after⟩, isOperand, made⟩
    cases made
    rcases levels _ _ _ _ isOperand with ⟨used, rfl, derived⟩
    exact ⟨_ :: used, rfl, .not rfl derived⟩
  · exact Accounts.tighter (levels Level.not.tighter tokens)

theorem accounts_negation (tokens : List PlacedToken) :
    Accounts .negation tokens (parseLevel (steps + 1) .negation tokens) := by
  rw [parseLevel_negation]
  split
  · intro expression rest isParsed
    rcases bind_eq_ok.mp isParsed with ⟨⟨operand, after⟩, isOperand, made⟩
    cases made
    rcases levels _ _ _ _ isOperand with ⟨used, rfl, derived⟩
    exact ⟨_ :: used, rfl, .negation rfl derived⟩
  · exact Accounts.tighter (levels Level.negation.tighter tokens)

theorem accounts_comparison (tokens : List PlacedToken) :
    Accounts .comparison tokens (parseLevel (steps + 1) .comparison tokens) := by
  intro expression rest isParsed
  rw [parseLevel_comparison] at isParsed
  rcases bind_eq_ok.mp isParsed with ⟨⟨left, after⟩, isLeft, isRest⟩
  rcases levels _ _ _ _ isLeft with ⟨lefts, rfl, leftDerived⟩
  simp only at isRest
  split at isRest
  · next operator afterOperator =>
    split at isRest
    · next make isOperator =>
      rcases bind_eq_ok.mp isRest with ⟨⟨right, afterRight⟩, isRight, made⟩
      cases made
      rcases levels _ _ _ _ isRight with ⟨rights, rfl, rightDerived⟩
      exact ⟨lefts ++ operator :: rights, by simp, .comparison isOperator leftDerived rightDerived⟩
    · cases isRest
      exact ⟨lefts, rfl, .tighter leftDerived⟩
  · cases isRest
    exact ⟨lefts, rfl, .tighter leftDerived⟩

theorem accounts_atom (tokens : List PlacedToken) :
    Accounts .atom tokens (parseLevel (steps + 1) .atom tokens) := by
  intro expression rest isParsed
  rw [parseLevel_atom] at isParsed
  split at isParsed
  · next position _ =>
    rcases bind_eq_ok.mp isParsed with ⟨⟨inner, after⟩, isInner, isRest⟩
    rcases levels _ _ _ _ isInner with ⟨used, rfl, derived⟩
    simp only at isRest
    split at isRest
    · next closing afterClosing =>
      cases isRest
      exact ⟨⟨_, position⟩ :: used ++ [⟨_, closing⟩], by simp, .parentheses rfl rfl derived⟩
    · cases isRest
  · next placed others _ =>
    split at isParsed
    · next isAtom =>
      cases isParsed
      exact ⟨[placed], rfl, .atom isAtom⟩
    · cases isParsed
  · cases isParsed

include more

theorem accounts_chain (chains : level.Chains) (tokens : List PlacedToken) :
    Accounts level tokens (parseLevel (steps + 1) level tokens) := by
  intro expression rest isParsed
  rw [parseLevel_chain steps tokens chains] at isParsed
  rcases bind_eq_ok.mp isParsed with ⟨⟨left, after⟩, isLeft, isMore⟩
  rcases levels _ _ _ _ isLeft with ⟨lefts, rfl, leftDerived⟩
  rcases more _ _ _ lefts (.tighter leftDerived) _ _ isMore with ⟨used, rfl, derived⟩
  exact ⟨lefts ++ used, by simp, derived⟩

theorem accounts_more (left : Expression) (tokens : List PlacedToken) :
    AccountsAfter level left tokens (parseMore (steps + 1) level left tokens) := by
  have nothing {tokens : List PlacedToken} : AccountsAfter level left tokens (.ok (left, tokens)) := by
    intro before derived expression rest same
    cases same
    exact ⟨[], rfl, by rwa [List.append_nil]⟩
  rw [parseMore_succ]
  split
  · next operator rest =>
    split
    · next make isOperator =>
      intro before derived expression after isParsed
      rcases bind_eq_ok.mp isParsed with ⟨⟨right, afterRight⟩, isRight, isMore⟩
      rcases levels _ _ _ _ isRight with ⟨rights, rfl, rightDerived⟩
      rcases more _ _ _ _ (.chain isOperator derived rightDerived) _ _ isMore with
        ⟨used, rfl, allDerived⟩
      exact ⟨operator :: rights ++ used, by simp, by simpa using allDerived⟩
    · exact nothing
  · exact nothing

end Soundness

theorem accounts_parse (steps : Nat) :
    (∀ level tokens, Accounts level tokens (parseLevel steps level tokens)) ∧
      ∀ level left tokens, AccountsAfter level left tokens (parseMore steps level left tokens) := by
  induction steps with
  | zero =>
      refine ⟨fun level tokens => ?_, fun level left tokens before derived => ?_⟩
      · rw [parseLevel]
        nofun
      · rintro expression rest ⟨⟩
        exact ⟨[], rfl, by rwa [List.append_nil]⟩
  | succ steps induction =>
      rcases induction with ⟨levels, more⟩
      refine ⟨fun level tokens => ?_, fun level left tokens => accounts_more levels more left tokens⟩
      cases level with
      | or => exact accounts_chain levels more (.inl rfl) tokens
      | and => exact accounts_chain levels more (.inr (.inl rfl)) tokens
      | not => exact accounts_not levels tokens
      | comparison => exact accounts_comparison levels tokens
      | sum => exact accounts_chain levels more (.inr (.inr (.inl rfl))) tokens
      | product => exact accounts_chain levels more (.inr (.inr (.inr rfl))) tokens
      | negation => exact accounts_negation levels tokens
      | atom => exact accounts_atom levels tokens

/-! ## What is derived is read -/

/-- The tokens that follow an expression of the level do not go on inside of it. -/
def Follows (level : Level) (rest : List PlacedToken) : Prop :=
  ∀ placed ∈ rest.head?, ∀ other, placed.token.level? = some other →
    other.rank < level.rank ∨ other = level ∧ level.Chains

/-- Nor do they go on with an operator of the level. -/
def Ends (level : Level) (rest : List PlacedToken) : Prop :=
  ∀ placed ∈ rest.head?, ∀ other, placed.token.level? = some other → other.rank < level.rank

/-- Steps that are enough to read an expression: those down to an atom, and ten for each token. -/
def enoughFor (level : Level) (tokens : List PlacedToken) : Nat :=
  10 * tokens.length + (8 - level.rank)

section Completeness

variable {level : Level} {tokens rest : List PlacedToken} {left expression : Expression}

theorem Ends.follows (ends : Ends level rest) : Follows level rest :=
  fun placed isFirst other isLevel => .inl (ends placed isFirst other isLevel)

theorem Ends.nil : Ends level [] := nofun

theorem Follows.ends {tighter : Level} (follows : Follows level rest)
    (isTighter : level.rank < tighter.rank) : Ends tighter rest := by
  intro placed isFirst other isLevel
  rcases follows placed isFirst other isLevel with looser | ⟨rfl, _⟩
  · omega
  · exact isTighter

/-- What is no chain is followed by looser operators only. -/
theorem Follows.ends_of_not_chains (follows : Follows level rest) (single : ¬ level.Chains) :
    Ends level rest := by
  intro placed isFirst other isLevel
  rcases follows placed isFirst other isLevel with looser | ⟨_, chains⟩
  · exact looser
  · exact absurd chains single

theorem ends_cons {placed : PlacedToken} {other : Level} (isLevel : placed.token.level? = some other)
    (looser : other.rank < level.rank) : Ends level (placed :: rest) := by
  rintro _ ⟨⟩ _ same
  cases isLevel.symm.trans same
  exact looser

/-- No operator of the level goes on. -/
theorem parseMore_of_ends (ends : Ends level rest) (steps : Nat) :
    parseMore steps level left rest = .ok (left, rest) := by
  cases steps with
  | zero => rfl
  | succ steps =>
      rw [parseMore_succ]
      cases rest with
      | nil => rfl
      | cons placed rest =>
          have other : placed.token.level? ≠ some level := fun isLevel =>
            Nat.lt_irrefl _ (ends placed rfl level isLevel)
          simp only [operator?_of_level?_ne other]

/-- An expression of a level starts with a word or a sign only if it may be negated there. -/
theorem Derives.starts (derived : Derives level tokens expression) :
    ∃ first others, tokens = first :: others ∧
      (first.token = .keyword .not → level.rank ≤ Level.not.rank) ∧
      (first.token = .symbol (.arithmetic .subtract) → level.rank ≤ Level.negation.rank) := by
  induction derived with
  | @atom placed _ isAtom =>
      refine ⟨placed, [], rfl, fun isWord => ?_, fun isSign => ?_⟩
      · rw [atom?, isWord] at isAtom
        cases isAtom
      · rw [atom?, isSign] at isAtom
        cases isAtom
  | @parentheses opening _ _ _ opens =>
      refine ⟨opening, _, rfl, fun isWord => ?_, fun isSign => ?_⟩
      · cases opens.symm.trans isWord
      · cases opens.symm.trans isSign
  | @negation sign _ _ isSign =>
      exact ⟨sign, _, rfl, fun isWord => (by cases isSign.symm.trans isWord), fun _ => Nat.le_refl _⟩
  | @not word _ _ isWord =>
      exact ⟨word, _, rfl, fun _ => Nat.le_refl _, fun isSign => (by cases isWord.symm.trans isSign)⟩
  | comparison _ _ _ leftInduction _ =>
      rcases leftInduction with ⟨first, others, rfl, word, sign⟩
      exact ⟨first, _, rfl, fun isWord => absurd (word isWord) (by decide), fun _ => by decide⟩
  | chain _ _ _ leftInduction _ =>
      rcases leftInduction with ⟨first, others, rfl, word, sign⟩
      exact ⟨first, _, rfl, word, sign⟩
  | @tighter level _ _ _ induction =>
      rcases induction with ⟨first, others, rfl, word, sign⟩
      have looser := level.rank_le_tighter
      exact ⟨first, others, rfl, fun isWord => Nat.le_trans looser (word isWord),
        fun isSign => Nat.le_trans looser (sign isSign)⟩

theorem enough_of_tighter {tighter : Level} {steps : Nat}
    (enough : enoughFor level tokens ≤ steps + 1) (isTighter : level.rank < tighter.rank) :
    enoughFor tighter tokens ≤ steps := by
  have high := tighter.rank_lt
  unfold enoughFor at enough ⊢
  omega

/-- Where a token is left out, any level may start again. -/
theorem enough_of_shorter {other : Level} {later : List PlacedToken} {steps : Nat}
    (enough : enoughFor level tokens ≤ steps + 1) (shorter : later.length < tokens.length) :
    enoughFor other later ≤ steps := by
  have high := level.rank_lt
  unfold enoughFor at enough ⊢
  omega

/-- Enough steps read the tokens as the expression, and then what goes on with operators of the level. -/
def Reads (level : Level) (tokens : List PlacedToken) (expression : Expression) : Prop :=
  ∀ rest, Follows level rest → ∀ steps, enoughFor level (tokens ++ rest) ≤ steps →
    ∃ left, 10 * rest.length ≤ left ∧
      parseLevel steps level (tokens ++ rest) = parseMore left level expression rest

theorem Reads.ok (reads : Reads level tokens expression) (ends : Ends level rest) {steps : Nat}
    (enough : enoughFor level (tokens ++ rest) ≤ steps) :
    parseLevel steps level (tokens ++ rest) = .ok (expression, rest) := by
  rcases reads rest ends.follows steps enough with ⟨left, _, isRead⟩
  rw [isRead, parseMore_of_ends ends]

/-- Where no operators chain, nothing goes on. -/
theorem reads_of_ok (single : ¬ level.Chains)
    (ok : ∀ rest, Ends level rest → ∀ steps, enoughFor level (tokens ++ rest) ≤ steps + 1 →
      parseLevel (steps + 1) level (tokens ++ rest) = .ok (expression, rest)) :
    Reads level tokens expression := by
  intro rest follows steps enough
  have ends := follows.ends_of_not_chains single
  have high := level.rank_lt
  have some : steps = (steps - 1) + 1 := by
    unfold enoughFor at enough
    omega
  rw [some] at enough ⊢
  exact ⟨10 * rest.length, Nat.le_refl _, by rw [ok rest ends _ enough, parseMore_of_ends ends]⟩

theorem reads_atom {placed : PlacedToken} (isAtom : atom? placed = some expression) :
    Reads .atom [placed] expression := by
  refine reads_of_ok (by simp [Level.Chains]) fun rest _ steps _ => ?_
  rw [List.singleton_append, parseLevel_atom]
  split
  · next isTokens =>
    cases isTokens
    cases isAtom
  · next isTokens =>
    cases isTokens
    simp only [isAtom]
    rfl
  · next isTokens => cases isTokens

theorem reads_parentheses {opening closing : PlacedToken}
    (opens : opening.token = .symbol .openParenthesis)
    (closes : closing.token = .symbol .closeParenthesis) (inner : Reads .or tokens expression) :
    Reads .atom (opening :: tokens ++ [closing]) expression := by
  refine reads_of_ok (by simp [Level.Chains]) fun rest _ steps enough => ?_
  rcases opening with ⟨_, position⟩
  rcases closing with ⟨_, closingPosition⟩
  cases opens
  cases closes
  have isInner : parseLevel steps .or (tokens ++ ⟨.symbol .closeParenthesis, closingPosition⟩ :: rest) =
      .ok (expression, ⟨.symbol .closeParenthesis, closingPosition⟩ :: rest) := by
    refine inner.ok (fun _ isFirst _ isLevel => ?_) (enough_of_shorter enough (by simp))
    cases isFirst
    cases isLevel
  rw [List.append_assoc, List.cons_append, List.singleton_append, parseLevel_atom]
  simp only [isInner, bind, Except.bind]
  rfl

theorem reads_negation {sign : PlacedToken} (isSign : sign.token = .symbol (.arithmetic .subtract))
    (operand : Reads .negation tokens expression) :
    Reads .negation (sign :: tokens) (.negation expression) := by
  refine reads_of_ok (by simp [Level.Chains]) fun rest ends steps enough => ?_
  rcases sign with ⟨_, position⟩
  cases isSign
  have isOperand : parseLevel steps .negation (tokens ++ rest) = .ok (expression, rest) :=
    operand.ok ends (enough_of_shorter enough (by simp))
  rw [List.cons_append, parseLevel_negation]
  simp only [isOperand, bind, Except.bind]
  rfl

theorem reads_not {word : PlacedToken} (isWord : word.token = .keyword .not)
    (operand : Reads .not tokens expression) : Reads .not (word :: tokens) (.not expression) := by
  refine reads_of_ok (by simp [Level.Chains]) fun rest ends steps enough => ?_
  rcases word with ⟨_, position⟩
  cases isWord
  have isOperand : parseLevel steps .not (tokens ++ rest) = .ok (expression, rest) :=
    operand.ok ends (enough_of_shorter enough (by simp))
  rw [List.cons_append, parseLevel_not]
  simp only [isOperand, bind, Except.bind]
  rfl

variable {operator : PlacedToken} {lefts rights : List PlacedToken} {right : Expression}
  {make : Expression → Expression → Expression}

theorem reads_comparison (isOperator : comparisonOperator? operator.token = some make)
    (leftReads : Reads .sum lefts left) (rightReads : Reads .sum rights right) :
    Reads .comparison (lefts ++ operator :: rights) (make left right) := by
  refine reads_of_ok (by simp [Level.Chains]) fun rest ends steps enough => ?_
  rw [List.append_assoc, List.cons_append] at enough ⊢
  have isLeft : parseLevel steps .sum (lefts ++ operator :: (rights ++ rest)) =
      .ok (left, operator :: (rights ++ rest)) :=
    leftReads.ok (ends_cons (level?_of_comparisonOperator? isOperator) (by decide))
      (enough_of_tighter enough (by decide))
  have isRight : parseLevel steps .sum (rights ++ rest) = .ok (right, rest) :=
    rightReads.ok (ends.follows.ends (by decide)) (enough_of_shorter enough (by simp; omega))
  rw [parseLevel_comparison]
  simp only [isLeft, bind, Except.bind, isOperator, isRight]
  rfl

theorem reads_chain (isOperator : level.operator? operator.token = some make)
    (leftReads : Reads level lefts left) (rightReads : Reads level.tighter rights right) :
    Reads level (lefts ++ operator :: rights) (make left right) := by
  intro rest follows steps enough
  rcases level?_of_operator? isOperator with ⟨isLevel, chains⟩
  have goesOn : Follows level (operator :: (rights ++ rest)) := by
    rintro _ ⟨⟩ _ same
    cases isLevel.symm.trans same
    exact .inr ⟨rfl, chains⟩
  have rank := level.rank_tighter_of_chains chains
  rcases leftReads _ goesOn steps (by simpa using enough) with ⟨more, enoughMore, isLeft⟩
  rw [List.length_cons, List.length_append] at enoughMore
  have some : more = (more - 1) + 1 := by omega
  have isRight : parseLevel (more - 1) level.tighter (rights ++ rest) = .ok (right, rest) := by
    refine rightReads.ok (follows.ends (by omega)) ?_
    have high := level.tighter.rank_lt
    rw [enoughFor, List.length_append]
    omega
  refine ⟨more - 1, by omega, ?_⟩
  rw [List.append_assoc, List.cons_append, isLeft, some, parseMore_succ]
  simp only [isOperator, isRight, bind, Except.bind, Nat.add_sub_cancel]

/-- What a level that chains starts with is read by the tighter level. -/
theorem reads_chain_of_tighter (chains : level.Chains) (reads : Reads level.tighter tokens expression) :
    Reads level tokens expression := by
  intro rest follows steps enough
  have rank := level.rank_tighter_of_chains chains
  have high := level.tighter.rank_lt
  have least : 10 * (tokens ++ rest).length + 2 ≤ steps := by
    unfold enoughFor at enough
    omega
  have some : steps = (steps - 1) + 1 := by omega
  rw [some] at enough
  have isRead : parseLevel (steps - 1) level.tighter (tokens ++ rest) = .ok (expression, rest) :=
    reads.ok (follows.ends (by omega)) (enough_of_tighter enough (by omega))
  refine ⟨steps - 1, ?_, ?_⟩
  · rw [List.length_append] at least
    omega
  · rw [some, parseLevel_chain _ _ chains]
    simp only [isRead, bind, Except.bind, Nat.add_sub_cancel]

/-- A level without chains hands on what the tighter level read, if none of its operators is there. -/
theorem reads_single_of_tighter (single : ¬ level.Chains) (notLast : level.rank < 7)
    (reads : Reads level.tighter tokens expression)
    (handsOn : ∀ rest steps, Ends level rest →
      parseLevel steps level.tighter (tokens ++ rest) = .ok (expression, rest) →
        parseLevel (steps + 1) level (tokens ++ rest) = .ok (expression, rest)) :
    Reads level tokens expression := by
  have rank := level.rank_tighter notLast
  refine reads_of_ok single fun rest ends steps enough => handsOn rest steps ends ?_
  exact reads.ok (ends.follows.ends (by omega)) (enough_of_tighter enough (by omega))

theorem reads_tighter (derived : Derives level.tighter tokens expression)
    (reads : Reads level.tighter tokens expression) : Reads level tokens expression := by
  cases level with
  | or => exact reads_chain_of_tighter (.inl rfl) reads
  | and => exact reads_chain_of_tighter (.inr (.inl rfl)) reads
  | sum => exact reads_chain_of_tighter (.inr (.inr (.inl rfl))) reads
  | product => exact reads_chain_of_tighter (.inr (.inr (.inr rfl))) reads
  | atom => exact reads
  | comparison =>
      refine reads_single_of_tighter (by simp [Level.Chains]) (by decide) reads ?_
      intro rest steps ends (isRead : parseLevel steps .sum _ = _)
      rw [parseLevel_comparison, isRead]
      cases rest with
      | nil => rfl
      | cons placed rest =>
          have other : placed.token.level? ≠ some .comparison := fun isLevel =>
            absurd (ends placed rfl _ isLevel) (by decide)
          simp only [bind, Except.bind, comparisonOperator?_of_level?_ne other]
          rfl
  | not =>
      refine reads_single_of_tighter (by simp [Level.Chains]) (by decide) reads ?_
      intro rest steps _ isRead
      rcases derived.starts with ⟨first, others, rfl, word, _⟩
      rw [parseLevel_not]
      split
      · next isTokens =>
        cases isTokens
        exact absurd (word rfl) (by decide)
      · exact isRead
  | negation =>
      refine reads_single_of_tighter (by simp [Level.Chains]) (by decide) reads ?_
      intro rest steps _ isRead
      rcases derived.starts with ⟨first, others, rfl, _, sign⟩
      rw [parseLevel_negation]
      split
      · next isTokens =>
        cases isTokens
        exact absurd (sign rfl) (by decide)
      · exact isRead

theorem reads_of_derives (derived : Derives level tokens expression) :
    Reads level tokens expression := by
  induction derived with
  | atom isAtom => exact reads_atom isAtom
  | parentheses opens closes _ inner => exact reads_parentheses opens closes inner
  | negation isSign _ operand => exact reads_negation isSign operand
  | not isWord _ operand => exact reads_not isWord operand
  | comparison isOperator _ _ left right => exact reads_comparison isOperator left right
  | chain isOperator _ _ left right => exact reads_chain isOperator left right
  | tighter derived reads => exact reads_tighter derived reads

/-- Tokens are read as an expression exactly when the grammar derives it from all of them. -/
theorem parseTokens_eq_ok_iff : parseTokens tokens = .ok expression ↔ Derives .or tokens expression := by
  unfold parseTokens
  constructor
  · intro isParsed
    rcases bind_eq_ok.mp isParsed with ⟨⟨parsed, rest⟩, isLevel, isEnd⟩
    rcases (accounts_parse _).1 _ _ _ _ isLevel with ⟨used, rfl, derived⟩
    simp only at isEnd
    split at isEnd
    · next empty =>
      cases isEnd
      rwa [List.isEmpty_iff.mp empty, List.append_nil]
    · cases isEnd
  · intro derived
    have enough : enoughFor .or (tokens ++ []) ≤ stepsFor tokens := by
      rw [List.append_nil, enoughFor, stepsFor]
      omega
    have isRead := (reads_of_derives derived).ok Ends.nil enough
    rw [List.append_nil] at isRead
    rw [isRead]
    rfl

end Completeness

end Expression

end TableBrowser
