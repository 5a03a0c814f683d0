import TableBrowser.Sql.Syntax
import TableBrowser.Sql.Token
/-!
# Parsing queries

Tokens are taken from the left, and parsing stops at the first one that no
statement can continue with. What stops it is named in the report: the token, or
the end of the statement.
-/

namespace TableBrowser.Sql.Parser

/-- Where parsing stopped: the tokens from the one at fault on. -/
structure Stop where
  rest : List PlacedToken

def Stop.problem (stop : Stop) : Problem :=
  match stop.rest with
  | [] => .incomplete
  | placed :: _ =>
      match placed.token with
      | .unrecognized => .unrecognized (String.ofList placed.written)
      | _ => .near (String.ofList placed.written)

/-! ## Single tokens -/

def reservedWords : List String := [
  "add", "all", "alter", "and", "as", "autoincrement", "between", "case", "check", "collate",
  "commit", "constraint", "create", "default", "deferrable", "delete", "distinct", "drop", "else",
  "escape", "exists", "foreign", "from", "group", "having", "in", "index", "insert", "intersect",
  "into", "is", "isnull", "join", "limit", "not", "nothing", "notnull", "null", "on", "or", "order",
  "primary", "references", "returning", "select", "set", "table", "then", "to", "transaction",
  "union", "unique", "update", "using", "values", "when", "where"]

def isWord (word : String) (tokens : List PlacedToken) : Bool :=
  match tokens with
  | ⟨.word spelling, _, _⟩ :: _ => sameName word spelling
  | _ => false

def isSymbol (symbol : String) (tokens : List PlacedToken) : Bool :=
  match tokens with
  | ⟨.symbol spelling, _, _⟩ :: _ => spelling = symbol
  | _ => false

def expectWord (word : String) (tokens : List PlacedToken) : Except Stop (List PlacedToken) :=
  if isWord word tokens then .ok tokens.tail else .error ⟨tokens⟩

def expectSymbol (symbol : String) (tokens : List PlacedToken) : Except Stop (List PlacedToken) :=
  if isSymbol symbol tokens then .ok tokens.tail else .error ⟨tokens⟩

/-- A name: a word that is not reserved, or quoted text. -/
def name? (allowText : Bool) : Token → Option String
  | .word spelling => if listed reservedWords spelling then none else some spelling
  | .quotedName name _ => some name
  | .literal (.text value) => if allowText then some value else none
  | _ => none

def expectName (tokens : List PlacedToken) : Except Stop (String × List PlacedToken) :=
  match tokens with
  | placed :: rest =>
      match name? true placed.token with
      | some name => .ok (name, rest)
      | none => .error ⟨tokens⟩
  | [] => .error ⟨[]⟩

/-- The name after `AS`, or a name that follows at once. -/
def optionalLabel (tokens : List PlacedToken) :
    Except Stop (Option String × List PlacedToken) :=
  if isWord "as" tokens then do
    let (name, rest) ← expectName tokens.tail
    return (some name, rest)
  else match tokens with
    | placed :: rest =>
        match name? true placed.token with
        | some name => .ok (some name, rest)
        | none => .ok (none, tokens)
    | [] => .ok (none, [])

/-- Names joined by points, after the first one. -/
def furtherNames : (steps : Nat) → String → List PlacedToken →
    Except Stop (List String × String × List PlacedToken)
  | 0, name, tokens => .ok ([], name, tokens)
  | steps + 1, name, tokens =>
      if isSymbol "." tokens then do
        let (next, rest) ← expectName tokens.tail
        let (qualifiers, last, rest) ← furtherNames steps next rest
        return (name :: qualifiers, last, rest)
      else .ok ([], name, tokens)

/-! ## Expressions -/

def strength : Binary → Nat
  | .or => 1
  | .and => 2
  | .equal | .notEqual | .same | .different => 4
  | .less | .lessOrEqual | .greater | .greaterOrEqual => 5
  | .arithmetic .add | .arithmetic .subtract => 6
  | .arithmetic .multiply | .arithmetic .divide => 7
  | .join => 8

def negationStrength : Nat := 3

def testStrength : Nat := 4

def signStrength : Nat := 9

def binary? : Token → Option Binary
  | .word spelling =>
      if sameName spelling "or" then some .or
      else if sameName spelling "and" then some .and
      else none
  | .symbol "=" | .symbol "==" => some .equal
  | .symbol "<>" | .symbol "!=" => some .notEqual
  | .symbol "<" => some .less
  | .symbol "<=" => some .lessOrEqual
  | .symbol ">" => some .greater
  | .symbol ">=" => some .greaterOrEqual
  | .symbol "||" => some .join
  | .symbol "+" => some (.arithmetic .add)
  | .symbol "-" => some (.arithmetic .subtract)
  | .symbol "*" => some (.arithmetic .multiply)
  | .symbol "/" => some (.arithmetic .divide)
  | _ => none

/-- The operator at the start of some tokens, and the tokens after it. -/
def operator? (tokens : List PlacedToken) : Option (Binary × List PlacedToken) :=
  if isWord "is" tokens then
    if isWord "not" tokens.tail then some (.different, tokens.tail.tail)
    else some (.same, tokens.tail)
  else match tokens with
    | placed :: rest => (binary? placed.token).map fun operator => (operator, rest)
    | [] => none

/-- A test for null without a right operand, and the tokens after it. -/
def nullTest (tokens : List PlacedToken) : Option (Except Stop (Binary × List PlacedToken)) :=
  if isWord "isnull" tokens then some (.ok (.same, tokens.tail))
  else if isWord "notnull" tokens then some (.ok (.different, tokens.tail))
  else if isWord "not" tokens then
    some ((expectWord "null" tokens.tail).map fun rest => (.different, rest))
  else none

/-- An expression of two operands; a literal zero decides a conjunction at once. -/
def combine (operator : Binary) (left right : Expr) : Expr :=
  match operator, left, right with
  | .and, .literal (.integer 0), _ => .literal (.integer 0)
  | .and, _, .literal (.integer 0) => .literal (.integer 0)
  | _, _, _ => .binary operator left right

mutual

/-- An expression whose operators bind at least with the given strength. -/
def expression : (steps level : Nat) → List PlacedToken → Except Stop (Expr × List PlacedToken)
  | 0, _, tokens => .error ⟨tokens⟩
  | steps + 1, level, tokens => do
      let (operand, rest) ← operand steps tokens
      further steps level operand rest

/-- The operators after an operand, with their right sides. -/
def further : (steps level : Nat) → Expr → List PlacedToken →
    Except Stop (Expr × List PlacedToken)
  | 0, _, left, tokens => .ok (left, tokens)
  | steps + 1, level, left, tokens =>
      match if level ≤ testStrength then nullTest tokens else none with
      | some test => do
          let (operator, rest) ← test
          further steps level (.binary operator left (.literal .null)) rest
      | none =>
          match operator? tokens with
          | some (operator, rest) =>
              if level ≤ strength operator then do
                let (right, rest) ← expression steps (strength operator + 1) rest
                further steps level (combine operator left right) rest
              else .ok (left, tokens)
          | none => .ok (left, tokens)

def operand : (steps : Nat) → List PlacedToken → Except Stop (Expr × List PlacedToken)
  | 0, tokens => .error ⟨tokens⟩
  | steps + 1, tokens =>
      match tokens with
      | [] => .error ⟨[]⟩
      | placed :: rest =>
          match placed.token with
          | .literal value => .ok (.literal value, rest)
          | .symbol "-" => do
              let (inner, rest) ← expression steps signStrength rest
              return (.negative inner, rest)
          | .symbol "+" => do
              let (inner, rest) ← expression steps signStrength rest
              return (.positive inner, rest)
          | .symbol "(" => do
              let (inner, rest) ← expression steps 0 rest
              return (inner, ← expectSymbol ")" rest)
          | .quotedName name doubleQuoted =>
              if isSymbol "." rest then qualified name rest
              else .ok (.name [] name doubleQuoted, rest)
          | .word spelling =>
              if sameName spelling "null" then .ok (.literal .null, rest)
              else if sameName spelling "not" then do
                let (inner, rest) ← expression steps negationStrength rest
                return (.not inner, rest)
              else if listed reservedWords spelling then .error ⟨tokens⟩
              else if isSymbol "(" rest then call steps spelling rest.tail
              else qualified spelling rest
          | _ => .error ⟨tokens⟩

/-- The arguments of a function, after the opening parenthesis. -/
def call : (steps : Nat) → String → List PlacedToken → Except Stop (Expr × List PlacedToken)
  | 0, _, tokens => .error ⟨tokens⟩
  | steps + 1, function, tokens =>
      if isSymbol "*" tokens then do
        return (.callAll function, ← expectSymbol ")" tokens.tail)
      else if isSymbol ")" tokens then .ok (.call function [], tokens.tail)
      else do
        let (arguments, rest) ← expressions steps tokens
        return (.call function arguments, ← expectSymbol ")" rest)

/-- Expressions between commas, one at least. -/
def expressions : (steps : Nat) → List PlacedToken →
    Except Stop (List Expr × List PlacedToken)
  | 0, tokens => .error ⟨tokens⟩
  | steps + 1, tokens => do
      let (first, rest) ← expression steps 0 tokens
      if isSymbol "," rest then
        let (others, rest) ← expressions steps rest.tail
        return (first :: others, rest)
      else return ([first], rest)

def qualified (name : String) (tokens : List PlacedToken) :
    Except Stop (Expr × List PlacedToken) := do
  let (qualifiers, last, rest) ← furtherNames 2 name tokens
  return (.name qualifiers last false, rest)

end

/-! ## Items -/

/-- The characters of a statement that some tokens were read from, without those of the rest. -/
def spelling (statement : List Char) (tokens rest : List PlacedToken) : String :=
  let taken := tokens.take (tokens.length - rest.length)
  match taken.head?, taken.getLast? with
  | some first, some last =>
      String.ofList ((statement.drop first.start).take (last.stop - first.start))
  | _, _ => ""

/-- A name, a point and a star. -/
def allOf? (tokens : List PlacedToken) : Option (Item × List PlacedToken) :=
  match tokens with
  | placed :: rest =>
      if isSymbol "." rest && isSymbol "*" rest.tail then
        (name? true placed.token).map fun name => (.allOf name, rest.tail.tail)
      else none
  | [] => none

def item (statement : List Char) (steps : Nat) (tokens : List PlacedToken) :
    Except Stop (Item × List PlacedToken) :=
  if isSymbol "*" tokens then .ok (.all, tokens.tail)
  else match allOf? tokens with
    | some found => .ok found
    | none => do
        let (expression, rest) ← expression steps 0 tokens
        let written := spelling statement tokens rest
        let (label, rest) ← optionalLabel rest
        return (.expression expression label written, rest)

/-- Things between commas, one at least. -/
def separated {α : Type} (one : List PlacedToken → Except Stop (α × List PlacedToken)) :
    (steps : Nat) → List PlacedToken → Except Stop (List α × List PlacedToken)
  | 0, tokens => .error ⟨tokens⟩
  | steps + 1, tokens => do
      let (first, rest) ← one tokens
      if isSymbol "," rest then
        let (others, rest) ← separated one steps rest.tail
        return (first :: others, rest)
      else return ([first], rest)

/-! ## Clauses -/

def source (tokens : List PlacedToken) : Except Stop (Option Source × List PlacedToken) :=
  if isWord "from" tokens then do
    let (name, rest) ← expectName tokens.tail
    let (qualifiers, relation, rest) ← furtherNames 1 name rest
    let (label, rest) ← optionalLabel rest
    return (some { qualifiers, relation, label }, rest)
  else .ok (none, tokens)

def condition (steps : Nat) (tokens : List PlacedToken) :
    Except Stop (Option Expr × List PlacedToken) :=
  if isWord "where" tokens then do
    let (condition, rest) ← expression steps 0 tokens.tail
    return (some condition, rest)
  else .ok (none, tokens)

def groups (steps : Nat) (tokens : List PlacedToken) :
    Except Stop (List Expr × List PlacedToken) :=
  if isWord "group" tokens then do
    expressions steps (← expectWord "by" tokens.tail)
  else .ok ([], tokens)

def orderTerm (steps : Nat) (tokens : List PlacedToken) :
    Except Stop (OrderTerm × List PlacedToken) := do
  let (expression, rest) ← expression steps 0 tokens
  if isWord "desc" rest then return (⟨expression, true⟩, rest.tail)
  else if isWord "asc" rest then return (⟨expression, false⟩, rest.tail)
  else return (⟨expression, false⟩, rest)

def order (steps : Nat) (tokens : List PlacedToken) :
    Except Stop (List OrderTerm × List PlacedToken) :=
  if isWord "order" tokens then do
    separated (orderTerm steps) steps (← expectWord "by" tokens.tail)
  else .ok ([], tokens)

def limit (steps : Nat) (tokens : List PlacedToken) :
    Except Stop (Option Limit × List PlacedToken) :=
  if isWord "limit" tokens then do
    let (first, rest) ← expression steps 0 tokens.tail
    if isWord "offset" rest then
      let (skipped, rest) ← expression steps 0 rest.tail
      return (some ⟨first, some skipped⟩, rest)
    else if isSymbol "," rest then
      let (count, rest) ← expression steps 0 rest.tail
      return (some ⟨count, some first⟩, rest)
    else return (some ⟨first, none⟩, rest)
  else .ok (none, tokens)

def select (statement : List Char) (steps : Nat) (tokens : List PlacedToken) :
    Except Stop (Select × List PlacedToken) := do
  let (items, rest) ← separated (item statement steps) steps tokens
  let (source, rest) ← source rest
  let (condition, rest) ← condition steps rest
  let (groups, rest) ← groups steps rest
  let (order, rest) ← order steps rest
  let (limit, rest) ← limit steps rest
  return ({ items, source, condition, groups, order, limit }, rest)

def valueRow (steps : Nat) (tokens : List PlacedToken) :
    Except Stop (List Expr × List PlacedToken) := do
  let (row, rest) ← expressions steps (← expectSymbol "(" tokens)
  return (row, ← expectSymbol ")" rest)

/-! ## Statements -/

def body (statement : List Char) (steps : Nat) (tokens : List PlacedToken) :
    Except Stop (Body × List PlacedToken) :=
  if isWord "values" tokens then do
    let (rows, rest) ← separated (valueRow steps) steps tokens.tail
    return (.values rows, rest)
  else do
    let (select, rest) ← select statement steps (← expectWord "select" tokens)
    return (.select select, rest)

def columnNames (steps : Nat) (tokens : List PlacedToken) :
    Except Stop (List String × List PlacedToken) :=
  if isSymbol "(" tokens then do
    let (names, rest) ← separated expectName steps tokens.tail
    return (names, ← expectSymbol ")" rest)
  else .ok ([], tokens)

def definition (statement : List Char) (steps : Nat) (tokens : List PlacedToken) :
    Except Stop (Definition × List PlacedToken) := do
  let (name, rest) ← expectName tokens
  let (columns, rest) ← columnNames steps rest
  let rest ← expectSymbol "(" (← expectWord "as" rest)
  let (body, rest) ← body statement steps rest
  return ({ name, columns, body }, ← expectSymbol ")" rest)

def query (statement : List Char) (steps : Nat) (tokens : List PlacedToken) :
    Except Stop (Query × List PlacedToken) :=
  if isWord "with" tokens then do
    let (definitions, rest) ← separated (definition statement steps) steps tokens.tail
    let (body, rest) ← body statement steps rest
    return ({ definitions, body }, rest)
  else do
    let (body, rest) ← body statement steps tokens
    return ({ definitions := [], body }, rest)

/-- Whether some characters hold nothing but blanks and comments. -/
def onlyGaps : (steps : Nat) → List Char → Bool
  | _, [] => true
  | 0, _ => false
  | steps + 1, chars =>
      match chars with
      | '-' :: '-' :: rest => onlyGaps steps (rest.dropWhile (· ≠ '\n'))
      | '/' :: '*' :: rest => onlyGaps steps (rest.drop (Token.blockCommentLength rest))
      | char :: rest => Token.startsBlank char && onlyGaps steps rest
      | [] => true

end Parser

/-- A parsed query, and whether another statement follows it. -/
structure Parsed where
  query : Query
  continued : Bool

/-- The query at the start of a statement; a semicolon may end it. -/
def parse (statement : List Char) : Except Problem Parsed :=
  if statement.contains '\x00' then .error .nullCharacter
  else
    let tokens := tokens statement
    match Parser.query statement (4 * tokens.length + 8) tokens with
    | .error stop => .error stop.problem
    | .ok (query, rest) =>
        match rest with
        | [] => .ok ⟨query, false⟩
        | placed :: _ =>
            if placed.token = .symbol ";" then
              let after := statement.drop placed.stop
              .ok ⟨query, !Parser.onlyGaps (after.length + 1) after⟩
            else .error (Parser.Stop.problem ⟨rest⟩)

end TableBrowser.Sql
