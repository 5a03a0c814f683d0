import TableBrowser.Expression.Syntax
import TableBrowser.Failure
import TableBrowser.Number.Decimal
import TableBrowser.Text.Basic
/-!
# Tokens of expressions

Blanks separate tokens and mean nothing else. Quotes enclose text, backticks a
column name; in both a backslash takes the next character as it is. Numbers may
be written in the digits of any script.
-/

namespace TableBrowser.Expression

inductive Keyword where
  | and
  | or
  | not
  | true
  | false
  | null
  | text (operator : TextOperator)
deriving DecidableEq, Repr

inductive Symbol where
  | comparison (operator : ComparisonOperator)
  | arithmetic (operator : ArithmeticOperator)
  | openParenthesis
  | closeParenthesis
deriving DecidableEq, Repr

inductive Token where
  | name (name : String)
  | text (value : String)
  | number (value : Datum)
  | keyword (keyword : Keyword)
  | symbol (symbol : Symbol)
deriving DecidableEq

structure PlacedToken where
  token : Token
  position : Nat
deriving DecidableEq

def Keyword.word : Keyword → String
  | .and => "and"
  | .or => "or"
  | .not => "not"
  | .true => "true"
  | .false => "false"
  | .null => "null"
  | .text operator => operator.word

def Keyword.all : List Keyword := [
  .and, .or, .not, .true, .false, .null, .text .contains, .text .startsWith, .text .endsWith]

def Keyword.ofWord? (word : String) : Option Keyword := all.find? (·.word = word)

def Symbol.written : Symbol → String
  | .comparison operator => operator.symbol
  | .arithmetic operator => operator.symbol
  | .openParenthesis => "("
  | .closeParenthesis => ")"

def Token.shown : Token → String
  | .name spelling => spelling
  | .text value => value
  | .number value => value.quoted
  | .keyword reserved => reserved.word
  | .symbol sign => sign.written

/-! ## Reading one token -/

def isNameStart (char : Char) : Bool := char.isAlpha || char = '_'

def isNamePart (char : Char) : Bool := char.isAlphanum || char = '_' || char = '.'

/-- Two-character symbols come before those of one character. -/
def symbol? : List Char → Option (Symbol × List Char)
  | '=' :: '=' :: rest => some (.comparison .equal, rest)
  | '!' :: '=' :: rest => some (.comparison .notEqual, rest)
  | '<' :: '>' :: rest => some (.comparison .notEqual, rest)
  | '>' :: '=' :: rest => some (.comparison .greaterOrEqual, rest)
  | '<' :: '=' :: rest => some (.comparison .lessOrEqual, rest)
  | '=' :: rest => some (.comparison .equal, rest)
  | '>' :: rest => some (.comparison .greater, rest)
  | '<' :: rest => some (.comparison .less, rest)
  | '(' :: rest => some (.openParenthesis, rest)
  | ')' :: rest => some (.closeParenthesis, rest)
  | '+' :: rest => some (.arithmetic .add, rest)
  | '-' :: rest => some (.arithmetic .subtract, rest)
  | '*' :: rest => some (.arithmetic .multiply, rest)
  | '/' :: rest => some (.arithmetic .divide, rest)
  | _ => none

/-- The characters up to a closing quote, and what follows it. -/
def quoted? (quote : Char) : List Char → Option (List Char × List Char)
  | [] => none
  | '\\' :: char :: rest => (quoted? quote rest).map fun (value, rest) => (char :: value, rest)
  | char :: rest =>
      if char = quote then some ([], rest)
      else (quoted? quote rest).map fun (value, rest) => (char :: value, rest)

/-- An exponent: a letter, an optional sign and digits. -/
def exponentChars (chars : List Char) : List Char :=
  match chars with
  | letter :: rest =>
      if letter = 'e' ∨ letter = 'E' then
        let sign := match rest with
          | '+' :: _ => ['+']
          | '-' :: _ => ['-']
          | _ => []
        let digits := (rest.drop sign.length).takeWhile Text.isDecimalDigit
        if digits.isEmpty then [] else letter :: sign ++ digits
      else []
  | [] => []

/-- The digits of a number, with a point that has digits on at least one side. -/
def mantissaChars (chars : List Char) : List Char :=
  let whole := chars.takeWhile Text.isDecimalDigit
  match chars.drop whole.length with
  | '.' :: rest =>
      let fraction := rest.takeWhile Text.isDecimalDigit
      if whole.isEmpty && fraction.isEmpty then [] else whole ++ '.' :: fraction
  | _ => whole

/-- The longest number that starts the characters; empty when there is none. -/
def numberChars (chars : List Char) : List Char :=
  let mantissa := mantissaChars chars
  if mantissa.isEmpty then []
  else mantissa ++ exponentChars (chars.drop mantissa.length)

def isFractionMark (char : Char) : Bool := char = '.' || char = 'e' || char = 'E'

/-- The value of a number: whole unless it has a point or an exponent. -/
def numberValue (chars : List Char) : Except Fault Datum :=
  let text := String.ofList chars
  if chars.any isFractionMark then .ok (.number ((Numeral.number? text).getD .nan))
  else match Numeral.int? text with
    | some value => .ok (.integer value)
    | none => .error (.longNumeral chars.length)

/-- What one reading step finds at a character that is not blank. -/
inductive Lexeme where
  | token (token : Token) (rest : List Char)
  | problem (problem : ExpressionProblem)
  | fault (fault : Fault)

def quotedLexeme (quote : Char) (make : String → Token) (rest : List Char) : Lexeme :=
  match quoted? quote rest with
  | some (value, rest) => .token (make (String.ofList value)) rest
  | none => .problem .unterminatedText

def numberLexeme (number rest : List Char) : Lexeme :=
  match numberValue number with
  | .ok value => .token (.number value) rest
  | .error fault => .fault fault

def wordToken (word : List Char) : Token :=
  match Keyword.ofWord? (String.ofList (word.map Char.toLower)) with
  | some keyword => .keyword keyword
  | none => .name (String.ofList word)

def plainLexeme (first : Char) (rest : List Char) : Lexeme :=
  let chars := first :: rest
  match symbol? chars with
  | some (symbol, rest) => .token (.symbol symbol) rest
  | none =>
      let number := numberChars chars
      if !number.isEmpty then numberLexeme number (chars.drop number.length)
      else if isNameStart first then
        let word := chars.takeWhile isNamePart
        .token (wordToken word) (chars.drop word.length)
      else .problem (.unexpectedCharacter first)

def lexeme (first : Char) (rest : List Char) : Lexeme :=
  if first = '\'' then quotedLexeme '\'' .text rest
  else if first = '"' then quotedLexeme '"' .text rest
  else if first = '\x60' then quotedLexeme '\x60' .name rest
  else plainLexeme first rest

/-! ## Reading all tokens -/

/-- Tokens of the characters that follow the first `position` ones of a source. -/
def tokensFrom (source : String) : (steps position : Nat) → List Char → Outcome (List PlacedToken)
  | 0, _, _ => .ok []
  | _ + 1, _, [] => .ok []
  | steps + 1, position, first :: rest =>
      if Text.isBlank first then tokensFrom source steps (position + 1) rest
      else match lexeme first rest with
        | .token token after => do
            let tokens ← tokensFrom source steps
              (position + (rest.length + 1 - after.length)) after
            return ⟨token, position⟩ :: tokens
        | .problem problem => Outcome.fail (.expression ⟨problem, source, position⟩)
        | .fault fault => Outcome.fault fault

/-- Every step takes a character, so as many steps as characters are enough. -/
def tokens (source : String) : Outcome (List PlacedToken) :=
  tokensFrom source (source.toList.length + 1) 0 source.toList

end TableBrowser.Expression
