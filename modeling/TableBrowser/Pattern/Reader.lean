import TableBrowser.Pattern.Syntax
/-!
# Reading the text of a pattern

The text is cut into characters and pairs of a backslash and a character. The
reader looks one token ahead, so a backslash at the end shows as soon as the
token before it is taken.
-/

namespace TableBrowser.PatternText

open Pattern (Error Flags Length Problem)

structure Token where
  chars : List Char
  place : Nat
deriving DecidableEq, Repr

def Token.text (token : Token) : String := String.ofList token.chars

/-- The tokens of some characters that start at a place. -/
def tokensFrom (place : Nat) : List Char → List Token
  | [] => []
  | ['\\'] => [⟨['\\'], place⟩]
  | '\\' :: char :: rest => ⟨['\\', char], place⟩ :: tokensFrom (place + 2) rest
  | char :: rest => ⟨[char], place⟩ :: tokensFrom (place + 1) rest

inductive Stop where
  | error (error : Error)
  | fault (fault : Fault)

structure NamedGroup where
  name : String
  number : Nat

/-- What is known at some place of a pattern. -/
structure Reader where
  tokens : List Token
  /-- The length of the whole text. -/
  size : Nat
  flags : Flags
  /-- Whether letters were said to be those of all scripts. -/
  unicodeFlag : Bool
  /-- The lengths of the groups so far, none for those still open. -/
  groups : List (Option Length)
  names : List NamedGroup
  /-- The number of groups before the test of preceding text that is being read. -/
  groupsBeforeTest : Option Nat
  /-- Whether a test of preceding text was met whose texts differ in length. -/
  variableTest : Bool
  /-- Groups that conditions ask for, and where. -/
  asked : List (Nat × Nat)

abbrev Read := StateT Reader (Except Stop)

namespace Read

def peek : Read (Option Token) := do return (← get).tokens.head?

/-- The place of the next token, or the end. -/
def place : Read Nat := do
  let reader ← get
  return (reader.tokens.head?.map Token.place).getD reader.size

/-- Fails at a number of characters before the next token. -/
def fail {α : Type} (problem : Problem) (back : Nat) : Read α := do
  throw (.error ⟨problem, some ((← place) - back)⟩)

/-- Goes on to other tokens, of which the first must not be a lone backslash. -/
def moveTo (tokens : List Token) : Read Unit := do
  match tokens with
  | ⟨['\\'], place⟩ :: _ => throw (.error ⟨.danglingBackslash, some place⟩)
  | _ => modify fun reader => { reader with tokens }

def take : Read (Option Token) := do
  match (← get).tokens with
  | [] => return none
  | token :: rest => do
      moveTo rest
      return some token

/-- Takes the next token if it is the given character. -/
def accept (char : Char) : Read Bool := do
  match ← peek with
  | some token =>
      if token.chars = [char] then do
        let _ ← take
        return true
      else return false
  | none => return false

def takeSome (accepts : Char → Bool) : (count : Nat) → Read (List Char)
  | 0 => return []
  | count + 1 => do
      match ← peek with
      | some ⟨[char], _⟩ =>
          if accepts char then do
            let _ ← take
            return char :: (← takeSome accepts count)
          else return []
      | _ => return []

def takeWhile (accepts : Char → Bool) : Read (List Char) := do
  takeSome accepts (← get).tokens.length

/-- The text up to a terminator; `what` names it where it is missing. -/
def takeUntil (terminator : Char) (what : String) : (steps : Nat) → List Char → Read String
  | 0, _ => fail (.missingName what) 0
  | steps + 1, found => do
      match ← take with
      | none =>
          if found.isEmpty then fail (.missingName what) 0
          else fail (.unterminatedName (String.singleton terminator)) found.length
      | some token =>
          if token.chars = [terminator] then
            if found.isEmpty then fail (.missingName what) 1 else return String.ofList found
          else takeUntil terminator what steps (found ++ token.chars)

def name (terminator : Char) (what : String) : Read String := do
  takeUntil terminator what ((← get).tokens.length + 1) []

/-! ## Groups -/

def groupCount : Read Nat := do return (← get).groups.length + 1

/-- The length of a group that is closed. -/
def closedGroup? (number : Nat) : Read (Option Length) := do
  let groups := (← get).groups
  return if number = 0 then none else (groups[number - 1]?).join

def openGroup (name : Option String) : Read Nat := do
  let number ← groupCount
  modify fun reader => { reader with groups := reader.groups ++ [none] }
  match name with
  | none => return number
  | some name =>
      match (← get).names.find? (·.name = name) with
      | some earlier =>
          fail (.redefinedGroup name number earlier.number) (name.toList.length + 1)
      | none => do
          modify fun reader => { reader with names := reader.names ++ [⟨name, number⟩] }
          return number

/-- The lengths of groups, where those that are not known count as empty. -/
def groupLengths : Read (Nat → Length) := do
  let groups := (← get).groups
  return fun number => ((groups[number - 1]?).join).getD .zero

def closeGroup (number : Nat) (body : Pattern) : Read Unit := do
  let length := body.length (← groupLengths)
  modify fun reader => { reader with groups := reader.groups.set (number - 1) (some length) }

/-- A test of preceding text may refer to groups before it only. -/
def checkTest (number : Nat) : Read Unit := do
  match (← get).groupsBeforeTest with
  | none => return ()
  | some before => do
      if (← closedGroup? number).isNone then fail .openGroup 0
      if before ≤ number then fail .groupOfSameTest 0

end Read

end TableBrowser.PatternText
