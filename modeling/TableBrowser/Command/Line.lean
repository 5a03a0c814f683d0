import TableBrowser.Command.Verb
import TableBrowser.Failure
import TableBrowser.Search
import TableBrowser.Step.Operation
/-!
# Command lines

A command line is a verb and its arguments. The arguments are the further words
of the line, and also the rest of the line as it is written, which for some
verbs may be quoted as a whole.
-/

/-! ## Words of a command line

Blanks separate words. Quotes keep blanks within a word: between single quotes
every character stands for itself, between double quotes a backslash escapes a
double quote or a backslash. Outside of quotes a backslash escapes any character.
-/

namespace TableBrowser.Words

inductive Quote where
  | single
  | double
deriving DecidableEq, Repr

def Quote.char : Quote → Char
  | .single => '\''
  | .double => '"'

/-- Where in a line the next character stands. -/
inductive Place where
  | between
  | inWord
  | inQuotes (quote : Quote)
  /-- After a backslash, which stands in a word or between double quotes. -/
  | escaped (quoted : Bool)
deriving DecidableEq, Repr

def isSeparator (char : Char) : Bool := [' ', '\t', '\r', '\n'].contains char

/-- The place after a character that stands between words or in a word. -/
def placeAfter (char : Char) : Place :=
  if char = '\\' then .escaped false
  else if char = Quote.single.char then .inQuotes .single
  else if char = Quote.double.char then .inQuotes .double
  else .inWord

/-- What a character outside of quotes adds to its word. -/
def contribution (char : Char) : List Char :=
  if placeAfter char = .inWord then [char] else []

/-- The words from a place on, where `word` is what the current word holds so far. -/
def wordsFrom : Place → (word : List Char) → List Char → Except WordProblem (List String)
  | .between, _, [] => .ok []
  | .inWord, word, [] => .ok [String.ofList word]
  | .inQuotes _, _, [] => .error .noClosingQuote
  | .escaped _, _, [] => .error .noEscapedCharacter
  | .between, _, char :: rest =>
      if isSeparator char then wordsFrom .between [] rest
      else wordsFrom (placeAfter char) (contribution char) rest
  | .inWord, word, char :: rest =>
      if isSeparator char then do return String.ofList word :: (← wordsFrom .between [] rest)
      else wordsFrom (placeAfter char) (word ++ contribution char) rest
  | .inQuotes quote, word, char :: rest =>
      if char = quote.char then wordsFrom .inWord word rest
      else if char = '\\' ∧ quote = .double then wordsFrom (.escaped true) word rest
      else wordsFrom (.inQuotes quote) (word ++ [char]) rest
  | .escaped false, word, char :: rest => wordsFrom .inWord (word ++ [char]) rest
  | .escaped true, word, char :: rest =>
      let kept := if char = '\\' ∨ char = '"' then [char] else ['\\', char]
      wordsFrom (.inQuotes .double) (word ++ kept) rest

def split (line : String) : Outcome (List String) :=
  match wordsFrom .between [] line.toList with
  | .ok words => return words
  | .error problem => Outcome.fail (.command (.words problem))

example : wordsFrom .between [] "a 'b c'".toList = .ok ["a", "b c"] := by rfl
example : wordsFrom .between [] "\"a".toList = .error .noClosingQuote := by rfl

def isQuote (char : Char) : Bool := char = '\'' || char = '"'

/-- Text without the quotes around it, when it is one quoted word as a whole. -/
def unquote (text : String) : Outcome String :=
  match text.toList.head?, text.toList.getLast? with
  | some first, some last =>
      if 2 ≤ text.toList.length ∧ isQuote first ∧ last = first then do
        match ← split text with
        | [word] => return word
        | _ => return text
      else return text
  | _, _ => return text

end TableBrowser.Words

namespace TableBrowser

structure Command where
  verb : Verb
  arguments : List String
  raw : String
deriving DecidableEq, Repr

/-- How names are suggested for a verb that is not known. -/
structure Suggestion where
  cutoff : Binary64
  count : Int

namespace Command

def lookUp (suggestion : Suggestion) (name : String) : Outcome Verb :=
  match Verb.ofName? name with
  | some verb => return verb
  | none => Outcome.fail (.command (.unknown name
      (Text.closestMatches name Verb.knownNames suggestion.count suggestion.cutoff)))

/-- The line without its first word and the blanks around the rest. -/
def restOfLine (line : String) : String :=
  Text.trim (String.ofList (Text.splitFirstWord (Text.trim line).toList).2)

def parse (suggestion : Suggestion) (line : String) : Outcome Command := do
  match ← Words.split line with
  | [] => Outcome.fail (.command .empty)
  | first :: arguments =>
      let verb ← lookUp suggestion first
      let rest := restOfLine line
      let raw ← if verb.takesExpression then Words.unquote rest else pure rest
      return { verb, arguments, raw }

/-! ## Columns and sort keys -/

def splitAtCommas : List Char → List (List Char)
  | [] => [[]]
  | char :: rest =>
      match splitAtCommas rest with
      | part :: parts =>
          if char = ',' then [] :: part :: parts else (char :: part) :: parts
      | [] => [[char]]

/-- The names between commas in some words, without the blanks around them. -/
def columns (words : List String) : List String :=
  words.flatMap fun word =>
    ((splitAtCommas word.toList).map fun part => Text.trim (String.ofList part)).filter (!·.isEmpty)

def splitAtLastColon (word : String) : Option (String × String) :=
  let reversed := word.toList.reverse
  let after := reversed.takeWhile (· ≠ ':')
  match reversed.drop after.length with
  | _ :: before => some (String.ofList before.reverse, String.ofList after.reverse)
  | [] => none

def sortKeyOf (word : String) : SortKey :=
  match splitAtLastColon word with
  | some (name, ending) =>
      match Direction.ofWord? (Text.lower ending) with
      | some direction => ⟨name, direction⟩
      | none => ⟨word, .ascending⟩
  | none => ⟨word, .ascending⟩

/-- A direction after a key belongs to that key. -/
def addSortKey (keys : List SortKey) (word : String) : List SortKey :=
  match Direction.ofWord? (Text.lower word), keys.getLast? with
  | some direction, some last => keys.dropLast ++ [{ last with direction }]
  | _, _ => keys ++ [sortKeyOf word]

def sortKeys (words : List String) : List SortKey := (columns words).foldl addSortKey []

/-! ## Options of a search -/

/-- What a search asks for; an option that is not given leaves the setting as it is. -/
structure FindRequest where
  text : String
  mode : Option Search.Mode
  caseSensitive : Option Bool
deriving DecidableEq, Repr

inductive FindOption where
  | mode (mode : Search.Mode)
  | caseSensitive (value : Bool)

def FindOption.ofFlag? (flag : String) : Option FindOption :=
  if flag = "-l" ∨ flag = "--literal" then some (.mode .literal)
  else if flag = "-r" ∨ flag = "--regex" then some (.mode .regex)
  else if flag = "-f" ∨ flag = "--fuzzy" then some (.mode .fuzzy)
  else if flag = "-c" ∨ flag = "--case" then some (.caseSensitive true)
  else if flag = "-i" ∨ flag = "--ignore-case" then some (.caseSensitive false)
  else none

def FindRequest.set (request : FindRequest) : FindOption → FindRequest
  | .mode mode => { request with mode := some mode }
  | .caseSensitive value => { request with caseSensitive := some value }

/-- A flag that starts some characters, and what follows the blanks after it. -/
def leadingFlag? (chars : List Char) : Option (String × List Char) :=
  match chars with
  | '-' :: _ =>
      let flag := chars.takeWhile (!Text.isBlank ·)
      some (String.ofList flag, (chars.drop flag.length).dropWhile Text.isBlank)
  | _ => none

/-- Takes the options off the start; every step takes a flag. -/
def findOptions : (steps : Nat) → FindRequest → List Char → Outcome (FindRequest × List Char)
  | 0, request, chars => return (request, chars)
  | steps + 1, request, chars =>
      match leadingFlag? chars with
      | none => return (request, chars)
      | some (flag, rest) =>
          if flag = "--" then return (request, rest)
          else match FindOption.ofFlag? flag with
            | some option => findOptions steps (request.set option) rest
            | none =>
                if ['-', '-'].isPrefixOf flag.toList then
                  Outcome.fail (.command (.unknownFindOption flag))
                else return (request, chars)

def findRequest (raw : String) : Outcome FindRequest := do
  let chars := raw.toList
  let (request, rest) ← findOptions (chars.length + 1) ⟨"", none, none⟩ chars
  return { request with text := ← Words.unquote (Text.trim (String.ofList rest)) }

end Command

end TableBrowser
