import TableBrowser.Pattern.Reader
import TableBrowser.Text.Alphanumeric
import TableBrowser.Text.Basic
/-!
# Parsing patterns

A pattern is a choice between sequences of items. An item is a character, a set,
a place, a group, or an item before it that is repeated. Flags at the start hold
for the whole pattern, flags in parentheses for what they enclose.
-/

namespace TableBrowser.PatternText

open Pattern (Flags Position Problem SetItem)
open Read

/-! ## Characters -/

def isAsciiDigit (char : Char) : Bool := char.isDigit

def isOctalDigit (char : Char) : Bool := '0' ≤ char && char ≤ '7'

def isHexDigit (char : Char) : Bool :=
  char.isDigit || ('a' ≤ char && char ≤ 'f') || ('A' ≤ char && char ≤ 'F')

def digitOf (char : Char) : Nat :=
  if char.isDigit then char.toNat - '0'.toNat else char.toLower.toNat - 'a'.toNat + 10

def numberIn (base : Nat) (digits : List Char) : Nat :=
  digits.foldl (fun value char => base * value + digitOf char) 0

def isCode (code : Nat) : Bool := code < 0x110000

def controlEscapes : List (Char × Char) := [
  ('a', '\x07'), ('b', '\x08'), ('f', '\x0c'), ('n', '\n'), ('r', '\r'), ('t', '\t'), ('v', '\x0b'),
  ('\\', '\\')]

def controlEscape? (char : Char) : Option Char :=
  (controlEscapes.find? (·.1 = char)).map (·.2)

def classEscape? (ascii : Bool) : Char → Option SetItem
  | 'd' => some (.inClass .digit false ascii)
  | 'D' => some (.inClass .digit true ascii)
  | 's' => some (.inClass .space false ascii)
  | 'S' => some (.inClass .space true ascii)
  | 'w' => some (.inClass .word false ascii)
  | 'W' => some (.inClass .word true ascii)
  | _ => none

/-- A character given by a fixed number of hexadecimal digits, after the letter of its escape. -/
def hexEscape (letter : Char) (digits : Nat) : Read Char := do
  let found ← takeSome isHexDigit digits
  let written := '\\' :: letter :: found
  if found.length < digits then
    fail (.incompleteEscape (String.ofList written)) written.length
  let code := numberIn 16 found
  if isCode code then return Char.ofNat code
  else fail (.badEscape (String.ofList written)) written.length

/-- No character is known by a name. -/
def namedEscape : Read Char := do
  if !(← accept '\x7b') then fail .missingBrace 0
  let found ← name '\x7d' "character name"
  fail (.undefinedCharacter found) (found.toList.length + 4)

/-- An escape that is spelled the same within and outside of sets. -/
def commonEscape? (letter : Char) : Read (Option Char) :=
  if letter = 'x' then do return some (← hexEscape letter 2)
  else if letter = 'u' then do return some (← hexEscape letter 4)
  else if letter = 'U' then do return some (← hexEscape letter 8)
  else if letter = 'N' then do return some (← namedEscape)
  else return none

def otherEscape (letter : Char) : Read Char :=
  if letter.isAlpha then fail (.badEscape (String.ofList ['\\', letter])) 2 else return letter

def octalChar (written : List Char) : Read Char := do
  let code := numberIn 8 written.tail
  if 0xFF < code then fail (.largeOctal (String.ofList written)) written.length
  return Char.ofNat code

/-- An escape within a set, after its first two characters. -/
def setEscape (ascii : Bool) (letter : Char) : Read SetItem := do
  match controlEscape? letter with
  | some char => return .char char
  | none =>
      match classEscape? ascii letter with
      | some item => return item
      | none =>
          match ← commonEscape? letter with
          | some char => return .char char
          | none =>
              if isOctalDigit letter then do
                let more ← takeSome isOctalDigit 2
                return .char (← octalChar ('\\' :: letter :: more))
              else if letter.isDigit then
                fail (.badEscape (String.ofList ['\\', letter])) 2
              else return .char (← otherEscape letter)

def placeEscape? (flags : Flags) : Char → Option Position
  | 'A' => some .textStart
  | 'Z' => some .textEnd
  | 'b' => some (.boundary flags.ascii)
  | 'B' => some (.noBoundary flags.ascii)
  | _ => none

/-- A reference to a group by its number; `written` is the escape. -/
def groupReference (flags : Flags) (written : List Char) : Read Pattern := do
  let number := numberIn 10 written.tail
  if number < (← groupCount) then
    if (← closedGroup? number).isNone then fail .openGroup written.length
    checkTest number
    return .reference number flags.folding
  else fail (.invalidReference number) (written.length - 1)

/-- An escape that starts with a digit other than zero: three octal digits, or a reference. -/
def digitEscape (flags : Flags) (first : Char) : Read Pattern := do
  match ← takeSome isAsciiDigit 1 with
  | [second] =>
      if isOctalDigit first && isOctalDigit second then
        match ← takeSome isOctalDigit 1 with
        | [third] => return .char (← octalChar ['\\', first, second, third]) flags.folding
        | _ => groupReference flags ['\\', first, second]
      else groupReference flags ['\\', first, second]
  | _ => groupReference flags ['\\', first]

/-- An escape outside of sets, after its first two characters. -/
def escape (flags : Flags) (letter : Char) : Read Pattern := do
  match placeEscape? flags letter with
  | some position => return .position position
  | none =>
      match classEscape? flags.ascii letter with
      | some item => return .set false [item] .exact
      | none =>
          match controlEscape? letter with
          | some char => return .char char flags.folding
          | none =>
              match ← commonEscape? letter with
              | some char => return .char char flags.folding
              | none =>
                  if letter = '0' then do
                    let more ← takeSome isOctalDigit 2
                    return .char (Char.ofNat (numberIn 8 more)) flags.folding
                  else if letter.isDigit then digitEscape flags letter
                  else return .char (← otherEscape letter) flags.folding

/-! ## Sets -/

def setItem (flags : Flags) (token : Token) : Read SetItem :=
  match token.chars with
  | ['\\', letter] => setEscape flags.ascii letter
  | char :: _ => return .char char
  | [] => return .char '\\'

def setRange (first last : Token) : SetItem → SetItem → Read SetItem
  | .char low, .char high =>
      if high < low then
        fail (.badRange first.text last.text) (first.chars.length + 1 + last.chars.length)
      else return .range low high
  | _, _ => fail (.badRange first.text last.text) (first.chars.length + 1 + last.chars.length)

/-- The items of a set up to its end; a bracket that comes first is an item. -/
def setItems (flags : Flags) (start : Nat) : (steps : Nat) → List SetItem → Read (List SetItem)
  | 0, found => return found
  | steps + 1, found => do
      match ← take with
      | none => fail .unterminatedSet ((← place) - start)
      | some token =>
          if token.chars = [']'] && !found.isEmpty then return found
          else do
            let item ← setItem flags token
            if ← accept '-' then
              match ← take with
              | none => fail .unterminatedSet ((← place) - start)
              | some last =>
                  if last.chars = [']'] then return found ++ [item, .char '-']
                  else do
                    let range ← setRange token last item (← setItem flags last)
                    setItems flags start steps (found ++ [range])
            else setItems flags start steps (found ++ [item])

/-- A set, after its opening bracket. -/
def characterSet (flags : Flags) : Read Pattern := do
  let start := (← place) - 1
  let negated ← accept '^'
  let items ← setItems flags start ((← get).tokens.length + 1) []
  return .set negated items flags.folding

/-! ## Repetition -/

/-- Numbers of repetitions from here on are refused. -/
def repetitionLimit : Nat := 4294967295

structure Counts where
  least : Nat
  most : Option Nat

def repetitionCount (digits : List Char) : Read Nat := do
  if Numeral.digitLimit < digits.length then throw (.fault (.longNumeral digits.length))
  let count := numberIn 10 digits
  if repetitionLimit ≤ count then throw (.fault .largeRepetition)
  return count

/-- Counts in braces, after the opening one; nothing when the brace stands for itself. -/
def bracedCounts : Read (Option Counts) := do
  let start ← place
  let reader ← get
  if ((← peek).map Token.chars) = some ['\x7d'] then return none
  let low ← takeWhile isAsciiDigit
  let high ← if ← accept ',' then takeWhile isAsciiDigit else pure low
  if ← accept '\x7d' then
    let least ← if low.isEmpty then pure 0 else repetitionCount low
    let most ← if high.isEmpty then pure none else do pure (some (← repetitionCount high))
    match most with
    | some most =>
        if most < least then fail .reversedCounts ((← place) - start)
        return some ⟨least, some most⟩
    | none => return some ⟨least, none⟩
  else do
    set reader
    return none

def isRepeatable : Pattern → Except Problem Unit
  | .position _ => .error .nothingToRepeat
  | .repetition .. => .error .multipleRepeat
  | _ => .ok ()

/-- The last of some items repeated; `start` is the place after the sign of the repetition. -/
def repeatLast (start : Nat) (counts : Counts) (items : List Pattern) : Read (List Pattern) := do
  match items with
  | [] => fail .nothingToRepeat ((← place) - start + 1)
  | last :: before =>
      match isRepeatable last with
      | .error problem => fail problem ((← place) - start + 1)
      | .ok () => do
          let fewest ← accept '?'
          let onlyMost ← if fewest then pure false else accept '+'
          let preference := if fewest then .fewest else if onlyMost then .onlyMost else .most
          return .repetition preference counts.least counts.most last :: before

/-! ## Flags -/

def flagLetters : List Char := ['i', 'L', 'm', 's', 'x', 'a', 't', 'u']

def isFlag (token : Token) : Bool :=
  match token.chars with
  | [char] => flagLetters.contains char
  | _ => false

def setFlags (value : Bool) (flags : Flags) (letters : List Char) : Flags :=
  letters.foldl (fun flags letter =>
    match letter with
    | 'i' => { flags with ignoreCase := value }
    | 'm' => { flags with multiline := value }
    | 's' => { flags with dotMatchesAll := value }
    | 'x' => { flags with verbose := value }
    | 'a' => { flags with ascii := value }
    | 'u' => { flags with ascii := false }
    | _ => flags) flags

def isLetterToken (token : Token) : Bool :=
  !token.chars.isEmpty && token.chars.all fun char => Text.isAlphanumeric char && !Text.isDigit char

/-- The letters that turn flags on, and the token after them. -/
def flagsOn : (steps : Nat) → List Char → Char → Read (List Char × Char)
  | 0, found, letter => return (found, letter)
  | steps + 1, found, letter => do
      if letter = 'L' then fail .localeFlag 0
      let found := found ++ [letter]
      if found.contains 'a' && found.contains 'u' then fail .incompatibleFlags 0
      match ← take with
      | none => fail .missingFlagEnd 0
      | some token =>
          match token.chars with
          | [char] =>
              if [')', '-', ':'].contains char then return (found, char)
              else if flagLetters.contains char then flagsOn steps found char
              else fail (if isLetterToken token then .unknownFlag else .missingFlagEnd) 1
          | chars => fail .missingFlagEnd chars.length

/-- The letters that turn flags off, up to the colon. -/
def flagsOff : (steps : Nat) → List Char → Char → Read (List Char)
  | 0, found, _ => return found
  | steps + 1, found, letter => do
      if ['a', 'u', 'L'].contains letter then fail .classFlagOff 0
      let found := found ++ [letter]
      match ← take with
      | none => fail .missingColon 0
      | some token =>
          match token.chars with
          | [char] =>
              if char = ':' then return found
              else if flagLetters.contains char then flagsOff steps found char
              else fail (if isLetterToken token then .unknownFlag else .missingColon) 1
          | chars => fail .missingColon chars.length

/-- What flags in parentheses hold for. -/
inductive FlagScope where
  | whole (on : List Char)
  | part (on off : List Char)

def firstFlagOff : Read Char := do
  match ← take with
  | none => fail .missingFlag 0
  | some token =>
      match token.chars with
      | [char] =>
          if flagLetters.contains char then return char
          else fail (if isLetterToken token then .unknownFlag else .missingFlag) 1
      | chars => fail .missingFlag chars.length

/-- Flags from their first letter, or a minus sign, on. -/
def flagScope (first : Char) : Read FlagScope := do
  let steps := (← get).tokens.length + 1
  let (on, next) ← if first = '-' then pure ([], '-') else flagsOn steps [] first
  if next = ')' then return .whole on
  if on.contains 't' then fail .globalFlagOn 1
  let off ← if next = '-' then do flagsOff steps [] (← firstFlagOff) else pure []
  if off.contains 't' then fail .globalFlagOff 1
  if on.any off.contains then fail .contradictoryFlag 1
  return .part on off

def setWhole (on : List Char) : Read Unit := do
  let reader ← get
  let ascii := reader.flags.ascii || on.contains 'a'
  let unicodeFlag := reader.unicodeFlag || on.contains 'u'
  let flags := { setFlags true reader.flags on with ascii }
  set { reader with flags, unicodeFlag }

/-! ## Groups -/

def isName (text : String) : Bool :=
  match text.toList with
  | [] => false
  | first :: rest =>
      (first = '_' || (Text.isAlphanumeric first && !Text.isDigit first)) &&
        rest.all fun char => char = '_' || Text.isAlphanumeric char

/-- What stands between an opening parenthesis and the body of a group. -/
inductive Opening where
  | capture (name : Option String)
  | plain
  | atomic
  | flags (on off : List Char)
  | ahead (negated : Bool)
  | behind (negated : Bool)
  | conditional (group : Nat)
  /-- An item that is complete. -/
  | item (pattern : Pattern)
  /-- Nothing that stands for an item. -/
  | comment
  | wholeFlags (on : List Char)

def checkName (name : String) : Read Unit := do
  if !isName name then fail (.badGroupName name) (name.toList.length + 1)

def namedReference (flags : Flags) : Read Pattern := do
  let name ← name ')' "group name"
  checkName name
  match (← get).names.find? (·.name = name) with
  | none => fail (.unknownGroup name) (name.toList.length + 1)
  | some group => do
      if (← closedGroup? group.number).isNone then fail .openGroup (name.toList.length + 1)
      checkTest group.number
      return .reference group.number flags.folding

/-- What follows a question mark and a `P`. -/
def namedOpening (flags : Flags) : Read Opening := do
  if ← accept '<' then do
    let name ← name '>' "group name"
    checkName name
    return .capture (some name)
  else if ← accept '=' then do return .item (← namedReference flags)
  else
    match ← take with
    | none => fail .endOfPattern 0
    | some token => fail (.unknownExtension ("?P" ++ token.text)) (token.chars.length + 2)

/-- Group numbers from here on are refused in conditions. -/
def groupLimit : Nat := 1073741823

def askedGroup : Read Nat := do
  let name ← name ')' "group name"
  let size := name.toList.length
  if isName name then
    match (← get).names.find? (·.name = name) with
    | none => fail (.unknownGroup name) (size + 1)
    | some group => return group.number
  else
    match Numeral.int? name with
    | some (Int.ofNat number) => do
        if number = 0 then fail .badGroupNumber (size + 1)
        if groupLimit ≤ number then fail (.invalidReference number) (size + 1)
        let place := (← place) - size - 1
        modify fun reader =>
          if reader.asked.any (·.1 = number) then reader
          else { reader with asked := reader.asked ++ [(number, place)] }
        return number
    | _ => fail (.badGroupName name) (size + 1)

def skipComment (start : Nat) : (steps : Nat) → Read Unit
  | 0 => return ()
  | steps + 1 => do
      match ← peek with
      | none => fail .unterminatedComment ((← place) - start)
      | some token => do
          let _ ← take
          if token.chars = [')'] then return () else skipComment start steps

def opening (flags : Flags) (start : Nat) : Read Opening := do
  if !(← accept '?') then return .capture none
  match ← take with
  | none => fail .endOfPattern 0
  | some token =>
      match token.chars with
      | ['P'] => namedOpening flags
      | [':'] => return .plain
      | ['#'] => do
          skipComment start ((← get).tokens.length + 1)
          return .comment
      | ['='] => return .ahead false
      | ['!'] => return .ahead true
      | ['<'] =>
          match ← take with
          | none => fail .endOfPattern 0
          | some next =>
              match next.chars with
              | ['='] => return .behind false
              | ['!'] => return .behind true
              | chars => fail (.unknownExtension ("?<" ++ next.text)) (chars.length + 2)
      | ['('] => do
          let group ← askedGroup
          checkTest group
          return .conditional group
      | ['>'] => return .atomic
      | [char] =>
          if char = '-' || flagLetters.contains char then
            match ← flagScope char with
            | .whole on => return .wholeFlags on
            | .part on off => return .flags on off
          else fail (.unknownExtension ("?" ++ token.text)) 2
      | chars => fail (.unknownExtension ("?" ++ token.text)) (chars.length + 1)

/-! ## Sequences and choices -/

/-- Items, the last one first, as one pattern. -/
def joinItems (items : List Pattern) : Pattern :=
  items.foldl (fun rest item => match rest with
    | .nothing => item
    | rest => .sequence item rest) .nothing

def isBlank (char : Char) : Bool := [' ', '\t', '\n', '\r', '\x0b', '\x0c'].contains char

def skipLine : (steps : Nat) → Read Unit
  | 0 => return ()
  | steps + 1 => do
      match ← take with
      | none => return ()
      | some token => if token.chars = ['\n'] then return () else skipLine steps

def closeParenthesis (start : Nat) : Read Unit := do
  if !(← accept ')') then fail .unterminatedGroup ((← place) - start)

/-- The fixed length of a test of preceding text. -/
def fixedLength? (body : Pattern) : Read (Option Nat) := do
  let length := body.length (← groupLengths)
  return if length.most = some length.least then some length.least else none

/-- Where in a pattern a sequence stands. -/
structure Setting where
  flags : Flags
  /-- Whether the sequence is not within parentheses. -/
  outermost : Bool
  /-- Whether the sequence is the very first part of the pattern. -/
  first : Bool

mutual

def choice : (steps : Nat) → Setting → Read Pattern
  | 0, _ => return .nothing
  | steps + 1, setting => do
      let wholeFlags := (← get).flags
      let flags := if setting.outermost then wholeFlags else setting.flags
      let head ← sequence steps { setting with flags } []
      if ← accept '|' then
        return .choice head (← choice steps { setting with first := false })
      else return head

/-- The items of a sequence after some that are read, the last one first. -/
def sequence : (steps : Nat) → Setting → List Pattern → Read Pattern
  | 0, _, items => return joinItems items
  | steps + 1, setting, items => do
      match ← peek with
      | none => return joinItems items
      | some token =>
          let flags := setting.flags
          match token.chars with
          | ['|'] => return joinItems items
          | [')'] => return joinItems items
          | _ => do
              let _ ← take
              match token.chars with
              | ['\\', letter] => do
                  sequence steps setting ((← escape flags letter) :: items)
              | ['['] => do sequence steps setting ((← characterSet flags) :: items)
              | ['.'] => sequence steps setting (.anyChar flags.dotMatchesAll :: items)
              | ['^'] =>
                  let position := if flags.multiline then .lineStart else .textStart
                  sequence steps setting (.position position :: items)
              | ['$'] =>
                  let position := if flags.multiline then .lineEnd else .lastLineEnd
                  sequence steps setting (.position position :: items)
              | ['*'] => do
                  sequence steps setting (← repeatLast (← place) ⟨0, none⟩ items)
              | ['+'] => do
                  sequence steps setting (← repeatLast (← place) ⟨1, none⟩ items)
              | ['?'] => do
                  sequence steps setting (← repeatLast (← place) ⟨0, some 1⟩ items)
              | ['('] => parenthesized steps setting token.place items
              | [char] =>
                  if flags.verbose && isBlank char then sequence steps setting items
                  else if flags.verbose && char = '#' then do
                    skipLine ((← get).tokens.length + 1)
                    sequence steps setting items
                  else if char = '\x7b' then do
                    let start ← place
                    match ← bracedCounts with
                    | some counts =>
                        sequence steps setting (← repeatLast start counts items)
                    | none => sequence steps setting (.char char flags.folding :: items)
                  else sequence steps setting (.char char flags.folding :: items)
              | _ => sequence steps setting items

/-- An item in parentheses that open at a place, and the items after it. -/
def parenthesized : (steps : Nat) → Setting → (start : Nat) → List Pattern → Read Pattern
  | 0, _, _, items => return joinItems items
  | steps + 1, setting, start, items => do
      let inner : Setting := { setting with outermost := false, first := false }
      match ← opening setting.flags start with
      | .item pattern => sequence steps setting (pattern :: items)
      | .comment => sequence steps setting items
      | .wholeFlags on => do
          if !setting.first || !items.isEmpty then fail .misplacedFlags ((← place) - start)
          setWhole on
          sequence steps { setting with flags := (← get).flags } items
      | .plain => do
          let body ← choice steps inner
          closeParenthesis start
          sequence steps setting (.enclosed body :: items)
      | .flags on off => do
          let flags := setFlags false (setFlags true setting.flags on) off
          let body ← choice steps { inner with flags }
          closeParenthesis start
          sequence steps setting (.enclosed body :: items)
      | .atomic => do
          let body ← choice steps inner
          closeParenthesis start
          sequence steps setting (.atomic body :: items)
      | .capture name => do
          let number ← openGroup name
          let body ← choice steps inner
          closeParenthesis start
          closeGroup number body
          sequence steps setting (.group number body :: items)
      | .ahead negated => do
          let body ← choice steps inner
          closeParenthesis start
          sequence steps setting (.ahead negated body :: items)
      | .behind negated => do
          let before := (← get).groupsBeforeTest
          let count ← groupCount
          modify fun reader => { reader with groupsBeforeTest := some (before.getD count) }
          let body ← choice steps inner
          modify fun reader => { reader with groupsBeforeTest := before }
          closeParenthesis start
          match ← fixedLength? body with
          | some length => sequence steps setting (.behind negated length body :: items)
          | none => do
              modify fun reader => { reader with variableTest := true }
              sequence steps setting (.behind negated 0 body :: items)
      | .conditional group => do
          let present ← sequence steps inner []
          let absent ← if ← accept '|' then do
              let absent ← sequence steps inner []
              if ((← peek).map Token.chars) = some ['|'] then fail .manyBranches 0
              pure absent
            else pure .nothing
          closeParenthesis start
          sequence steps setting (.conditional group present absent :: items)

end

/-! ## Whole patterns -/

/-- The whole text as a pattern, with its references checked. -/
def wholePattern : Read Pattern := do
  moveTo (← get).tokens
  let steps := 4 * (← get).tokens.length + 8
  let pattern ← choice steps ⟨(← get).flags, true, true⟩
  let reader ← get
  if reader.flags.ascii && reader.unicodeFlag then throw (.fault .clashingFlags)
  if !reader.tokens.isEmpty then fail .unbalanced 0
  match reader.asked.find? fun (number, _) => reader.groups.length < number with
  | some (number, place) => throw (.error ⟨.invalidReference number, some place⟩)
  | none =>
      if reader.variableTest then throw (.error ⟨.variableLength, none⟩)
      return pattern

def parse (ignoreCase : Bool) (text : String) : Except Stop Pattern := do
  let chars := text.toList
  let reader : Reader := {
    tokens := tokensFrom 0 chars, size := chars.length, flags := { ignoreCase },
    unicodeFlag := false, groups := [], names := [], groupsBeforeTest := none, asked := [],
    variableTest := false }
  return (← wholePattern.run reader).1

end TableBrowser.PatternText
