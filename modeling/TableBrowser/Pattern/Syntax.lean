import TableBrowser.Failure.Fault
/-!
# Patterns

A pattern describes a set of texts: characters and sets of characters, places in
the text, sequences and choices, repetition, groups, references to what a group
matched, and conditions on what stands before or after.
-/

namespace TableBrowser

namespace Pattern

/-- What the letters of a pattern are equal to. -/
inductive Folding where
  | exact
  /-- Every form of the same letter. -/
  | letters
  /-- The two forms of an ASCII letter. -/
  | asciiLetters
deriving DecidableEq, Repr

/-- How the characters of a pattern are to be read; a pattern may change it for a part of itself. -/
structure Flags where
  ignoreCase : Bool := false
  /-- The start and the end of every line count as places of the text's start and end. -/
  multiline : Bool := false
  dotMatchesAll : Bool := false
  /-- Classes and letters are those of ASCII. -/
  ascii : Bool := false
  /-- Blanks and comments in the pattern count for nothing. -/
  verbose : Bool := false
deriving DecidableEq, Repr

def Flags.folding (flags : Flags) : Folding :=
  if flags.ignoreCase then if flags.ascii then .asciiLetters else .letters else .exact

inductive CharacterClass where
  | digit
  | space
  | word
deriving DecidableEq, Repr

inductive SetItem where
  | char (char : Char)
  | range (first last : Char)
  | inClass (kind : CharacterClass) (negated ascii : Bool)
deriving DecidableEq, Repr

inductive Position where
  | textStart
  | textEnd
  | lineStart
  | lineEnd
  /-- The end of the text, or the place before a line end that ends it. -/
  | lastLineEnd
  | boundary (ascii : Bool)
  | noBoundary (ascii : Bool)
deriving DecidableEq, Repr

/-- Which of the possible repetitions is tried first, and whether others are tried at all. -/
inductive Preference where
  | most
  | fewest
  | onlyMost
deriving DecidableEq, Repr

end Pattern

open Pattern in
inductive Pattern where
  | nothing
  | char (char : Char) (folding : Folding)
  | set (negated : Bool) (items : List SetItem) (folding : Folding)
  | anyChar (newlines : Bool)
  | position (position : Position)
  | sequence (first second : Pattern)
  | choice (first second : Pattern)
  | repetition (preference : Preference) (least : Nat) (most : Option Nat) (body : Pattern)
  /-- A part in parentheses, which a repetition can follow whatever it is. -/
  | enclosed (body : Pattern)
  | group (number : Nat) (body : Pattern)
  | reference (group : Nat) (folding : Folding)
  | conditional (group : Nat) (present absent : Pattern)
  /-- A test of what follows. -/
  | ahead (negated : Bool) (body : Pattern)
  /-- A test of what stands before; all texts of the body have the same length. -/
  | behind (negated : Bool) (length : Nat) (body : Pattern)
  /-- A part of which only the first match counts. -/
  | atomic (body : Pattern)
deriving Inhabited

namespace Pattern

/-! ## What can be wrong with a pattern -/

inductive Problem where
  | danglingBackslash
  | badEscape (escape : String)
  | incompleteEscape (escape : String)
  | largeOctal (escape : String)
  | missingBrace
  | missingName (what : String)
  | unterminatedName (terminator : String)
  | undefinedCharacter (name : String)
  | openGroup
  | groupOfSameTest
  | invalidReference (group : Nat)
  | unterminatedSet
  | badRange (first last : String)
  | reversedCounts
  | nothingToRepeat
  | multipleRepeat
  | endOfPattern
  | unknownExtension (text : String)
  | badGroupName (name : String)
  | unknownGroup (name : String)
  | redefinedGroup (name : String) (number earlier : Nat)
  | unterminatedComment
  | unterminatedGroup
  | badGroupNumber
  | manyBranches
  | misplacedFlags
  | localeFlag
  | incompatibleFlags
  | globalFlagOn
  | globalFlagOff
  | classFlagOff
  | contradictoryFlag
  | unknownFlag
  | missingFlag
  | missingFlagEnd
  | missingColon
  | unbalanced
  | variableLength
deriving DecidableEq, Repr

open Text.Quoted (encode)

def Problem.message : Problem → String
  | .danglingBackslash => "bad escape (end of pattern)"
  | .badEscape escape => "bad escape " ++ escape
  | .incompleteEscape escape => "incomplete escape " ++ escape
  | .largeOctal escape => "octal escape value " ++ escape ++ " outside of range 0-0o377"
  | .missingBrace => "missing \x7b"
  | .missingName what => "missing " ++ what
  | .unterminatedName terminator => "missing " ++ terminator ++ ", unterminated name"
  | .undefinedCharacter name => "undefined character name " ++ encode name
  | .openGroup => "cannot refer to an open group"
  | .groupOfSameTest => "cannot refer to group defined in the same lookbehind subpattern"
  | .invalidReference number => "invalid group reference " ++ Decimal.natText number
  | .unterminatedSet => "unterminated character set"
  | .badRange first last => "bad character range " ++ first ++ "-" ++ last
  | .reversedCounts => "min repeat greater than max repeat"
  | .nothingToRepeat => "nothing to repeat"
  | .multipleRepeat => "multiple repeat"
  | .endOfPattern => "unexpected end of pattern"
  | .unknownExtension text => "unknown extension " ++ text
  | .badGroupName name => "bad character in group name " ++ encode name
  | .unknownGroup name => "unknown group name " ++ encode name
  | .redefinedGroup name number earlier =>
      "redefinition of group name " ++ encode name ++ " as group " ++ Decimal.natText number ++
        "; was group " ++ Decimal.natText earlier
  | .unterminatedComment => "missing ), unterminated comment"
  | .unterminatedGroup => "missing ), unterminated subpattern"
  | .badGroupNumber => "bad group number"
  | .manyBranches => "conditional backref with more than two branches"
  | .misplacedFlags => "global flags not at the start of the expression"
  | .localeFlag => "bad inline flags: cannot use 'L' flag with a str pattern"
  | .incompatibleFlags => "bad inline flags: flags 'a', 'u' and 'L' are incompatible"
  | .globalFlagOn => "bad inline flags: cannot turn on global flag"
  | .globalFlagOff => "bad inline flags: cannot turn off global flag"
  | .classFlagOff => "bad inline flags: cannot turn off flags 'a', 'u' and 'L'"
  | .contradictoryFlag => "bad inline flags: flag turned on and off"
  | .unknownFlag => "unknown flag"
  | .missingFlag => "missing flag"
  | .missingFlagEnd => "missing -, : or )"
  | .missingColon => "missing :"
  | .unbalanced => "unbalanced parenthesis"
  | .variableLength => "look-behind requires fixed-width pattern"

/-- Why a text is no pattern, and the place where that shows, when there is one. -/
structure Error where
  problem : Problem
  place : Option Nat
deriving DecidableEq, Repr

/-! ## Lengths -/

/-- The least and the greatest number of characters that a pattern matches; none is no bound. -/
structure Length where
  least : Nat
  most : Option Nat
deriving DecidableEq, Repr

namespace Length

def zero : Length := ⟨0, some 0⟩

def one : Length := ⟨1, some 1⟩

def add (left right : Length) : Length :=
  ⟨left.least + right.least, do return (← left.most) + (← right.most)⟩

def either (left right : Length) : Length :=
  ⟨min left.least right.least, do return max (← left.most) (← right.most)⟩

def repeated (least : Nat) (most : Option Nat) (length : Length) : Length :=
  ⟨least * length.least,
    match most, length.most with
    | _, some 0 => some 0
    | some most, some length => some (most * length)
    | _, _ => none⟩

end Length

/-- The lengths of what a pattern matches, from those of the groups before it. -/
def length (groups : Nat → Length) : Pattern → Length
  | .nothing | .position _ | .ahead .. | .behind .. => .zero
  | .char .. | .set .. | .anyChar _ => .one
  | .sequence first second => (first.length groups).add (second.length groups)
  | .choice first second => (first.length groups).either (second.length groups)
  | .repetition _ least most body => (body.length groups).repeated least most
  | .enclosed body | .group _ body | .atomic body => body.length groups
  | .reference number _ => groups number
  | .conditional _ present absent => (present.length groups).either (absent.length groups)

def references : Pattern → List Nat
  | .nothing | .position _ | .char .. | .set .. | .anyChar _ => []
  | .sequence first second | .choice first second => first.references ++ second.references
  | .repetition _ _ _ body | .enclosed body | .group _ body | .atomic body | .ahead _ body
  | .behind _ _ body => body.references
  | .reference number _ => [number]
  | .conditional number present absent => number :: present.references ++ absent.references

end Pattern

end TableBrowser
