import TableBrowser.Pattern.Parser
import TableBrowser.Text.Basic
import TableBrowser.Text.LetterCase
/-!
# Matching patterns

From a place in a text a pattern leads to other places, the preferred one first.
A repetition goes on as long as it moves; one that stays where it is happens
once. What groups matched is kept for the groups that the pattern refers to.
-/

namespace TableBrowser.Pattern

/-- The text that is searched, and the groups whose matches count. -/
structure Subject where
  chars : Array Char
  referenced : List Nat

/-- Where matching stands: a place, and the parts of the text that groups matched. -/
structure Standing where
  place : Nat
  groups : List (Nat × Nat × Nat)
deriving DecidableEq, Repr

/-! ## Characters -/

def isWordChar (ascii : Bool) (char : Char) : Bool :=
  if ascii then char.isAlphanum || char = '_' else Text.isAlphanumeric char || char = '_'

def isAsciiBlank (char : Char) : Bool :=
  char = ' ' || (0x09 ≤ char.toNat && char.toNat ≤ 0x0D)

def CharacterClass.contains (kind : CharacterClass) (ascii : Bool) (char : Char) : Bool :=
  match kind with
  | .digit => if ascii then char.isDigit else Text.isDecimalDigit char
  | .space => if ascii then isAsciiBlank char else Text.isBlank char
  | .word => isWordChar ascii char

def Folding.forms (folding : Folding) (char : Char) : List Char :=
  match folding with
  | .exact => [char]
  | .letters => Text.caseForms char
  | .asciiLetters => Text.asciiCaseForms char

def Folding.same (folding : Folding) (left right : Char) : Bool :=
  left = right || (folding.forms left).contains right

def SetItem.contains (folding : Folding) (char : Char) : SetItem → Bool
  | .char member => folding.same char member
  | .range first last => (folding.forms char).any fun form => first ≤ form && form ≤ last
  | .inClass kind negated ascii => kind.contains ascii char != negated

/-! ## Places -/

def Subject.isWordAt (subject : Subject) (ascii : Bool) (place : Nat) : Bool :=
  ((subject.chars[place]?).map (isWordChar ascii)).getD false

/-- Whether exactly one side of a place is part of a word. -/
def Subject.isBoundary (subject : Subject) (ascii : Bool) (place : Nat) : Bool :=
  (0 < place && subject.isWordAt ascii (place - 1)) != subject.isWordAt ascii place

def Position.holds (subject : Subject) (place : Nat) : Position → Bool
  | .textStart => place = 0
  | .textEnd => place = subject.chars.size
  | .lineStart => place = 0 || subject.chars[place - 1]? = some '\n'
  | .lineEnd => place = subject.chars.size || subject.chars[place]? = some '\n'
  | .lastLineEnd =>
      place = subject.chars.size ||
        (place + 1 = subject.chars.size && subject.chars[place]? = some '\n')
  | .boundary ascii => subject.chars.size ≠ 0 && subject.isBoundary ascii place
  | .noBoundary ascii => subject.chars.size ≠ 0 && !subject.isBoundary ascii place

/-! ## Steps -/

/-- A step over one character that a test accepts. -/
def Subject.step (subject : Subject) (standing : Standing) (accepts : Char → Bool) :
    List Standing :=
  match subject.chars[standing.place]? with
  | some found => if accepts found then [{ standing with place := standing.place + 1 }] else []
  | none => []

def Standing.group? (standing : Standing) (number : Nat) : Option (Nat × Nat) :=
  (standing.groups.find? (·.1 = number)).map (·.2)

/-- Records what a group matched, if the pattern refers to it. -/
def Subject.record (subject : Subject) (number start : Nat) (standing : Standing) : Standing :=
  if subject.referenced.contains number then
    { standing with
      groups := (number, start, standing.place) :: standing.groups.filter (·.1 ≠ number) }
  else standing

/-- A step over a repetition of what a group matched. -/
def Subject.stepOver (subject : Subject) (folding : Folding) (standing : Standing)
    (part : Nat × Nat) : List Standing :=
  let (first, last) := part
  let size := last - first
  let same := (List.range size).all fun offset =>
    match subject.chars[standing.place + offset]?, subject.chars[first + offset]? with
    | some left, some right => folding.same left right
    | _, _ => false
  if same then [{ standing with place := standing.place + size }] else []

/-! ## Repetition -/

/-- The repetitions seen so far, with their counts, and the ends found, the last one first. -/
structure Exploration where
  seen : List (Nat × Standing)
  found : List Standing

/--
All ends of further repetitions after `count` ones. Every repetition that is
followed moves on, so the remaining text bounds how deep this goes. For an
unlimited number the count stays where it is, and places are seen once.
-/
def explore (next : Standing → List Standing) (preference : Preference) (most : Option Nat) :
    (depth count : Nat) → Standing → Exploration → Exploration
  | 0, _, _, exploration => exploration
  | depth + 1, count, standing, exploration =>
      if exploration.seen.contains (count, standing) then exploration
      else
        let seen := (count, standing) :: exploration.seen
        let entered : Exploration := if preference = .fewest then
            ⟨seen, standing :: exploration.found⟩
          else ⟨seen, exploration.found⟩
        let allowed := most.elim true fun most => count < most
        let nextCount := if most.isSome then count + 1 else count
        let followed := if allowed then
            (next standing).foldl (fun exploration following =>
              if following.place = standing.place then
                { exploration with found := following :: exploration.found }
              else explore next preference most depth nextCount following exploration) entered
          else entered
        if preference = .fewest then followed
        else { followed with found := standing :: followed.found }

def repeatExactly (next : Standing → List Standing) : (count : Nat) → List Standing → List Standing
  | 0, standings => standings
  | count + 1, standings =>
      let after := (standings.flatMap next).eraseDups
      if after.isEmpty || after = standings then after else repeatExactly next count after

def repeatBetween (next : Standing → List Standing) (preference : Preference) (least : Nat)
    (most : Option Nat) (depth : Nat) (standing : Standing) : List Standing :=
  let starts := repeatExactly next least [standing]
  let ends := starts.foldl (fun exploration start =>
    explore next preference most depth least start exploration) ⟨[], []⟩
  let found := ends.found.reverse.eraseDups
  if preference = .onlyMost then found.take 1 else found

/-! ## Matching -/

def ends (subject : Subject) : Pattern → Standing → List Standing
  | .nothing, standing => [standing]
  | .char member folding, standing => subject.step standing (folding.same · member)
  | .set negated items folding, standing =>
      subject.step standing fun char => items.any (·.contains folding char) != negated
  | .anyChar newlines, standing => subject.step standing fun char => newlines || char ≠ '\n'
  | .position wanted, standing =>
      if wanted.holds subject standing.place then [standing] else []
  | .sequence first second, standing =>
      ((ends subject first standing).flatMap (ends subject second)).eraseDups
  | .choice first second, standing =>
      (ends subject first standing ++ ends subject second standing).eraseDups
  | .repetition preference least most body, standing =>
      repeatBetween (ends subject body) preference least most
        (subject.chars.size - standing.place + 2) standing
  | .enclosed body, standing => ends subject body standing
  | .group number body, standing =>
      (ends subject body standing).map (subject.record number standing.place)
  | .reference number folding, standing =>
      match standing.group? number with
      | some part => subject.stepOver folding standing part
      | none => []
  | .conditional number present absent, standing =>
      if (standing.group? number).isSome then ends subject present standing
      else ends subject absent standing
  | .ahead negated body, standing =>
      match ends subject body standing with
      | [] => if negated then [standing] else []
      | first :: _ => if negated then [] else [{ first with place := standing.place }]
  | .behind negated length body, standing =>
      let found := if length ≤ standing.place then
          ends subject body { standing with place := standing.place - length }
        else []
      match found with
      | [] => if negated then [standing] else []
      | first :: _ => if negated then [] else [{ first with place := standing.place }]
  | .atomic body, standing => (ends subject body standing).take 1

def occursIn (pattern : Pattern) (text : String) : Bool :=
  let subject : Subject := ⟨text.toList.toArray, pattern.references⟩
  (List.range (subject.chars.size + 1)).any fun place =>
    !(ends subject pattern ⟨place, []⟩).isEmpty

end TableBrowser.Pattern
