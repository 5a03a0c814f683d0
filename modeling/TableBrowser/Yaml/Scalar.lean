import TableBrowser.Yaml.Token
/-!
# The text of scalars

A scalar is plain, quoted or a block. Lines are folded: a single break becomes a
space, and of several breaks the first is dropped. A literal block keeps them.
-/

namespace TableBrowser.Yaml.Cursor

/-! ## Plain scalars -/

def isFlowMark (char : Char) : Bool := [',', '[', ']', '{', '}'].contains char

/-- The characters up to one that ends a plain scalar. -/
def plainChars (inFlow : Bool) : List Char → List Char
  | [] => []
  | char :: rest =>
      let next := rest.head?
      if endsWord (some char) then []
      else if char = ':' && (endsWord next || inFlow && (next.map isFlowMark).getD false) then []
      else if inFlow && (isFlowMark char || char = '?') then []
      else char :: plainChars inFlow rest

/-- Breaks and spaces, unless a line that separates documents comes. -/
def plainBreaks (cursor : Cursor) (breaks : List Char) : Nat → Option (List Char) × Cursor
  | 0 => (some breaks, cursor)
  | fuel + 1 =>
      if cursor.peek? = some ' ' then cursor.next.plainBreaks breaks fuel
      else match cursor.lineBreak? with
        | some (char, after) =>
            if after.atDocumentMarker then (none, after)
            else after.plainBreaks (breaks ++ [char]) fuel
        | none => (some breaks, cursor)

/-- What a break and the breaks after it become. -/
def folded (first : Char) (others : List Char) : List Char :=
  if first != '\n' then first :: others else if others.isEmpty then [' '] else others

/-- What stands between two parts of a plain scalar, and whether it holds a break. -/
def plainGap (cursor : Cursor) : List Char × Bool × Cursor :=
  let (spaces, cursor) := cursor.span (· = ' ')
  match cursor.lineBreak? with
  | some (first, after) =>
      if after.atDocumentMarker then ([], true, after)
      else match after.plainBreaks [] after.fuel with
        | (some others, after) => (folded first others, true, after)
        | (none, after) => ([], true, after)
  | none => (spaces, false, cursor)

/-- The parts of a plain scalar after the ones already read; also whether it ended at a break. -/
def plainParts (inFlow : Bool) (indent : Int) (cursor : Cursor) (done gap : List Char)
    (broken : Bool) : Nat → List Char × Bool × Cursor
  | 0 => (done, broken, cursor)
  | fuel + 1 =>
      let part := if cursor.peek? = some '#' then [] else plainChars inFlow cursor.rest
      if part.isEmpty then (done, broken, cursor)
      else
        let done := done ++ gap ++ part
        let (gap, broken, after) := (cursor.advance part.length).plainGap
        if gap.isEmpty || after.peek? = some '#' || (!inFlow && (after.column : Int) < indent) then
          (done, broken, after)
        else after.plainParts inFlow indent done gap broken fuel

/-- A plain scalar in a collection with an indentation; also whether it ended at a break. -/
def plainScalar (inFlow : Bool) (indent : Int) (cursor : Cursor) : String × Bool × Cursor :=
  let (chars, broken, after) := cursor.plainParts inFlow (indent + 1) [] [] false cursor.fuel
  (String.ofList chars, broken, after)

/-! ## Quoted scalars -/

def simpleEscape? : Char → Option Char
  | '0' => some '\x00'
  | 'a' => some '\x07'
  | 'b' => some '\x08'
  | 't' | '\t' => some '\t'
  | 'n' => some '\n'
  | 'v' => some '\x0b'
  | 'f' => some '\x0c'
  | 'r' => some '\r'
  | 'e' => some '\x1b'
  | ' ' => some ' '
  | '"' => some '"'
  | '\\' => some '\\'
  | '/' => some '/'
  | 'N' => some '\u0085'
  | '_' => some '\u00a0'
  | 'L' => some '\u2028'
  | 'P' => some '\u2029'
  | _ => none

/-- How many digits follow the letter of a numeric escape. -/
def escapeDigits? : Char → Option Nat
  | 'x' => some 2
  | 'u' => some 4
  | 'U' => some 8
  | _ => none

def charOfCode (code : Nat) : Attempt Char :=
  if code < 0x110000 then .ok (Json.charOfUnit code)
  else .error (.fault (.badValue "chr() arg not in range(0x110000)"))

/-- The breaks and blanks before the next character of a quoted scalar. -/
def quotedBreaks (cursor : Cursor) (breaks : List Char) : Nat → Attempt (List Char × Cursor)
  | 0 => return (breaks, cursor)
  | fuel + 1 => do
      expect (!cursor.atDocumentMarker)
      let cursor := cursor.skip isSpaceOrTab
      match cursor.lineBreak? with
      | some (char, after) => after.quotedBreaks (breaks ++ [char]) fuel
      | none => return (breaks, cursor)

/-- What an escape stands for, from the character after the backslash. -/
def escape (cursor : Cursor) : Attempt (List Char × Cursor) := do
  let some char := cursor.peek? | fails
  if let some escaped := simpleEscape? char then return ([escaped], cursor.next)
  if let some count := escapeDigits? char then
    let digits := cursor.next.rest.take count
    let some code := Json.hexNumber? digits | fails
    expect (digits.length = count)
    return ([← charOfCode code], cursor.advance (count + 1))
  let some (_, after) := cursor.lineBreak? | fails
  after.quotedBreaks [] after.fuel

/-- What blanks in a quoted scalar stand for; they are dropped around a break. -/
def quotedBlanks (cursor : Cursor) : Attempt (List Char × Cursor) := do
  let (blanks, cursor) := cursor.span isSpaceOrTab
  match cursor.lineBreak? with
  | some (first, after) => do
      let (others, after) ← after.quotedBreaks [] after.fuel
      return (folded first others, after)
  | none => return (blanks, cursor)

/-- The characters up to the closing quote, and the cursor after it. -/
def quotedChars (double : Bool) (cursor : Cursor) (done : List Char) :
    Nat → Attempt (List Char × Cursor)
  | 0 => fails
  | fuel + 1 => do
      match cursor.rest with
      | [] => fails
      | char :: rest =>
          if double && char = '"' then return (done.reverse, cursor.next)
          else if !double && char = '\'' then
            if rest.head? = some '\'' then (cursor.advance 2).quotedChars double ('\'' :: done) fuel
            else return (done.reverse, cursor.next)
          else if double && char = '\\' then
            let (chars, after) ← cursor.next.escape
            after.quotedChars double (chars.reverse ++ done) fuel
          else if endsWord (some char) then
            let (chars, after) ← cursor.quotedBlanks
            after.quotedChars double (chars.reverse ++ done) fuel
          else cursor.next.quotedChars double (char :: done) fuel

def quotedScalar (double : Bool) (cursor : Cursor) : Attempt (String × Cursor) := do
  let (chars, after) ← cursor.next.quotedChars double [] cursor.fuel
  return (String.ofList chars, after)

/-! ## Block scalars -/

/-- Which of the breaks at the end of a block are kept. -/
inductive Chomping where
  | none
  | first
  | all
deriving DecidableEq, Repr

def chomping? : Option Char → Option Chomping
  | some '+' => some .all
  | some '-' => some .none
  | _ => Option.none

/-- A digit that gives the indentation of a block, which is not zero. -/
def indentation (cursor : Cursor) : Attempt (Option Nat × Cursor) := do
  match cursor.peek?.bind Decimal.digitValue? with
  | some value =>
      expect (value ≠ 0)
      return (some value, cursor.next)
  | none => return (none, cursor)

/-- The marks after the sign of a block, in either order. -/
def blockMarks (cursor : Cursor) : Attempt (Chomping × Option Nat × Cursor) := do
  let (chomping, increment, cursor) ← match chomping? cursor.peek? with
    | some chomping => do
        let (increment, after) ← cursor.next.indentation
        pure (chomping, increment, after)
    | none => do
        let (increment, after) ← cursor.indentation
        match increment.bind fun _ => chomping? after.peek? with
        | some chomping => pure (chomping, increment, after.next)
        | none => pure (Chomping.first, increment, after)
  expect (endsField cursor.peek?)
  return (chomping, increment, cursor)

/-- Empty lines before a block whose indentation is to be found, and the widest indentation met. -/
def leadingBreaks (cursor : Cursor) (breaks : List Char) (widest : Nat) :
    Nat → List Char × Nat × Cursor
  | 0 => (breaks, widest, cursor)
  | fuel + 1 =>
      if cursor.peek? = some ' ' then
        cursor.next.leadingBreaks breaks (max widest cursor.next.column) fuel
      else match cursor.lineBreak? with
        | some (char, after) => after.leadingBreaks (breaks ++ [char]) widest fuel
        | none => (breaks, widest, cursor)

def skipIndent (cursor : Cursor) (indent : Nat) : Cursor :=
  cursor.advance ((cursor.rest.take (indent - cursor.column)).takeWhile (· = ' ')).length

/-- Empty lines of a block with a known indentation. -/
def blockBreaks (cursor : Cursor) (indent : Nat) (breaks : List Char) : Nat → List Char × Cursor
  | 0 => (breaks, cursor)
  | fuel + 1 =>
      let cursor := cursor.skipIndent indent
      match cursor.lineBreak? with
      | some (char, after) => after.blockBreaks indent (breaks ++ [char]) fuel
      | none => (breaks, cursor)

/-- A line of a block continues here. -/
def inBlock (cursor : Cursor) (indent : Nat) : Bool :=
  cursor.column = indent && cursor.peek?.isSome

def startsWithBlank (cursor : Cursor) : Bool := (cursor.peek?.map isSpaceOrTab).getD false

/-- The lines of a block, and the breaks that follow the last. -/
def blockLines (fold : Bool) (indent : Nat) (cursor : Cursor) (done : List Char) :
    Nat → List Char × List Char × List Char × Cursor
  | 0 => (done, [], [], cursor)
  | fuel + 1 =>
      let set := cursor.startsWithBlank
      let (chars, cursor) := cursor.span fun char => !isBreak char
      let done := done ++ chars
      let (ending, cursor) := match cursor.lineBreak? with
        | some (char, after) => ([char], after)
        | none => ([], cursor)
      let (breaks, cursor) := cursor.blockBreaks indent [] cursor.fuel
      if cursor.inBlock indent then
        let joint :=
          if fold && ending = ['\n'] && !set && !cursor.startsWithBlank then
            if breaks.isEmpty then [' '] else []
          else ending
        cursor.blockLines fold indent (done ++ joint ++ breaks) fuel
      else (done, ending, breaks, cursor)

/-- A block, from its sign, in a collection with an indentation. -/
def blockScalar (fold : Bool) (outer : Int) (cursor : Cursor) : Attempt (String × Cursor) := do
  let (chomping, increment, cursor) ← cursor.next.blockMarks
  let cursor ← cursor.restOfLine
  let least := max 1 (outer + 1).toNat
  let (indent, breaks, cursor) := match increment with
    | some increment =>
        let indent := least + increment - 1
        (indent, cursor.blockBreaks indent [] cursor.fuel)
    | none =>
        let (breaks, widest, after) := cursor.leadingBreaks [] 0 cursor.fuel
        (max least widest, breaks, after)
  let (done, ending, breaks, cursor) :=
    if cursor.inBlock indent then cursor.blockLines fold indent breaks cursor.fuel
    else ([], [], breaks, cursor)
  let kept := match chomping with
    | .none => []
    | .first => ending
    | .all => ending ++ breaks
  return (String.ofList (done ++ kept), cursor)

end TableBrowser.Yaml.Cursor
