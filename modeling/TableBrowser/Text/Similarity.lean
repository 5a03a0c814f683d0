import TableBrowser.Text.LetterCase
import TableBrowser.Text.Quoted
/-!
# How alike two texts are

The longest block of characters that both texts share is matched first, then
what stands before it in both and what stands after it. The score is twice the
matched characters over all characters. A text that holds the other in order
scores above one half in any case.
-/

namespace TableBrowser.Text

/-! ## Matching blocks -/

def commonPrefixLength : List Char → List Char → Nat
  | left :: lefts, right :: rights =>
      if left = right then commonPrefixLength lefts rights + 1 else 0
  | _, _ => 0

/-- A run of characters that two texts share: where it starts in each, and its length. -/
structure Block where
  left : Nat
  right : Nat
  size : Nat
deriving DecidableEq, Repr

/-- The better of a block and the one at a given place; the earlier one when they are as long. -/
def Block.orAt (best : Block) (leftIndex rightIndex : Nat) (left right : List Char) : Block :=
  let size := commonPrefixLength left right
  if best.size < size then ⟨leftIndex, rightIndex, size⟩ else best

/-- Tries all places of the right text against one place of the left. -/
def Block.alongRight (leftIndex : Nat) (left : List Char) (best : Block) (rightIndex : Nat) :
    List Char → Block
  | [] => best
  | right@(_ :: rights) =>
      alongRight leftIndex left (best.orAt leftIndex rightIndex left right) (rightIndex + 1) rights

/-- Tries all places of the left text. -/
def Block.alongLeft (right : List Char) (best : Block) (leftIndex : Nat) : List Char → Block
  | [] => best
  | left@(_ :: lefts) =>
      alongLeft right (alongRight leftIndex left best 0 right) (leftIndex + 1) lefts

/-- The longest shared block, the first in the left text and then in the right. -/
def longestBlock (left right : List Char) : Block :=
  Block.alongLeft right ⟨0, 0, 0⟩ 0 left

/--
How many characters the recursive matching of longest blocks pairs up. Each
round takes at least one character off the left text, so `rounds` of its length
are enough.
-/
def matchedWithin : (rounds : Nat) → List Char → List Char → Nat
  | 0, _, _ => 0
  | rounds + 1, left, right =>
      let block := longestBlock left right
      if block.size = 0 then 0
      else
        matchedWithin rounds (left.take block.left) (right.take block.right) + block.size +
          matchedWithin rounds (left.drop (block.left + block.size))
            (right.drop (block.right + block.size))

def matched (left right : List Char) : Nat := matchedWithin left.length left right

/-! ## Scores -/

def isSubsequence : List Char → List Char → Bool
  | [], _ => true
  | _ :: _, [] => false
  | needle :: needles, char :: chars =>
      if needle = char then isSubsequence needles chars else isSubsequence (needle :: needles) chars

structure Score where
  numerator : Nat
  denominator : Nat
deriving DecidableEq, Repr

/-- Twice the matched characters over all characters. -/
def ratio (left right : List Char) : Score :=
  ⟨2 * matched left right, left.length + right.length⟩

def Score.raised (score : Score) : Score :=
  ⟨score.denominator + score.numerator, 2 * score.denominator⟩

/-- The exact score of a query against a candidate; an empty query scores nothing. -/
def exactScore (query candidate : List Char) : Score :=
  if query.isEmpty then ⟨0, 1⟩
  else if isSubsequence query candidate then (ratio query candidate).raised
  else ratio query candidate

/-- A score in the arithmetic of the 64-bit format: each step is rounded. -/
def roundedScore (query candidate : List Char) : Binary64 :=
  if query.isEmpty then .zero
  else
    let plain := ratio query candidate
    let rounded := Binary64.ofRatio false plain.numerator plain.denominator
    if isSubsequence query candidate then
      let half := Binary64.ofRatio false 1 2
      half.add (half.mul rounded)
    else rounded

/-- The letters that count in a comparison. -/
def folded (caseSensitive : Bool) (text : String) : List Char :=
  if caseSensitive then text.toList else (lower text).toList

def similarity (caseSensitive : Bool) (query candidate : String) : Binary64 :=
  roundedScore (folded caseSensitive query) (folded caseSensitive candidate)

/-! ## Suggestions -/

/-- The first `count` items, or all but the last `-count` when it is negative. -/
def takeSigned {α : Type} (count : Int) (items : List α) : List α :=
  if 0 ≤ count then items.take count.toNat else items.take (items.length - count.natAbs)

/-- The candidates that score at least the cutoff, best first, equals in the given order. -/
def closestMatches (word : String) (candidates : List String) (count : Int) (cutoff : Binary64) :
    List String :=
  let scored := candidates.map fun candidate => (similarity false word candidate, candidate)
  let good := scored.filter fun (score, _) => cutoff.lessEq score
  let best := good.mergeSort fun left right => right.1.lessEq left.1
  takeSigned count (best.map (·.2))

/-- Three suggestions are made at most, of candidates that score 0.6 or more. -/
def suggestionCount : Int := 3

def suggestionCutoff : Binary64 := Binary64.ofRatio false 6 10

/-- A hint for a name that is not among the columns. -/
def suggestColumn (name : String) (columns : List String) : String :=
  match closestMatches name columns suggestionCount suggestionCutoff with
  | best :: _ => "Did you mean " ++ Quoted.encode best ++ "?"
  | [] =>
      if columns.isEmpty then "The table has no columns."
      else "Available columns: " ++ ", ".intercalate columns

end TableBrowser.Text
