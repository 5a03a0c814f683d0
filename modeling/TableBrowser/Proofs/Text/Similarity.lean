import Mathlib.Algebra.Order.Field.Basic
import Mathlib.Data.Rat.Defs
import Mathlib.Data.Set.Insert
import Mathlib.Tactic.FieldSimp
import Mathlib.Tactic.Linarith
import Mathlib.Tactic.Positivity
import TableBrowser.Text.Similarity
/-!
# How alike two texts are

The search for a longest shared block goes through all places of both texts and keeps
the first of the longest blocks. Matching such a block and then what stands before and
after it pairs up characters that come in the same order in both texts. The score is
computed in the same steps on numbers of the 64-bit format, where each step is rounded,
and on fractions. Main statement: an exact score lies between zero and one, is one for
equal texts only, exceeds one half for a text that is spread over the other, and is the
share of matched characters for any other text.
-/

namespace TableBrowser.Text

theorem le_commonPrefixLength_iff {size : Nat} {left right : List Char} :
    size ≤ commonPrefixLength left right ↔
      size ≤ left.length ∧ size ≤ right.length ∧ left.take size = right.take size := by
  induction left generalizing right size with
  | nil => cases size <;> simp [commonPrefixLength]
  | cons char chars induction =>
      cases right with
      | nil => cases size <;> simp [commonPrefixLength]
      | cons other others =>
          cases size with
          | zero => simp
          | succ size => by_cases same : char = other <;> simp [commonPrefixLength, same, induction]

/-! ## Blocks -/

namespace Block

/-- The same characters stand at the place of the block in both texts. -/
structure IsShared (block : Block) (left right : List Char) : Prop where
  inLeft : block.left + block.size ≤ left.length
  inRight : block.right + block.size ≤ right.length
  same : (left.drop block.left).take block.size = (right.drop block.right).take block.size

theorem isShared_iff {block : Block} {left right : List Char} :
    block.IsShared left right ↔ block.left ≤ left.length ∧ block.right ≤ right.length ∧
      block.size ≤ commonPrefixLength (left.drop block.left) (right.drop block.right) := by
  rw [le_commonPrefixLength_iff, List.length_drop, List.length_drop]
  constructor
  · rintro ⟨inLeft, inRight, same⟩
    exact ⟨by omega, by omega, by omega, by omega, same⟩
  · rintro ⟨inLeft, inRight, fitsLeft, fitsRight, same⟩
    exact ⟨by omega, by omega, same⟩

/-- Longer, or as long and not later, in the left text first and then in the right one. -/
def Precedes (block other : Block) : Prop :=
  other.size < block.size ∨ other.size = block.size ∧
    (block.left < other.left ∨ block.left = other.left ∧ block.right ≤ other.right)

theorem Precedes.refl (block : Block) : block.Precedes block := by
  unfold Precedes
  omega

theorem Precedes.trans {first second third : Block} (earlier : first.Precedes second)
    (later : second.Precedes third) : first.Precedes third := by
  unfold Precedes at *
  omega

theorem Precedes.antisymm {first second : Block} (before : first.Precedes second)
    (after : second.Precedes first) : first = second := by
  rcases first with ⟨firstLeft, firstRight, firstSize⟩
  rcases second with ⟨secondLeft, secondRight, secondSize⟩
  unfold Precedes at *
  simp only at before after
  rw [Block.mk.injEq]
  omega

/-- The first of the longest shared blocks. -/
structure IsLongest (block : Block) (left right : List Char) : Prop where
  shared : block.IsShared left right
  precedes : ∀ other : Block, other.IsShared left right → block.Precedes other

theorem IsLongest.unique {block other : Block} {left right : List Char}
    (longest : block.IsLongest left right) (otherLongest : other.IsLongest left right) :
    block = other :=
  (longest.precedes other otherLongest.shared).antisymm (otherLongest.precedes block longest.shared)

/-! ## Going through all places -/

/-- The best of a block and some candidates. -/
structure Picked (result best : Block) (candidates : Set Block) : Prop where
  isCandidate : result = best ∨ result ∈ candidates
  precedesBest : result.Precedes best
  precedes : ∀ block ∈ candidates, result.Precedes block

theorem Picked.again {first second best : Block} {earlier later : Set Block}
    (picked : first.Picked best earlier) (again : second.Picked first later) :
    second.Picked best (earlier ∪ later) where
  isCandidate := by
    rcases again.isCandidate with rfl | isLater
    · exact picked.isCandidate.imp id .inl
    · exact .inr (.inr isLater)
  precedesBest := again.precedesBest.trans picked.precedesBest
  precedes := by
    rintro block (isEarlier | isLater)
    · exact again.precedesBest.trans (picked.precedes block isEarlier)
    · exact again.precedes block isLater

/-- The block starts at a place or before it. -/
def NotAfter (block : Block) (leftIndex rightIndex : Nat) : Prop :=
  block.left < leftIndex ∨ block.left = leftIndex ∧ block.right ≤ rightIndex

variable {best : Block} {leftIndex rightIndex : Nat} {left right : List Char}

theorem picked_orAt (notAfter : best.NotAfter leftIndex rightIndex) :
    (best.orAt leftIndex rightIndex left right).Picked best
      {⟨leftIndex, rightIndex, commonPrefixLength left right⟩} := by
  unfold NotAfter at notAfter
  unfold orAt
  simp only
  split
  · next longer =>
    refine ⟨.inr rfl, .inl longer, ?_⟩
    rintro _ rfl
    exact .refl _
  · next notLonger =>
    refine ⟨.inl rfl, .refl _, ?_⟩
    rintro _ rfl
    unfold Precedes
    simp only
    omega

/-- The longest shared blocks at one place of the left text. -/
def besides (leftIndex : Nat) (left : List Char) (rightIndex : Nat) (right : List Char) : Set Block :=
  {block | ∃ offset < right.length,
    block = ⟨leftIndex, rightIndex + offset, commonPrefixLength left (right.drop offset)⟩}

theorem besides_cons (char : Char) : besides leftIndex left rightIndex (char :: right) =
    {⟨leftIndex, rightIndex, commonPrefixLength left (char :: right)⟩} ∪
      besides leftIndex left (rightIndex + 1) right := by
  ext block
  constructor
  · rintro ⟨_ | offset, inBounds, rfl⟩
    · exact .inl rfl
    · refine .inr ⟨offset, by simpa using inBounds, ?_⟩
      rw [List.drop_succ_cons, Nat.add_right_comm, Nat.add_assoc]
  · rintro (rfl | ⟨offset, inBounds, rfl⟩)
    · exact ⟨0, by simp, rfl⟩
    · refine ⟨offset + 1, by simpa using inBounds, ?_⟩
      rw [List.drop_succ_cons, Nat.add_right_comm, Nat.add_assoc]

theorem picked_alongRight (notAfter : best.NotAfter leftIndex rightIndex) :
    (alongRight leftIndex left best rightIndex right).Picked best
      (besides leftIndex left rightIndex right) := by
  induction right generalizing best rightIndex with
  | nil => exact ⟨.inl rfl, .refl _, by rintro _ ⟨_, never, _⟩; cases never⟩
  | cons char right induction =>
      have picked : (best.orAt leftIndex rightIndex left (char :: right)).Picked best
          {⟨leftIndex, rightIndex, commonPrefixLength left (char :: right)⟩} := picked_orAt notAfter
      have stays : (best.orAt leftIndex rightIndex left (char :: right)).NotAfter leftIndex
          (rightIndex + 1) := by
        rcases picked.isCandidate with same | same
        · rw [same]
          unfold NotAfter at *
          omega
        · rw [Set.mem_singleton_iff.mp same]
          exact .inr ⟨rfl, Nat.le_succ _⟩
      rw [besides_cons]
      exact picked.again (induction stays)

/-- The longest shared blocks at all places. -/
def anywhere (leftIndex : Nat) (left right : List Char) : Set Block :=
  {block | ∃ offset < left.length, block ∈ besides (leftIndex + offset) (left.drop offset) 0 right}

theorem anywhere_cons (char : Char) : anywhere leftIndex (char :: left) right =
    besides leftIndex (char :: left) 0 right ∪ anywhere (leftIndex + 1) left right := by
  ext block
  constructor
  · rintro ⟨_ | offset, inBounds, isBeside⟩
    · exact .inl isBeside
    · refine .inr ⟨offset, by simpa using inBounds, ?_⟩
      rwa [Nat.add_right_comm, Nat.add_assoc, ← List.drop_succ_cons (a := char)]
  · rintro (isBeside | ⟨offset, inBounds, isBeside⟩)
    · exact ⟨0, by simp, isBeside⟩
    · refine ⟨offset + 1, by simpa using inBounds, ?_⟩
      rwa [Nat.add_right_comm, Nat.add_assoc, ← List.drop_succ_cons (a := char)] at isBeside

theorem picked_alongLeft (notAfter : best.NotAfter leftIndex 0) :
    (alongLeft right best leftIndex left).Picked best (anywhere leftIndex left right) := by
  induction left generalizing best leftIndex with
  | nil => exact ⟨.inl rfl, .refl _, by rintro _ ⟨_, never, _⟩; cases never⟩
  | cons char left induction =>
      have picked : (alongRight leftIndex (char :: left) best 0 right).Picked best
          (besides leftIndex (char :: left) 0 right) := picked_alongRight notAfter
      have stays : (alongRight leftIndex (char :: left) best 0 right).NotAfter (leftIndex + 1) 0 := by
        rcases picked.isCandidate with same | ⟨_, _, same⟩
        · rw [same]
          unfold NotAfter at *
          omega
        · rw [same]
          exact .inl (Nat.lt_succ_self _)
      rw [anywhere_cons]
      exact picked.again (induction stays)

theorem mem_anywhere_iff {block : Block} : block ∈ anywhere 0 left right ↔
    block.left < left.length ∧ block.right < right.length ∧
      block.size = commonPrefixLength (left.drop block.left) (right.drop block.right) := by
  constructor
  · rintro ⟨down, inLeft, across, inRight, rfl⟩
    exact ⟨by simpa using inLeft, by simpa using inRight, by simp⟩
  · rintro ⟨inLeft, inRight, size⟩
    refine ⟨block.left, inLeft, block.right, inRight, ?_⟩
    rw [Nat.zero_add, Nat.zero_add, ← size]

theorem isLongest_longestBlock (left right : List Char) :
    (longestBlock left right).IsLongest left right := by
  have start : (⟨0, 0, 0⟩ : Block).NotAfter 0 0 := .inr ⟨rfl, Nat.le_refl 0⟩
  have picked : (longestBlock left right).Picked ⟨0, 0, 0⟩ (anywhere 0 left right) :=
    picked_alongLeft start
  constructor
  · rcases picked.isCandidate with same | isCandidate
    · rw [same]
      exact ⟨Nat.zero_le _, Nat.zero_le _, rfl⟩
    · rcases mem_anywhere_iff.mp isCandidate with ⟨inLeft, inRight, size⟩
      exact isShared_iff.mpr ⟨inLeft.le, inRight.le, size.le⟩
  · intro other shared
    rcases Nat.eq_zero_or_pos other.size with isEmpty | some
    · refine picked.precedesBest.trans ?_
      unfold Precedes
      simp only
      omega
    · rcases isShared_iff.mp shared with ⟨_, _, size⟩
      have inLeft := shared.inLeft
      have inRight := shared.inRight
      -- The longest shared block at the same place is a candidate.
      let longer : Block := ⟨other.left, other.right,
        commonPrefixLength (left.drop other.left) (right.drop other.right)⟩
      have isCandidate : longer ∈ anywhere 0 left right :=
        mem_anywhere_iff.mpr ⟨by simp only [longer]; omega, by simp only [longer]; omega, rfl⟩
      refine (picked.precedes longer isCandidate).trans ?_
      exact (Nat.lt_or_eq_of_le size).imp id fun same => ⟨same, .inr ⟨rfl, Nat.le_refl _⟩⟩

end Block

/-! ## Matched characters -/

/--
Which characters of two texts are matched: those of the first longest shared block, with
those matched before it in both texts and those matched after it, down to texts without a
character in common.
-/
inductive Matching : (left right matching : List Char) → Prop
  | apart {left right : List Char} (apart : ∀ char ∈ left, char ∉ right) : Matching left right []
  | around {left right before after : List Char} {block : Block}
      (longest : block.IsLongest left right) (some : 0 < block.size)
      (isBefore : Matching (left.take block.left) (right.take block.right) before)
      (isAfter : Matching (left.drop (block.left + block.size))
        (right.drop (block.right + block.size)) after) :
      Matching left right (before ++ (left.drop block.left).take block.size ++ after)

/-- A part of a text with some of what stands before it and after it. -/
theorem sublist_of_parts {chars before after : List Char} {start size : Nat}
    (isBefore : before.Sublist (chars.take start))
    (isAfter : after.Sublist (chars.drop (start + size))) :
    (before ++ (chars.drop start).take size ++ after).Sublist chars := by
  have parts := (isBefore.append (List.Sublist.refl ((chars.drop start).take size))).append isAfter
  rwa [List.append_assoc (chars.take start), ← List.drop_drop, List.take_append_drop,
    List.take_append_drop] at parts

namespace Matching

variable {left right matching : List Char}

/-- The matched characters come in this order in the left text. -/
theorem sublist_left (isMatching : Matching left right matching) : matching.Sublist left := by
  induction isMatching with
  | apart _ => exact List.nil_sublist _
  | around _ _ _ _ beforeLeft afterLeft => exact sublist_of_parts beforeLeft afterLeft

theorem sublist_right (isMatching : Matching left right matching) : matching.Sublist right := by
  induction isMatching with
  | apart _ => exact List.nil_sublist _
  | around longest _ _ _ beforeRight afterRight =>
      rw [longest.shared.same]
      exact sublist_of_parts beforeRight afterRight

/-- A character that both texts hold is a shared block. -/
theorem isShared_of_mem {char : Char} (inLeft : char ∈ left) (inRight : char ∈ right) :
    ∃ block : Block, block.IsShared left right ∧ block.size = 1 := by
  rcases List.mem_iff_getElem.mp inLeft with ⟨down, isDown, rfl⟩
  rcases List.mem_iff_getElem.mp inRight with ⟨across, isAcross, same⟩
  refine ⟨⟨down, across, 1⟩, ⟨isDown, isAcross, ?_⟩, rfl⟩
  rw [List.drop_eq_getElem_cons isDown, List.drop_eq_getElem_cons isAcross, same]
  rfl

theorem not_apart_of_isShared {block : Block} (shared : block.IsShared left right)
    (some : 0 < block.size) : ∃ char ∈ left, char ∈ right := by
  have inLeft : block.left < left.length := by have := shared.inLeft; omega
  have inRight : block.right < right.length := by have := shared.inRight; omega
  have first := congrArg List.head? shared.same
  simp only [List.head?_take, if_neg some.ne', List.head?_drop] at first
  rw [List.getElem?_eq_getElem inLeft, List.getElem?_eq_getElem inRight] at first
  refine ⟨left[block.left], List.getElem_mem inLeft, ?_⟩
  rw [Option.some.inj first]
  exact List.getElem_mem inRight

/-- There is one matching only. -/
theorem unique (isMatching : Matching left right matching) {other : List Char}
    (isOther : Matching left right other) : matching = other := by
  induction isMatching generalizing other with
  | apart apart =>
      cases isOther with
      | apart _ => rfl
      | around longest some _ _ =>
          rcases not_apart_of_isShared longest.shared some with ⟨char, inLeft, inRight⟩
          exact absurd inRight (apart char inLeft)
  | around longest some _ _ sameBefore sameAfter =>
      cases isOther with
      | apart apart =>
          rcases not_apart_of_isShared longest.shared some with ⟨char, inLeft, inRight⟩
          exact absurd inRight (apart char inLeft)
      | around otherLongest _ isBefore isAfter =>
          obtain rfl := longest.unique otherLongest
          rw [sameBefore isBefore, sameAfter isAfter]

end Matching

/-- The recursion counts the matched characters, given a round for each of the left text. -/
theorem exists_matching_of_rounds {rounds : Nat} {left : List Char}
    (enough : left.length ≤ rounds) (right : List Char) :
    ∃ matching, Matching left right matching ∧ matching.length = matchedWithin rounds left right := by
  induction rounds generalizing left right with
  | zero =>
      obtain rfl := List.length_eq_zero_iff.mp (Nat.le_zero.mp enough)
      exact ⟨[], .apart (fun _ member => by cases member), rfl⟩
  | succ rounds induction =>
      have longest := Block.isLongest_longestBlock left right
      rw [matchedWithin]
      generalize longestBlock left right = block at longest
      have inLeft := longest.shared.inLeft
      split
      · next isEmpty =>
        refine ⟨[], .apart fun char inLeft inRight => ?_, rfl⟩
        rcases Matching.isShared_of_mem inLeft inRight with ⟨other, shared, size⟩
        have precedes := longest.precedes other shared
        unfold Block.Precedes at precedes
        omega
      · next notEmpty =>
        have enoughBefore : (left.take block.left).length ≤ rounds := by
          rw [List.length_take]
          omega
        have enoughAfter : (left.drop (block.left + block.size)).length ≤ rounds := by
          rw [List.length_drop]
          omega
        rcases induction enoughBefore (right.take block.right) with ⟨before, isBefore, beforeLength⟩
        rcases induction enoughAfter (right.drop (block.right + block.size)) with
          ⟨after, isAfter, afterLength⟩
        refine ⟨_, .around longest (Nat.pos_of_ne_zero notEmpty) isBefore isAfter, ?_⟩
        rw [List.length_append, List.length_append, beforeLength, afterLength, List.length_take,
          List.length_drop, Nat.min_eq_left (by omega)]

theorem exists_matching (left right : List Char) :
    ∃ matching, Matching left right matching ∧ matching.length = matched left right :=
  exists_matching_of_rounds (Nat.le_refl _) right

/-! ## How many characters are matched -/

section Count

variable {left right : List Char}

theorem matched_le_left (left right : List Char) : matched left right ≤ left.length := by
  rcases exists_matching left right with ⟨matching, isMatching, length⟩
  exact length ▸ isMatching.sublist_left.length_le

theorem matched_le_right (left right : List Char) : matched left right ≤ right.length := by
  rcases exists_matching left right with ⟨matching, isMatching, length⟩
  exact length ▸ isMatching.sublist_right.length_le

theorem matched_self (chars : List Char) : matched chars chars = chars.length := by
  refine Nat.le_antisymm (matched_le_left chars chars) ?_
  rcases exists_matching chars chars with ⟨matching, isMatching, length⟩
  rw [← length]
  cases isMatching with
  | apart apart =>
      cases chars with
      | nil => rfl
      | cons char chars => exact absurd List.mem_cons_self (apart char List.mem_cons_self)
  | @around _ _ _ _ block longest some isBefore isAfter =>
      have whole : (⟨0, 0, chars.length⟩ : Block).IsShared chars chars :=
        ⟨by simp, by simp, rfl⟩
      have precedes := longest.precedes _ whole
      have inBounds := longest.shared.inLeft
      unfold Block.Precedes at precedes
      simp only [List.length_append, List.length_take, List.length_drop] at precedes ⊢
      omega

/-- Texts are matched throughout only if they are equal. -/
theorem eq_of_matched (allLeft : matched left right = left.length)
    (allRight : matched left right = right.length) : left = right := by
  rcases exists_matching left right with ⟨matching, isMatching, length⟩
  rw [← isMatching.sublist_left.eq_of_length (length.trans allLeft)]
  exact isMatching.sublist_right.eq_of_length (length.trans allRight)

theorem matched_pos {char : Char} (inLeft : char ∈ left) (inRight : char ∈ right) :
    0 < matched left right := by
  rcases exists_matching left right with ⟨matching, isMatching, length⟩
  rw [← length]
  cases isMatching with
  | apart apart => exact absurd inRight (apart char inLeft)
  | around longest some isBefore isAfter =>
      have inBounds := longest.shared.inLeft
      simp only [List.length_append, List.length_take, List.length_drop]
      omega

end Count

/-! ## Subsequences -/

/-- Taking each character at its first place finds a subsequence if there is one. -/
theorem isSubsequence_iff {needle chars : List Char} :
    isSubsequence needle chars = true ↔ needle.Sublist chars := by
  fun_induction isSubsequence needle chars with
  | case1 chars => simp
  | case2 needle needles => simp
  | case3 needles char chars induction => rw [induction, List.cons_sublist_cons]
  | case4 needle needles char chars differ induction =>
      rw [induction]
      exact ⟨fun later => later.cons char, fun inOrder => inOrder.of_cons_of_ne differ⟩

/-! ## Letters that count -/

theorem lowerAt_ne_nil (before : List Char) (char : Char) (after : List Char) :
    lowerAt before char after ≠ [] := by
  unfold lowerAt
  repeat' split
  all_goals exact List.cons_ne_nil _ _

theorem lowerFrom_eq_nil_iff {before chars : List Char} : lowerFrom before chars = [] ↔ chars = [] := by
  cases chars with
  | nil => simp [lowerFrom]
  | cons char chars => simp [lowerFrom, lowerAt_ne_nil]

theorem folded_eq_nil_iff {caseSensitive : Bool} {text : String} :
    folded caseSensitive text = [] ↔ text = "" := by
  cases caseSensitive with
  | true => simp [folded]
  | false => simp [folded, lower, lowerFrom_eq_nil_iff]

/-! ## Shares -/

/-- The fraction that a score stands for. -/
def Score.value (score : Score) : ℚ := score.numerator / score.denominator

theorem Score.value_raised {score : Score} (positive : 0 < score.denominator) :
    score.raised.value = 1 / 2 + 1 / 2 * score.value := by
  have notZero : (score.denominator : ℚ) ≠ 0 := by positivity
  simp only [raised, value]
  push_cast
  field_simp

variable {query candidate : List Char}

theorem value_ratio : (ratio query candidate).value =
    2 * matched query candidate / (query.length + candidate.length) := by
  simp [ratio, Score.value]

theorem total_pos (given : query ≠ []) : (0 : ℚ) < query.length + candidate.length := by
  have := List.length_pos_iff.mpr given
  positivity

theorem value_ratio_nonneg (query candidate : List Char) : 0 ≤ (ratio query candidate).value := by
  rw [value_ratio]
  positivity

theorem value_ratio_le_one (given : query ≠ []) (candidate : List Char) :
    (ratio query candidate).value ≤ 1 := by
  rw [value_ratio, div_le_one (total_pos given)]
  have inQuery := matched_le_left query candidate
  have inCandidate := matched_le_right query candidate
  exact_mod_cast (by omega : 2 * matched query candidate ≤ query.length + candidate.length)

/-- Only of equal texts all characters are matched. -/
theorem value_ratio_eq_one_iff (given : query ≠ []) :
    (ratio query candidate).value = 1 ↔ query = candidate := by
  rw [value_ratio, div_eq_one_iff_eq (total_pos given).ne']
  constructor
  · intro isWhole
    have whole : 2 * matched query candidate = query.length + candidate.length := by
      exact_mod_cast isWhole
    have inQuery := matched_le_left query candidate
    have inCandidate := matched_le_right query candidate
    exact eq_of_matched (by omega) (by omega)
  · rintro rfl
    rw [matched_self]
    exact two_mul _

theorem value_ratio_pos (given : query ≠ []) (inOrder : query.Sublist candidate) :
    0 < (ratio query candidate).value := by
  rcases List.exists_mem_of_ne_nil _ given with ⟨char, inQuery⟩
  have some := matched_pos inQuery (inOrder.subset inQuery)
  have total : (0 : ℚ) < query.length + candidate.length := total_pos given
  rw [value_ratio]
  positivity

/-! ## Exact scores -/

theorem value_exactScore_of_sublist (given : query ≠ []) (inOrder : query.Sublist candidate) :
    (exactScore query candidate).value = 1 / 2 + 1 / 2 * (ratio query candidate).value := by
  have positive : 0 < (ratio query candidate).denominator :=
    Nat.add_pos_left (List.length_pos_iff.mpr given) _
  rw [exactScore, if_neg (by simpa using given), if_pos (isSubsequence_iff.mpr inOrder),
    Score.value_raised positive]

theorem exactScore_of_not_sublist (given : query ≠ []) (notInOrder : ¬ query.Sublist candidate) :
    exactScore query candidate = ratio query candidate := by
  rw [exactScore, if_neg (by simpa using given), if_neg (by rwa [isSubsequence_iff])]

theorem half_lt_value_exactScore (given : query ≠ []) (inOrder : query.Sublist candidate) :
    1 / 2 < (exactScore query candidate).value := by
  have some := value_ratio_pos given inOrder
  rw [value_exactScore_of_sublist given inOrder]
  linarith

theorem value_exactScore_nonneg (given : query ≠ []) (candidate : List Char) :
    0 ≤ (exactScore query candidate).value := by
  by_cases inOrder : query.Sublist candidate
  · have above := half_lt_value_exactScore given inOrder
    linarith
  · rw [exactScore_of_not_sublist given inOrder]
    exact value_ratio_nonneg query candidate

theorem value_exactScore_le_one (given : query ≠ []) (candidate : List Char) :
    (exactScore query candidate).value ≤ 1 := by
  have atMost := value_ratio_le_one given candidate
  by_cases inOrder : query.Sublist candidate
  · rw [value_exactScore_of_sublist given inOrder]
    linarith
  · rwa [exactScore_of_not_sublist given inOrder]

theorem value_exactScore_eq_one_iff (given : query ≠ []) :
    (exactScore query candidate).value = 1 ↔ query = candidate := by
  rw [← value_ratio_eq_one_iff given]
  by_cases inOrder : query.Sublist candidate
  · rw [value_exactScore_of_sublist given inOrder]
    constructor <;> intro isOne <;> linarith
  · rw [exactScore_of_not_sublist given inOrder]

/--
The exact score of a query that is not empty lies between zero and one, and is one exactly
when both texts have the same letters that count. It is above one half whenever the query
is a subsequence of the candidate. Otherwise it is twice the number of matched characters
over that of all characters; there is one matching, and it is a subsequence of both texts.
-/
theorem exactScore_measures (caseSensitive : Bool) {query : String} (given : query ≠ "")
    (candidate : String) :
    let asked := folded caseSensitive query
    let text := folded caseSensitive candidate
    let score := (exactScore asked text).value
    0 ≤ score ∧ score ≤ 1 ∧ (score = 1 ↔ asked = text) ∧ (asked.Sublist text → 1 / 2 < score) ∧
      ∃ matching, Matching asked text matching ∧ (∀ other, Matching asked text other → other = matching) ∧
        matching.Sublist asked ∧ matching.Sublist text ∧
        (¬ asked.Sublist text → score = 2 * matching.length / (asked.length + text.length)) := by
  intro asked text score
  have isGiven : asked ≠ [] := folded_eq_nil_iff.not.mpr given
  refine ⟨value_exactScore_nonneg isGiven text, value_exactScore_le_one isGiven text,
    value_exactScore_eq_one_iff isGiven, half_lt_value_exactScore isGiven, ?_⟩
  rcases exists_matching asked text with ⟨matching, isMatching, length⟩
  refine ⟨matching, isMatching, fun other isOther => isOther.unique isMatching,
    isMatching.sublist_left, isMatching.sublist_right, fun notInOrder => ?_⟩
  rw [length, ← value_ratio]
  exact congrArg Score.value (exactScore_of_not_sublist isGiven notInOrder)

/-- Neither text holds the other in order, and three letters are matched. -/
theorem exactScore_measures_shifted :
    let asked := folded false "Abcd"
    let text := folded false "bcDe"
    "Abcd" ≠ "" ∧ ¬ asked.Sublist text ∧ (exactScore asked text).value = 6 / 8 ∧
      ∃ matching, Matching asked text matching ∧ matching.Sublist asked ∧ matching.Sublist text ∧
        (6 / 8 : ℚ) = 2 * matching.length / (asked.length + text.length) := by
  intro asked text
  have given : "Abcd" ≠ "" := by decide
  have notInOrder : ¬ asked.Sublist text := by
    rw [← isSubsequence_iff]
    decide
  have score : exactScore asked text = ⟨6, 8⟩ := by decide
  have value : (exactScore asked text).value = 6 / 8 := by rw [score]; rfl
  rcases (exactScore_measures false given "bcDe").2.2.2.2 with
    ⟨matching, isMatching, _, inQuery, inCandidate, share⟩
  exact ⟨given, notInOrder, value, matching, isMatching, inQuery, inCandidate,
    value.symm.trans (share notInOrder)⟩

/-! ## Arithmetics -/

/-- The steps in which scores are computed, on some kind of numbers. -/
structure Arithmetic (Number : Type) where
  none : Number
  quotient : Nat → Nat → Number
  /-- A half, and half of a number. -/
  raised : Number → Number
  lessEq : Number → Number → Bool

namespace Arithmetic

/-- The 64-bit format, in which each step is rounded. -/
def rounded : Arithmetic Binary64 where
  none := .zero
  quotient := Binary64.ofRatio false
  raised number :=
    let half := Binary64.ofRatio false 1 2
    half.add (half.mul number)
  lessEq := Binary64.lessEq

def exact : Arithmetic ℚ where
  none := 0
  quotient numerator denominator := numerator / denominator
  raised number := 1 / 2 + 1 / 2 * number
  lessEq left right := decide (left ≤ right)

variable {Number : Type}

def score (arithmetic : Arithmetic Number) (query candidate : List Char) : Number :=
  if query.isEmpty then arithmetic.none
  else
    let plain := arithmetic.quotient (2 * matched query candidate) (query.length + candidate.length)
    if isSubsequence query candidate then arithmetic.raised plain else plain

def similarity (arithmetic : Arithmetic Number) (caseSensitive : Bool) (query candidate : String) : Number :=
  arithmetic.score (folded caseSensitive query) (folded caseSensitive candidate)

/-- Texts are compared in the arithmetic of the 64-bit format. -/
theorem similarity_rounded (caseSensitive : Bool) (query candidate : String) :
    rounded.similarity caseSensitive query candidate =
      Text.similarity caseSensitive query candidate := by
  simp only [similarity, score, rounded, Text.similarity, roundedScore, ratio]

theorem score_exact (query candidate : List Char) :
    exact.score query candidate = (exactScore query candidate).value := by
  by_cases given : query = []
  · simp [score, exactScore, given, exact, Score.value]
  · have plain : exact.quotient (2 * matched query candidate) (query.length + candidate.length) =
        (ratio query candidate).value := by
      rw [value_ratio]
      simp [exact]
    by_cases inOrder : query.Sublist candidate
    · rw [value_exactScore_of_sublist given inOrder, ← plain]
      simp [score, given, isSubsequence_iff.mpr inOrder, exact]
    · rw [exactScore_of_not_sublist given inOrder, ← plain]
      simp [score, given, isSubsequence_iff.not.mpr inOrder]

end Arithmetic

end TableBrowser.Text