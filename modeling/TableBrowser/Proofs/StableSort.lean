import Mathlib.Data.List.Nodup
import Mathlib.Data.List.Pairwise
import Mathlib.Order.Lattice
/-!
# Stable sorts

A sort by ranks leaves distinct items of one rank in the order in which they were.
-/

namespace TableBrowser

variable {Item : Type}

theorem sublist_or_sublist_of_ne {items : List Item} {left right : Item}
    (isLeft : left ∈ items) (isRight : right ∈ items) (differ : left ≠ right) :
    [left, right].Sublist items ∨ [right, left].Sublist items := by
  have eitherWay : items.Pairwise fun left right =>
      [left, right].Sublist items ∨ [right, left].Sublist items :=
    List.pairwise_iff_forall_sublist.mpr .inl
  have : Std.Symm fun left right : Item =>
      [left, right].Sublist items ∨ [right, left].Sublist items := ⟨fun _ _ => Or.symm⟩
  exact eitherWay.forall isLeft isRight differ

/-- Of distinct items no two come in both orders. -/
theorem not_sublist_of_sublist {items : List Item} (distinct : items.Nodup)
    {left right : Item} (inOrder : [left, right].Sublist items) :
    ¬ [right, left].Sublist items := by
  induction items with
  | nil => cases inOrder
  | cons item items induction =>
      rcases List.nodup_cons.mp distinct with ⟨notLater, distinctLater⟩
      intro reversed
      cases inOrder with
      | cons _ inLater =>
          cases reversed with
          | cons _ reversedLater => exact induction distinctLater inLater reversedLater
          | cons_cons _ leftLater => exact notLater (inLater.subset (by simp))
      | cons_cons _ rightLater =>
          cases reversed with
          | cons _ reversedLater => exact notLater (reversedLater.subset (by simp))
          | cons_cons _ leftLater => exact notLater (List.singleton_sublist.mp leftLater)

/-- A stable sort by rank keeps the order that was there among those of one rank. -/
theorem pairwise_mergeSort_of_rank {Rank : Type} [LinearOrder Rank] (rank : Item → Rank)
    {items : List Item} {notAfter : Item → Item → Bool} {earlier : Item → Item → Prop}
    (isRank : ∀ left ∈ items, ∀ right ∈ items,
      notAfter left right = decide (rank left ≤ rank right))
    (distinct : items.Nodup) (given : items.Pairwise earlier) :
    (items.mergeSort notAfter).Pairwise fun left right =>
      rank left < rank right ∨ ¬ rank right < rank left ∧ earlier left right := by
  have byRank : items.mergeSort notAfter =
      items.mergeSort fun left right => decide (rank left ≤ rank right) := by
    simpa using List.map_mergeSort (f := id) isRank
  have trans (first second third : Item) : decide (rank first ≤ rank second) = true →
      decide (rank second ≤ rank third) = true → decide (rank first ≤ rank third) = true := by
    simpa using le_trans
  have total (left right : Item) :
      (decide (rank left ≤ rank right) || decide (rank right ≤ rank left)) = true := by
    simpa using le_total (rank left) (rank right)
  rw [byRank, List.pairwise_iff_forall_sublist]
  intro left right inResult
  have ranked : rank left ≤ rank right := by
    simpa using List.pairwise_iff_forall_sublist.mp (List.pairwise_mergeSort trans total items)
      inResult
  refine (lt_or_ge (rank left) (rank right)).imp id fun notBelow => ⟨not_lt.mpr ranked, ?_⟩
  -- The two ranks are equal, so the other order would have been kept as well.
  have sortedDistinct : (items.mergeSort fun left right => decide (rank left ≤ rank right)).Nodup :=
    (List.mergeSort_perm items _).nodup_iff.mpr distinct
  have member (item : Item) (inPair : item ∈ [left, right]) : item ∈ items :=
    List.mem_mergeSort.mp (inResult.subset inPair)
  have differ : left ≠ right := by
    rintro rfl
    exact List.nodup_iff_sublist.mp sortedDistinct left inResult
  rcases sublist_or_sublist_of_ne (member left (by simp)) (member right (by simp)) differ with
    kept | reversed
  · exact List.pairwise_iff_forall_sublist.mp given kept
  · have reversedResult := List.pair_sublist_mergeSort trans total (decide_eq_true notBelow) reversed
    exact absurd reversedResult (not_sublist_of_sublist sortedDistinct inResult)

end TableBrowser
