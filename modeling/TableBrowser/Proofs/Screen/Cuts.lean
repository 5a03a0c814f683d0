import TableBrowser.Proofs.Screen.Filling
/-!
# Cuts

A text with room enough is shown as it is. Any other is cut to the longest start
that leaves room for the mark, and the mark follows. Where there is no room for
the whole mark, as many of its characters are shown as there are cells, which are
too many when some of them take two. Main statement: a cut takes more cells than
there are in this case alone.
-/

namespace TableBrowser.Line

/-! ## Starts that fit -/

theorem isPrefix_fitting (room : Nat) (chars : List Char) : fitting room chars <+: chars := by
  induction chars generalizing room with
  | nil => exact List.prefix_refl _
  | cons char rest induction =>
      rw [fitting]
      split
      · exact (List.prefix_cons_inj char).mpr (induction _)
      · exact List.nil_prefix

/-- Of the starts of some characters that take no more than a number of cells, the longest. -/
structure IsLongestStart (room : Nat) (chars start : List Char) : Prop where
  starts : start <+: chars
  fits : width start ≤ room
  longest : ∀ other, other <+: chars → width other ≤ room → other <+: start

/-- What is taken as long as it fits cannot be exceeded by any other start that fits. -/
theorem isPrefix_fitting_of_fits {room : Nat} {chars other : List Char} (starts : other <+: chars)
    (fits : width other ≤ room) : other <+: fitting room chars := by
  induction chars generalizing room other with
  | nil => exact starts
  | cons char rest induction =>
      cases other with
      | nil => exact List.nil_prefix
      | cons first others =>
          rcases List.cons_prefix_cons.mp starts with ⟨rfl, startsRest⟩
          rw [width_cons] at fits
          rw [fitting, if_pos (by omega)]
          exact (List.prefix_cons_inj first).mpr (induction startsRest (by omega))

theorem isLongestStart_fitting (room : Nat) (chars : List Char) :
    IsLongestStart room chars (fitting room chars) where
  starts := isPrefix_fitting room chars
  fits := width_fitting room chars
  longest _ := isPrefix_fitting_of_fits

theorem fitting_mono {small large : Nat} (le : small ≤ large) (chars : List Char) :
    fitting small chars <+: fitting large chars :=
  isPrefix_fitting_of_fits (isPrefix_fitting small chars)
    (Nat.le_trans (width_fitting small chars) le)

/-! ## The ways to cut -/

variable {text ellipsis : String} {cells : Nat}

theorem truncate_of_le (roomy : 0 < cells) (fits : textWidth text ≤ cells) (ellipsis : String) :
    truncate text cells ellipsis = text := by
  rw [truncate, if_neg (by omega)]
  simp only [Int.toNat_natCast]
  rw [if_pos fits]

theorem truncate_of_room (cut : cells < textWidth text) (room : textWidth ellipsis < cells) :
    truncate text cells ellipsis =
      String.ofList (fitting (cells - textWidth ellipsis) text.toList) ++ ellipsis := by
  rw [truncate, if_neg (by omega)]
  simp only [Int.toNat_natCast]
  rw [if_neg (by omega), if_neg (by omega), ← String.toList_inj]
  simp

/-- Without room for more than the mark only characters of the mark are shown. -/
theorem truncate_of_noRoom (cut : cells < textWidth text) (noRoom : cells ≤ textWidth ellipsis) :
    truncate text cells ellipsis = String.ofList (ellipsis.toList.take cells) := by
  rcases Nat.eq_zero_or_pos cells with rfl | roomy
  · rfl
  · rw [truncate, if_neg (by omega)]
    simp only [Int.toNat_natCast]
    rw [if_neg (by omega), if_pos noRoom]

/-- A start that fits and the mark take no more cells than there are. -/
theorem textWidth_truncate_of_room (cut : cells < textWidth text) (room : textWidth ellipsis < cells) :
    textWidth (truncate text cells ellipsis) ≤ cells := by
  have start := width_fitting (cells - textWidth ellipsis) text.toList
  rw [truncate_of_room cut room, textWidth_append, textWidth_ofList]
  omega

/--
A cut takes no more cells than there are, unless not even the mark has room and
as many of its characters as there are cells take more. A text with room enough
is left as it is, and with room for the mark the longest start is kept that
leaves this room.
-/
theorem truncate_fits_iff (text ellipsis : String) (cells : Nat) :
    (textWidth (truncate text cells ellipsis) ≤ cells ↔
      (cells < textWidth text → cells ≤ textWidth ellipsis →
        width (ellipsis.toList.take cells) ≤ cells)) ∧
    (0 < cells → textWidth text ≤ cells → truncate text cells ellipsis = text) ∧
    (cells < textWidth text → textWidth ellipsis < cells →
      ∃ start, IsLongestStart (cells - textWidth ellipsis) text.toList start ∧
        truncate text cells ellipsis = String.ofList start ++ ellipsis) := by
  refine ⟨?_, fun roomy fits => truncate_of_le roomy fits ellipsis, fun cut room =>
    ⟨_, isLongestStart_fitting _ _, truncate_of_room cut room⟩⟩
  rcases Nat.lt_or_ge cells (textWidth text) with cut | fits
  · rcases Nat.lt_or_ge (textWidth ellipsis) cells with room | noRoom
    · exact iff_of_true (textWidth_truncate_of_room cut room) fun _ noRoom => by omega
    · rw [truncate_of_noRoom cut noRoom, textWidth_ofList]
      exact ⟨fun le _ _ => le, fun le => le cut noRoom⟩
  · refine iff_of_true ?_ fun cut => by omega
    rcases Nat.eq_zero_or_pos cells with rfl | roomy
    · exact Nat.le_refl 0
    · rwa [truncate_of_le roomy fits]

/-- One character of the mark is shown in one cell, although it takes two. -/
theorem truncate_exceeds_wideMark : textWidth "abc" = 3 ∧ truncate "abc" 1 "世" = "世" ∧
    ¬ textWidth (truncate "abc" 1 "世") ≤ 1 := by
  decide +kernel

end TableBrowser.Line
