import Mathlib.Tactic.Ring
import TableBrowser.Number.Decimal
/-!
# Decimals that are read back

A decimal that lies in the interval around a number is rounded to this number.
Main statement: so is the one with the fewest digits.
-/

namespace TableBrowser

/-- A fraction is rounded to a number that is nearest to it, and to an even one of two. -/
theorem roundHalfEven_eq {numerator denominator nearest : Nat}
    (low : 2 * (nearest * denominator) ≤ 2 * numerator + denominator)
    (high : 2 * numerator ≤ 2 * (nearest * denominator) + denominator)
    (odd : nearest % 2 = 1 → 2 * (nearest * denominator) < 2 * numerator + denominator ∧
      2 * numerator < 2 * (nearest * denominator) + denominator)
    (positive : 0 < denominator) : roundHalfEven numerator denominator = nearest := by
  have divided := Nat.div_add_mod numerator denominator
  have remains := Nat.mod_lt numerator positive
  unfold roundHalfEven
  simp only
  generalize numerator / denominator = quotient at *
  generalize numerator % denominator = remainder at *
  subst divided
  rcases Nat.lt_trichotomy quotient nearest with below | same | above
  · -- The quotient is the neighbour below.
    have next : nearest = quotient + 1 := by
      refine Nat.le_antisymm (Nat.not_lt.mp fun further => ?_) below
      have atLeast : (quotient + 2) * denominator ≤ nearest * denominator :=
        Nat.mul_le_mul_right denominator further
      rw [Nat.add_mul, Nat.mul_comm quotient] at atLeast
      omega
    subst next
    rw [Nat.add_mul, Nat.mul_comm quotient] at low high odd
    rw [if_neg (by omega)]
    split
    · rfl
    · rw [if_neg (by omega)]
  · subst same
    rw [Nat.mul_comm quotient] at low high odd
    split
    · rfl
    · rw [if_neg (by omega), if_pos (by omega)]
  · have atMost : (nearest + 1) * denominator ≤ quotient * denominator :=
      Nat.mul_le_mul_right denominator above
    rw [Nat.add_mul, Nat.mul_comm quotient] at atMost
    omega

namespace Binary64

theorem unitsPerOne_eq : unitsPerOne = 2 ^ fractionBits := by
  unfold unitsPerOne
  generalize fractionBits = bits
  rfl

theorem unitsBound_eq : unitsBound = 2 ^ magnitudeBits := by
  unfold unitsBound
  generalize magnitudeBits = bits
  rfl

/-! ## Spacing -/

theorem spacing_eq {units scale : Nat} (low : scale = 0 ∨ 2 ^ (52 + scale) ≤ units)
    (high : units < 2 ^ (53 + scale)) : spacing units = 2 ^ scale := by
  have bits : units.log2 + 1 - 53 = scale := by
    rcases low with rfl | low
    · by_cases zero : units = 0
      · subst zero
        rfl
      · have few := (Nat.log2_lt zero).mpr high
        omega
    · have notZero : units ≠ 0 := by
        have positive : 0 < 2 ^ (52 + scale) := Nat.two_pow_pos _
        omega
      have isLog : units.log2 = 52 + scale :=
        (Nat.log2_eq_iff notZero).mpr ⟨low, by rwa [Nat.add_right_comm]⟩
      omega
  exact congrArg (2 ^ ·) bits

/-- The whole multiple of its spacing that a magnitude is. -/
theorem exists_scale {units : Nat} (representable : Representable units) (positive : 0 < units) :
    ∃ scale significand, spacing units = 2 ^ scale ∧ units = significand * 2 ^ scale ∧
      0 < significand ∧ significand < 2 ^ 53 ∧ (scale = 0 ∨ 2 ^ 52 ≤ significand) := by
  let scale := units.log2 + 1 - 53
  have isSpacing : spacing units = 2 ^ scale := rfl
  have whole : units = units / 2 ^ scale * 2 ^ scale := by
    have divides := representable.1
    rw [isSpacing] at divides
    exact (Nat.div_mul_cancel (Nat.dvd_of_mod_eq_zero divides)).symm
  have notZero : units ≠ 0 := by omega
  have atLeast := Nat.log2_self_le notZero
  have below := Nat.lt_log2_self (n := units)
  refine ⟨scale, units / 2 ^ scale, isSpacing, whole, ?_, ?_, ?_⟩
  · refine Nat.pos_of_ne_zero fun zero => ?_
    rw [zero, Nat.zero_mul] at whole
    exact notZero whole
  · rw [Nat.div_lt_iff_lt_mul (Nat.two_pow_pos scale), ← Nat.pow_add]
    exact Nat.lt_of_lt_of_le below (Nat.pow_le_pow_right (by omega) (by omega))
  · by_cases small : units.log2 < 53
    · exact .inl (by omega)
    · refine .inr ((Nat.le_div_iff_mul_le (Nat.two_pow_pos scale)).mpr ?_)
      rw [← Nat.pow_add]
      exact Nat.le_trans (Nat.pow_le_pow_right (by omega) (by omega)) atLeast

theorem ofUnits_eq {numerator denominator units scale : Nat} (negative : Bool)
    (representable : Representable units)
    (isSpacing : spacing (numerator / denominator) = 2 ^ scale)
    (rounds : roundHalfEven numerator (denominator * 2 ^ scale) * 2 ^ scale = units) :
    ofUnits negative numerator denominator = .finite negative units representable := by
  rw [ofUnits, isSpacing, rounds, ofMagnitude, dif_pos representable]

end Binary64

namespace Decimal

open Binary64 (Representable spacing_eq exists_scale ofUnits_eq)

variable {units numerator denominator : Nat}

/-- Half the spacing belongs to a number on either side, a quarter below where the spacing halves. -/
def lowerHalf (units : Nat) : Nat :=
  let step := Binary64.spacing units
  if 1 < step && units / step == Nat.pow 2 52 then step else 2 * step

theorem bounds_of_contains (contained : (ReadBack.of units).contains numerator denominator = true) :
    (4 * units - lowerHalf units) * denominator ≤ numerator ∧
      numerator ≤ (4 * units + 2 * Binary64.spacing units) * denominator ∧
      (units / Binary64.spacing units % 2 = 1 →
        (4 * units - lowerHalf units) * denominator < numerator ∧
          numerator < (4 * units + 2 * Binary64.spacing units) * denominator) := by
  change (if (units / Binary64.spacing units % 2 == 0) = true then
      decide ((4 * units - lowerHalf units) * denominator ≤ numerator) &&
        decide (numerator ≤ (4 * units + 2 * Binary64.spacing units) * denominator)
    else
      decide ((4 * units - lowerHalf units) * denominator < numerator) &&
        decide (numerator < (4 * units + 2 * Binary64.spacing units) * denominator)) = true
    at contained
  split at contained
  · next even =>
    rw [Bool.and_eq_true, decide_eq_true_eq, decide_eq_true_eq] at contained
    refine ⟨contained.1, contained.2, fun odd => ?_⟩
    rw [beq_iff_eq] at even
    omega
  · rw [Bool.and_eq_true, decide_eq_true_eq, decide_eq_true_eq] at contained
    exact ⟨Nat.le_of_lt contained.1, Nat.le_of_lt contained.2, fun _ => contained⟩

/-- A fraction where the spacing is the one of the magnitude, and which is nearest to it. -/
theorem ofUnits_of_near {scale significand : Nat} (negative : Bool)
    (representable : Representable units) (divides : 0 < denominator)
    (isUnits : units = significand * 2 ^ scale)
    (above : scale = 0 ∨ 2 ^ 52 * (denominator * 2 ^ scale) ≤ numerator)
    (below : numerator < 2 ^ 53 * (denominator * 2 ^ scale))
    (low : 2 * (significand * (denominator * 2 ^ scale)) ≤
      2 * numerator + denominator * 2 ^ scale)
    (high : 2 * numerator ≤
      2 * (significand * (denominator * 2 ^ scale)) + denominator * 2 ^ scale)
    (odd : significand % 2 = 1 →
      2 * (significand * (denominator * 2 ^ scale)) < 2 * numerator + denominator * 2 ^ scale ∧
        2 * numerator <
          2 * (significand * (denominator * 2 ^ scale)) + denominator * 2 ^ scale) :
    Binary64.ofUnits negative numerator denominator = .finite negative units representable := by
  have inSteps (count : Nat) : count * 2 ^ scale * denominator = count * (denominator * 2 ^ scale) := by
    rw [Nat.mul_assoc, Nat.mul_comm denominator]
  have isSpacing : Binary64.spacing (numerator / denominator) = 2 ^ scale := by
    refine spacing_eq (above.imp id fun above => ?_) ?_
    · rwa [Nat.le_div_iff_mul_le divides, Nat.pow_add, inSteps]
    · rwa [Nat.div_lt_iff_lt_mul divides, Nat.pow_add, inSteps]
  refine ofUnits_eq negative representable isSpacing ?_
  rw [roundHalfEven_eq low high odd (Nat.mul_pos divides (Nat.two_pow_pos scale)), isUnits]

/-- A fraction of units in the interval around a magnitude is rounded to it. -/
theorem ofUnits_of_contains (negative : Bool) (representable : Representable units)
    (positive : 0 < units) (divides : 0 < denominator)
    (contained : (ReadBack.of units).contains (4 * numerator) denominator = true) :
    Binary64.ofUnits negative numerator denominator = .finite negative units representable := by
  rcases exists_scale representable positive with
    ⟨scale, significand, isSpacing, isUnits, notZero, few, normal⟩
  rcases bounds_of_contains contained with ⟨low, high, odd⟩
  have isSignificand : units / 2 ^ scale = significand := by
    rw [isUnits, Nat.mul_div_cancel _ (Nat.two_pow_pos scale)]
  have isLowerHalf : lowerHalf units =
      if 1 < 2 ^ scale ∧ significand = 2 ^ 52 then 2 ^ scale else 2 * 2 ^ scale := by
    unfold lowerHalf
    simp only [isSpacing, isSignificand, Bool.and_eq_true, decide_eq_true_eq, beq_iff_eq]
    rfl
  rw [isSpacing, isSignificand] at odd
  -- The bounds are multiples of the spacing in the denominator of the fraction.
  have isHigh : (4 * units + 2 * Binary64.spacing units) * denominator =
      4 * (significand * (denominator * 2 ^ scale)) + 2 * (denominator * 2 ^ scale) := by
    rw [isSpacing, isUnits]
    ring
  have isLow {half : Nat} (isHalf : lowerHalf units = half * 2 ^ scale) (little : half ≤ 2) :
      (4 * units - lowerHalf units) * denominator + half * (denominator * 2 ^ scale) =
        4 * (significand * (denominator * 2 ^ scale)) := by
    have atLeast : half * 2 ^ scale ≤ 4 * (significand * 2 ^ scale) := by
      have more : 1 * 2 ^ scale ≤ significand * 2 ^ scale := Nat.mul_le_mul_right _ notZero
      have little : half * 2 ^ scale ≤ 2 * 2 ^ scale := Nat.mul_le_mul_right _ little
      omega
    have back : 4 * units - lowerHalf units + half * 2 ^ scale = 4 * (significand * 2 ^ scale) := by
      rw [isHalf, isUnits]
      omega
    calc (4 * units - lowerHalf units) * denominator + half * (denominator * 2 ^ scale)
      _ = (4 * units - lowerHalf units + half * 2 ^ scale) * denominator := by ring
      _ = 4 * (significand * (denominator * 2 ^ scale)) := by
          rw [back]
          ring
  have stepPositive : 0 < denominator * 2 ^ scale := Nat.mul_pos divides (Nat.two_pow_pos scale)
  have atMost : significand * (denominator * 2 ^ scale) ≤ (2 ^ 53 - 1) * (denominator * 2 ^ scale) :=
    Nat.mul_le_mul_right _ (by omega)
  rw [isSpacing] at isHigh high
  rw [isHigh] at high odd
  by_cases narrow : 1 < 2 ^ scale ∧ significand = 2 ^ 52
  · rw [if_pos narrow] at isLowerHalf
    have isOne : lowerHalf units = 1 * 2 ^ scale := by rw [isLowerHalf, Nat.one_mul]
    have isLow := isLow isOne (by omega)
    rcases narrow with ⟨spaced, rfl⟩
    by_cases beneath : numerator < 2 ^ 52 * (denominator * 2 ^ scale)
    · -- The spacing below a power of two is half of that above it.
      obtain ⟨lower, rfl⟩ : ∃ lower, scale = lower + 1 :=
        Nat.exists_eq_add_one_of_ne_zero (by rintro rfl; omega)
      have halves : denominator * 2 ^ (lower + 1) = 2 * (denominator * 2 ^ lower) := by ring
      have isHalved : units = 2 ^ 53 * 2 ^ lower := isUnits.trans (by ring)
      refine ofUnits_of_near negative representable divides isHalved (.inr ?_) ?_ ?_ ?_ ?_
      all_goals omega
    · refine ofUnits_of_near negative representable divides isUnits (.inr ?_) ?_ ?_ ?_ ?_
      all_goals omega
  · rw [if_neg narrow] at isLowerHalf
    have isLow := isLow isLowerHalf (by omega)
    have above : scale = 0 ∨ 2 ^ 52 * (denominator * 2 ^ scale) ≤ numerator := by
      refine or_iff_not_imp_left.mpr fun notZero => ?_
      have spaced : 1 < 2 ^ scale := Nat.one_lt_two_pow notZero
      have more : (2 ^ 52 + 1) * (denominator * 2 ^ scale) ≤
          significand * (denominator * 2 ^ scale) :=
        Nat.mul_le_mul_right _ (by omega)
      omega
    refine ofUnits_of_near negative representable divides isUnits above ?_ ?_ ?_ ?_
    all_goals omega

/-! ## Scaled digits -/

/-- The decimal lies in the interval around a magnitude. -/
def ReadsAs (units digits : Nat) (exponent : Int) : Prop :=
  (ReadBack.of units).contains (4 * (digits * Binary64.unitsPerOne * (powerOfTen exponent).1))
    (powerOfTen exponent).2 = true

theorem powerOfTen_pos (exponent : Int) : 0 < (powerOfTen exponent).2 := by
  unfold powerOfTen
  split
  · exact Nat.one_pos
  · exact Nat.pow_pos (by decide)

theorem powerOfTen_sub (exponent : Int) (places : Nat) :
    (powerOfTen exponent).1 * (powerOfTen (exponent - places)).2 =
      10 ^ places * (powerOfTen (exponent - places)).1 * (powerOfTen exponent).2 := by
  unfold powerOfTen
  by_cases whole : 0 ≤ exponent
  · by_cases stillWhole : 0 ≤ exponent - places
    · have sum : exponent.toNat = places + (exponent - places).toNat := by omega
      rw [if_pos whole, if_pos stillWhole, sum]
      change 10 ^ (places + _) * 1 = 10 ^ places * 10 ^ _ * 1
      rw [Nat.pow_add]
    · have sum : places = exponent.toNat + (-(exponent - places)).toNat := by omega
      rw [if_pos whole, if_neg stillWhole]
      change 10 ^ exponent.toNat * 10 ^ (-(exponent - places)).toNat = 10 ^ places * 1 * 1
      rw [Nat.mul_one, Nat.mul_one, ← Nat.pow_add, ← sum]
  · have sum : (-(exponent - places)).toNat = places + (-exponent).toNat := by omega
    rw [if_neg whole, if_neg (by omega), sum]
    change 1 * 10 ^ (places + _) = 10 ^ places * 1 * 10 ^ _
    rw [Nat.one_mul, Nat.mul_one, Nat.pow_add]

theorem contains_of_eq {other otherDenominator : Nat} (positive : 0 < denominator)
    (otherPositive : 0 < otherDenominator)
    (same : numerator * otherDenominator = other * denominator)
    (contained : (ReadBack.of units).contains numerator denominator = true) :
    (ReadBack.of units).contains other otherDenominator = true := by
  have scaled (bound : Nat) : (bound * denominator ≤ numerator ↔ bound * otherDenominator ≤ other) ∧
      (numerator ≤ bound * denominator ↔ other ≤ bound * otherDenominator) := by
    have left : bound * denominator * otherDenominator = bound * otherDenominator * denominator := by
      ring
    refine ⟨?_, ?_⟩
    · rw [← Nat.mul_le_mul_right_iff otherPositive, left, same, Nat.mul_le_mul_right_iff positive]
    · rw [← Nat.mul_le_mul_right_iff otherPositive, left, same, Nat.mul_le_mul_right_iff positive]
  unfold ReadBack.contains at contained ⊢
  simp only [← Nat.not_le, scaled] at contained ⊢
  exact contained

/-- Zeros at the end take as many places of the exponent. -/
theorem ReadsAs.shift {digits : Nat} {exponent : Int} (reads : ReadsAs units digits exponent)
    (places : Nat) : ReadsAs units (digits * 10 ^ places) (exponent - places) := by
  refine contains_of_eq (powerOfTen_pos _) (powerOfTen_pos _) ?_ reads
  have scaled := powerOfTen_sub exponent places
  calc 4 * (digits * Binary64.unitsPerOne * (powerOfTen exponent).1) *
          (powerOfTen (exponent - places)).2
    _ = 4 * (digits * Binary64.unitsPerOne) *
          ((powerOfTen exponent).1 * (powerOfTen (exponent - places)).2) := by ring
    _ = _ := by
        rw [scaled]
        ring

theorem lowerHalf_bounds (units : Nat) :
    0 < lowerHalf units ∧ lowerHalf units ≤ 2 * Binary64.spacing units := by
  have positive : 0 < Binary64.spacing units := Nat.two_pow_pos _
  unfold lowerHalf
  simp only
  split <;> omega

theorem spacing_le (representable : Representable units) (positive : 0 < units) :
    Binary64.spacing units ≤ units :=
  Nat.le_of_dvd positive (Nat.dvd_of_mod_eq_zero representable.1)

theorem digits_pos_of_readsAs {digits : Nat} {exponent : Int} (representable : Representable units)
    (positive : 0 < units) (reads : ReadsAs units digits exponent) : 0 < digits := by
  have low := (bounds_of_contains reads).1
  have isLeast := spacing_le representable positive
  have halves := lowerHalf_bounds units
  refine Nat.pos_of_ne_zero ?_
  rintro rfl
  rw [Nat.zero_mul, Nat.zero_mul, Nat.mul_zero] at low
  have above : 0 < (4 * units - lowerHalf units) * (powerOfTen exponent).2 :=
    Nat.mul_pos (by omega) (powerOfTen_pos exponent)
  omega

/-- A decimal in the interval around a magnitude is read as it. -/
theorem ofDecimal_of_readsAs {digits : Nat} {exponent : Int} (negative : Bool)
    (representable : Representable units) (positive : 0 < units)
    (reads : ReadsAs units digits exponent) :
    Binary64.ofDecimal negative digits exponent = .finite negative units representable := by
  rcases bounds_of_contains reads with ⟨low, high, _⟩
  have isLeast := spacing_le representable positive
  have halves := lowerHalf_bounds units
  have stepPositive : 0 < Binary64.spacing units := Nat.two_pow_pos _
  have notZero : digits ≠ 0 :=
    Nat.ne_of_gt (digits_pos_of_readsAs representable positive reads)
  have eights (power : Nat) : 2 ^ (3 * power) ≤ 10 ^ power := by
    rw [Nat.pow_mul]
    exact Nat.pow_le_pow_left (by decide) power
  have notHuge : ¬400 < exponent := fun huge => by
    have bounded := representable.2
    have isPower : powerOfTen exponent = (10 ^ exponent.toNat, 1) := if_pos (by omega)
    have atLeast : 1 * Binary64.unitsPerOne * 2 ^ (3 * exponent.toNat) ≤
        digits * Binary64.unitsPerOne * 10 ^ exponent.toNat :=
      Nat.mul_le_mul (Nat.mul_le_mul_right _ (Nat.pos_of_ne_zero notZero)) (eights _)
    have tooLarge : 2 * Binary64.unitsBound ≤
        1 * Binary64.unitsPerOne * 2 ^ (3 * exponent.toNat) := by
      have bits : Binary64.magnitudeBits + 1 ≤ Binary64.fractionBits + 3 * exponent.toNat := by
        unfold Binary64.magnitudeBits Binary64.fractionBits
        omega
      rw [Binary64.unitsBound_eq, Nat.mul_comm 2, ← Nat.pow_succ, Nat.one_mul,
        Binary64.unitsPerOne_eq, ← Nat.pow_add]
      exact Nat.pow_le_pow_right (by decide) bits
    rw [isPower] at high
    simp only [Nat.mul_one] at high
    omega
  have notTiny : ¬(digits.log2 : Int) + 3 * exponent < -1200 := fun tiny => by
    have isPower : powerOfTen exponent = (1, 10 ^ (-exponent).toNat) := if_neg (by omega)
    have isLeast : 2 * 10 ^ (-exponent).toNat ≤
        (4 * units - lowerHalf units) * 10 ^ (-exponent).toNat :=
      Nat.mul_le_mul_right _ (by omega)
    rw [isPower] at low
    simp only [Nat.mul_one] at low
    have below : digits * 2 ^ Binary64.fractionBits <
        2 ^ (digits.log2 + 1) * 2 ^ Binary64.fractionBits :=
      Nat.mul_lt_mul_of_pos_right Nat.lt_log2_self (Nat.two_pow_pos _)
    have eights := eights (-exponent).toNat
    have powers : 2 ^ (3 * (-exponent).toNat) <
        2 ^ (digits.log2 + 1 + Binary64.fractionBits + 1) := by
      rw [Nat.pow_succ, Nat.pow_add]
      rw [Binary64.unitsPerOne_eq] at low
      omega
    have exponents := (Nat.pow_lt_pow_iff_right (by decide)).mp powers
    unfold Binary64.fractionBits at exponents
    omega
  unfold Binary64.ofDecimal
  simp only
  rw [if_neg notZero, if_neg notHuge, if_neg notTiny]
  unfold ReadsAs powerOfTen at reads
  by_cases whole : 0 ≤ exponent
  · rw [if_pos whole] at reads ⊢
    refine ofUnits_of_contains negative representable positive Nat.one_pos ?_
    rw [Nat.mul_right_comm]
    exact reads
  · rw [if_neg whole] at reads ⊢
    refine ofUnits_of_contains negative representable positive (Nat.pow_pos (by decide)) ?_
    rw [Nat.mul_one] at reads
    exact reads

theorem readsAs_of_onGrid? {exponent : Int} {scaled : Scaled}
    (found : (ReadBack.of units).onGrid? exponent = some scaled) :
    ReadsAs units scaled.digits scaled.exponent := by
  have onGrid (multiple : Nat) : multiple * (4 * Binary64.unitsPerOne * (powerOfTen exponent).1) =
      4 * (multiple * Binary64.unitsPerOne * (powerOfTen exponent).1) := by ring
  unfold ReadBack.onGrid? at found
  simp only [onGrid] at found
  generalize (ReadBack.of units).value * (powerOfTen exponent).2 /
    (4 * Binary64.unitsPerOne * (powerOfTen exponent).1) = below at found
  split at found
  · next both =>
    rw [Bool.and_eq_true, Bool.and_eq_true] at both
    split at found
    · cases found
      exact both.1.2
    · split at found
      · cases found
        exact both.2
      · split at found
        · cases found
          exact both.1.2
        · cases found
          exact both.2
  · split at found
    · next fits =>
      cases found
      exact (Bool.and_eq_true_iff.mp fits).2
    · split at found
      · next fits =>
        cases found
        exact fits
      · cases found

/-- What is found on grids is found on one of them. -/
theorem exists_onGrid?_of_firstOnGrids {interval : ReadBack} {exponent : Int} {finer : Nat}
    {scaled : Scaled} (found : interval.firstOnGrids exponent finer = some scaled) :
    ∃ grid, interval.onGrid? grid = some scaled ∧ exponent - finer ≤ grid ∧ grid ≤ exponent := by
  induction finer generalizing exponent with
  | zero => cases found
  | succ finer induction =>
      rw [ReadBack.firstOnGrids] at found
      split at found
      · next isScaled =>
        cases found
        exact ⟨exponent, isScaled, by omega, Int.le_refl exponent⟩
      · rcases induction found with ⟨grid, isScaled, low, high⟩
        exact ⟨grid, isScaled, by omega, by omega⟩

theorem contains_value (representable : Representable units) (positive : 0 < units)
    (divides : 0 < denominator) :
    (ReadBack.of units).contains (4 * units * denominator) denominator = true := by
  have isLeast := spacing_le representable positive
  have halves := lowerHalf_bounds units
  have low : (4 * units - lowerHalf units) * denominator < 4 * units * denominator :=
    Nat.mul_lt_mul_of_pos_right (by omega) divides
  have high : 4 * units * denominator < (4 * units + 2 * Binary64.spacing units) * denominator :=
    Nat.mul_lt_mul_of_pos_right (by omega) divides
  change (if _ then
      decide ((4 * units - lowerHalf units) * denominator ≤ 4 * units * denominator) &&
        decide (_ ≤ (4 * units + 2 * Binary64.spacing units) * denominator)
    else
      decide ((4 * units - lowerHalf units) * denominator < _) &&
        decide (_ < (4 * units + 2 * Binary64.spacing units) * denominator)) = true
  simp [Nat.le_of_lt, low, high]

/-- A magnitude is a decimal with as many places as a unit has. -/
theorem readsAs_exactly {places : Nat} {exponent : Int} (isUnit : places = Binary64.fractionBits)
    (isExponent : exponent = -places) (representable : Representable units)
    (positive : 0 < units) : ReadsAs units (units * Nat.pow 5 places) exponent := by
  have divides : 0 < 10 ^ places := Nat.pow_pos (by decide)
  have contained := contains_value representable positive divides
  have tens : 10 ^ places = 5 ^ places * 2 ^ places := (Nat.mul_pow 5 2 places)
  have isPower : powerOfTen exponent = (1, 10 ^ places) := by
    rw [isExponent, powerOfTen]
    split
    · have zero : places = 0 := by omega
      subst zero
      rfl
    · rw [Int.neg_neg, Int.toNat_natCast]
      rfl
  have same : 4 * (units * 5 ^ places * 2 ^ places * 1) = 4 * units * 10 ^ places := by
    rw [tens]
    ring
  rw [ReadsAs, isPower, Binary64.unitsPerOne_eq, ← isUnit]
  change (ReadBack.of units).contains (4 * (units * 5 ^ places * 2 ^ places * 1)) (10 ^ places) = true
  rw [same]
  exact contained

/-- The fewest digits of a magnitude are read as it. -/
theorem readsAs_shortest (representable : Representable units) (positive : 0 < units) :
    ReadsAs units (shortest units).digits (shortest units).exponent := by
  unfold shortest
  cases found : (ReadBack.of units).firstOnGrids (magnitudeExponent units) 20 with
  | none =>
      simp only [Option.getD_none]
      generalize isPlaces : (1074 : Nat) = places
      exact readsAs_exactly isPlaces.symm (by omega) representable positive
  | some scaled =>
      rcases exists_onGrid?_of_firstOnGrids found with ⟨_, isScaled, _⟩
      exact readsAs_of_onGrid? isScaled

theorem digits_shortest_pos (representable : Representable units) (positive : 0 < units) :
    0 < (shortest units).digits :=
  digits_pos_of_readsAs representable positive (readsAs_shortest representable positive)

end Decimal

end TableBrowser
