import Mathlib.Tactic.SplitIfs
import TableBrowser.Proofs.Number.Rounding
/-!
# Numbers too large for the format

A fraction is rounded to an infinity where it lies halfway to the power of two beyond the
largest finite number, or further. Main statement: this bound, for a ratio of whole
numbers.
-/

namespace TableBrowser

theorem le_roundHalfEven (numerator denominator : Nat) :
    numerator / denominator ≤ roundHalfEven numerator denominator ∧
      roundHalfEven numerator denominator ≤ numerator / denominator + 1 := by
  unfold roundHalfEven
  simp only
  split_ifs <;> omega

/-- A fraction is rounded below an even number if it is more than half a unit below it. -/
theorem roundHalfEven_lt_iff {numerator denominator half : Nat} (positive : 0 < denominator) :
    roundHalfEven numerator denominator < 2 * half ↔
      2 * numerator + denominator < 2 * (2 * half * denominator) := by
  have divided := Nat.div_add_mod numerator denominator
  have remains := Nat.mod_lt numerator positive
  unfold roundHalfEven
  simp only
  generalize numerator / denominator = quotient at *
  generalize numerator % denominator = remainder at *
  subst divided
  rw [Nat.mul_comm denominator quotient]
  rcases Nat.lt_trichotomy (quotient + 1) (2 * half) with below | last | above
  · have room : (quotient + 2) * denominator ≤ 2 * half * denominator :=
      Nat.mul_le_mul_right denominator below
    rw [Nat.add_mul] at room
    exact iff_of_true (by split_ifs <;> omega) (by omega)
  · -- The number is odd, so that a half is rounded up.
    rw [← last, Nat.add_mul]
    split_ifs <;> omega
  · have beyond : 2 * half * denominator ≤ quotient * denominator :=
      Nat.mul_le_mul_right denominator (by omega)
    exact iff_of_false (by split_ifs <;> omega) (by omega)

namespace Binary64

section Scale

variable {numerator denominator : Nat}

/-- The exponent of the distance between neighbours. -/
def scale (units : Nat) : Nat := units.log2 + 1 - 53

theorem spacing_eq_scale (units : Nat) : spacing units = 2 ^ scale units := rfl

theorem step_pos (positive : 0 < denominator) (exponent : Nat) : 0 < denominator * 2 ^ exponent :=
  Nat.mul_pos positive (Nat.two_pow_pos exponent)

/-- Twice a power of two is at most a higher one. -/
theorem two_steps_le {lower higher : Nat} (isHigher : lower < higher) (denominator : Nat) :
    2 * (denominator * 2 ^ lower) ≤ denominator * 2 ^ higher := by
  have twice : 2 * 2 ^ lower ≤ 2 ^ higher := by
    rw [← Nat.pow_succ']
    exact Nat.pow_le_pow_right (by omega) isHigher
  rw [Nat.mul_left_comm]
  exact Nat.mul_le_mul_left denominator twice

theorem lt_steps (numerator : Nat) (positive : 0 < denominator) :
    numerator < 2 ^ 53 * (denominator * 2 ^ scale (numerator / denominator)) := by
  have atMost : numerator / denominator < 2 ^ (53 + scale (numerator / denominator)) :=
    Nat.lt_of_lt_of_le Nat.lt_log2_self (Nat.pow_le_pow_right (by omega) (by unfold scale; omega))
  rw [Nat.div_lt_iff_lt_mul positive, Nat.pow_add] at atMost
  rwa [Nat.mul_comm denominator, ← Nat.mul_assoc]

theorem steps_le (positive : 0 < denominator) (normal : 0 < scale (numerator / denominator)) :
    2 ^ 52 * (denominator * 2 ^ scale (numerator / denominator)) ≤ numerator := by
  have isLog : (numerator / denominator).log2 = 52 + scale (numerator / denominator) := by
    unfold scale at normal ⊢
    omega
  have notZero : numerator / denominator ≠ 0 := by
    intro zero
    rw [zero, Nat.log2_zero] at isLog
    omega
  have atLeast := Nat.log2_self_le notZero
  rw [isLog, Nat.le_div_iff_mul_le positive, Nat.pow_add] at atLeast
  rwa [Nat.mul_comm denominator, ← Nat.mul_assoc]

theorem roundHalfEven_le_steps (numerator : Nat) (positive : 0 < denominator) :
    roundHalfEven numerator (denominator * 2 ^ scale (numerator / denominator)) ≤ 2 ^ 53 := by
  have below := (Nat.div_lt_iff_lt_mul (step_pos positive _)).mpr (lt_steps numerator positive)
  have nearest := le_roundHalfEven numerator (denominator * 2 ^ scale (numerator / denominator))
  omega

theorem steps_le_roundHalfEven (positive : 0 < denominator)
    (normal : 0 < scale (numerator / denominator)) :
    2 ^ 52 ≤ roundHalfEven numerator (denominator * 2 ^ scale (numerator / denominator)) := by
  refine Nat.le_trans ?_ (le_roundHalfEven _ _).1
  exact (Nat.le_div_iff_mul_le (step_pos positive _)).mpr (steps_le positive normal)

/-- A multiple of a power of two is one of its spacing if it has no more than 53 digits more. -/
theorem mod_spacing_of_le {significand exponent : Nat} (few : significand ≤ 2 ^ 53) :
    significand * 2 ^ exponent % spacing (significand * 2 ^ exponent) = 0 := by
  rw [spacing_eq_scale, scale]
  refine Nat.mod_eq_zero_of_dvd ?_
  rcases Nat.lt_or_eq_of_le few with fewer | rfl
  · refine Dvd.dvd.mul_left (Nat.pow_dvd_pow 2 ?_) significand
    by_cases zero : significand * 2 ^ exponent = 0
    · rw [zero, Nat.log2_zero]
      omega
    · have low : significand * 2 ^ exponent < 2 ^ (53 + exponent) := by
        rw [Nat.pow_add]
        exact Nat.mul_lt_mul_of_pos_right fewer (Nat.two_pow_pos exponent)
      have bits := (Nat.log2_lt zero).mpr low
      omega
  · rw [← Nat.pow_add, Nat.log2_two_pow]
    exact Nat.pow_dvd_pow 2 (by omega)

end Scale

/-! ## The largest numbers -/

/-- The exponent of the distance between the largest neighbours. -/
def topScale : Nat := 2045

theorem magnitudeBits_eq : magnitudeBits = 53 + topScale := rfl

theorem isFinite_ofMagnitude (negative : Bool) (units : Nat) :
    (ofMagnitude negative units).isFinite = decide (Representable units) := by
  unfold ofMagnitude
  split
  · next representable => exact (decide_eq_true representable).symm
  · next tooLarge => exact (decide_eq_false tooLarge).symm

/-- A fraction is finite if it is nearer to the largest magnitude than to the next one. -/
theorem isFinite_ofUnits_iff (negative : Bool) {numerator denominator : Nat}
    (positive : 0 < denominator) :
    (ofUnits negative numerator denominator).isFinite = true ↔
      2 * numerator < (2 ^ 54 - 1) * (denominator * 2 ^ topScale) := by
  have below := lt_steps numerator positive
  have few := roundHalfEven_le_steps numerator positive
  have normal : 0 < scale (numerator / denominator) → _ := steps_le positive
  have many : 0 < scale (numerator / denominator) → _ := steps_le_roundHalfEven positive
  rw [ofUnits, spacing_eq_scale, isFinite_ofMagnitude, decide_eq_true_iff, Representable, unitsBound_eq,
    magnitudeBits_eq, Nat.pow_add, and_iff_right (mod_spacing_of_le few)]
  generalize scale (numerator / denominator) = exponent at *
  rcases Nat.lt_trichotomy exponent topScale with lower | rfl | higher
  · have steps := two_steps_le lower denominator
    have powers := two_steps_le lower 1
    have rounded : roundHalfEven numerator (denominator * 2 ^ exponent) * 2 ^ exponent ≤
        2 ^ 53 * 2 ^ exponent := Nat.mul_le_mul_right _ few
    have some : 0 < 2 ^ exponent := Nat.two_pow_pos exponent
    exact iff_of_true (by omega) (by omega)
  · have rounded : roundHalfEven numerator (denominator * 2 ^ topScale) < 2 * 2 ^ 52 ↔ _ :=
      roundHalfEven_lt_iff (step_pos positive topScale)
    rw [Nat.mul_lt_mul_right (Nat.two_pow_pos topScale)]
    omega
  · have steps := two_steps_le higher denominator
    have powers := two_steps_le higher 1
    have large := normal (Nat.zero_lt_of_lt higher)
    have rounded : 2 ^ 52 * 2 ^ exponent ≤
        roundHalfEven numerator (denominator * 2 ^ exponent) * 2 ^ exponent :=
      Nat.mul_le_mul_right _ (many (Nat.zero_lt_of_lt higher))
    exact iff_of_false (by omega) (by omega)

/-- The least whole number that is rounded to an infinity, `2 ^ 1024 - 2 ^ 970`. -/
def overflow : Nat := (2 ^ 54 - 1) * 2 ^ 970

theorem overflow_pos : 0 < overflow := by
  have positive (power : Nat) : 0 < (2 ^ 54 - 1) * 2 ^ power :=
    Nat.mul_pos (by decide) (Nat.two_pow_pos power)
  exact positive 970

/-- The bound in units, twice since it lies halfway between two numbers. -/
theorem overflow_units : (2 ^ 54 - 1) * 2 ^ topScale = overflow * (2 * 2 ^ fractionBits) := by
  have scaled (digits power bits : Nat) :
      digits * 2 ^ (power + (bits + 1)) = digits * 2 ^ power * (2 * 2 ^ bits) := by
    rw [Nat.pow_add, Nat.pow_succ', Nat.mul_assoc]
  have exponents : topScale = 970 + (fractionBits + 1) := rfl
  rw [exponents, scaled, overflow]

theorem isFinite_ofRatio_iff (negative : Bool) {numerator denominator : Nat}
    (positive : 0 < denominator) :
    (ofRatio negative numerator denominator).isFinite = true ↔ numerator < overflow * denominator := by
  have units : 0 < 2 * 2 ^ fractionBits := Nat.mul_pos (by omega) (Nat.two_pow_pos _)
  rw [ofRatio, isFinite_ofUnits_iff negative positive, unitsPerOne_eq, Nat.mul_left_comm _ denominator,
    overflow_units, Nat.mul_left_comm 2, Nat.mul_left_comm denominator, ← Nat.mul_assoc overflow,
    Nat.mul_lt_mul_right units]

theorem isFinite_ofRatio_eq_false_iff (negative : Bool) {numerator denominator : Nat}
    (positive : 0 < denominator) :
    (ofRatio negative numerator denominator).isFinite = false ↔ overflow * denominator ≤ numerator := by
  rw [← Bool.not_eq_true, isFinite_ofRatio_iff negative positive, Nat.not_lt]

theorem isFinite_ofInt_eq_false_iff (value : Int) :
    (ofInt value).isFinite = false ↔ overflow ≤ value.natAbs := by
  rw [ofInt, isFinite_ofRatio_eq_false_iff _ Nat.one_pos, Nat.mul_one]

end Binary64

end TableBrowser
