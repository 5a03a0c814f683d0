import Mathlib.Data.Int.ConditionallyCompleteOrder
import Mathlib.Data.List.Lex
import Mathlib.Data.String.Basic
import Mathlib.Order.ConditionallyCompleteLattice.Basic
import Mathlib.Order.Monotone.Basic
import TableBrowser.Calendar.Moment
import TableBrowser.Datum.Order
/-!
# Scales of data

Two dates are told apart by their keys, and the number of a day is larger the later
it is: day numbers are in the order of keys.

A datum stands on one scale at most: that of numbers and truth values, of texts,
of bytes, of dates, of moments or of times, where the last two are two scales
each, with an offset and without. Main statement: of data that stand on scales
those of one scale are in the order of their ranks on it and equal when their ranks
are, and all others clash. Single values compare exactly when they are compared on one
scale, where what is not a number counts among numbers.
-/

namespace TableBrowser

/-! ## Months of a year -/

theorem daysInMonth_le (year month : Nat) : daysInMonth year month ≤ 31 := by
  unfold daysInMonth
  split
  · split <;> omega
  · split <;> omega

namespace Date

theorem foldr_days_eq_add (length : Nat → Nat) (months : List Nat) (days : Nat) :
    months.foldr (fun month days => length month + days) days =
      months.foldr (fun month days => length month + days) 0 + days := by
  induction months with
  | nil => exact (Nat.zero_add days).symm
  | cons month months induction => rw [List.foldr_cons, List.foldr_cons, induction, Nat.add_assoc]

theorem daysBeforeMonth_succ (year : Nat) {month : Nat} (positive : 1 ≤ month) :
    daysBeforeMonth year (month + 1) = daysBeforeMonth year month + daysInMonth year month := by
  obtain ⟨earlier, rfl⟩ := Nat.exists_eq_add_of_le' positive
  rw [daysBeforeMonth, daysBeforeMonth, Nat.add_sub_cancel, Nat.add_sub_cancel, List.range_succ,
    List.foldr_append, foldr_days_eq_add]
  rfl

theorem daysBeforeMonth_mono (year : Nat) : Monotone (daysBeforeMonth year) := by
  refine monotone_nat_of_le_succ fun month => ?_
  rcases Nat.eq_zero_or_pos month with rfl | positive
  · exact Nat.le_refl _
  · rw [daysBeforeMonth_succ year positive]
    exact Nat.le_add_right _ _

theorem daysBeforeMonth_end (year : Nat) : daysBeforeMonth year 13 = daysInYear year := by
  cases leap : isLeapYear year <;>
    simp [daysBeforeMonth, daysInMonth, daysInYear, leap, List.range, List.range.loop]

/-! ## Years -/

theorem isLeapYear_iff (year : Nat) :
    isLeapYear year = true ↔ 4 ∣ year ∧ (¬ 100 ∣ year ∨ 400 ∣ year) := by
  simp [isLeapYear, Nat.dvd_iff_mod_eq_zero]

/-- The three quotients grow by one in the years that they count. -/
theorem daysBeforeYear_succ {year : Nat} (positive : 1 ≤ year) :
    daysBeforeYear (year + 1) = daysBeforeYear year + daysInYear year := by
  obtain ⟨before, rfl⟩ := Nat.exists_eq_add_of_le' positive
  have fewer : before / 100 ≤ before / 4 := Nat.div_le_div_left (by decide) (by decide)
  have isCentury : 100 ∣ before + 1 → 4 ∣ before + 1 := Nat.dvd_trans (by decide)
  have isFourth : 400 ∣ before + 1 → 100 ∣ before + 1 := Nat.dvd_trans (by decide)
  simp only [daysBeforeYear, daysInYear, isLeapYear_iff, Nat.add_sub_cancel, Nat.succ_div]
  grind

theorem daysBeforeYear_mono : Monotone daysBeforeYear := by
  refine monotone_nat_of_le_succ fun year => ?_
  rcases Nat.eq_zero_or_pos year with rfl | positive
  · exact Nat.le_refl _
  · rw [daysBeforeYear_succ positive]
    exact Nat.le_add_right _ _

/-! ## Dates -/

theorem eq_of_key {left right : Date} (same : left.key = right.key) : left = right := by
  rcases left with ⟨year, month, day, ⟨years, months, days⟩⟩
  rcases right with ⟨otherYear, otherMonth, otherDay, ⟨otherYears, otherMonths, otherDays⟩⟩
  have short := daysInMonth_le year month
  have otherShort := daysInMonth_le otherYear otherMonth
  simp only [key] at same
  obtain rfl : year = otherYear := by omega
  obtain rfl : month = otherMonth := by omega
  obtain rfl : day = otherDay := by omega
  rfl

theorem ordinal_lt_of_key_lt {left right : Date} (before : left.key < right.key) :
    left.ordinal < right.ordinal := by
  rcases left with ⟨year, month, day, ⟨years, months, days⟩⟩
  rcases right with ⟨otherYear, otherMonth, otherDay, ⟨otherYears, otherMonths, otherDays⟩⟩
  have short := daysInMonth_le year month
  have otherShort := daysInMonth_le otherYear otherMonth
  simp only [key, ordinal] at before ⊢
  have monthEnd := daysBeforeMonth_succ year months.1
  rcases Nat.lt_trichotomy year otherYear with earlier | rfl | later
  · have yearEnd := daysBeforeYear_succ years.1
    have yearsPassed : daysBeforeYear (year + 1) ≤ daysBeforeYear otherYear := daysBeforeYear_mono earlier
    have monthsPassed : daysBeforeMonth year (month + 1) ≤ daysBeforeMonth year 13 :=
      daysBeforeMonth_mono year (Nat.succ_le_succ months.2)
    rw [daysBeforeMonth_end] at monthsPassed
    omega
  · rcases Nat.lt_trichotomy month otherMonth with earlier | rfl | later
    · have monthsPassed : daysBeforeMonth year (month + 1) ≤ daysBeforeMonth year otherMonth :=
        daysBeforeMonth_mono year earlier
      omega
    · omega
    · omega
  · omega

/-- Day numbers are in the order of keys. -/
theorem ordinal_lt_iff {left right : Date} : left.ordinal < right.ordinal ↔ left.key < right.key := by
  refine ⟨fun before => ?_, ordinal_lt_of_key_lt⟩
  rcases Nat.lt_trichotomy left.key right.key with earlier | same | later
  · exact earlier
  · rw [eq_of_key same] at before
    exact absurd before (Nat.lt_irrefl _)
  · exact absurd before (Nat.lt_asymm (ordinal_lt_of_key_lt later))

end Date

/-- The starts of two days are in the order of the days. -/
theorem Moment.clockMicroseconds_ofDate_lt_iff {left right : Date} :
    (ofDate left).clockMicroseconds < (ofDate right).clockMicroseconds ↔
      left.key < right.key := by
  rw [← Date.ordinal_lt_iff]
  simp only [clockMicroseconds, ofDate, microsecondsPerDay]
  omega

/-! ## Scales -/

inductive Scale where
  | numbers
  | texts
  | bytes
  | dates
  | moments (withOffset : Bool)
  | times (withOffset : Bool)
deriving DecidableEq, Repr

namespace Datum

/-- The scale of a datum. Null, lists, mappings and what is not a number have none. -/
def scale? : Datum → Option Scale
  | .boolean _ => some .numbers
  | .integer _ => some .numbers
  | .number value => if value.isNaN then none else some .numbers
  | .text _ => some .texts
  | .bytes _ => some .bytes
  | .date _ => some .dates
  | .moment value => some (.moments value.time.offset.isSome)
  | .time value => some (.times value.offset.isSome)
  | .null => none
  | .list _ => none
  | .mapping _ => none

/-- A single value, and not a number that is none: what has a scale, and null. -/
def IsScalar (datum : Datum) : Prop := datum.isNull = true ∨ datum.scale?.isSome = true

instance (datum : Datum) : Decidable datum.IsScalar := inferInstanceAs (Decidable (_ ∨ _))

/-! ## Ranks of numbers -/

/-- The line of whole numbers of units with its two ends. -/
abbrev Line : Type := WithBot (WithTop Int)

def rankOfPlace : Binary64.Place → Line
  | .below => ⊥
  | .at units => ((units : WithTop Int) : Line)
  | .above => ((⊤ : WithTop Int) : Line)

def numberRank (datum : Datum) : Line :=
  match datum.numeric? with
  | some (.at place) => rankOfPlace place
  | _ => ⊥

theorem lt_iff_rankOfPlace {left right : Binary64.Place} :
    left.lt right = true ↔ rankOfPlace left < rankOfPlace right := by
  cases left <;> cases right <;> simp [Binary64.Place.lt, rankOfPlace, -WithBot.coe_top]

/-- What stands on the scale of numbers has a place on the line. -/
theorem exists_place {datum : Datum} (isNumber : datum.scale? = some .numbers) :
    ∃ place, datum.numeric? = some (.at place) ∧ datum.numberRank = rankOfPlace place := by
  have placed {place : Binary64.Place} (isPlace : datum.numeric? = some (.at place)) :
      ∃ place, datum.numeric? = some (.at place) ∧ datum.numberRank = rankOfPlace place :=
    ⟨place, isPlace, by rw [numberRank, isPlace]⟩
  cases datum with
  | boolean value => exact placed rfl
  | integer value => exact placed rfl
  | number value =>
      cases value with
      | nan => cases isNumber
      | infinite negative => exact placed rfl
      | finite negative units representable => exact placed rfl
  | _ => cases isNumber

/-- Numbers are compared by their places, whatever their forms. -/
theorem less_of_numeric {left right : Datum} {leftPlace rightPlace : Binary64.Place}
    (isLeft : left.numeric? = some (.at leftPlace))
    (isRight : right.numeric? = some (.at rightPlace)) :
    left.less right = .ok (leftPlace.lt rightPlace) := by
  unfold less
  split
  case h_9 =>
    rw [isLeft, isRight]
    rfl
  all_goals exact absurd isLeft nofun

theorem equal_of_numeric {left right : Datum} {leftPlace rightPlace : Binary64.Place}
    (isLeft : left.numeric? = some (.at leftPlace))
    (isRight : right.numeric? = some (.at rightPlace)) :
    left.equal right = (leftPlace == rightPlace) := by
  unfold equal
  split
  case h_5 =>
    rw [isLeft, isRight]
    rfl
  all_goals exact absurd isLeft nofun

theorem bytesLess_eq (left right : List UInt8) :
    bytesLess left right = decide (left.map UInt8.toNat < right.map UInt8.toNat) := by
  induction left generalizing right with
  | nil => cases right <;> simp [bytesLess]
  | cons first lefts induction =>
      cases right with
      | nil => simp [bytesLess]
      | cons second rights =>
          rw [bytesLess, induction]
          simp only [List.map_cons, List.cons_lt_cons_iff, UInt8.lt_iff_toNat_lt]
          grind

/-! ## Instants -/

/-- Instants that both have an offset, or both have none, are compared by whole numbers. -/
theorem lessInstants_onOneClock {clash : Clash} {left right : Option Int} {leftClock rightClock : Int}
    (same : left.isSome = right.isSome) :
    lessInstants clash (onOneClock? left right leftClock rightClock) =
      .ok (leftClock - left.getD 0 < rightClock - right.getD 0) := by
  cases left <;> cases right <;> simp_all [lessInstants, onOneClock?]

theorem onOneClock_of_lessInstants {clash : Clash} {left right : Option Int}
    {leftClock rightClock : Int} {before : Bool}
    (compared : lessInstants clash (onOneClock? left right leftClock rightClock) = .ok before) :
    left.isSome = right.isSome := by
  cases left <;> cases right <;> simp_all [lessInstants, onOneClock?]

theorem equalInstants_onOneClock {left right : Option Int} {leftClock rightClock : Int}
    (same : left.isSome = right.isSome) :
    equalInstants (onOneClock? left right leftClock rightClock) =
      decide (leftClock - left.getD 0 = rightClock - right.getD 0) := by
  cases left <;> cases right <;> simp_all [equalInstants, onOneClock?]

/-- Microseconds on the clock of all moments that have an offset, or of those without. -/
def momentRank : Datum → Int
  | .moment value => value.clockMicroseconds - (value.time.offset.map UtcOffset.microseconds).getD 0
  | _ => 0

def timeRank : Datum → Int
  | .time value => value.sinceMidnight - (value.offset.map UtcOffset.wholeSeconds).getD 0
  | _ => 0

def dateRank : Datum → Nat
  | .date value => value.key
  | _ => 0

def textRank : Datum → String
  | .text value => value
  | _ => ""

def bytesRank : Datum → List Nat
  | .bytes value => value.map UInt8.toNat
  | _ => []

/-! ## Ranks on every scale -/

/-- What stands on a scale that is not that of numbers is of one kind. -/
theorem kind_of_scale? {datum : Datum} {scale : Scale} (stands : datum.scale? = some scale) :
    match scale with
    | .numbers => datum.numeric?.isSome = true
    | .texts => ∃ value, datum = .text value
    | .bytes => ∃ value, datum = .bytes value
    | .dates => ∃ value, datum = .date value
    | .moments withOffset => ∃ value, datum = .moment value ∧ value.time.offset.isSome = withOffset
    | .times withOffset => ∃ value, datum = .time value ∧ value.offset.isSome = withOffset := by
  cases datum with
  | null => cases stands
  | list items => cases stands
  | mapping entries => cases stands
  | number value =>
      simp only [scale?] at stands
      split at stands
      · cases stands
      · cases stands
        rfl
  | moment value =>
      cases stands
      exact ⟨value, rfl, rfl⟩
  | time value =>
      cases stands
      exact ⟨value, rfl, rfl⟩
  | boolean value => cases stands; rfl
  | integer value => cases stands; rfl
  | _ => cases stands; exact ⟨_, rfl⟩

/-- The order on a scale is that of ranks in a linear order, and its equality is theirs. -/
theorem exists_rank (scale : Scale) :
    ∃ (Rank : Type) (_ : LinearOrder Rank) (rank : Datum → Rank), ∀ left right : Datum,
      left.scale? = some scale → right.scale? = some scale →
        (∃ before, left.less right = .ok before ∧ (before = true ↔ rank left < rank right)) ∧
          (left.equal right = true ↔ rank left = rank right) := by
  cases scale with
  | numbers =>
      refine ⟨Line, inferInstance, numberRank, fun left right isLeft isRight => ?_⟩
      rcases exists_place isLeft with ⟨leftPlace, leftPlaced, leftRank⟩
      rcases exists_place isRight with ⟨rightPlace, rightPlaced, rightRank⟩
      rw [leftRank, rightRank, equal_of_numeric leftPlaced rightPlaced]
      refine ⟨⟨_, less_of_numeric leftPlaced rightPlaced, lt_iff_rankOfPlace⟩, ?_⟩
      cases leftPlace <;> cases rightPlace <;> simp [rankOfPlace, -WithBot.coe_top]
  | texts =>
      refine ⟨String, inferInstance, textRank, fun left right isLeft isRight => ?_⟩
      rcases kind_of_scale? isLeft with ⟨leftText, rfl⟩
      rcases kind_of_scale? isRight with ⟨rightText, rfl⟩
      refine ⟨⟨_, by rw [less], ?_⟩, ?_⟩
      · rw [decide_eq_true_iff]
        rfl
      · simp [equal, numeric?, same, textRank]
  | bytes =>
      refine ⟨List Nat, inferInstance, bytesRank, fun left right isLeft isRight => ?_⟩
      rcases kind_of_scale? isLeft with ⟨leftBytes, rfl⟩
      rcases kind_of_scale? isRight with ⟨rightBytes, rfl⟩
      refine ⟨⟨_, by rw [less], ?_⟩, ?_⟩
      · rw [bytesLess_eq, decide_eq_true_iff]
        rfl
      · have injective := List.map_injective_iff.mpr fun _ _ => UInt8.toNat.inj
        simp [equal, numeric?, same, bytesRank, injective.eq_iff]
  | dates =>
      refine ⟨Nat, inferInstance, dateRank, fun left right isLeft isRight => ?_⟩
      rcases kind_of_scale? isLeft with ⟨leftDate, rfl⟩
      rcases kind_of_scale? isRight with ⟨rightDate, rfl⟩
      refine ⟨⟨_, by rw [less], ?_⟩, ?_⟩
      · rw [decide_eq_true_iff]
        rfl
      · simpa [equal, numeric?, same] using ⟨congrArg Date.key, Date.eq_of_key⟩
  | moments withOffset =>
      refine ⟨Int, inferInstance, momentRank, fun left right isLeft isRight => ?_⟩
      rcases kind_of_scale? isLeft with ⟨leftMoment, rfl, leftOffset⟩
      rcases kind_of_scale? isRight with ⟨rightMoment, rfl, rightOffset⟩
      have onOneClock : (leftMoment.time.offset.map UtcOffset.microseconds).isSome =
          (rightMoment.time.offset.map UtcOffset.microseconds).isSome := by
        simp [leftOffset, rightOffset]
      refine ⟨⟨_, by rw [less, Moment.comparable?, lessInstants_onOneClock onOneClock], ?_⟩, ?_⟩
      · rw [decide_eq_true_iff]
        rfl
      · rw [equal, Moment.comparable?, equalInstants_onOneClock onOneClock, decide_eq_true_iff]
        rfl
  | times withOffset =>
      refine ⟨Int, inferInstance, timeRank, fun left right isLeft isRight => ?_⟩
      rcases kind_of_scale? isLeft with ⟨leftTime, rfl, leftOffset⟩
      rcases kind_of_scale? isRight with ⟨rightTime, rfl, rightOffset⟩
      have onOneClock : (leftTime.offset.map UtcOffset.wholeSeconds).isSome =
          (rightTime.offset.map UtcOffset.wholeSeconds).isSome := by
        simp [leftOffset, rightOffset]
      refine ⟨⟨_, by rw [less, Time.comparable?, lessInstants_onOneClock onOneClock], ?_⟩, ?_⟩
      · rw [decide_eq_true_iff]
        rfl
      · rw [equal, Time.comparable?, equalInstants_onOneClock onOneClock, decide_eq_true_iff]
        rfl

theorem exists_less_of_scale {left right : Datum} {scale : Scale}
    (isLeft : left.scale? = some scale) (isRight : right.scale? = some scale) :
    ∃ before, left.less right = .ok before := by
  rcases exists_rank scale with ⟨_, _, _, compared⟩
  rcases (compared left right isLeft isRight).1 with ⟨before, isBefore, _⟩
  exact ⟨before, isBefore⟩

theorem less_eq_false_of_ne {left right : Datum} {scale : Scale} (isLeft : left.scale? = some scale)
    (isRight : right.scale? = some scale) (notBefore : left.less right ≠ .ok true) :
    left.less right = .ok false := by
  rcases exists_less_of_scale isLeft isRight with ⟨before, compared⟩
  cases before with
  | true => exact absurd compared notBefore
  | false => exact compared

theorem less_self {datum : Datum} {scale : Scale} (stands : datum.scale? = some scale) :
    datum.less datum = .ok false := by
  rcases exists_rank scale with ⟨Rank, _, rank, compared⟩
  rcases (compared datum datum stands stands).1 with ⟨before, isBefore, before_iff⟩
  rw [isBefore, Bool.eq_false_of_not_eq_true fun below => lt_irrefl _ (before_iff.mp below)]

/-- On one scale data are equal when neither comes before the other. -/
theorem equal_iff_of_scale {left right : Datum} {scale : Scale} (isLeft : left.scale? = some scale)
    (isRight : right.scale? = some scale) :
    left.equal right = true ↔ left.less right = .ok false ∧ right.less left = .ok false := by
  rcases exists_rank scale with ⟨_, _, rank, compared⟩
  rcases compared left right isLeft isRight with ⟨⟨before, isBefore, before_iff⟩, equal_iff⟩
  rcases (compared right left isRight isLeft).1 with ⟨after, isAfter, after_iff⟩
  rw [equal_iff, isBefore, isAfter, Except.ok.injEq, Except.ok.injEq, ← Bool.not_eq_true,
    ← Bool.not_eq_true, before_iff, after_iff, not_lt, not_lt]
  exact le_antisymm_iff.trans And.comm

theorem scale?_of_numeric {datum : Datum} {scale : Scale} {number : Numeric}
    (isNumber : datum.numeric? = some number) (stands : datum.scale? = some scale) :
    scale = .numbers := by
  cases scale with
  | numbers => rfl
  | _ =>
      rcases kind_of_scale? stands with ⟨value, isValue⟩
      grind [numeric?]

/-- Data that compare stand on one scale, if they stand on any. -/
theorem scale_eq_of_less {left right : Datum} {before : Bool} {leftScale rightScale : Scale}
    (compared : left.less right = .ok before) (isLeft : left.scale? = some leftScale)
    (isRight : right.scale? = some rightScale) : leftScale = rightScale := by
  unfold less at compared
  split at compared
  · cases isLeft; cases isRight; rfl
  · cases isLeft; cases isRight; rfl
  · cases isLeft; cases isRight; rfl
  · cases compared
  · cases compared
  · next leftMoment rightMoment =>
    cases isLeft
    cases isRight
    simpa using onOneClock_of_lessInstants compared
  · next leftTime rightTime =>
    cases isLeft
    cases isRight
    simpa using onOneClock_of_lessInstants compared
  · cases isLeft
  · split at compared
    · next leftNumber rightNumber =>
      rw [scale?_of_numeric leftNumber isLeft, scale?_of_numeric rightNumber isRight]
    · cases compared

/-! ## Single values -/

/-- A key of a mapping is neither a list nor a mapping itself. -/
def IsSingle : Datum → Prop
  | .list _ => False
  | .mapping _ => False
  | _ => True

/-- The scale that a datum is compared on. What is not a number compares with numbers, to no end. -/
def comparedOn? : Datum → Option Scale
  | .number _ => some .numbers
  | datum => datum.scale?

def OnOneScale (left right : Datum) : Prop :=
  ∃ scale, left.comparedOn? = some scale ∧ right.comparedOn? = some scale

variable {left middle right : Datum}

theorem OnOneScale.symm (same : OnOneScale left right) : OnOneScale right left := by
  rcases same with ⟨scale, isLeft, isRight⟩
  exact ⟨scale, isRight, isLeft⟩

theorem OnOneScale.trans (first : OnOneScale left middle) (second : OnOneScale middle right) :
    OnOneScale left right := by
  rcases first with ⟨scale, isLeft, isMiddle⟩
  rcases second with ⟨other, isMiddle', isRight⟩
  cases isMiddle.symm.trans isMiddle'
  exact ⟨scale, isLeft, isRight⟩

theorem comparedOn?_eq_numbers_iff {datum : Datum} :
    datum.comparedOn? = some .numbers ↔ datum.numeric?.isSome = true := by
  cases datum <;> simp [comparedOn?, scale?, numeric?]

theorem scale?_of_comparedOn? {datum : Datum} {scale : Scale}
    (stands : datum.comparedOn? = some scale) (notNumbers : scale ≠ .numbers) :
    datum.scale? = some scale := by
  cases datum with
  | number value =>
      cases stands
      exact absurd rfl notNumbers
  | _ => exact stands

/-- Single values compare when they are compared on one scale. -/
theorem less_succeeds_iff (single : left.IsSingle) :
    (∃ before, left.less right = .ok before) ↔ OnOneScale left right := by
  unfold less
  split
  · exact ⟨fun _ => ⟨.texts, rfl, rfl⟩, fun _ => ⟨_, rfl⟩⟩
  · exact ⟨fun _ => ⟨.bytes, rfl, rfl⟩, fun _ => ⟨_, rfl⟩⟩
  · exact ⟨fun _ => ⟨.dates, rfl, rfl⟩, fun _ => ⟨_, rfl⟩⟩
  · exact ⟨nofun, fun ⟨_, isDate, isMoment⟩ => by cases isDate; cases isMoment⟩
  · exact ⟨nofun, fun ⟨_, isMoment, isDate⟩ => by cases isMoment; cases isDate⟩
  · next leftMoment rightMoment =>
    constructor
    · rintro ⟨before, compared⟩
      have offsets := onOneClock_of_lessInstants compared
      refine ⟨.moments leftMoment.time.offset.isSome, rfl, ?_⟩
      simp_all [comparedOn?, scale?]
    · rintro ⟨_, ⟨⟩, isRight⟩
      refine ⟨_, lessInstants_onOneClock ?_⟩
      simp_all [comparedOn?, scale?]
  · next leftTime rightTime =>
    constructor
    · rintro ⟨before, compared⟩
      have offsets := onOneClock_of_lessInstants compared
      refine ⟨.times leftTime.offset.isSome, rfl, ?_⟩
      simp_all [comparedOn?, scale?]
    · rintro ⟨_, ⟨⟩, isRight⟩
      refine ⟨_, lessInstants_onOneClock ?_⟩
      simp_all [comparedOn?, scale?]
  · exact single.elim
  · next notTexts notBytes notDates _ _ notMoments notTimes _ =>
    split
    · next isLeft isRight =>
      refine ⟨fun _ => ⟨.numbers, ?_, ?_⟩, fun _ => ⟨_, rfl⟩⟩
      · rw [comparedOn?_eq_numbers_iff, isLeft, Option.isSome_some]
      · rw [comparedOn?_eq_numbers_iff, isRight, Option.isSome_some]
    · next notNumbers =>
      refine ⟨nofun, ?_⟩
      rintro ⟨scale, isLeft, isRight⟩
      cases scale with
      | numbers =>
          rw [comparedOn?_eq_numbers_iff, Option.isSome_iff_exists] at isLeft isRight
          rcases isLeft with ⟨_, leftNumber⟩
          rcases isRight with ⟨_, rightNumber⟩
          exact (notNumbers _ _ leftNumber rightNumber).elim
      | _ =>
          rcases kind_of_scale? (scale?_of_comparedOn? isLeft nofun) with ⟨_, leftKind⟩
          rcases kind_of_scale? (scale?_of_comparedOn? isRight nofun) with ⟨_, rightKind⟩
          grind

end Datum

end TableBrowser
