/-
This file shows that day numbers count the days of the calendar one by one, forward and backward
from 1 January 1970, and that they stand in the order of the dates.
-/

import AssetSearch.Proofs.Time.ReadTimes
import Mathlib.Order.Monotone.Basic

namespace AssetSearch.Time

/-- Values that grow with the members have the order of the members. -/
theorem order_reflected {Member Value : Type} [Preorder Value] {value : Member → Value}
    {first second : Member} {before after : Prop} (trichotomy : first = second ∨ before ∨ after)
    (grows : before → value first < value second) (shrinks : after → value second < value first) :
    (value first < value second ↔ before) ∧ (value first = value second ↔ first = second) := by
  rcases trichotomy with rfl | isBefore | isAfter
  · exact ⟨iff_of_false (lt_irrefl _) fun isBefore => lt_irrefl _ (grows isBefore), by simp⟩
  · have less := grows isBefore
    exact ⟨iff_of_true less isBefore,
      iff_of_false less.ne fun same => less.ne (congrArg value same)⟩
  · have greater := shrinks isAfter
    exact ⟨iff_of_false greater.not_gt fun isBefore => greater.not_gt (grows isBefore),
      iff_of_false greater.ne' fun same => greater.ne' (congrArg value same)⟩

namespace Date

/-- A year has a leap day if it is a leap year. -/
theorem daysBeforeYear_succ (year : Int) :
    daysBeforeYear (year + 1) = daysBeforeYear year + if isLeapYear year then 366 else 365 := by
  have previous : year + 1 - 1 = year := by omega
  simp only [daysBeforeYear, leapDaysThrough, isLeapYear, previous, Bool.and_eq_true,
    Bool.or_eq_true, decide_eq_true_eq, ne_eq]
  split <;> omega

theorem daysBeforeMonth_succ (year : Int) {month : Nat} (positive : 1 ≤ month) :
    daysBeforeMonth year (month + 1) = daysBeforeMonth year month + daysInMonth year month := by
  cases month with
  | zero => omega
  | succ month => rfl

theorem daysInYear_eq (year : Int) :
    daysBeforeMonth year 13 = if isLeapYear year then 366 else 365 := by
  cases leap : isLeapYear year <;> simp [daysBeforeMonth, daysInMonth, leap]

theorem daysBeforeYear_mono {earlier later : Int} (order : earlier ≤ later) :
    daysBeforeYear earlier ≤ daysBeforeYear later := by
  refine monotone_int_of_le_succ (fun year => ?_) order
  rw [daysBeforeYear_succ]
  split <;> omega

theorem daysBeforeMonth_mono (year : Int) : Monotone (daysBeforeMonth year) := by
  refine monotone_nat_of_le_succ fun month => ?_
  cases month with
  | zero => exact Nat.le_refl _
  | succ month => exact Nat.le_add_right _ _

/-- Dates are compared by year, then by month, then by day. -/
def Precedes (first second : Date) : Prop :=
  first.year < second.year ∨ first.year = second.year ∧
    (first.month < second.month ∨ first.month = second.month ∧ first.day < second.day)

theorem eq_or_precedes (first second : Date) :
    first = second ∨ first.Precedes second ∨ second.Precedes first := by
  rcases Int.lt_trichotomy first.year second.year with before | sameYear | after
  · exact Or.inr (Or.inl (Or.inl before))
  · rcases Nat.lt_trichotomy first.month second.month with before | sameMonth | after
    · exact Or.inr (Or.inl (Or.inr ⟨sameYear, Or.inl before⟩))
    · rcases Nat.lt_trichotomy first.day second.day with before | sameDay | after
      · exact Or.inr (Or.inl (Or.inr ⟨sameYear, Or.inr ⟨sameMonth, before⟩⟩))
      · left
        cases first
        cases second
        simp_all
      · exact Or.inr (Or.inr (Or.inr ⟨sameYear.symm, Or.inr ⟨sameMonth.symm, after⟩⟩))
    · exact Or.inr (Or.inr (Or.inr ⟨sameYear.symm, Or.inl after⟩))
  · exact Or.inr (Or.inr (Or.inl after))

section

variable {first second : Date}

/-- A day comes before the first one of the next month. -/
theorem dayOfYear_lt (valid : first.isValid = true) :
    daysBeforeMonth first.year first.month + (first.day - 1) <
      daysBeforeMonth first.year (first.month + 1) := by
  obtain ⟨-, -, firstMonth, -, firstDay, lastDay⟩ := isValid_iff.mp valid
  rw [daysBeforeMonth_succ first.year firstMonth]
  omega

theorem dayNumber_lt_nextYear (valid : first.isValid = true) :
    first.dayNumber < daysBeforeYear (first.year + 1) := by
  obtain ⟨-, -, -, lastMonth, firstDay, -⟩ := isValid_iff.mp valid
  have day := dayOfYear_lt valid
  have month := daysBeforeMonth_mono first.year (Nat.succ_le_succ lastMonth)
  have year := daysInYear_eq first.year
  rw [daysBeforeYear_succ, dayNumber]
  split at year <;> simp_all <;> omega

theorem daysBeforeYear_le (valid : first.isValid = true) :
    daysBeforeYear first.year ≤ first.dayNumber := by
  obtain ⟨-, -, -, -, firstDay, -⟩ := isValid_iff.mp valid
  rw [dayNumber]
  omega

theorem Precedes.dayNumber_lt (precedes : first.Precedes second) (valid : first.isValid = true)
    (other : second.isValid = true) : first.dayNumber < second.dayNumber := by
  have firstDay := (isValid_iff.mp valid).2.2.2.2.1
  have otherDay := (isValid_iff.mp other).2.2.2.2.1
  rcases precedes with earlier | ⟨sameYear, earlier | ⟨sameMonth, earlier⟩⟩
  · calc first.dayNumber
        < daysBeforeYear (first.year + 1) := dayNumber_lt_nextYear valid
      _ ≤ daysBeforeYear second.year := daysBeforeYear_mono earlier
      _ ≤ second.dayNumber := daysBeforeYear_le other
  · have month := daysBeforeMonth_mono first.year (Nat.succ_le_of_lt earlier)
    have day := dayOfYear_lt valid
    simp only [dayNumber, ← sameYear, Nat.succ_eq_add_one] at month ⊢
    omega
  · rw [dayNumber, dayNumber, sameYear, sameMonth]
    omega

/-- Day numbers stand in the order of the dates. -/
theorem dayNumber_lt_iff (valid : first.isValid = true) (other : second.isValid = true) :
    first.dayNumber < second.dayNumber ↔ first.Precedes second :=
  (order_reflected (eq_or_precedes first second)
    (fun precedes => precedes.dayNumber_lt valid other)
    (fun follows => follows.dayNumber_lt other valid)).1

theorem dayNumber_inj (valid : first.isValid = true) (other : second.isValid = true) :
    first.dayNumber = second.dayNumber ↔ first = second :=
  (order_reflected (eq_or_precedes first second)
    (fun precedes => precedes.dayNumber_lt valid other)
    (fun follows => follows.dayNumber_lt other valid)).2

/-- The next day has the next number. -/
theorem dayNumber_next? {following : Date} (valid : first.isValid = true)
    (next : first.next? = some following) : following.dayNumber = first.dayNumber + 1 := by
  obtain ⟨-, -, firstMonth, lastMonth, firstDay, lastDay⟩ := isValid_iff.mp valid
  simp only [next?, Option.ite_none_right_eq_some, Option.some.injEq] at next
  obtain ⟨-, rfl⟩ := next
  split
  · simp only [dayNumber]
    omega
  · next lastOfMonth =>
      split
      · simp only [dayNumber, daysBeforeMonth_succ first.year firstMonth]
        omega
      · next lastOfYear =>
          have december : first.month = 12 := by omega
          have year := daysInYear_eq first.year
          rw [daysBeforeMonth_succ first.year (by decide)] at year
          simp only [dayNumber, daysBeforeYear_succ, daysBeforeMonth, december] at *
          split at year <;> simp_all <;> omega

/-- The day before is followed by the day itself. -/
theorem next?_previous? {preceding : Date} (valid : first.isValid = true)
    (previous : first.previous? = some preceding) : preceding.next? = some first := by
  obtain ⟨-, lastYears, firstMonth, -, firstDay, lastDay⟩ := isValid_iff.mp valid
  simp only [previous?, Option.ite_none_right_eq_some, Option.some.injEq] at previous
  obtain ⟨-, rfl⟩ := previous
  obtain ⟨year, month, day⟩ := first
  simp only at lastYears firstMonth firstDay lastDay ⊢
  by_cases inside : 1 < day
  · have before : day - 1 < daysInMonth year month := by omega
    have whole : day - 1 + 1 = day := by omega
    simp [next?, inside, before, whole, lastYears]
  · have firstOfMonth : day = 1 := by omega
    by_cases later : 1 < month
    · have notLast : month - 1 < 12 := by
        have last := (isValid_iff.mp valid).2.2.2.1
        simp only at last
        omega
      have whole : month - 1 + 1 = month := by omega
      simp [next?, firstOfMonth, later, notLast, whole, lastYears]
    · have january : month = 1 := by omega
      simp [next?, firstOfMonth, january, daysInMonth, lastYears]

theorem dayNumber_previous? {preceding : Date} (valid : first.isValid = true)
    (previous : first.previous? = some preceding) :
    preceding.dayNumber = first.dayNumber - 1 := by
  have following := dayNumber_next? (previous?_isValid valid previous)
    (next?_previous? valid previous)
  omega

/-- Only the last day of the calendar has no day after it. -/
theorem next?_isSome_of_precedes (precedes : first.Precedes second)
    (valid : first.isValid = true) (other : second.isValid = true) :
    ∃ following, first.next? = some following := by
  obtain ⟨-, -, -, lastMonth, -, lastDay⟩ := isValid_iff.mp valid
  obtain ⟨-, covered, -, otherMonth, -, otherDay⟩ := isValid_iff.mp other
  refine ⟨_, if_pos ?_⟩
  split
  · exact (isValid_iff.mp valid).2.1
  · next lastOfMonth =>
      split
      · exact (isValid_iff.mp valid).2.1
      · next lastOfYear =>
          rcases precedes with earlier | ⟨sameYear, earlier | ⟨sameMonth, earlier⟩⟩
          · exact Int.le_trans earlier covered
          · omega
          · rw [← sameYear, ← sameMonth] at otherDay
            omega

/-- This is the day so many days later. -/
def after? : (days : Nat) → Date → Option Date
  | 0, date => some date
  | days + 1, date => date.next?.bind (after? days)

theorem dayNumber_after? {days : Nat} (valid : first.isValid = true)
    (after : first.after? days = some second) :
    second.dayNumber = first.dayNumber + days := by
  induction days generalizing first with
  | zero =>
      obtain rfl := Option.some.inj after
      simp
  | succ days inductionHypothesis =>
      obtain ⟨following, next, later⟩ := Option.bind_eq_some_iff.mp after
      have further := inductionHypothesis (next?_isValid valid next) later
      have one := dayNumber_next? valid next
      omega

/-- Every later day is reached. -/
theorem after?_eq_some {days : Nat} (valid : first.isValid = true) (other : second.isValid = true)
    (later : second.dayNumber = first.dayNumber + days) : first.after? days = some second := by
  induction days generalizing first with
  | zero =>
      have same := (dayNumber_inj valid other).mp (by omega)
      rw [same, after?]
  | succ days inductionHypothesis =>
      have precedes := (dayNumber_lt_iff valid other).mp (by omega)
      obtain ⟨following, next⟩ := next?_isSome_of_precedes precedes valid other
      have one := dayNumber_next? valid next
      rw [after?, next, Option.bind_some]
      exact inductionHypothesis (next?_isValid valid next) (by omega)

/-- The first day is reached from the second one in so many steps forward, or backward if the
number is negative. -/
def IsDaysFrom (first second : Date) (days : Int) : Prop :=
  second.after? days.toNat = first.after? (-days).toNat

instance (first second : Date) (days : Int) : Decidable (first.IsDaysFrom second days) :=
  inferInstanceAs (Decidable (_ = _))

theorem isDaysFrom_iff (valid : first.isValid = true) (other : second.isValid = true) {days : Int} :
    first.IsDaysFrom second days ↔ days = first.dayNumber - second.dayNumber := by
  rw [IsDaysFrom]
  -- One of the two numbers of steps is zero.
  by_cases forward : 0 ≤ days
  · have none : (-days).toNat = 0 := by omega
    rw [none, after?]
    constructor
    · intro reached
      have count := dayNumber_after? other reached
      omega
    · intro count
      exact after?_eq_some other valid (by omega)
  · have none : days.toNat = 0 := by omega
    rw [none, after?]
    constructor
    · intro reached
      have count := dayNumber_after? valid reached.symm
      omega
    · intro count
      exact (after?_eq_some valid other (by omega)).symm

end

end Date

end AssetSearch.Time
