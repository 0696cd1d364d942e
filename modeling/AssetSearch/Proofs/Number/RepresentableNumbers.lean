/-
This file shows that rounding to 53 binary digits keeps the order of numbers and does not move a
number that has no more digits.
-/

import AssetSearch.Proofs.Number.Rounding

namespace AssetSearch.Number

section

variable {value : Rat}

/-- Rounding takes away at most one half. -/
theorem le_roundHalfEven (value : Rat) : value ≤ roundHalfEven value + 1 / 2 := by
  have above : value < value.floor + 1 := Int.lt_floor_add_one value
  rw [roundHalfEven]
  split_ifs
  · linarith
  · push_cast
    linarith
  · linarith
  · push_cast
    linarith

/-- A number that is less than one half away from an integer is rounded to it. -/
theorem roundHalfEven_eq {number : Int} (below : (number : ℚ) - 1 / 2 < value)
    (above : value < number + 1 / 2) : roundHalfEven value = number := by
  have most := roundHalfEven_le value
  have least := le_roundHalfEven value
  have upper : (roundHalfEven value : ℚ) < number + 1 := by linarith
  have lower : (number : ℚ) < roundHalfEven value + 1 := by linarith
  exact le_antisymm (Int.lt_add_one_iff.mp (by exact_mod_cast upper))
    (Int.lt_add_one_iff.mp (by exact_mod_cast lower))

@[simp] theorem roundHalfEven_intCast (number : Int) : roundHalfEven number = number :=
  roundHalfEven_eq (by linarith) (by linarith)

/-- The integers could stand in the wrong order only if they were one apart and both numbers lay
halfway between them. -/
theorem roundHalfEven_mono {small large : Rat} (least : small ≤ large) :
    roundHalfEven small ≤ roundHalfEven large := by
  by_contra notLeast
  have apart : roundHalfEven large + 1 ≤ roundHalfEven small := by omega
  have same : small = large := by
    have counted : (roundHalfEven large : ℚ) + 1 ≤ roundHalfEven small := by exact_mod_cast apart
    have most := roundHalfEven_le small
    have below := le_roundHalfEven large
    exact le_antisymm least (by linarith)
  rw [same] at apart
  omega

theorem roundHalfEven_le_of_le {number : Int} (least : value ≤ number) :
    roundHalfEven value ≤ number :=
  roundHalfEven_intCast number ▸ roundHalfEven_mono least

theorem le_roundHalfEven_of_le {number : Int} (least : (number : ℚ) ≤ value) :
    number ≤ roundHalfEven value := by
  have kept := roundHalfEven_mono least
  rwa [roundHalfEven_intCast] at kept

theorem roundHalfEven_nonneg (nonnegative : 0 ≤ value) : 0 ≤ roundHalfEven value :=
  le_roundHalfEven_of_le (by exact_mod_cast nonnegative)

end

theorem lt_of_twoTo_lt {first second : Int} (less : twoTo first < twoTo second) :
    first < second := by
  by_contra notLess
  exact absurd less (not_lt.mpr (twoTo_le (not_lt.mp notLess)))

theorem binaryExponent_mono {small large : Rat} (positive : 0 < small) (least : small ≤ large) :
    binaryExponent small ≤ binaryExponent large := by
  have below := (binaryExponent_spec positive).1
  have above := (binaryExponent_spec (positive.trans_le least)).2
  exact Int.lt_add_one_iff.mp (lt_of_twoTo_lt (below.trans_lt (least.trans_lt above)))

/-- A power of two is known by the numbers from it up to the next one. -/
theorem binaryExponent_eq {value : Rat} {exponent : Int} (least : twoTo exponent ≤ value)
    (most : value < twoTo (exponent + 1)) : binaryExponent value = exponent := by
  obtain ⟨below, above⟩ := binaryExponent_spec ((twoTo_pos exponent).trans_le least)
  have upper := lt_of_twoTo_lt (below.trans_lt most)
  have lower := lt_of_twoTo_lt (least.trans_lt above)
  omega

/-- The number counts whole units of this power of two. -/
def CountsUnits (exponent : Int) (value : Rat) : Prop :=
  ∃ count : Int, value = count * twoTo exponent

theorem twoTo_countsUnits {unit exponent : Int} (least : unit ≤ exponent) :
    CountsUnits unit (twoTo exponent) := by
  refine ⟨2 ^ (exponent - unit).toNat, ?_⟩
  have quotient : twoTo (exponent - unit) = (2 : ℚ) ^ (exponent - unit).toNat := by
    rw [← twoTo_natCast, Int.toNat_of_nonneg (by omega)]
  rw [Int.cast_pow, Int.cast_ofNat, ← quotient, ← twoTo_add, Int.sub_add_cancel]

theorem CountsUnits.mono {unit exponent : Int} {value : Rat} (counts : CountsUnits exponent value)
    (least : unit ≤ exponent) : CountsUnits unit value := by
  obtain ⟨count, rfl⟩ := counts
  obtain ⟨factor, same⟩ := twoTo_countsUnits least
  refine ⟨count * factor, ?_⟩
  rw [same, Int.cast_mul, mul_assoc]

theorem countsUnits_zero (exponent : Int) : CountsUnits exponent 0 :=
  ⟨0, by rw [Int.cast_zero, zero_mul]⟩

/-- Numbers that count the same units are at least one unit apart. -/
theorem CountsUnits.add_le_of_lt {exponent : Int} {small large : Rat}
    (countsSmall : CountsUnits exponent small) (countsLarge : CountsUnits exponent large)
    (less : small < large) : small + twoTo exponent ≤ large := by
  obtain ⟨first, rfl⟩ := countsSmall
  obtain ⟨second, rfl⟩ := countsLarge
  have unit := twoTo_pos exponent
  have counts : first + 1 ≤ second := by exact_mod_cast lt_of_mul_lt_mul_right less unit.le
  calc first * twoTo exponent + twoTo exponent = ((first + 1 : Int) : ℚ) * twoTo exponent := by
        rw [Int.cast_add, Int.cast_one, add_mul, one_mul]
    _ ≤ second * twoTo exponent := mul_le_mul_of_nonneg_right (by exact_mod_cast counts) unit.le

namespace Binary64

theorem unitExponent_mono {small large : Rat} (positive : 0 < small) (least : small ≤ large) :
    unitExponent small ≤ unitExponent large :=
  max_le_max_right (-1074) (Int.sub_le_sub_right (binaryExponent_mono positive least) 52)

theorem cast_digits : ((2 ^ 53 : Int) : ℚ) = twoTo 53 := by
  rw [twoTo_eq]
  norm_num

/-- A positive number is less than `2 ^ 53` of its own units. -/
theorem lt_units {value : Rat} (positive : 0 < value) :
    value < (2 ^ 53 : Int) * twoTo (unitExponent value) := by
  have wide : binaryExponent value - 52 ≤ unitExponent value := le_max_left _ _
  rw [cast_digits, ← twoTo_add]
  exact (binaryExponent_spec positive).2.trans_le (twoTo_le (by omega))

/-- The number has so many units of a power of two: no more than 53 binary digits. -/
structure IsShort (count exponent : Int) (value : Rat) : Prop where
  nonnegative : 0 ≤ count
  short : count ≤ 2 ^ 53
  least : -1074 ≤ exponent
  same : value = count * twoTo exponent

/-- The format holds this number, if there is no upper end to the exponents. -/
def IsRepresentable (value : Rat) : Prop :=
  ∃ count exponent, IsShort count exponent value

theorem IsShort.value_nonneg {count exponent : Int} {value : Rat}
    (short : IsShort count exponent value) : 0 ≤ value := by
  rw [short.same]
  exact mul_nonneg (Int.cast_nonneg short.nonnegative) (twoTo_pos exponent).le

theorem IsRepresentable.nonneg {value : Rat} (representable : IsRepresentable value) :
    0 ≤ value := by
  obtain ⟨_, _, short⟩ := representable
  exact short.value_nonneg

/-- A short number counts its own units: these are finer, or it is a power of two. -/
theorem IsShort.countsUnits {count exponent : Int} {value : Rat}
    (short : IsShort count exponent value) (positive : 0 < value) :
    CountsUnits (unitExponent value) value := by
  rcases le_or_gt (unitExponent value) exponent with fine | coarse
  · exact CountsUnits.mono ⟨count, short.same⟩ fine
  · have normal : unitExponent value = binaryExponent value - 52 :=
      max_eq_left (by have := short.least; unfold unitExponent at coarse; omega)
    have most : value ≤ twoTo (exponent + 53) := by
      rw [short.same, Int.add_comm, twoTo_add, ← cast_digits]
      exact mul_le_mul_of_nonneg_right (by exact_mod_cast short.short) (twoTo_pos exponent).le
    have least := (binaryExponent_spec positive).1
    have same : value = twoTo (binaryExponent value) := by
      refine le_antisymm (most.trans (twoTo_le ?_)) least
      omega
    have units : CountsUnits (unitExponent value) (twoTo (binaryExponent value)) :=
      twoTo_countsUnits (by omega)
    rwa [← same] at units

theorem IsRepresentable.countsUnits {value : Rat} (representable : IsRepresentable value)
    (positive : 0 < value) : CountsUnits (unitExponent value) value := by
  obtain ⟨_, _, short⟩ := representable
  exact short.countsUnits positive

theorem round_of_nonpos {value : Rat} (notPositive : value ≤ 0) : round value = 0 :=
  if_pos notPositive

theorem round_nonneg (value : Rat) : 0 ≤ round value := by
  rcases le_or_gt value 0 with notPositive | positive
  · rw [round_of_nonpos notPositive]
  · rw [round_eq positive]
    have unit := twoTo_pos (unitExponent value)
    have count := roundHalfEven_nonneg (div_nonneg positive.le unit.le)
    exact mul_nonneg (Int.cast_nonneg count) unit.le

/-- Rounding does not lead above a number of the format. -/
theorem round_le_of_le {value bound : Rat} (representable : IsRepresentable bound)
    (least : value ≤ bound) : round value ≤ bound := by
  rcases le_or_gt value 0 with notPositive | positive
  · rw [round_of_nonpos notPositive]
    exact representable.nonneg
  · have unit := twoTo_pos (unitExponent value)
    obtain ⟨count, same⟩ := (representable.countsUnits (positive.trans_le least)).mono
      (unitExponent_mono positive least)
    rw [round_eq positive, same]
    refine mul_le_mul_of_nonneg_right ?_ unit.le
    have units : value / twoTo (unitExponent value) ≤ count := by
      rwa [div_le_iff₀ unit, ← same]
    exact_mod_cast roundHalfEven_le_of_le units

/-- A number of the format is not moved. -/
theorem IsRepresentable.round_eq_self {value : Rat} (representable : IsRepresentable value) :
    round value = value := by
  rcases representable.nonneg.eq_or_lt with zero | positive
  · rw [← zero]
    exact round_of_nonpos le_rfl
  · obtain ⟨count, same⟩ := representable.countsUnits positive
    have units : value / twoTo (unitExponent value) = count := by
      rw [div_eq_iff (twoTo_pos _).ne']
      exact same
    rw [round_eq positive, units, roundHalfEven_intCast, ← same]

theorem isShort_round {value : Rat} (positive : 0 < value) :
    IsShort (roundHalfEven (value / twoTo (unitExponent value))) (unitExponent value)
      (round value) where
  nonnegative := roundHalfEven_nonneg (div_nonneg positive.le (twoTo_pos _).le)
  short := by
    apply roundHalfEven_le_of_le
    rw [div_le_iff₀ (twoTo_pos _)]
    exact (lt_units positive).le
  least := le_max_right _ _
  same := round_eq positive

theorem IsRepresentable.exists_isShort {value : Rat} (representable : IsRepresentable value)
    (positive : 0 < value) : ∃ count, IsShort count (unitExponent value) value := by
  have short := isShort_round positive
  rw [representable.round_eq_self] at short
  exact ⟨_, short⟩

theorem IsRepresentable.le_of_fine {value : Rat} (representable : IsRepresentable value)
    (fine : unitExponent value ≤ 0) : value ≤ 2 ^ 53 := by
  rcases representable.nonneg.eq_or_lt with zero | positive
  · rw [← zero]
    norm_num
  · calc value ≤ (2 ^ 53 : Int) * twoTo (unitExponent value) := (lt_units positive).le
      _ ≤ (2 ^ 53 : Int) * twoTo 0 := mul_le_mul_of_nonneg_left (twoTo_le fine) (by norm_num)
      _ = 2 ^ 53 := by norm_num [twoTo_eq]

theorem isRepresentable_natCast {number : Nat} (short : number ≤ 2 ^ 53) :
    IsRepresentable number :=
  ⟨number, 0, Int.natCast_nonneg number, by exact_mod_cast short, by norm_num, by simp [twoTo_eq]⟩

theorem isRepresentable_round (value : Rat) : IsRepresentable (round value) := by
  rcases le_or_gt value 0 with notPositive | positive
  · rw [round_of_nonpos notPositive]
    exact ⟨0, 0, le_rfl, by norm_num, by norm_num, by simp⟩
  · exact ⟨_, _, isShort_round positive⟩

theorem isRepresentable_twoTo {exponent : Int} (least : -1074 ≤ exponent) :
    IsRepresentable (twoTo exponent) :=
  ⟨1, exponent, by norm_num, by norm_num, least, by simp⟩

/-- Rounding keeps the order of numbers. -/
theorem round_mono {small large : Rat} (least : small ≤ large) : round small ≤ round large := by
  rcases le_or_gt small 0 with notPositive | positive
  · rw [round_of_nonpos notPositive]
    exact round_nonneg large
  · have positiveLarge := positive.trans_le least
    rcases (unitExponent_mono positive least).eq_or_lt with same | less
    · rw [round_eq positive, round_eq positiveLarge, same]
      have unit := twoTo_pos (unitExponent large)
      refine mul_le_mul_of_nonneg_right ?_ unit.le
      exact_mod_cast roundHalfEven_mono (div_le_div_of_nonneg_right least unit.le)
    · -- A power of two lies between numbers with units of different sizes.
      have between : binaryExponent small < binaryExponent large := by
        unfold unitExponent at less
        omega
      have normal : -1022 ≤ binaryExponent large := by
        unfold unitExponent at less
        omega
      have below : small ≤ twoTo (binaryExponent large) :=
        (binaryExponent_spec positive).2.le.trans (twoTo_le between)
      calc round small ≤ twoTo (binaryExponent large) :=
            round_le_of_le (isRepresentable_twoTo (by omega)) below
        _ ≤ round large := twoTo_le_round positiveLarge normal

theorem le_round_of_le {value bound : Rat} (representable : IsRepresentable bound)
    (least : bound ≤ value) : bound ≤ round value := by
  rw [← representable.round_eq_self]
  exact round_mono least

theorem IsRepresentable.mul_twoTo {value : Rat} (representable : IsRepresentable value)
    {exponent : Int} (natural : 0 ≤ exponent) : IsRepresentable (value * twoTo exponent) := by
  obtain ⟨count, unit, short⟩ := representable
  refine ⟨count, unit + exponent, short.nonnegative, short.short, ?_, ?_⟩
  · have := short.least
    omega
  · rw [short.same, twoTo_add, mul_assoc]

/-- What is left after a natural number is taken away has no more digits, unless the units are
larger than one. -/
theorem IsRepresentable.sub_natCast {value : Rat} (representable : IsRepresentable value)
    (fine : unitExponent value ≤ 0) {number : Nat} (least : (number : ℚ) ≤ value) :
    IsRepresentable (value - number) := by
  rcases representable.nonneg.eq_or_lt with zero | positive
  · have none : (number : ℚ) = 0 := le_antisymm (least.trans zero.ge) (Nat.cast_nonneg number)
    rwa [none, sub_zero]
  · obtain ⟨count, short⟩ := representable.exists_isShort positive
    have whole : CountsUnits 0 (number : ℚ) := ⟨number, by simp [twoTo_eq]⟩
    obtain ⟨taken, same⟩ := whole.mono fine
    have unit := twoTo_pos (unitExponent value)
    have takenNonnegative : 0 ≤ taken := by
      have natural : (0 : ℚ) ≤ number := Nat.cast_nonneg number
      rw [same] at natural
      exact_mod_cast nonneg_of_mul_nonneg_left natural unit
    have takenLeast : taken ≤ count := by
      have products : (taken : ℚ) * twoTo (unitExponent value) ≤
          count * twoTo (unitExponent value) := by rwa [← same, ← short.same]
      exact_mod_cast le_of_mul_le_mul_right products unit
    refine ⟨count - taken, unitExponent value, by omega, ?_, short.least, ?_⟩
    · exact (Int.sub_le_self count takenNonnegative).trans short.short
    · rw [Int.cast_sub, sub_mul, ← same, ← short.same]

/-- A number is rounded to the one below it as long as less than half a unit is between them. -/
theorem round_le_of_lt_half {value bound : Rat} (representable : IsRepresentable bound)
    (positive : 0 < bound) (less : value < bound + twoTo (unitExponent bound) / 2) :
    round value ≤ bound := by
  rcases le_or_gt value bound with least | above
  · exact round_le_of_le representable least
  · have unit := twoTo_pos (unitExponent bound)
    have units := representable.countsUnits positive
    obtain ⟨below, next⟩ := binaryExponent_spec positive
    have sameUnit : unitExponent value = unitExponent bound := by
      have oneUnit := (countsUnits_zero _).add_le_of_lt units positive
      have coarser : unitExponent bound < binaryExponent bound + 1 :=
        lt_of_twoTo_lt (lt_of_le_of_lt (by linarith) next)
      have further := units.add_le_of_lt (twoTo_countsUnits coarser.le) next
      rw [unitExponent, binaryExponent_eq (below.trans above.le) (by linarith), unitExponent]
    obtain ⟨count, same⟩ := units
    have counted : value / twoTo (unitExponent bound) < count + 1 / 2 := by
      rw [div_lt_iff₀ unit, add_mul, ← same]
      linarith
    have rounded : (roundHalfEven (value / twoTo (unitExponent bound)) : ℚ) < count + 1 := by
      have half := roundHalfEven_le (value / twoTo (unitExponent bound))
      linarith
    calc round value =
          roundHalfEven (value / twoTo (unitExponent bound)) * twoTo (unitExponent bound) := by
          rw [round_eq (positive.trans above), sameUnit]
      _ ≤ count * twoTo (unitExponent bound) := by
          refine mul_le_mul_of_nonneg_right ?_ unit.le
          exact_mod_cast Int.lt_add_one_iff.mp (by exact_mod_cast rounded)
      _ = bound := same.symm

/-- Rounding takes away at most half of what the last digit counts. -/
theorem le_round {value : Rat} (positive : 0 < value) :
    value ≤ round value + twoTo (unitExponent value) / 2 := by
  have units := le_roundHalfEven (value / twoTo (unitExponent value))
  rw [div_le_iff₀ (twoTo_pos _), add_mul, ← round_eq positive] at units
  linarith

/-- A number below a power of two is moved by half a unit at most. -/
theorem round_error {value : Rat} {exponent : Int} (nonnegative : 0 ≤ value)
    (below : value < twoTo exponent) (normal : -1021 ≤ exponent) :
    |round value - value| ≤ twoTo (exponent - 54) := by
  rcases nonnegative.eq_or_lt with zero | positive
  · rw [← zero, round_of_nonpos le_rfl, sub_zero, abs_zero]
    exact (twoTo_pos _).le
  · have smaller := lt_of_twoTo_lt ((binaryExponent_spec positive).1.trans_lt below)
    have unitLeast : twoTo (unitExponent value) ≤ twoTo (exponent - 53) :=
      twoTo_le (max_le (by omega) (by omega))
    have half : twoTo (exponent - 53) = 2 * twoTo (exponent - 54) := by
      have split := twoTo_add 1 (exponent - 54)
      rwa [show 1 + (exponent - 54) = exponent - 53 by omega, show twoTo 1 = 2 from rfl] at split
    have most := round_le positive
    have least := le_round positive
    rw [abs_le]
    constructor <;> linarith

end Binary64

end AssetSearch.Number
