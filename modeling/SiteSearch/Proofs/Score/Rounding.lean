import Mathlib

/-
  Rounding to 53 digits.

  Arithmetic on floating-point numbers keeps 53 binary digits
  of a result, the one behind them, and whether more of them
  follow.  These are the digits of an exact result, a rational
  number, however it was computed, and they suffice to round
  it.  Rounding keeps the order of numbers.

  Main declarations:
    * `SiteSearch.Binary64.digits`
    * `SiteSearch.Binary64.nearest`
    * `SiteSearch.Binary64.rounded`
    * `SiteSearch.Binary64.rounded_mono`
-/

------------------------------------------------------------
-- Digits
------------------------------------------------------------

namespace SiteSearch.Binary64

open Float.Model
open Float.Model.UnpackedFloat

/-
  The digits of a number before the point, the one behind it,
  and whether more of them follow.
-/
def digits
    (x : ℚ) :
    ExtendedMantissa where
  mantissa := ⌊x⌋₊
  roundBit := ⌊2 * x⌋₊ % 2 != 0
  stickyBit := decide (2 * x ≠ ⌊2 * x⌋₊)

/- The digits before the point are those of the double but one. -/
theorem floor_two_mul_div_two
    (x : ℚ) :
    ⌊2 * x⌋₊ / 2 = ⌊x⌋₊ := by
  rw [← Nat.floor_div_natCast]
  congr 1
  push_cast
  ring

/- Shifting the digits by one place halves the number. -/
theorem shiftRightOne_digits
    (x : ℚ) :
    (digits x).shiftRightOne = digits (x / 2) := by
  have hTwice : 2 * (x / 2) = x := by ring
  have hHalf : ⌊x⌋₊ / 2 = ⌊x / 2⌋₊ := by
    rw [← floor_two_mul_div_two (x / 2), hTwice]
  -- Digits follow if the digit behind the point is set, or any
  -- after it.
  have hRest :
      (⌊2 * x⌋₊ % 2 != 0 || decide (2 * x ≠ ⌊2 * x⌋₊)) =
        decide (x ≠ ⌊x⌋₊) := by
    rw [Bool.eq_iff_iff, Bool.or_eq_true, bne_iff_ne,
      decide_eq_true_iff, decide_eq_true_iff]
    constructor
    · intro hDigits hWhole
      have hDouble : 2 * x = ((2 * ⌊x⌋₊ : Nat) : ℚ) := by
        push_cast
        rw [← hWhole]
      rw [hDouble, Nat.floor_natCast] at hDigits
      simp at hDigits
    · intro hPart
      by_contra hNone
      rw [not_or, not_not, not_not] at hNone
      apply hPart
      have hEven : ⌊2 * x⌋₊ = 2 * ⌊x⌋₊ := by
        have hFloor := floor_two_mul_div_two x
        omega
      have hDouble : 2 * x = 2 * ⌊x⌋₊ := by
        have hWhole := hNone.2
        rw [hEven] at hWhole
        exact_mod_cast hWhole
      linarith
  unfold ExtendedMantissa.shiftRightOne digits
  rw [hTwice]
  simp only [hHalf, hRest]

/- Shifting the digits divides the number by a power of two. -/
theorem shiftRight_digits
    (x : ℚ)
    (places : Nat) :
    digits x >>> places = digits (x / 2 ^ places) := by
  change Nat.repeat ExtendedMantissa.shiftRightOne places (digits x) = _
  induction places with
  | zero =>
      rw [pow_zero, div_one]
      rfl
  | succ places ih =>
      rw [Nat.repeat, ih, shiftRightOne_digits, pow_succ, div_div]

/-
  A number lies above some number of halves, or it is that
  many.
-/
theorem digits_eq
    {x : ℚ}
    (m : Nat)
    (bit : Bool)
    (hLower : 2 * m + bit.toNat ≤ 2 * x)
    (hUpper : 2 * x < 2 * m + bit.toNat + 1) :
    digits x = ⟨m, bit, decide (2 * x ≠ 2 * m + bit.toNat)⟩ := by
  have hHalves : ⌊2 * x⌋₊ = 2 * m + bit.toNat := by
    rw [Nat.floor_eq_iff (le_trans (by positivity) hLower)]
    push_cast
    exact ⟨hLower, hUpper⟩
  have hBit : bit.toNat < 2 := by cases bit <;> decide
  have hWhole : ⌊x⌋₊ = m := by
    rw [← floor_two_mul_div_two, hHalves]
    omega
  unfold digits
  rw [hWhole, hHalves]
  cases bit <;> simp

/- An exact mantissa has no digits behind the point. -/
theorem ofMantissaAndAccuracy_exact
    (m : Nat) :
    ExtendedMantissa.ofMantissaAndAccuracy m .exact = digits m := by
  rw [digits_eq m false (by simp) (by simp)]
  simp [ExtendedMantissa.ofMantissaAndAccuracy]

/-
  The remainder of a division tells the digits of the
  quotient.
-/
theorem ofMantissaAndAccuracy_quotient
    (m : Nat)
    {n : Nat}
    (hN : 0 < n) :
    ExtendedMantissa.ofMantissaAndAccuracy (m / n)
        (accuracyOfFraction (m % n) n) =
      digits (m / n) := by
  have hPositive : (0 : ℚ) < n := by exact_mod_cast hN
  generalize hPart : ((2 * (m % n) : Nat) : ℚ) / n = part
  have hTwice : (2 * (m / n) : ℚ) = 2 * (m / n : Nat) + part := by
    have hParts : (n : ℚ) * (m / n : Nat) + (m % n : Nat) = m := by
      exact_mod_cast Nat.div_add_mod m n
    rw [← hParts, ← hPart]
    push_cast
    field_simp
  have hDigits : ∀ bit : Bool,
      bit.toNat ≤ part → part < bit.toNat + 1 →
        digits (m / n) = ⟨m / n, bit, decide (part ≠ bit.toNat)⟩ := by
    intro bit hLower hUpper
    rw [digits_eq (m / n) bit (by linarith) (by linarith), hTwice]
    simp
  unfold accuracyOfFraction
  rcases Nat.eq_zero_or_pos (m % n) with hExact | hInexact
  · have hZero : part = 0 := by
      rw [← hPart, hExact]
      simp
    rw [if_pos hExact,
      hDigits false (by simp [hZero]) (by simp [hZero])]
    simp [hZero, ExtendedMantissa.ofMantissaAndAccuracy]
  · have hAbove : 0 < part := by
      rw [← hPart]
      exact div_pos (by exact_mod_cast Nat.mul_pos two_pos hInexact)
        hPositive
    rw [if_neg hInexact.ne']
    rcases lt_trichotomy (2 * (m % n)) n with hLow | hMiddle | hHigh
    · have hBelow : part < 1 := by
        rw [← hPart, div_lt_one hPositive]
        exact_mod_cast hLow
      rw [hDigits false hAbove.le (by simpa using hBelow),
        compare_lt_iff_lt.mpr hLow]
      simp [hAbove.ne', ExtendedMantissa.ofMantissaAndAccuracy]
    · have hOne : part = 1 := by
        rw [← hPart, hMiddle, div_self hPositive.ne']
      rw [hDigits true (by simp [hOne]) (by simp [hOne]),
        compare_eq_iff_eq.mpr hMiddle]
      simp [hOne, ExtendedMantissa.ofMantissaAndAccuracy]
    · have hOver : 1 < part := by
        rw [← hPart, one_lt_div hPositive]
        exact_mod_cast hHigh
      have hLess : part < 2 := by
        rw [← hPart, div_lt_iff₀ hPositive]
        exact_mod_cast Nat.mul_lt_mul_of_pos_left (Nat.mod_lt m hN)
          two_pos
      rw [hDigits true (by simpa using hOver.le)
          (by simpa using by linarith),
        compare_gt_iff_gt.mpr hHigh]
      simp [hOver.ne', ExtendedMantissa.ofMantissaAndAccuracy]

end SiteSearch.Binary64

------------------------------------------------------------
-- The Nearest Integer
------------------------------------------------------------

namespace SiteSearch.Binary64

open Float.Model.UnpackedFloat

/-
  The nearest integer, and the even one of two that are
  equally near.
-/
def nearest
    (x : ℚ) :
    Nat :=
  (digits x).roundedMantissa

/-
  An odd half is rounded up, unless it is exact and the
  integer even.
-/
theorem nearest_eq
    (x : ℚ) :
    nearest x =
      if ⌊2 * x⌋₊ % 2 = 0 then ⌊2 * x⌋₊ / 2
      else if 2 * x = ⌊2 * x⌋₊ then
        ⌊2 * x⌋₊ / 2 + ⌊2 * x⌋₊ / 2 % 2
      else ⌊2 * x⌋₊ / 2 + 1 := by
  have hBit :
      (⌊2 * x⌋₊ % 2 != 0) = !decide (⌊2 * x⌋₊ % 2 = 0) := rfl
  unfold nearest ExtendedMantissa.roundedMantissa digits
  rw [hBit, ← floor_two_mul_div_two]
  by_cases hEven : ⌊2 * x⌋₊ % 2 = 0
  · rw [if_pos hEven, decide_eq_true hEven]
    by_cases hExact : 2 * x = ⌊2 * x⌋₊
    · rw [decide_eq_false (not_not.mpr hExact)]
      rfl
    · rw [decide_eq_true hExact]
      rfl
  · rw [if_neg hEven, decide_eq_false hEven]
    by_cases hExact : 2 * x = ⌊2 * x⌋₊
    · rw [if_pos hExact, decide_eq_false (not_not.mpr hExact)]
      rfl
    · rw [if_neg hExact, decide_eq_true hExact]
      rfl

/- An integer is the nearest one of itself. -/
theorem nearest_natCast
    (n : Nat) :
    nearest n = n := by
  have hTwice : (2 * (n : ℚ)) = ((2 * n : Nat) : ℚ) := by
    push_cast
    rfl
  rw [nearest_eq, hTwice, Nat.floor_natCast]
  split <;> omega

/- The nearest integers are in the order of the numbers. -/
theorem nearest_mono
    {x y : ℚ}
    (hX : 0 ≤ x)
    (hLe : x ≤ y) :
    nearest x ≤ nearest y := by
  have hTwice : 2 * x ≤ 2 * y :=
    mul_le_mul_of_nonneg_left hLe zero_le_two
  have hHalves : ⌊2 * x⌋₊ ≤ ⌊2 * y⌋₊ := Nat.floor_mono hTwice
  rw [nearest_eq, nearest_eq]
  rcases hHalves.lt_or_eq with hLess | hSame
  · split_ifs <;> omega
  · rw [← hSame]
    by_cases hExact : 2 * x = ⌊2 * x⌋₊
    · split_ifs <;> omega
    · have hInexact : ¬ 2 * y = ⌊2 * x⌋₊ := by
        intro hY
        have hFloor := Nat.floor_le (mul_nonneg zero_le_two hX)
        exact hExact (le_antisymm (hTwice.trans hY.le) hFloor)
      rw [if_neg hExact, if_neg hInexact]

end SiteSearch.Binary64

------------------------------------------------------------
-- The Last Place
------------------------------------------------------------

namespace SiteSearch.Binary64

/- The exponent of the last of the 53 digits of a number. -/
def lastPlace
    (x : ℚ) :
    ℤ :=
  Int.log 2 x - 52

theorem lastPlace_one :
    lastPlace 1 = -52 := by
  rw [lastPlace, Int.log_one_right]
  rfl

/- The last place moves with the exponent. -/
theorem lastPlace_mul_zpow
    {x : ℚ}
    (hX : 0 < x)
    (e : ℤ) :
    lastPlace (x * 2 ^ e) = lastPlace x + e := by
  have hLog : Int.log 2 (x * 2 ^ e) = Int.log 2 x + e := by
    apply eq_of_forall_le_iff
    intro z
    have hPower : (0 : ℚ) < 2 ^ e := by positivity
    rw [← Int.zpow_le_iff_le_log one_lt_two (mul_pos hX hPower),
      ← sub_le_iff_le_add, ← Int.zpow_le_iff_le_log one_lt_two hX,
      Nat.cast_ofNat, zpow_sub₀ two_ne_zero, div_le_iff₀ hPower]
  rw [lastPlace, hLog, lastPlace]
  ring

/- The last place of a power of two. -/
theorem lastPlace_zpow
    (e : ℤ) :
    lastPlace (2 ^ e) = e - 52 := by
  have hMoved := lastPlace_mul_zpow one_pos e
  rw [one_mul, lastPlace_one] at hMoved
  omega

/- The last place depends on the digits before the point only. -/
theorem lastPlace_eq_log2
    {x : ℚ}
    (hX : 1 ≤ x) :
    lastPlace x = (⌊x⌋₊).log2 - 52 := by
  rw [lastPlace, Int.log_of_one_le_right _ hX, Nat.log2_eq_log_two]

/- Last places are in the order of the numbers. -/
theorem lastPlace_mono
    {x y : ℚ}
    (hX : 0 < x)
    (hLe : x ≤ y) :
    lastPlace x ≤ lastPlace y :=
  Int.sub_le_sub_right (Int.log_mono_right hX hLe) 52

/- A positive number has 53 digits up to its last place. -/
theorem mantissa_bounds
    {x : ℚ}
    (hX : 0 < x) :
    2 ^ 52 ≤ x / 2 ^ lastPlace x ∧ x / 2 ^ lastPlace x < 2 ^ 53 := by
  have hPower : (0 : ℚ) < 2 ^ lastPlace x := by positivity
  have hLower := Int.zpow_log_le_self (b := 2) one_lt_two hX
  have hUpper := Int.lt_zpow_succ_log_self (b := 2) one_lt_two x
  have hLog :
      (2 : ℚ) ^ Int.log 2 x = 2 ^ 52 * 2 ^ lastPlace x := by
    rw [lastPlace, zpow_sub₀ two_ne_zero]
    norm_num
    ring
  rw [Nat.cast_ofNat, hLog] at hLower
  rw [Nat.cast_ofNat, zpow_add_one₀ two_ne_zero, hLog] at hUpper
  rw [le_div_iff₀ hPower, div_lt_iff₀ hPower]
  exact ⟨hLower, by linarith⟩

/-
  Rounding them yields 53 digits, or the least integer with
  one more.
-/
theorem nearest_mantissa_bounds
    {x : ℚ}
    (hX : 0 < x) :
    2 ^ 52 ≤ nearest (x / 2 ^ lastPlace x) ∧
      nearest (x / 2 ^ lastPlace x) ≤ 2 ^ 53 := by
  have hMantissa := mantissa_bounds hX
  constructor
  · rw [← nearest_natCast (2 ^ 52)]
    apply nearest_mono (by positivity)
    push_cast
    exact hMantissa.1
  · rw [← nearest_natCast (2 ^ 53)]
    apply nearest_mono (by positivity)
    push_cast
    exact hMantissa.2.le

end SiteSearch.Binary64

------------------------------------------------------------
-- Rounding
------------------------------------------------------------

namespace SiteSearch.Binary64

/- A positive number, rounded to 53 digits. -/
def rounded
    (x : ℚ) :
    ℚ :=
  nearest (x / 2 ^ lastPlace x) * 2 ^ lastPlace x

/- Rounding commutes with moving the exponent. -/
theorem rounded_mul_zpow
    {x : ℚ}
    (hX : 0 < x)
    (e : ℤ) :
    rounded (x * 2 ^ e) = rounded x * 2 ^ e := by
  have hPower : (2 : ℚ) ^ e ≠ 0 := by positivity
  unfold rounded
  rw [lastPlace_mul_zpow hX, zpow_add₀ two_ne_zero,
    mul_div_mul_right _ _ hPower, mul_assoc]

/- A number with 53 digits is rounded to itself. -/
theorem rounded_eq_self
    {x : ℚ}
    {m : Nat}
    (hX : m * 2 ^ lastPlace x = x) :
    rounded x = x := by
  have hMantissa : x / 2 ^ lastPlace x = m := by
    rw [div_eq_iff (by positivity)]
    exact hX.symm
  rw [rounded, hMantissa, nearest_natCast]
  exact hX

/- A power of two is rounded to itself. -/
theorem rounded_zpow
    (e : ℤ) :
    rounded (2 ^ e) = 2 ^ e := by
  apply rounded_eq_self (m := 2 ^ 52)
  rw [lastPlace_zpow, zpow_sub₀ two_ne_zero]
  norm_num
  ring

/- Rounded numbers are in the order of the numbers. -/
theorem rounded_mono
    {x y : ℚ}
    (hX : 0 < x)
    (hLe : x ≤ y) :
    rounded x ≤ rounded y := by
  have hY : 0 < y := hX.trans_le hLe
  have hPlaces : lastPlace x ≤ lastPlace y := lastPlace_mono hX hLe
  unfold rounded
  rcases hPlaces.lt_or_eq with hLess | hSame
  · -- A power of two lies between numbers with different last places.
    have hBelow := (nearest_mantissa_bounds hX).2
    have hAbove := (nearest_mantissa_bounds hY).1
    calc
      (nearest (x / 2 ^ lastPlace x) : ℚ) * 2 ^ lastPlace x
          ≤ 2 ^ 53 * 2 ^ lastPlace x := by
        gcongr
        exact_mod_cast hBelow
      _ = 2 ^ 52 * 2 ^ (lastPlace x + 1) := by
        rw [zpow_add_one₀ two_ne_zero]
        ring
      _ ≤ 2 ^ 52 * 2 ^ lastPlace y := by
        gcongr
        · exact one_le_two
        · omega
      _ ≤ nearest (y / 2 ^ lastPlace y) * 2 ^ lastPlace y := by
        gcongr
        exact_mod_cast hAbove
  · rw [← hSame]
    gcongr
    apply nearest_mono (by positivity)
    gcongr

/-
  Powers of two around a number are around what it is
  rounded to.
-/
theorem rounded_bounds
    {x : ℚ}
    {d e : ℤ}
    (hLower : 2 ^ d ≤ x)
    (hUpper : x ≤ 2 ^ e) :
    2 ^ d ≤ rounded x ∧ rounded x ≤ 2 ^ e := by
  have hPower : (0 : ℚ) < 2 ^ d := by positivity
  have hBelow := rounded_mono hPower hLower
  have hAbove := rounded_mono (hPower.trans_le hLower) hUpper
  rw [rounded_zpow] at hBelow hAbove
  exact ⟨hBelow, hAbove⟩

/- Such powers also confine the last place. -/
theorem lastPlace_rounded_bounds
    {x : ℚ}
    {d e : ℤ}
    (hLower : 2 ^ d ≤ x)
    (hUpper : x ≤ 2 ^ e) :
    d - 52 ≤ lastPlace (rounded x) ∧
      lastPlace (rounded x) ≤ e - 52 := by
  have hPower : (0 : ℚ) < 2 ^ d := by positivity
  have hRounded := rounded_bounds hLower hUpper
  rw [← lastPlace_zpow, ← lastPlace_zpow]
  exact ⟨lastPlace_mono hPower hRounded.1,
    lastPlace_mono (hPower.trans_le hRounded.1) hRounded.2⟩

end SiteSearch.Binary64
