import SiteSearch.Proofs.Score.Denotation

/-
  The scores of terms are not negative.

  The place of a term divided by the number of terms is at
  most one, also after rounding, as rounding keeps the order
  of numbers.  So what is left of one is not negative, nor is
  any score that is made of it.  This holds of fields that a
  word can count the terms of.

  Main declarations:
    * `SiteSearch.Binary64.exists_denotes_quotient`
    * `SiteSearch.Binary64.unsigned_one_sub`
    * `SiteSearch.nonNegative_termScore`
-/

------------------------------------------------------------
-- Quotients of Integers
------------------------------------------------------------

namespace SiteSearch.Binary64

open Float.Model
open Float.Model.UnpackedFloat

/-
  Integers that fit into a word are rounded to numbers
  within it.
-/
theorem rounded_natCast_bounds
    {n : Nat}
    (hN : 0 < n)
    (hShort : n < 2 ^ 64) :
    1 ≤ rounded n ∧ rounded n ≤ 2 ^ (64 : ℤ) := by
  have hBounds :
      2 ^ (0 : ℤ) ≤ rounded n ∧ rounded n ≤ 2 ^ (64 : ℤ) := by
    apply rounded_bounds
    · exact_mod_cast hN
    · exact_mod_cast hShort.le
  rwa [zpow_zero] at hBounds

/-
  An integer divided by a larger one is at most one, and not
  too small.
-/
theorem exists_denotes_quotient
    {m n : Nat}
    (hM : 0 < m)
    (hLess : m < n)
    (hShort : n < 2 ^ 64) :
    ∃ x, 2 ^ (-64 : ℤ) ≤ x ∧ x ≤ 1 ∧
      Denotes (Float.ofNat m / Float.ofNat n).toModel.unpack x := by
  have hN : 0 < n := hM.trans hLess
  have hFirst := rounded_natCast_bounds hM (hLess.trans hShort)
  have hSecond := rounded_natCast_bounds hN hShort
  have hPositive : 0 < rounded n := one_pos.trans_le hSecond.1
  have hOrder : rounded m ≤ rounded n := by
    apply rounded_mono
    · exact_mod_cast hM
    · exact_mod_cast hLess.le
  have hUpper : rounded m / rounded n ≤ 2 ^ (0 : ℤ) := by
    rw [zpow_zero]
    exact (div_le_one hPositive).mpr hOrder
  have hLower : 2 ^ (-64 : ℤ) ≤ rounded m / rounded n := by
    rw [le_div_iff₀ hPositive, zpow_neg,
      inv_mul_le_iff₀ (by positivity)]
    calc
      rounded n ≤ 2 ^ (64 : ℤ) := hSecond.2
      _ ≤ 2 ^ (64 : ℤ) * rounded m :=
        le_mul_of_one_le_right (by positivity) hFirst.1
  have hRange :
      -1021 ≤ lastPlace (rounded m) - lastPlace (rounded n) := by
    have hPlaceM := lastPlace_mono one_pos hFirst.1
    have hPlaceN := lastPlace_mono hPositive hSecond.2
    rw [lastPlace_one] at hPlaceM
    rw [lastPlace_zpow] at hPlaceN
    omega
  have hQuotient :=
    denotes_div (denotes_ofNat hM (hLess.trans hShort))
      (denotes_ofNat hN hShort) hRange
  have hPlaces := lastPlace_rounded_bounds hLower hUpper
  have hBounds := rounded_bounds hLower hUpper
  rw [zpow_zero] at hBounds
  refine ⟨rounded (rounded m / rounded n), hBounds.1, hBounds.2, ?_⟩
  change Denotes (UnpackedFloat.unpack .binary64
    (UnpackedFloat.pack .binary64 (UnpackedFloat.div .binary64
      (Float.ofNat m).toModel.unpack
      (Float.ofNat n).toModel.unpack))) _
  rw [hQuotient.unpack_pack (by omega) (by omega)]
  exact hQuotient

end SiteSearch.Binary64

------------------------------------------------------------
-- Signs
------------------------------------------------------------

namespace SiteSearch.Binary64

open Float.Model
open Float.Model.UnpackedFloat

variable {a b : UnpackedFloat}

/- What is at most one has no sign when it is taken from one. -/
theorem unsigned_one_sub
    {x : ℚ}
    (hA : Denotes a x)
    (hX : x ≤ 1) :
    Unsigned (UnpackedFloat.sub .binary64
      (.finite .positive (2 ^ 52) (-52) (by decide)) a) := by
  rcases hA with ⟨m, hM, rfl, -, -, hWorth⟩
  let place := min (-52) (lastPlace x)
  have hFirst :
      ((lastPlace x - place).toNat : ℤ) = lastPlace x - place :=
    Int.toNat_of_nonneg (by omega)
  have hSecond : ((-52 - place).toNat : ℤ) = -52 - place :=
    Int.toNat_of_nonneg (by omega)
  have hScaled :
      (m * 2 ^ (lastPlace x - place) : ℚ) ≤
        2 ^ 52 * 2 ^ (-52 - place) := by
    rw [zpow_sub₀ two_ne_zero, zpow_sub₀ two_ne_zero, ← mul_div_assoc,
      hWorth, ← mul_div_assoc]
    gcongr
    norm_num
    exact hX
  have hOrder :
      m <<< (lastPlace x - place).toNat ≤
        2 ^ 52 <<< (-52 - place).toNat := by
    rw [← hFirst, ← hSecond, zpow_natCast, zpow_natCast] at hScaled
    rw [Nat.shiftLeft_eq, Nat.shiftLeft_eq]
    exact_mod_cast hScaled
  apply unsigned_normalize
  exact Int.sub_nonneg_of_le (Int.ofNat_le.mpr hOrder)

/-
  A product of numbers without a sign has none, if one is
  finite.
-/
theorem unsigned_mul
    (hA : Unsigned a)
    (hB : Unsigned b)
    {m : Nat}
    {e : ℤ}
    {hM : 0 < m}
    (hFinite :
      a = .finite .positive m e hM ∨ b = .finite .positive m e hM) :
    Unsigned (UnpackedFloat.mul .binary64 a b) := by
  rcases hFinite with rfl | rfl
  · rcases b with t | _ | t | ⟨t, n, f, hN⟩
    · subst hB
      rfl
    · exact hB
    · subst hB
      rfl
    · subst hB
      exact unsigned_roundWithAccuracy _ _ _
  · rcases a with t | _ | t | ⟨t, n, f, hN⟩
    · subst hA
      rfl
    · exact hA
    · subst hA
      rfl
    · subst hA
      exact unsigned_roundWithAccuracy _ _ _

end SiteSearch.Binary64

------------------------------------------------------------
-- Scores of Terms
------------------------------------------------------------

namespace SiteSearch

open Float.Model
open Binary64

/- The parts of one half. -/
theorem unpack_half :
    (half : Float).toModel.unpack =
      .finite .positive (2 ^ 52) (-53) (by decide) :=
  rfl

/- Half of a score that is not negative is not negative. -/
theorem nonNegative_half_mul
    {score : Float}
    (hScore : Score.NonNegative score) :
    Score.NonNegative (half * score) := by
  rw [nonNegative_iff_unsigned] at *
  apply unsigned_unpack_pack
  exact unsigned_mul (by rw [unpack_half]; rfl) hScore
    (Or.inl unpack_half)

/- Nor is it when the half comes second. -/
theorem nonNegative_mul_half
    {score : Float}
    (hScore : Score.NonNegative score) :
    Score.NonNegative (score * half) := by
  rw [nonNegative_iff_unsigned] at *
  apply unsigned_unpack_pack
  exact unsigned_mul hScore (by rw [unpack_half]; rfl)
    (Or.inr unpack_half)

/- The first place is zero, and so is its quotient. -/
theorem unpack_zero_div
    {length : Nat}
    (hPositive : 0 < length)
    (hLength : length < 2 ^ 64) :
    (Float.ofNat 0 / Float.ofNat length).toModel.unpack =
      .zero .positive := by
  rcases denotes_ofNat hPositive hLength with ⟨m, hM, hParts, -⟩
  have hZero : (Float.ofNat 0).toModel.unpack = .zero .positive :=
    unpack_zero
  change UnpackedFloat.unpack .binary64
    (UnpackedFloat.pack .binary64 (UnpackedFloat.div .binary64
      (Float.ofNat 0).toModel.unpack
      (Float.ofNat length).toModel.unpack)) = _
  rw [hZero, hParts]
  exact unpack_zero

/- A place takes at most one from one. -/
theorem nonNegative_one_sub
    {position length : Nat}
    (hPosition : position < length)
    (hLength : length < 2 ^ 64) :
    Score.NonNegative
      (Score.ofNat 1 - Score.ofNat position / Score.ofNat length
        : Float) := by
  rw [nonNegative_iff_unsigned]
  apply unsigned_unpack_pack
  rcases Nat.eq_zero_or_pos position with rfl | hPositive
  · have hQuotient := unpack_zero_div hPosition hLength
    change Unsigned (UnpackedFloat.sub .binary64
      (Float.ofNat 1).toModel.unpack
      (Float.ofNat 0 / Float.ofNat length).toModel.unpack)
    rw [hQuotient]
    rfl
  · rcases exists_denotes_quotient hPositive hPosition hLength with
      ⟨x, -, hX, hQuotient⟩
    exact unsigned_one_sub hQuotient hX

/- No term has a negative score. -/
theorem nonNegative_termScore
    (field : SearchedField)
    {position length : Nat}
    (hPosition : position < length)
    (hLength : length < 2 ^ 64)
    (exact : Bool) :
    Score.NonNegative
      (termScore field position length exact : Float) := by
  have hBonus :
      Score.NonNegative (positionBonus position length : Float) := by
    rw [positionBonus, if_pos (by omega)]
    exact nonNegative_half_mul (nonNegative_one_sub hPosition hLength)
  have hBase : Score.NonNegative (baseScore field : Float) := by
    cases field <;> exact Or.inr (by decide)
  have hFull :
      Score.NonNegative
        (baseScore field + positionBonus position length : Float) :=
    LawfulScore.nonNegative_add _ _ hBase hBonus
  cases exact with
  | false => exact nonNegative_mul_half hFull
  | true => exact hFull

end SiteSearch
