import SiteSearch.Proofs.Score.Float
import SiteSearch.Proofs.Score.Rounding

/-
  What arithmetic on floating-point numbers yields.

  A floating-point number denotes a rational number if it is
  made of its 53 digits and its last place.  Converting a
  positive integer, multiplying and dividing give the number
  that denotes the exact result rounded, as long as it is
  neither too small nor too large.

  Main declarations:
    * `SiteSearch.Binary64.Denotes`
    * `SiteSearch.Binary64.denotes_roundWithAccuracy`
    * `SiteSearch.Binary64.denotes_ofNat`
    * `SiteSearch.Binary64.denotes_mul`
    * `SiteSearch.Binary64.denotes_div`
-/

------------------------------------------------------------
-- Denotation
------------------------------------------------------------

namespace SiteSearch.Binary64

open Float.Model
open Float.Model.UnpackedFloat

/- The parts of a positive number that has 53 digits. -/
def Denotes
    (a : UnpackedFloat)
    (x : ℚ) :
    Prop :=
  ∃ m hPositive,
    a = .finite .positive m (lastPlace x) hPositive ∧
      2 ^ 52 ≤ m ∧ m < 2 ^ 53 ∧ m * 2 ^ lastPlace x = x

/- A mantissa of 53 digits denotes what it is worth. -/
theorem denotes_finite
    {m : Nat}
    (hPositive : 0 < m)
    (hFull : 2 ^ 52 ≤ m)
    (hShort : m < 2 ^ 53)
    (e : ℤ) :
    Denotes (.finite .positive m e hPositive) (m * 2 ^ e) := by
  have hPlace : lastPlace (m * 2 ^ e) = e := by
    rw [lastPlace_mul_zpow (by exact_mod_cast hPositive),
      lastPlace_eq_log2 (by exact_mod_cast hPositive),
      Nat.floor_natCast, log2_eq_of_full hFull hShort]
    omega
  exact ⟨m, hPositive, by rw [hPlace], hFull, hShort, by rw [hPlace]⟩

/- The parts of one. -/
theorem denotes_one :
    Denotes (.finite .positive (2 ^ 52) (-52) (by decide)) 1 := by
  have hWorth : ((2 ^ 52 : Nat) : ℚ) * 2 ^ (-52 : ℤ) = 1 := by
    norm_num
  rw [← hWorth]
  exact denotes_finite _ (by decide) (by decide) _

/- What is denoted needs no rounding. -/
theorem Denotes.rounded_eq
    {a : UnpackedFloat}
    {x : ℚ}
    (hA : Denotes a x) :
    rounded x = x := by
  rcases hA with ⟨m, -, -, -, -, hX⟩
  exact rounded_eq_self hX

end SiteSearch.Binary64

------------------------------------------------------------
-- Rounded Mantissas
------------------------------------------------------------

namespace SiteSearch.Binary64

open Float.Model
open Float.Model.UnpackedFloat

/-
  A mantissa has 53 digits, unless its exponent gets too
  small.
-/
theorem targetExponent_eq
    (total : ℤ) :
    Format.binary64.targetExponent total = max (total - 53) (-1074) :=
  rfl

/- A long mantissa is shifted until it has 53 digits. -/
theorem shiftToTargetExponent_eq
    {m : Nat}
    {e : ℤ}
    {accuracy : Accuracy}
    {x : ℚ}
    (hDigits :
      ExtendedMantissa.ofMantissaAndAccuracy m accuracy = digits x)
    (hFull : 2 ^ 52 ≤ m)
    (hExponent : -1074 ≤ e) :
    shiftToTargetExponent .binary64 m e accuracy =
      (digits (x / 2 ^ (m.log2 - 52)), e + (m.log2 - 52 : Nat)) := by
  have hLog : 52 ≤ m.log2 := (Nat.le_log2 (by omega)).mpr hFull
  have hPlaces :
      (Format.binary64.targetExponent (totalExponent m e) - e).toNat =
        m.log2 - 52 := by
    rw [targetExponent_eq, totalExponent]
    omega
  unfold shiftToTargetExponent shiftToExponent
  simp only [hPlaces, hDigits, shiftRight_digits]

/- A mantissa that rounding made too long is shifted once more. -/
theorem shiftToTargetExponent_carry
    {m : Nat}
    {e : ℤ}
    (hFull : 2 ^ 52 ≤ m)
    (hShort : m ≤ 2 ^ 53)
    (hExponent : -1074 ≤ e) :
    shiftToTargetExponent .binary64 m e .exact =
      if m < 2 ^ 53 then (digits m, e)
      else (digits (2 ^ 52 : Nat), e + 1) := by
  rw [shiftToTargetExponent_eq (ofMantissaAndAccuracy_exact m) hFull
    hExponent]
  split
  · rename_i hLess
    have hLog : m.log2 - 52 = 0 := by
      have hUpper := (Nat.log2_lt (by omega)).mpr hLess
      omega
    rw [hLog, pow_zero, div_one, Nat.cast_zero, add_zero]
  · rename_i hMore
    have hSame : m = 2 ^ 53 := by omega
    rw [hSame, Nat.log2_two_pow]
    norm_num

/-
  Rounding a shifted mantissa gives what the rounded one is
  worth.
-/
theorem denotes_of_shifted
    {m : Nat}
    {e place : ℤ}
    {accuracy : Accuracy}
    {shifted : ExtendedMantissa}
    (hShift :
      shiftToTargetExponent .binary64 m e accuracy = (shifted, place))
    (hFull : 2 ^ 52 ≤ shifted.roundedMantissa)
    (hShort : shifted.roundedMantissa ≤ 2 ^ 53)
    (hPlace : -1074 ≤ place) :
    Denotes (roundWithAccuracy .binary64 .positive m e accuracy)
      (shifted.roundedMantissa * 2 ^ place) := by
  have hCarry := shiftToTargetExponent_carry hFull hShort hPlace
  unfold roundWithAccuracy
  simp only [hShift, hCarry]
  by_cases hLess : shifted.roundedMantissa < 2 ^ 53
  · have hMantissa :
        (digits shifted.roundedMantissa).mantissa =
          shifted.roundedMantissa :=
      Nat.floor_natCast _
    simp only [if_pos hLess, hMantissa]
    rw [dif_neg (by omega)]
    exact denotes_finite _ hFull hLess place
  · have hMantissa : (digits (2 ^ 52 : Nat)).mantissa = 2 ^ 52 :=
      Nat.floor_natCast _
    have hWorth :
        (shifted.roundedMantissa * 2 ^ place : ℚ) =
          (2 ^ 52 : Nat) * 2 ^ (place + 1) := by
      have hCarried : shifted.roundedMantissa = 2 ^ 53 := by omega
      rw [hCarried, zpow_add_one₀ two_ne_zero]
      push_cast
      ring
    simp only [if_neg hLess, hMantissa]
    rw [dif_neg (by decide), hWorth]
    exact denotes_finite _ (by decide) (by decide) (place + 1)

/- Rounding a long mantissa gives its exact number, rounded. -/
theorem denotes_roundWithAccuracy
    {m : Nat}
    {e : ℤ}
    {accuracy : Accuracy}
    {x : ℚ}
    (hDigits :
      ExtendedMantissa.ofMantissaAndAccuracy m accuracy = digits x)
    (hFull : 2 ^ 52 ≤ m)
    (hExponent : -1074 ≤ e) :
    Denotes (roundWithAccuracy .binary64 .positive m e accuracy)
      (rounded (x * 2 ^ e)) := by
  have hFloor : ⌊x⌋₊ = m := by
    have hMantissa :
        (ExtendedMantissa.ofMantissaAndAccuracy m accuracy).mantissa =
          m := by
      rcases accuracy with _ | ⟨_ | _ | _⟩ <;> rfl
    rw [hDigits] at hMantissa
    exact hMantissa
  have hX : 1 ≤ x := by
    rw [← Nat.one_le_floor_iff, hFloor]
    omega
  have hLog : 52 ≤ m.log2 := (Nat.le_log2 (by omega)).mpr hFull
  have hPlaces : lastPlace x = (m.log2 - 52 : Nat) := by
    rw [lastPlace_eq_log2 hX, hFloor]
    omega
  have hValue :
      rounded (x * 2 ^ e) =
        nearest (x / 2 ^ (m.log2 - 52)) *
          2 ^ (e + (m.log2 - 52 : Nat)) := by
    rw [rounded_mul_zpow (one_pos.trans_le hX), rounded, hPlaces,
      zpow_natCast, zpow_add₀ two_ne_zero, zpow_natCast]
    ring
  have hBounds := nearest_mantissa_bounds (one_pos.trans_le hX)
  rw [hPlaces, zpow_natCast] at hBounds
  rw [hValue]
  exact denotes_of_shifted
    (shiftToTargetExponent_eq hDigits hFull hExponent)
    hBounds.1 hBounds.2 (by omega)

end SiteSearch.Binary64

------------------------------------------------------------
-- Packing
------------------------------------------------------------

namespace SiteSearch.Binary64

open Float.Model
open Float.Model.UnpackedFloat

/- A mantissa of 53 digits is unpacked as it was packed. -/
theorem unpack_pack_normal
    {m biased : Nat}
    (hPositive : 0 < m)
    (hFull : 2 ^ 52 ≤ m)
    (hShort : m < 2 ^ 53)
    (hBiased : 0 < biased)
    (hRange : biased < 2047) :
    UnpackedFloat.unpack .binary64
        (UnpackedFloat.pack .binary64
          (.finite .positive m (biased - 1075) hPositive)) =
      .finite .positive m (biased - 1075) hPositive := by
  have hExponent : (BitVec.ofNat 11 biased).toNat = biased := by
    rw [BitVec.toNat_ofNat]
    omega
  have hTop : BitVec.ofNat 11 biased ≠ -1#11 := by
    intro hSame
    have hValue := congrArg BitVec.toNat hSame
    rw [hExponent] at hValue
    change biased = 2047 at hValue
    omega
  have hBottom : BitVec.ofNat 11 biased ≠ 0#11 := by
    intro hSame
    have hValue := congrArg BitVec.toNat hSame
    rw [hExponent] at hValue
    change biased = 0 at hValue
    omega
  have hMantissa : (1#1 ++ BitVec.ofNat 52 m).toNat = m := by
    rw [toNat_one_append, BitVec.toNat_ofNat]
    omega
  have hSign :=
    unpackSign_packComponents .positive (BitVec.ofNat 11 biased)
      (BitVec.ofNat 52 m)
  rw [pack_normal _ _ _ _ hFull hShort hRange]
  unfold UnpackedFloat.unpack
  simp only [unpackExponent_packComponents,
    unpackMantissa_packComponents, hSign, hTop, hBottom, if_false,
    hExponent, hMantissa]
  rfl

/- What denotes a number of moderate size survives packing. -/
theorem Denotes.unpack_pack
    {a : UnpackedFloat}
    {x : ℚ}
    (hA : Denotes a x)
    (hLower : -1074 ≤ lastPlace x)
    (hUpper : lastPlace x ≤ 971) :
    UnpackedFloat.unpack .binary64 (UnpackedFloat.pack .binary64 a) =
      a := by
  rcases hA with ⟨m, hPositive, rfl, hFull, hShort, -⟩
  have hBiased :
      lastPlace x = ((lastPlace x + 1075).toNat : ℤ) - 1075 := by
    omega
  rw [hBiased]
  exact unpack_pack_normal hPositive hFull hShort (by omega) (by omega)

end SiteSearch.Binary64

------------------------------------------------------------
-- Products and Quotients
------------------------------------------------------------

namespace SiteSearch.Binary64

open Float.Model
open Float.Model.UnpackedFloat

variable {a b : UnpackedFloat}
variable {x y : ℚ}

/- A product denotes the exact one, rounded. -/
theorem denotes_mul
    (hA : Denotes a x)
    (hB : Denotes b y)
    (hRange : -1074 ≤ lastPlace x + lastPlace y) :
    Denotes (UnpackedFloat.mul .binary64 a b) (rounded (x * y)) := by
  rcases hA with ⟨m, hM, rfl, hFullM, -, hX⟩
  rcases hB with ⟨n, hN, rfl, -, -, hY⟩
  have hFull : 2 ^ 52 ≤ m * n :=
    hFullM.trans (Nat.le_mul_of_pos_right m hN)
  have hWorth :
      ((m * n : Nat) : ℚ) * 2 ^ (lastPlace x + lastPlace y) =
        x * y := by
    rw [zpow_add₀ two_ne_zero]
    push_cast
    calc
      (m * n * (2 ^ lastPlace x * 2 ^ lastPlace y) : ℚ)
          = (m * 2 ^ lastPlace x) * (n * 2 ^ lastPlace y) := by ring
      _ = x * y := by rw [hX, hY]
  rw [← hWorth]
  exact denotes_roundWithAccuracy (ofMantissaAndAccuracy_exact _) hFull
    hRange

/-
  Dividing 53 digits by 53 digits takes 53 more of the
  dividend.
-/
theorem divCore_eq
    {m n : Nat}
    (hFullM : 2 ^ 52 ≤ m)
    (hShortM : m < 2 ^ 53)
    (hFullN : 2 ^ 52 ≤ n)
    (hShortN : n < 2 ^ 53)
    {d e : ℤ}
    (hRange : -1021 ≤ d - e) :
    divCore .binary64 m d n e =
      (m <<< 53 / n, d - e - 53,
        accuracyOfFraction (m <<< 53 % n) n) := by
  have hTarget :
      min (d - e)
          (Format.binary64.targetExponent
            (totalExponent m d - totalExponent n e)) =
        d - e - 53 := by
    rw [targetExponent_eq, totalExponent, totalExponent,
      log2_eq_of_full hFullM hShortM, log2_eq_of_full hFullN hShortN]
    omega
  unfold divCore
  simp only [hTarget, sub_sub_cancel]
  rfl

/- A quotient denotes the exact one, rounded. -/
theorem denotes_div
    (hA : Denotes a x)
    (hB : Denotes b y)
    (hRange : -1021 ≤ lastPlace x - lastPlace y) :
    Denotes (UnpackedFloat.div .binary64 a b) (rounded (x / y)) := by
  rcases hA with ⟨m, hM, rfl, hFullM, hShortM, hX⟩
  rcases hB with ⟨n, hN, rfl, hFullN, hShortN, hY⟩
  have hCore := divCore_eq hFullM hShortM hFullN hShortN hRange
  have hFull : 2 ^ 52 ≤ m <<< 53 / n := by
    rw [Nat.le_div_iff_mul_le hN, Nat.shiftLeft_eq]
    exact Nat.mul_le_mul hFullM hShortN.le
  have hWorth :
      ((m <<< 53 : Nat) / n : ℚ) *
          2 ^ (lastPlace x - lastPlace y - 53) =
        x / y := by
    rw [Nat.shiftLeft_eq, zpow_sub₀ two_ne_zero, zpow_sub₀ two_ne_zero]
    push_cast
    calc
      (m * 2 ^ 53 / n *
          (2 ^ lastPlace x / 2 ^ lastPlace y / 2 ^ (53 : ℤ)) : ℚ)
          = (m * 2 ^ lastPlace x) / (n * 2 ^ lastPlace y) := by
        norm_num
        field_simp
      _ = x / y := by rw [hX, hY]
  rw [← hWorth]
  unfold UnpackedFloat.div
  simp only [hCore]
  exact denotes_roundWithAccuracy (ofMantissaAndAccuracy_quotient _ hN)
    hFull (by omega)

end SiteSearch.Binary64

------------------------------------------------------------
-- Integers
------------------------------------------------------------

namespace SiteSearch.Binary64

open Float.Model
open Float.Model.UnpackedFloat

variable {n : Nat}

/- An integer times a power of two is rounded as it stands. -/
theorem denotes_normalize
    (hN : 0 < n)
    {e : ℤ}
    (hExponent : -1022 ≤ e)
    (zeroSign : Sign) :
    Denotes (UnpackedFloat.normalize .binary64 n e zeroSign)
      (rounded (n * 2 ^ e)) := by
  have hPlaces :
      (e - Format.binary64.targetExponent (totalExponent n e)).toNat =
        52 - n.log2 := by
    rw [targetExponent_eq, totalExponent]
    omega
  have hFull : 2 ^ 52 ≤ n <<< (52 - n.log2) := by
    rw [Nat.shiftLeft_eq]
    calc
      2 ^ 52 ≤ 2 ^ (n.log2 + (52 - n.log2)) :=
        Nat.pow_le_pow_right two_pos (by omega)
      _ = 2 ^ n.log2 * 2 ^ (52 - n.log2) := Nat.pow_add ..
      _ ≤ n * 2 ^ (52 - n.log2) :=
        Nat.mul_le_mul_right _ (Nat.log2_self_le hN.ne')
  have hWorth :
      ((n <<< (52 - n.log2) : Nat) : ℚ) *
        2 ^ (e - (52 - n.log2 : Nat)) =
        n * 2 ^ e := by
    rw [Nat.shiftLeft_eq, zpow_sub₀ two_ne_zero, zpow_natCast]
    push_cast
    field_simp
  have hRounded :
      UnpackedFloat.normalize .binary64 n e zeroSign =
        roundWithAccuracy .binary64 .positive
          (n <<< (52 - n.log2)) (e - (52 - n.log2 : Nat)) .exact := by
    have hSign : compare (n : Int) 0 = .gt :=
      compare_gt_iff_gt.mpr (Int.natCast_pos.mpr hN)
    unfold UnpackedFloat.normalize
    rw [hSign]
    unfold UnpackedFloat.round decreaseExponent
    simp only [Int.toNat_natCast, hPlaces]
  rw [hRounded, ← hWorth]
  exact denotes_roundWithAccuracy (ofMantissaAndAccuracy_exact _) hFull
    (by omega)

/- A positive integer is converted to itself, rounded. -/
theorem denotes_ofNat_unpacked
    (hN : 0 < n) :
    Denotes (UnpackedFloat.ofNat .binary64 n) (rounded n) := by
  have hNormal := denotes_normalize hN (e := 0) (by omega) .positive
  rw [zpow_zero, mul_one] at hNormal
  exact hNormal

/- Its decimal notation is converted alike. -/
theorem denotes_ofScientific_unpacked
    (hN : 0 < n) :
    Denotes (UnpackedFloat.ofScientific .binary64 n 0) (rounded n) := by
  have hFull : 2 ^ 52 ≤ n <<< 53 * 10 ^ (0 : ℤ).toNat := by
    rw [Int.toNat_zero, pow_zero, mul_one, Nat.shiftLeft_eq]
    omega
  have hWorth :
      ((n <<< 53 * 10 ^ (0 : ℤ).toNat : Nat) : ℚ) * 2 ^ (-53 + 0 : ℤ) =
        n := by
    rw [Nat.shiftLeft_eq, add_zero, zpow_neg]
    push_cast
    simp
  have hLow :
      ¬ (0 : ℤ) < -(2 ^ Format.binary64.exponentBits + n.log2) := by
    have hPower : (0 : ℤ) < 2 ^ Format.binary64.exponentBits := by
      decide
    omega
  have hProduct :
      UnpackedFloat.ofScientific .binary64 n 0 =
        roundWithAccuracy .binary64 .positive
          (n <<< 53 * 10 ^ (0 : ℤ).toNat) (-53 + 0) .exact := by
    unfold UnpackedFloat.ofScientific
    rw [dif_neg hN.ne', if_neg (by decide), if_neg hLow, if_pos le_rfl]
    rfl
  rw [hProduct, ← hWorth]
  exact denotes_roundWithAccuracy (ofMantissaAndAccuracy_exact _) hFull
    (by decide)

/- An integer that fits into a word denotes itself, rounded. -/
theorem denotes_ofNat
    (hN : 0 < n)
    (hShort : n < 2 ^ 64) :
    Denotes (Float.ofNat n).toModel.unpack (rounded n) := by
  have hBounds :
      0 - 52 ≤ lastPlace (rounded n) ∧
        lastPlace (rounded n) ≤ 64 - 52 := by
    apply lastPlace_rounded_bounds
    · exact_mod_cast hN
    · exact_mod_cast hShort.le
  -- Integers below this bound are converted as words, and times one.
  by_cases hFast : n < 2 ^ 53 ∧ 0 ≤ 22
  · have hWord : n.toUInt64.toNat = n :=
      UInt64.toNat_ofNat_of_lt' hShort
    have hUnpacked := denotes_ofNat_unpacked hN
    have hInteger :
        Denotes n.toUInt64.toFloat.toModel.unpack (rounded n) := by
      change Denotes (UnpackedFloat.unpack .binary64
        (UnpackedFloat.pack .binary64
          (UnpackedFloat.ofNat .binary64 n.toUInt64.toNat))) _
      rw [hWord, hUnpacked.unpack_pack (by omega) (by omega)]
      exact hUnpacked
    have hOne :
        Float.exactlyRepresentablePowersOfTen[0].toModel.unpack =
          .finite .positive (2 ^ 52) (-52) (by decide) := rfl
    have hProduct :
        (Float.ofNat n).toModel.unpack =
          UnpackedFloat.unpack .binary64
            (UnpackedFloat.pack .binary64
              (UnpackedFloat.mul .binary64
                n.toUInt64.toFloat.toModel.unpack
                (.finite .positive (2 ^ 52) (-52) (by decide)))) := by
      unfold Float.ofNat OfScientific.ofScientific
        instOfScientificFloat Float.ofScientific
      simp only [dif_pos hFast]
      rw [← hOne]
      rfl
    have hSame : rounded (rounded n * 1) = rounded n := by
      rw [mul_one, hUnpacked.rounded_eq]
    have hRounded := denotes_mul hInteger denotes_one
      (by rw [lastPlace_one]; omega)
    rw [hSame] at hRounded
    rw [hProduct, hRounded.unpack_pack (by omega) (by omega)]
    exact hRounded
  · have hUnpacked := denotes_ofScientific_unpacked hN
    have hSlow :
        (Float.ofNat n).toModel.unpack =
          UnpackedFloat.unpack .binary64
            (UnpackedFloat.pack .binary64
              (UnpackedFloat.ofScientific .binary64 n 0)) := by
      unfold Float.ofNat OfScientific.ofScientific
        instOfScientificFloat Float.ofScientific
      simp only [dif_neg hFast]
      rfl
    rw [hSlow, hUnpacked.unpack_pack (by omega) (by omega)]
    exact hUnpacked

end SiteSearch.Binary64
