import SiteSearch.Proofs.Score.Order
import Mathlib

/-
  Floating-point numbers as scores.

  The order of floating-point numbers is that of their parts:
  first the kind of number, then the exponent, then the
  mantissa.  A number is determined by its parts, and adding
  numbers without a sign yields one without a sign, however
  the sum is rounded.

  Main declarations:
    * `SiteSearch.Binary64.key?`
    * `SiteSearch.Binary64.lt_iff_key?`
    * `SiteSearch.Binary64.eq_of_unpack_eq`
    * the instance of `LawfulScore` for `Float`
-/

------------------------------------------------------------
-- Bits
------------------------------------------------------------

namespace SiteSearch.Binary64

open Float.Model
open Float.Model.UnpackedFloat

@[simp] theorem toBitVec_ofBitVec
    (bit : BitVec 1) :
    (Sign.ofBitVec bit).toBitVec = bit := by
  revert bit
  decide

/- The first bit of packed parts is the sign. -/
theorem unpackSign_packComponents
    (sign : Sign)
    (exponent : BitVec 11)
    (mantissa : BitVec 52) :
    unpackSign (packComponents .binary64 sign exponent mantissa) =
      sign.toBitVec := by
  simp only [unpackSign, packComponents, BitVec.extractLsb]
  ext i hi
  grind

/- Bits are the packing of their parts. -/
theorem packComponents_unpack
    (bits : BitVec Format.binary64.numBits) :
    packComponents .binary64 (Sign.ofBitVec (unpackSign bits))
        (unpackExponent bits) (unpackMantissa bits) =
      bits := by
  simp only [packComponents, toBitVec_ofBitVec, unpackSign,
    unpackExponent, unpackMantissa, BitVec.extractLsb]
  ext i hi
  grind

/-
  A leading one is worth as much as all bits behind it and
  one more.
-/
theorem toNat_one_append
    (mantissa : BitVec 52) :
    (1#1 ++ mantissa).toNat = 2 ^ 52 + mantissa.toNat := by
  rw [BitVec.toNat_append,
    ← Nat.shiftLeft_add_eq_or_of_lt mantissa.isLt]
  rfl

/- Behind the leading one are the other bits. -/
theorem setWidth_one_append
    (mantissa : BitVec 52) :
    (1#1 ++ mantissa).setWidth 52 = mantissa := by
  have hMantissa := mantissa.isLt
  apply BitVec.eq_of_toNat_eq
  rw [BitVec.toNat_setWidth, toNat_one_append]
  omega

end SiteSearch.Binary64

------------------------------------------------------------
-- The Order
------------------------------------------------------------

namespace SiteSearch.Binary64

open Float.Model
open Float.Model.UnpackedFloat

@[simp] theorem compare_negative_positive :
    compare Sign.negative Sign.positive = .lt := rfl

/-
  What decides the place of a number in the order: its kind,
  its exponent and its mantissa.  What is no number has none.
-/
def key? :
    UnpackedFloat → Option (ℤ ×ₗ ℤ ×ₗ ℤ)
  | .notANumber => none
  | .infinity .negative => some (toLex (-2, toLex (0, 0)))
  | .finite .negative m e _ => some (toLex (-1, toLex (-e, -m)))
  | .zero _ => some (toLex (0, toLex (0, 0)))
  | .finite .positive m e _ => some (toLex (1, toLex (e, m)))
  | .infinity .positive => some (toLex (2, toLex (0, 0)))

/- Numbers are in the order of their keys. -/
theorem unpacked_lt_iff_key?
    (a b : UnpackedFloat) :
    a.lt b = true ↔
      ∃ x y, key? a = some x ∧ key? b = some y ∧ x < y := by
  unfold UnpackedFloat.lt
  rcases a with ⟨_ | _⟩ | _ | ⟨_ | _⟩ | ⟨_ | _, m, e, _⟩ <;>
    rcases b with ⟨_ | _⟩ | _ | ⟨_ | _⟩ | ⟨_ | _, n, f, _⟩ <;>
    simp [UnpackedFloat.compare, key?, Prod.Lex.toLex_lt_toLex,
      Ordering.swap_then, Ordering.then_eq_lt, compare_lt_iff_lt,
      compare_gt_iff_gt]

/- Numbers are in the order of the keys of their parts. -/
theorem lt_iff_key?
    (a b : Float) :
    a < b ↔
      ∃ x y, key? a.toModel.unpack = some x ∧
        key? b.toModel.unpack = some y ∧ x < y := by
  rw [← unpacked_lt_iff_key?]
  change decide (a.toModel < b.toModel) = true ↔ _
  rw [decide_eq_true_iff]
  rfl

end SiteSearch.Binary64

------------------------------------------------------------
-- Parts Determine a Number
------------------------------------------------------------

namespace SiteSearch.Binary64

open Float.Model
open Float.Model.UnpackedFloat

/-
  A number with a short mantissa is packed below the normal
  ones.
-/
theorem pack_subnormal
    (sign : Sign)
    (m : Nat)
    (hPositive : 0 < m)
    (hShort : m < 2 ^ 52) :
    UnpackedFloat.pack .binary64 (.finite sign m (-1074) hPositive) =
      packComponents .binary64 sign 0#11 (BitVec.ofNat 52 m) := by
  have hLog : m.log2 < 52 := (Nat.log2_lt hPositive.ne').mpr hShort
  have hBits : ¬ m.log2 + 1 = Format.binary64.mantissaBits := by
    change ¬ m.log2 + 1 = 53
    omega
  unfold UnpackedFloat.pack
  rw [if_neg (by decide), if_neg hBits]

/- A full mantissa has 53 digits. -/
theorem log2_eq_of_full
    {m : Nat}
    (hFull : 2 ^ 52 ≤ m)
    (hShort : m < 2 ^ 53) :
    m.log2 = 52 := by
  have hLower := (Nat.le_log2 (by omega)).mpr hFull
  have hUpper := (Nat.log2_lt (by omega)).mpr hShort
  omega

/- A number with a full mantissa is packed with its exponent. -/
theorem pack_normal
    (sign : Sign)
    (m biased : Nat)
    (hPositive : 0 < m)
    (hFull : 2 ^ 52 ≤ m)
    (hShort : m < 2 ^ 53)
    (hBiased : biased < 2047) :
    UnpackedFloat.pack .binary64
        (.finite sign m (biased - 1075) hPositive) =
      packComponents .binary64 sign (BitVec.ofNat 11 biased)
        (BitVec.ofNat 52 m) := by
  have hBits : m.log2 + 1 = Format.binary64.mantissaBits := by
    rw [log2_eq_of_full hFull hShort]
    rfl
  have hExponent :
      ((biased : Int) - 1075 + Format.binary64.exponentBias +
        Format.binary64.mantissaBitsWithoutImplicit).toNat =
          biased := by
    change ((biased : Int) - 1075 + (1023 : Nat) +
      (52 : Nat)).toNat = biased
    omega
  unfold UnpackedFloat.pack
  simp only [hExponent]
  rw [if_neg (by omega), if_pos hBits]

/- Packing what was unpacked gives the same bits. -/
theorem pack_unpack
    {bits : BitVec Format.binary64.numBits}
    (hValid : Format.binary64.Valid bits) :
    UnpackedFloat.pack .binary64 (UnpackedFloat.unpack .binary64 bits) =
      bits := by
  have hParts := packComponents_unpack bits
  have hMantissa : (unpackMantissa bits).toNat < 2 ^ 52 :=
    (unpackMantissa bits).isLt
  have hExponent : (unpackExponent bits).toNat < 2 ^ 11 :=
    (unpackExponent bits).isLt
  unfold UnpackedFloat.unpack
  by_cases hTop : unpackExponent bits = -1#_
  · by_cases hRest : unpackMantissa bits = 0#_
    · simp only [hTop, hRest, if_true]
      rw [hTop, hRest] at hParts
      exact hParts
    · simp only [hTop, hRest, if_true, if_false]
      exact (hValid.eq_packedNaN hTop hRest).symm
  · by_cases hBottom : unpackExponent bits = 0#_
    · rw [hBottom] at hParts
      by_cases hRest : unpackMantissa bits = 0#_
      · rw [hRest] at hParts
        simp only [hBottom, hRest, if_true, dite_true]
        exact hParts
      · simp only [hBottom, hRest, if_true, dite_false]
        refine (pack_subnormal _ _ _ hMantissa).trans ?_
        rw [BitVec.ofNat_toNat, BitVec.setWidth_eq]
        exact hParts
    · have hBiased : (unpackExponent bits).toNat < 2047 := by
        have hNotTop : (unpackExponent bits).toNat ≠ 2047 :=
          fun hEq => hTop (BitVec.eq_of_toNat_eq hEq)
        omega
      have hLeading := toNat_one_append (unpackMantissa bits)
      simp only [hTop, hBottom, if_false]
      refine (pack_normal _ _ _ _ (by omega) (by omega) hBiased).trans ?_
      rw [BitVec.ofNat_toNat, BitVec.setWidth_eq, BitVec.ofNat_toNat,
        setWidth_one_append]
      exact hParts

/- A number is determined by its parts. -/
theorem eq_of_unpack_eq
    {a b : Float}
    (hParts : a.toModel.unpack = b.toModel.unpack) :
    a = b := by
  rcases a with ⟨⟨x, hX⟩⟩
  rcases b with ⟨⟨y, hY⟩⟩
  have hBits : x.toBitVec = y.toBitVec := by
    rw [← pack_unpack hX, ← pack_unpack hY]
    exact congrArg (UnpackedFloat.pack .binary64) hParts
  have hSame : x = y := UInt64.toBitVec_inj.mp hBits
  subst hSame
  rfl

end SiteSearch.Binary64

------------------------------------------------------------
-- Numbers without a Sign
------------------------------------------------------------

namespace SiteSearch.Binary64

open Float.Model
open Float.Model.UnpackedFloat

/- Zero, a positive number or infinity, all without a sign. -/
def Unsigned :
    UnpackedFloat → Prop
  | .notANumber => False
  | .infinity sign => sign = .positive
  | .zero sign => sign = .positive
  | .finite sign _ _ _ => sign = .positive

/- Rounding keeps the sign. -/
theorem unsigned_roundWithAccuracy
    (m : Nat)
    (e : Int)
    (accuracy : Accuracy) :
    Unsigned (roundWithAccuracy .binary64 .positive m e accuracy) := by
  unfold roundWithAccuracy
  dsimp only
  split <;> rfl

/- Rounding an integer that is not negative gives no sign. -/
theorem unsigned_normalize
    {m : Int}
    (hM : 0 ≤ m)
    (e : Int) :
    Unsigned (UnpackedFloat.normalize .binary64 m e .positive) := by
  unfold UnpackedFloat.normalize
  split
  · rename_i hLess
    exact absurd (compare_lt_iff_lt.mp hLess) (not_lt.mpr hM)
  · rfl
  · exact unsigned_roundWithAccuracy _ _ _

/- A sum of numbers without a sign has none. -/
theorem unsigned_add
    {a b : UnpackedFloat}
    (hA : Unsigned a)
    (hB : Unsigned b) :
    Unsigned (UnpackedFloat.add .binary64 a b) := by
  rcases a with s | _ | s | ⟨s, m, e, hM⟩
  · subst hA
    rcases b with t | _ | t | ⟨t, n, f, hN⟩
    · subst hB
      rfl
    · exact hB
    · rfl
    · rfl
  · exact hA.elim
  · subst hA
    rcases b with t | _ | t | ⟨t, n, f, hN⟩
    · exact hB
    · exact hB
    · subst hB
      rfl
    · exact hB
  · subst hA
    rcases b with t | _ | t | ⟨t, n, f, hN⟩
    · exact hB
    · exact hB
    · rfl
    · subst hB
      exact unsigned_normalize (Int.natCast_nonneg _) _

/- Packed parts without a sign have none when unpacked. -/
theorem unsigned_unpack_packComponents
    {exponent : BitVec 11}
    (hExponent : exponent ≠ -1#11)
    (mantissa : BitVec 52) :
    Unsigned (UnpackedFloat.unpack .binary64
      (packComponents .binary64 .positive exponent mantissa)) := by
  have hSign :=
    unpackSign_packComponents .positive exponent mantissa
  unfold UnpackedFloat.unpack
  simp only [unpackExponent_packComponents,
    unpackMantissa_packComponents, hSign, hExponent, if_false]
  split
  · split <;> rfl
  · rfl

/- Packing keeps the sign. -/
theorem unsigned_unpack_pack
    {a : UnpackedFloat}
    (hA : Unsigned a) :
    Unsigned (UnpackedFloat.unpack .binary64
      (UnpackedFloat.pack .binary64 a)) := by
  rcases a with s | _ | s | ⟨s, m, e, hM⟩
  · subst hA
    rfl
  · exact hA.elim
  · subst hA
    rfl
  · subst hA
    unfold UnpackedFloat.pack
    dsimp only
    split
    · rfl
    · rename_i hBiased
      split
      · apply unsigned_unpack_packComponents
        intro hTop
        have hValue := congrArg BitVec.toNat hTop
        change _ % 2 ^ 11 = 2047 at hValue
        change ¬ 2 ^ 11 ≤ _ at hBiased
        omega
      · exact unsigned_unpack_packComponents (by decide) _

/- A number without a sign has a place in the order. -/
theorem Unsigned.exists_key?
    {a : UnpackedFloat}
    (hA : Unsigned a) :
    ∃ x, key? a = some x := by
  rcases a with s | _ | s | ⟨s, m, e, hM⟩
  · subst hA
    exact ⟨_, rfl⟩
  · exact hA.elim
  · exact ⟨_, rfl⟩
  · subst hA
    exact ⟨_, rfl⟩

/- Numbers without a sign are determined by their place. -/
theorem Unsigned.eq_of_key?_eq
    {a b : UnpackedFloat}
    (hA : Unsigned a)
    (hB : Unsigned b)
    (hKey : key? a = key? b) :
    a = b := by
  rcases a with s | _ | s | ⟨s, m, e, hM⟩ <;>
    rcases b with t | _ | t | ⟨t, n, f, hN⟩ <;>
    cases hA <;> cases hB <;> simp_all [key?]

/- Zero has no sign. -/
theorem unpack_zero :
    (Score.ofNat 0 : Float).toModel.unpack = .zero .positive := rfl

/-
  The positive numbers are those without a sign that are not
  zero.
-/
theorem zero_lt_iff
    (a : Float) :
    (Score.ofNat 0 : Float) < a ↔
      Unsigned a.toModel.unpack ∧
        a.toModel.unpack ≠ .zero .positive := by
  rw [lt_iff_key?, unpack_zero]
  rcases a.toModel.unpack with
      ⟨_ | _⟩ | _ | ⟨_ | _⟩ | ⟨_ | _, m, e, _⟩ <;>
    simp [key?, Unsigned, Prod.Lex.toLex_lt_toLex]

/-
  The scores that are not negative are the numbers without a
  sign.
-/
theorem nonNegative_iff_unsigned
    (a : Float) :
    Score.NonNegative a ↔ Unsigned a.toModel.unpack := by
  unfold Score.NonNegative
  rw [zero_lt_iff]
  constructor
  · rintro (rfl | hPositive)
    · rw [unpack_zero]
      rfl
    · exact hPositive.1
  · intro hA
    by_cases hSame : a.toModel.unpack = .zero .positive
    · exact Or.inl (eq_of_unpack_eq (hSame.trans unpack_zero.symm))
    · exact Or.inr ⟨hA, hSame⟩

end SiteSearch.Binary64

------------------------------------------------------------
-- The Laws
------------------------------------------------------------

namespace SiteSearch

open Binary64

instance : LawfulScore Float where
  lt_irrefl a := by
    rw [lt_iff_key?]
    rintro ⟨x, y, hX, hY, hLess⟩
    rw [Option.some.inj (hX.symm.trans hY)] at hLess
    exact lt_irrefl y hLess
  lt_trans a b c hFirst hSecond := by
    rw [lt_iff_key?] at *
    rcases hFirst with ⟨x, y, hX, hY, hLess⟩
    rcases hSecond with ⟨y', z, hY', hZ, hMore⟩
    rw [Option.some.inj (hY'.symm.trans hY)] at hMore
    exact ⟨x, z, hX, hZ, hLess.trans hMore⟩
  eq_of_positive a b hA hB hLess hMore := by
    have hUnsignedA := ((zero_lt_iff a).mp hA).1
    have hUnsignedB := ((zero_lt_iff b).mp hB).1
    rcases hUnsignedA.exists_key? with ⟨x, hX⟩
    rcases hUnsignedB.exists_key? with ⟨y, hY⟩
    have hSame : x = y := by
      apply le_antisymm
      · exact not_lt.mp fun hLt =>
          hMore ((lt_iff_key? b a).mpr ⟨y, x, hY, hX, hLt⟩)
      · exact not_lt.mp fun hLt =>
          hLess ((lt_iff_key? a b).mpr ⟨x, y, hX, hY, hLt⟩)
    apply eq_of_unpack_eq
    apply hUnsignedA.eq_of_key?_eq hUnsignedB
    rw [hX, hY, hSame]
  nonNegative_add a b hA hB := by
    rw [nonNegative_iff_unsigned] at *
    exact unsigned_unpack_pack (unsigned_add hA hB)

end SiteSearch
