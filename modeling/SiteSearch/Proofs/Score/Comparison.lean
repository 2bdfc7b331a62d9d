import SiteSearch.Proofs.Score.Float

/-
  Comparing floating-point numbers.

  Numbers are in the order of their keys, the two zeros have
  the same key, and infinities have keys as well.  So numbers
  compare with each other, and those of which neither is less
  are the same number.  What is no number compares with
  nothing.

  Main declarations:
    * `SiteSearch.Binary64.isNaN_eq_false_iff`
    * `SiteSearch.Binary64.beq_iff_not_lt`
    * `SiteSearch.Binary64.lt_or_lt_of_lt`
    * `SiteSearch.Binary64.not_lt_of_isNaN`
-/

------------------------------------------------------------
-- Keys
------------------------------------------------------------

namespace SiteSearch.Binary64

open Float.Model
open Float.Model.UnpackedFloat

@[simp] theorem compare_sign_self
    (sign : Sign) :
    compare sign sign = .eq := by
  cases sign <;> rfl

/- What is a number has a key, and nothing else has one. -/
theorem isNaN_eq_false_iff
    (a : Float) :
    a.isNaN = false ↔ ∃ x, key? a.toModel.unpack = some x := by
  change a.toModel.unpack.isNaN = false ↔ _
  rcases a.toModel.unpack with
      ⟨_ | _⟩ | _ | ⟨_ | _⟩ | ⟨_ | _, m, e, _⟩ <;>
    simp [UnpackedFloat.isNaN, key?]

/-
  Parts are those of the same number if they have the same
  key.
-/
theorem unpacked_beq_iff_key?
    (a b : UnpackedFloat) :
    a.beq b = true ↔ ∃ x, key? b = some x ∧ key? a = some x := by
  unfold UnpackedFloat.beq
  rcases a with ⟨_ | _⟩ | _ | ⟨_ | _⟩ | ⟨_ | _, m, e, _⟩ <;>
    rcases b with ⟨_ | _⟩ | _ | ⟨_ | _⟩ | ⟨_ | _, n, f, _⟩ <;>
    simp [UnpackedFloat.compare, key?, Ordering.then_eq_eq]

/- A number is less than another one if its key is. -/
theorem lt_iff_of_key?
    {a b : Float}
    {x y : ℤ ×ₗ ℤ ×ₗ ℤ}
    (hX : key? a.toModel.unpack = some x)
    (hY : key? b.toModel.unpack = some y) :
    a < b ↔ x < y := by
  rw [lt_iff_key?, hX, hY]
  constructor
  · rintro ⟨_, _, hFirst, hSecond, hLess⟩
    rwa [← Option.some.inj hFirst, ← Option.some.inj hSecond] at hLess
  · exact fun hLess => ⟨x, y, rfl, rfl, hLess⟩

/- Two numbers are the same if they have the same key. -/
theorem beq_iff_of_key?
    {a b : Float}
    {x y : ℤ ×ₗ ℤ ×ₗ ℤ}
    (hX : key? a.toModel.unpack = some x)
    (hY : key? b.toModel.unpack = some y) :
    (a == b) = true ↔ x = y := by
  refine (unpacked_beq_iff_key? a.toModel.unpack b.toModel.unpack).trans ?_
  rw [hX, hY]
  constructor
  · rintro ⟨_, hSecond, hFirst⟩
    exact Option.some.inj (hFirst.trans hSecond.symm)
  · rintro rfl
    exact ⟨x, rfl, rfl⟩

end SiteSearch.Binary64

------------------------------------------------------------
-- Numbers
------------------------------------------------------------

namespace SiteSearch.Binary64

/- Two numbers are the same if neither of them is less. -/
theorem beq_iff_not_lt
    {a b : Float}
    (hA : a.isNaN = false)
    (hB : b.isNaN = false) :
    (a == b) = true ↔ ¬ a < b ∧ ¬ b < a := by
  rcases (isNaN_eq_false_iff a).mp hA with ⟨x, hX⟩
  rcases (isNaN_eq_false_iff b).mp hB with ⟨y, hY⟩
  rw [beq_iff_of_key? hX hY, lt_iff_of_key? hX hY, lt_iff_of_key? hY hX,
    not_lt, not_lt, and_comm, ← le_antisymm_iff]

/- A number is apart from one of two others that are apart. -/
theorem lt_or_lt_of_lt
    {b : Float}
    (hB : b.isNaN = false)
    {a c : Float}
    (hLess : a < c) :
    a < b ∨ b < c := by
  rcases (isNaN_eq_false_iff b).mp hB with ⟨y, hY⟩
  rcases (lt_iff_key? a c).mp hLess with ⟨x, z, hX, hZ, hKeys⟩
  rw [lt_iff_of_key? hX hY, lt_iff_of_key? hY hZ]
  rcases lt_or_ge x y with hFirst | hFirst
  · exact Or.inl hFirst
  · exact Or.inr (hFirst.trans_lt hKeys)

/- What is no number is neither less nor more than anything. -/
theorem not_lt_of_isNaN
    {a : Float}
    (hA : a.isNaN = true)
    (b : Float) :
    ¬ a < b ∧ ¬ b < a := by
  have hNone : ∀ x, key? a.toModel.unpack ≠ some x := by
    intro x hX
    have hNumber := (isNaN_eq_false_iff a).mpr ⟨x, hX⟩
    rw [hA] at hNumber
    cases hNumber
  rw [lt_iff_key?, lt_iff_key?]
  constructor
  · rintro ⟨x, -, hX, -⟩
    exact hNone x hX
  · rintro ⟨-, x, -, hX, -⟩
    exact hNone x hX

end SiteSearch.Binary64
