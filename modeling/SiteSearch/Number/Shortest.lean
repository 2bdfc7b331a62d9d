/-
  Shortest decimal digits of a floating-point number.

  Key definitions include:
    * `SiteSearch.Number.Binary`
    * `SiteSearch.Number.Binary.ofFloat`
    * `SiteSearch.Number.Decimal`
    * `SiteSearch.Number.shortest`

  A finite number is a significand times a power of two.  Many
  decimals round to it; they form an interval around it whose
  ends belong to it when the significand is even.  Among them
  those on the coarsest decimal grid have the fewest digits,
  and of these the one nearest to the number is chosen.
-/

------------------------------------------------------------
-- Binary Numbers
------------------------------------------------------------

namespace SiteSearch.Number

/-
  The size of a finite floating-point number: a significand
  times a power of two.  The gap below it is half the gap above
  when the number is the smallest of its power of two.
-/
structure Binary where
  significand : Nat
  exponent : Int
  halvesBelow : Bool
deriving DecidableEq, Repr

/-
  The size of a floating-point number, by its exponent and
  fraction bits.
-/
def Binary.ofFloat
    (x : Float) :
    Binary :=
  let bits : Nat := x.toBits.toNat
  let hidden := Nat.pow 2 52
  let field := bits / hidden % 2048
  let fraction := bits % hidden
  if field = 0 then ⟨fraction, -1074, false⟩
  else
    ⟨hidden + fraction, (field : Int) - 1075,
      fraction == 0 && decide (1 < field)⟩

end SiteSearch.Number

------------------------------------------------------------
-- Decimal Grids
------------------------------------------------------------

namespace SiteSearch.Number

/- A decimal number: some digits times a power of ten. -/
structure Decimal where
  digits : Nat
  exponent : Int
deriving DecidableEq, Repr

/-
  The interval of numbers that round to a binary number,
  measured in steps of which each decimal grid point is a
  whole number.  `step` is the width of the grid.
-/
structure Window where
  low : Nat
  middle : Nat
  high : Nat
  closed : Bool
  step : Nat

/-
  The interval of a binary number beside the grid of a power
  of ten.
-/
def window
    (number : Binary)
    (exponent : Int) :
    Window :=
  let scale :=
    Nat.pow 2 (number.exponent - 2).toNat *
      Nat.pow 10 (-exponent).toNat
  let quarters := 4 * number.significand
  {
    low :=
      (if number.halvesBelow then quarters - 1 else quarters - 2) *
        scale
    middle := quarters * scale
    high := (quarters + 2) * scale
    closed := number.significand % 2 == 0
    step :=
      Nat.pow 2 (2 - number.exponent).toNat * Nat.pow 10 exponent.toNat
  }

/- Whether a grid point lies in the interval. -/
def Window.holds
    (w : Window)
    (point : Nat) :
    Bool :=
  if w.closed then
    decide (w.low ≤ point * w.step) && decide (point * w.step ≤ w.high)
  else
    decide (w.low < point * w.step) && decide (point * w.step < w.high)

/-
  The grid point in the interval nearest to its middle, zero
  left out.  Of two equally near ones the even one is chosen.
-/
def Window.nearest?
    (w : Window) :
    Option Nat :=
  let below := w.middle / w.step
  let above := below + 1
  match decide (0 < below) && w.holds below, w.holds above with
  | false, false => none
  | true, false => some below
  | false, true => some above
  | true, true =>
      let left := w.middle - below * w.step
      let right := above * w.step - w.middle
      if left < right then some below
      else if right < left then some above
      else if below % 2 = 0 then some below
      else some above

/- Search ever finer grids, a bounded number of them. -/
def shortestFrom
    (number : Binary)
    (exponent : Int) :
    Nat → Option Decimal
  | 0 => none
  | rounds + 1 =>
      match (window number exponent).nearest? with
      | some digits => some ⟨digits, exponent⟩
      | none => shortestFrom number (exponent - 1) rounds

/-
  The shortest decimal that rounds to a binary number.  The
  search starts at a power of ten above the number and ends at
  the latest where the number itself is a grid point.
-/
def shortest
    (number : Binary) :
    Decimal :=
  let start :=
    (Nat.toDigits 10
      (number.significand * Nat.pow 2 number.exponent.toNat)).length
  let rounds := start + (-number.exponent).toNat + 1
  if number.significand = 0 then ⟨0, 0⟩
  else (shortestFrom number start rounds).getD ⟨0, 0⟩

end SiteSearch.Number
