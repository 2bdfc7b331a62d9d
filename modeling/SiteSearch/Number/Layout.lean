import SiteSearch.Number.Shortest

/-
  Layouts of decimal numbers.

  Key definitions include:
    * `SiteSearch.Number.Layout`
    * `SiteSearch.Number.Layout.write`

  A layout decides which numbers are written positionally and
  what the others look like.  The digits themselves are the
  shortest that read back.
-/

------------------------------------------------------------
-- Layouts
------------------------------------------------------------

namespace SiteSearch.Number

/-
  How numbers are written.  A number is written positionally
  when the power of ten of its first digit is at least
  `positionalFrom` and less than `positionalBelow`.
-/
structure Layout where
  positionalFrom : Int
  positionalBelow : Int
  wholeMark : String
  exponentMark : String
  positiveSign : String

/- Some zeros. -/
def zeros
    (count : Nat) :
    String :=
  String.ofList (List.replicate count '0')

/-
  Digits with a decimal point behind the first `count` of
  them.
-/
def positional
    (layout : Layout)
    (digits : List Char)
    (point : Int) :
    String :=
  if point ≤ 0 then
    "0." ++ zeros (-point).toNat ++ String.ofList digits
  else if digits.length ≤ point.toNat then
    String.ofList digits ++ zeros (point.toNat - digits.length) ++
      layout.wholeMark
  else
    String.ofList (digits.take point.toNat) ++ "." ++
      String.ofList (digits.drop point.toNat)

/- Digits with a point behind the first one and a power of ten. -/
def scientific
    (layout : Layout)
    (digits : List Char)
    (exponent : Int) :
    String :=
  let fraction :=
    match digits.drop 1 with
    | [] => ""
    | rest => "." ++ String.ofList rest
  let sign := if exponent < 0 then "-" else layout.positiveSign
  String.ofList (digits.take 1) ++ fraction ++
    layout.exponentMark ++ sign
    ++ toString exponent.natAbs

/- The size of a number in a layout. -/
def Layout.writeDecimal
    (layout : Layout)
    (number : Decimal) :
    String :=
  let all := Nat.toDigits 10 number.digits
  let digits := (all.reverse.dropWhile (· == '0')).reverse
  let point := number.exponent + all.length
  if number.digits = 0 then "0" ++ layout.wholeMark
  else if layout.positionalFrom ≤ point - 1 ∧
      point - 1 < layout.positionalBelow then
    positional layout digits point
  else scientific layout digits (point - 1)

/- A finite floating-point number in a layout. -/
def Layout.write
    (layout : Layout)
    (x : Float) :
    String :=
  let sign := if x.toBits >>> 63 = 1 then "-" else ""
  sign ++ layout.writeDecimal (shortest (Binary.ofFloat x))

end SiteSearch.Number
