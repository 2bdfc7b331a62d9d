import SiteSearch.Json.Reader

/-
  Numbers in texts.

  Key definitions include:
    * `SiteSearch.Json.Numeral`
    * `SiteSearch.Json.numeral`
    * `SiteSearch.Json.Numeral.value`

  A numeral is a sign, whole digits without a leading zero, a
  fraction and a power of ten.  One without fraction and power
  is a whole number as long as it fits into 64 bits.  Any other
  is the floating-point number that its first digits, as many
  as fit into 64 bits, give when they are multiplied or divided
  by the power of ten that is left.
-/

------------------------------------------------------------
-- Form
------------------------------------------------------------

namespace SiteSearch.Json

/- The parts of a number as written. -/
structure Numeral where
  negative : Bool
  whole : List UInt8
  fraction : List UInt8
  power : Int
  isWhole : Bool

/- At least one digit. -/
def digits
    (atEnd : Error) :
    Reader (List UInt8) := fun bytes =>
  match bytes with
  | [] => .error atEnd
  | b :: _ =>
      if isDigit b then
        .ok (bytes.takeWhile isDigit, bytes.dropWhile isDigit)
      else .error .invalidNumber

/-
  Digits of which the first is a zero only if it is the only
  one.
-/
def wholeDigits
    (atEnd : Error) :
    Reader (List UInt8) := fun bytes =>
  match bytes with
  | [] => .error atEnd
  | b :: rest =>
      if b = byte '0' then
        match rest with
        | [] => .ok ([b], [])
        | c :: rest =>
            if isDigit c then .error .invalidNumber
            else .ok ([b], c :: rest)
      else digits atEnd (b :: rest)

/- The digits behind a point, if there is one. -/
def fractionDigits
    (atEnd : Error) :
    Reader (Option (List UInt8)) := fun bytes =>
  match bytes with
  | [] => .ok (none, [])
  | b :: rest =>
      if b = byte '.' then
        match digits atEnd rest with
        | .error e => .error e
        | .ok (ds, rest) => .ok (some ds, rest)
      else .ok (none, b :: rest)

/- A sign, if there is one: whether it is a minus. -/
def sign
    (bytes : List UInt8) :
    Bool × List UInt8 :=
  match bytes with
  | [] => (false, [])
  | b :: rest =>
      if b = byte '+' then (false, rest)
      else if b = byte '-' then (true, rest)
      else (false, b :: rest)

/- The number that decimal digits write. -/
def natOfDigits
    (ds : List UInt8) :
    Nat :=
  ds.foldl (fun n d => 10 * n + (d.toNat - 48)) 0

/- The power of ten behind its mark, if there is one. -/
def powerOfTen
    (atEnd : Error) :
    Reader (Option Int) := fun bytes =>
  match bytes with
  | [] => .ok (none, [])
  | b :: rest =>
      if b = byte 'e' ∨ b = byte 'E' then
        let (negative, rest) := sign rest
        match digits atEnd rest with
        | .error e => .error e
        | .ok (ds, rest) =>
            let power : Int := natOfDigits ds
            .ok (some (if negative then -power else power), rest)
      else .ok (none, b :: rest)

/-
  Read a numeral.  `atEnd` is the error when a digit is
  missing at the end.
-/
def numeral
    (atEnd : Error) :
    Reader Numeral := fun bytes => do
  let (negative, bytes) :=
    match bytes with
    | b :: rest =>
        if b = byte '-' then (true, rest) else (false, b :: rest)
    | [] => (false, [])
  let (whole, bytes) ← wholeDigits atEnd bytes
  let (fraction, bytes) ← fractionDigits atEnd bytes
  let (power, bytes) ← powerOfTen atEnd bytes
  return ({
    negative := negative
    whole := whole
    fraction := fraction.getD []
    power := power.getD 0
    isWhole := fraction.isNone && power.isNone
  }, bytes)

end SiteSearch.Json

------------------------------------------------------------
-- Value
------------------------------------------------------------

namespace SiteSearch.Json

/- Append digits to a number as long as it fits into 64 bits. -/
def absorb
    (n : Nat) :
    List UInt8 → Nat × List UInt8
  | [] => (n, [])
  | d :: ds =>
      let next := 10 * n + (d.toNat - 48)
      if next < UInt64.size then absorb next ds else (n, d :: ds)

/- A power of ten, correctly rounded. -/
def tenTo
    (power : Nat) :
    Float :=
  Float.ofScientific 1 false power

/- Divide repeatedly by the greatest power of ten there is. -/
def shrink
    (x : Float) :
    Nat → Float
  | 0 => x
  | rounds + 1 => if x == 0 then x else shrink (x / tenTo 308) rounds

/-
  A number times a power of ten, unless the result is
  infinite.
-/
def scale?
    (x : Float)
    (power : Int) :
    Option Float :=
  if power < 0 then
    let size := power.natAbs
    let rounds := (size - 1) / 308
    some (shrink x rounds / tenTo (size - 308 * rounds))
  else if power.toNat ≤ 308 then
    let y := x * tenTo power.toNat
    if y.isInf then none else some y
  else if x == 0 then some x
  else none

/- The value of a numeral. -/
def Numeral.value
    (n : Numeral) :
    Except Error Json.Number :=
  let (start, left) := absorb 0 n.whole
  let fits := left.isEmpty
  if n.isWhole && fits && !n.negative then .ok (.whole start.toUInt64)
  else if n.isWhole && fits && decide (0 < start) &&
      decide (start ≤ UInt64.size / 2) then
    .ok (.negative (Int64.ofInt (-start)))
  else
    let (significand, unused) := absorb start n.fraction
    let power : Int :=
      n.power + left.length - (n.fraction.length - unused.length : Nat)
    match scale? significand.toUInt64.toFloat power with
    | none => .error .numberOutOfRange
    | some x => .ok (.float (if n.negative then -x else x))

/- Read a number. -/
def readNumber : Reader Json.Number := fun bytes => do
  let (n, rest) ← numeral .endInValue bytes
  let value ← n.value
  return (value, rest)

end SiteSearch.Json
