/-
  Labels beyond ASCII, written in ASCII.

  Key definitions include:
    * `SiteSearch.Punycode.Insertion`
    * `SiteSearch.Punycode.encode`
    * `SiteSearch.Punycode.decode?`

  A label is written as its ASCII characters, a hyphen and the
  insertions that put the other characters between them, in
  the order of their code points.  An insertion is written as
  its distance from the one before: so many steps through all
  places of all code points lie between them.  A distance has
  digits of base 36 whose range follows the distances so far.
-/

------------------------------------------------------------
-- Digits
------------------------------------------------------------

namespace SiteSearch.Punycode

/-
  The digit of a value below 36: a letter or, from 26 on, a
  decimal digit.
-/
def digit
    (value : Nat) :
    Char :=
  Char.ofNat (if value < 26 then 97 + value else 22 + value)

/- The value of a digit. -/
def digitValue?
    (c : Char) :
    Option Nat :=
  if 'a' ≤ c ∧ c ≤ 'z' then some (c.toNat - 97)
  else if 'A' ≤ c ∧ c ≤ 'Z' then some (c.toNat - 65)
  else if c.isDigit then some (c.toNat - 22)
  else none

/-
  The least value of a digit that another one follows.  The
  digits of a number are at the positions 36, 72 and so on.
-/
def threshold
    (position bias : Nat) :
    Nat :=
  max 1 (min 26 (position - bias))

/- The threshold leaves room for digits on both sides. -/
theorem threshold_bounds
    (position bias : Nat) :
    1 ≤ threshold position bias ∧ threshold position bias ≤ 26 := by
  unfold threshold
  omega

/- The bias for a mean distance. -/
def biasOf
    (offset mean : Nat) :
    Nat :=
  if 455 < mean then biasOf (offset + 36) (mean / 35)
  else offset + 36 * mean / (mean + 38)
termination_by mean
decreasing_by
  exact Nat.div_lt_self (by omega) (by omega)

/-
  The bias behind a distance, given the number of characters
  there are now.
-/
def adapt
    (distance count : Nat)
    (isFirst : Bool) :
    Nat :=
  let half := if isFirst then distance / 700 else distance / 2
  biasOf 0 (half + half / count)

/- The digits of a number, the least one first. -/
def digits
    (bias position n : Nat) :
    List Char :=
  let t := threshold position bias
  if n < t then [digit n]
  else
    digit (t + (n - t) % (36 - t)) ::
      digits bias (position + 36) ((n - t) / (36 - t))
termination_by n
decreasing_by
  have hBounds := threshold_bounds position bias
  have hDiv :
      (n - threshold position bias) /
          (36 - threshold position bias) ≤
        n - threshold position bias :=
    Nat.div_le_self _ _
  omega

end SiteSearch.Punycode

------------------------------------------------------------
-- Writing
------------------------------------------------------------

namespace SiteSearch.Punycode

/-
  A character and the number of characters in front of it
  when it is put in.
-/
structure Insertion where
  code : Nat
  place : Nat
deriving DecidableEq, Repr

/-
  The places of a code point, the greater ones not being
  there yet.
-/
def placesOf
    (code count : Nat) :
    List Char → List Nat
  | [] => []
  | c :: rest =>
      if c.toNat = code then count :: placesOf code (count + 1) rest
      else if c.toNat < code then placesOf code (count + 1) rest
      else placesOf code count rest

/- The insertions that make up the characters beyond ASCII. -/
def insertions
    (text : List Char) :
    List Insertion :=
  let codes :=
    ((text.map Char.toNat).filter (128 ≤ ·)).eraseDups.mergeSort
  codes.flatMap fun code =>
    (placesOf code 0 text).map fun place => ⟨code, place⟩

/-
  Write insertions into so many characters, from the next
  step on.
-/
def writeFrom
    (next : Insertion)
    (count bias : Nat)
    (isFirst : Bool) :
    List Insertion → List Char
  | [] => []
  | x :: xs =>
      let distance :=
        (x.code - next.code) * (count + 1) + x.place - next.place
      digits bias 36 distance ++
        writeFrom ⟨x.code, x.place + 1⟩ (count + 1)
          (adapt distance (count + 1) isFirst) false xs

/- A label in ASCII. -/
def encode
    (text : List Char) :
    List Char :=
  let basic := text.filter fun c => c.toNat < 128
  basic ++ (if basic.isEmpty then [] else ['-']) ++
    writeFrom ⟨128, 0⟩ basic.length 72 true (insertions text)

end SiteSearch.Punycode

------------------------------------------------------------
-- Reading
------------------------------------------------------------

namespace SiteSearch.Punycode

/-
  A label that is read.  The next insertion is at `code` and
  `step`, of which the distance from `start` is read; its next
  digit counts `weight`.
-/
structure Reading where
  built : List Char
  code : Nat
  start : Nat
  step : Nat
  weight : Nat
  position : Nat
  bias : Nat

/- The greatest distance. -/
def greatest : Nat := 4294967295

/- Put in a character when its distance is read. -/
def Reading.insert?
    (r : Reading) :
    Option Reading :=
  let count := r.built.length + 1
  let code := r.code + r.step / count
  let place := r.step % count
  if code.isValidChar then
    some
      { built := r.built.insertIdx place (Char.ofNat code)
        code := code
        start := place + 1
        step := place + 1
        weight := 1
        position := 36
        bias := adapt (r.step - r.start) count (r.start == 0) }
  else none

/- Read a digit. -/
def Reading.digit?
    (r : Reading)
    (c : Char) :
    Option Reading := do
  let value ← digitValue? c
  if (greatest - r.step) / r.weight < value then none
  else
    let r := { r with step := r.step + value * r.weight }
    let t := threshold r.position r.bias
    if value < t then r.insert?
    else if greatest / (36 - t) < r.weight then none
    else
      some
        { r with
          weight := r.weight * (36 - t)
          position := r.position + 36 }

/- The label that is written in ASCII, if there is one. -/
def decode?
    (text : List Char) :
    Option (List Char) := do
  let behind := (text.reverse.takeWhile (· != '-')).reverse
  let basic := text.take (text.length - behind.length - 1)
  let numbers := if basic.isEmpty then text else behind
  let r ← numbers.foldlM Reading.digit? ⟨basic, 128, 0, 0, 1, 36, 72⟩
  if r.weight = 1 then some r.built else none

end SiteSearch.Punycode
