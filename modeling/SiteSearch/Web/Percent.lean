/-
  Percent encoding.

  Key definitions include:
    * `SiteSearch.Percent.encode`
    * `SiteSearch.Percent.decode`

  In an address, a byte may be written as a percent sign and
  two hexadecimal digits.  Controls and characters beyond ASCII
  are always written so; every part of an address has further
  characters that may not stand in it.
-/

------------------------------------------------------------
-- Digits
------------------------------------------------------------

namespace SiteSearch

/- The value of a hexadecimal digit. -/
def hexValue?
    (c : Char) :
    Option Nat :=
  if c.isDigit then some (c.toNat - 48)
  else if 'a' ≤ c ∧ c ≤ 'f' then some (c.toNat - 87)
  else if 'A' ≤ c ∧ c ≤ 'F' then some (c.toNat - 55)
  else none

end SiteSearch

------------------------------------------------------------
-- Encoding
------------------------------------------------------------

namespace SiteSearch.Percent

/- A byte as a percent sign and two digits. -/
def byte
    (b : UInt8) :
    List Char :=
  ['%', (Nat.digitChar (b.toNat / 16)).toUpper,
    (Nat.digitChar (b.toNat % 16)).toUpper]

/-
  A text in which controls, characters beyond ASCII and some
  more are encoded.
-/
def encode
    (more : String)
    (text : List Char) :
    List Char :=
  text.flatMap fun c =>
    if c.toNat < 0x20 ∨ 0x7F ≤ c.toNat ∨ c ∈ more.toList then
      (String.utf8EncodeChar c).flatMap byte
    else [c]

/- The bytes of a text with the encoded ones decoded. -/
def decode :
    List Char → List UInt8
  | '%' :: a :: b :: rest =>
      match hexValue? a, hexValue? b with
      | some high, some low => (16 * high + low).toUInt8 :: decode rest
      | _, _ => '%'.toNat.toUInt8 :: decode (a :: b :: rest)
  | c :: rest => String.utf8EncodeChar c ++ decode rest
  | [] => []

end SiteSearch.Percent

------------------------------------------------------------
-- Parts of an Address
------------------------------------------------------------

namespace SiteSearch.Percent

/- The further characters that a fragment encodes. -/
def fragmentSet : String := " \"<>\x60"

/- The further characters that a query encodes. -/
def querySet : String := " \"#<>"

/- The further characters that a path encodes. -/
def pathSet : String := " \"#<>?\x60\x7b\x7d"

/-
  The further characters that a user name and a password
  encode.
-/
def userSet : String := pathSet ++ "/:;=@[\\]^|"

end SiteSearch.Percent
