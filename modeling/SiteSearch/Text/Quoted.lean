import SiteSearch.Unicode.Printable

/-
  Quoted texts.

  Key definitions include:
    * `SiteSearch.Text.quote`

  Messages show foreign text between double quotes.  Quotes,
  backslashes and the common controls are escaped by a
  backslash and a letter; every other character without a
  visible form of its own is given by its code point.
-/

------------------------------------------------------------
-- Quoting
------------------------------------------------------------

namespace SiteSearch.Text

/- A code point in lowercase hexadecimal digits. -/
def hexadecimal
    (code : Nat) :
    String :=
  String.ofList (Nat.toDigits 16 code)

/- One character as it stands between the quotes. -/
def quotedChar
    (c : Char) :
    String :=
  if c = '\x00' then "\\0"
  else if c = '\t' then "\\t"
  else if c = '\r' then "\\r"
  else if c = '\n' then "\\n"
  else if c = '"' then "\\\""
  else if c = '\\' then "\\\\"
  else if Unicode.isPrintable c && !Unicode.extendsGrapheme c then
    String.singleton c
  else "\\u\x7b" ++ hexadecimal c.toNat ++ "\x7d"

/- A text between double quotes, with escapes. -/
def quote
    (text : String) :
    String :=
  "\"" ++ String.join (text.toList.map quotedChar) ++ "\""

end SiteSearch.Text
