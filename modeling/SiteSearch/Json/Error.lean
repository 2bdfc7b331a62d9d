import SiteSearch.Json.Value
import SiteSearch.Number.Layout
import SiteSearch.Text.Quoted

/-
  Errors of reading values.

  Key definitions include:
    * `SiteSearch.Json.Error`
    * `SiteSearch.Json.Error.message`

  A text is refused for its form or for what it says.  Each
  cause is a constructor; the wording is in one function.
-/

------------------------------------------------------------
-- Causes
------------------------------------------------------------

namespace SiteSearch.Json

/- What stands where something else is expected. -/
inductive Found where
  | null
  | bool (value : Bool)
  | whole (value : UInt64)
  | negative (value : Int64)
  | float (value : Float)
  | string (value : String)
  | sequence
  | map
deriving BEq

/- Why a text or a value is refused. -/
inductive Error where
  | endInValue
  | endInArray
  | endInObject
  | endInString
  | expectedValue
  | expectedWord
  | expectedColon
  | expectedCommaOrBracket
  | expectedCommaOrBrace
  | trailingComma
  | trailingCharacters
  | keyNotString
  | invalidNumber
  | numberOutOfRange
  | invalidEscape
  | endOfHexEscape
  | loneSurrogate
  | controlCharacter
  | invalidCodePoint
  | tooDeep
  | wrongType (found : Found) (expected : String)
  | wrongValue (found : Found) (expected : String)
  | wrongLength (length : Nat) (expected : String)
  | missingField (name : String)
  | duplicateField (name : String)
  | unknownVariant (name : String) (expected : String)
  | noVariant (type : String)
deriving BEq

end SiteSearch.Json

------------------------------------------------------------
-- Wording
------------------------------------------------------------

namespace SiteSearch.Json

/-
  Numbers are written positionally from 0.00001 up to below
  ten to the sixteenth, whole ones with one decimal place.
-/
def floatLayout : Number.Layout :=
  ⟨-5, 16, ".0", "e", "+"⟩

/- How what was found is named. -/
def Found.describe :
    Found → String
  | null => "null"
  | bool value => s!"boolean `{value}`"
  | whole value => s!"integer `{value}`"
  | negative value => s!"integer `{value}`"
  | float value =>
      "floating point `" ++ floatLayout.write value ++ "`"
  | string value => "string " ++ Text.quote value
  | sequence => "sequence"
  | map => "map"

/- What an error says. -/
def Error.message :
    Error → String
  | endInValue => "EOF while parsing a value"
  | endInArray => "EOF while parsing a list"
  | endInObject => "EOF while parsing an object"
  | endInString => "EOF while parsing a string"
  | expectedValue => "expected value"
  | expectedWord => "expected ident"
  | expectedColon => "expected `:`"
  | expectedCommaOrBracket => "expected `,` or `]`"
  | expectedCommaOrBrace => "expected `,` or `\x7d`"
  | trailingComma => "trailing comma"
  | trailingCharacters => "trailing characters"
  | keyNotString => "key must be a string"
  | invalidNumber => "invalid number"
  | numberOutOfRange => "number out of range"
  | invalidEscape => "invalid escape"
  | endOfHexEscape => "unexpected end of hex escape"
  | loneSurrogate => "lone leading surrogate in hex escape"
  | controlCharacter =>
      "control character (\\u0000-\\u001F) found while parsing a string"
  | invalidCodePoint => "invalid unicode code point"
  | tooDeep => "recursion limit exceeded"
  | wrongType found expected =>
      s!"invalid type: {found.describe}, expected {expected}"
  | wrongValue found expected =>
      s!"invalid value: {found.describe}, expected {expected}"
  | wrongLength length expected =>
      s!"invalid length {length}, expected {expected}"
  | missingField name => s!"missing field `{name}`"
  | duplicateField name => s!"duplicate field `{name}`"
  | unknownVariant name expected =>
      s!"unknown variant `{name}`, expected {expected}"
  | noVariant type =>
      s!"data did not match any variant of untagged enum {type}"

end SiteSearch.Json
