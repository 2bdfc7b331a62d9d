import SiteSearch.Bytes.Utf8
import SiteSearch.Json.Error

/-
  Readers of bytes.

  Key definitions include:
    * `SiteSearch.Json.Reader`
    * `SiteSearch.Json.skipSpace`
    * `SiteSearch.Json.word`
    * `SiteSearch.Json.sequence`
    * `SiteSearch.Json.members`

  A reader takes a value off the front of some bytes and
  leaves the rest.  Arrays and objects are read by folding a
  step over their elements, so that generic values, records
  and values that nobody needs share one account of brackets,
  commas and colons.
-/

------------------------------------------------------------
-- Readers
------------------------------------------------------------

namespace SiteSearch.Json

/- Takes a value off the front of some bytes, or says why not. -/
abbrev Reader (α : Type) :=
  List UInt8 → Except Error (α × List UInt8)

/- The byte of an ASCII character. -/
abbrev byte
    (c : Char) :
    UInt8 :=
  c.toNat.toUInt8

/- The four characters that may stand between values. -/
def isSpace
    (b : UInt8) :
    Bool :=
  b == byte ' ' || b == byte '\n' || b == byte '\t' || b == byte '\r'

/- What follows the space in front. -/
def skipSpace
    (bytes : List UInt8) :
    List UInt8 :=
  bytes.dropWhile isSpace

/- A decimal digit. -/
def isDigit
    (b : UInt8) :
    Bool :=
  byte '0' ≤ b && b ≤ byte '9'

/- Read the rest of a word whose first letter was seen. -/
def word
    (letters : List UInt8) :
    Reader Unit :=
  match letters with
  | [] => fun bytes => .ok ((), bytes)
  | letter :: letters => fun bytes =>
      match bytes with
      | [] => .error .endInValue
      | b :: rest =>
          if b = letter then word letters rest
          else .error .expectedWord

end SiteSearch.Json

------------------------------------------------------------
-- Arrays
------------------------------------------------------------

namespace SiteSearch.Json

/-
  What is wrong with a bracket right behind a comma.  A reader
  that goes on to read a value there complains about the value.
-/
structure Strictness where
  bracketAfterComma : Error
  braceAfterComma : Error
  endAfterComma : Error

/-
  Values that are kept: a comma before the end is reported
  as such.
-/
def kept : Strictness :=
  ⟨.trailingComma, .trailingComma, .endInValue⟩

/-
  Values that nobody needs: the missing value or key is
  reported.
-/
def dropped : Strictness :=
  ⟨.expectedValue, .keyNotString, .endInObject⟩

/-
  Go on reading an array behind an element: another element or
  the closing bracket.  The clock bounds the number of
  elements.
-/
def sequenceFrom
    {σ : Type}
    (strict : Strictness)
    (step : σ → Reader σ)
    (state : σ)
    (clock : List UInt8) :
    Reader σ := fun bytes =>
  match skipSpace bytes with
  | [] => .error .endInArray
  | b :: rest =>
      if b = byte ']' then .ok (state, rest)
      else if b = byte ',' then
        match skipSpace rest with
        | [] => .error .endInValue
        | c :: rest' =>
            if c = byte ']' then .error strict.bracketAfterComma
            else
              match clock with
              | [] => .error .endInValue
              | _ :: clock =>
                  match step state (c :: rest') with
                  | .error e => .error e
                  | .ok (state, rest) =>
                      sequenceFrom strict step state clock rest
      else .error .expectedCommaOrBracket

/-
  Read an array behind its opening bracket, folding its
  elements.
-/
def sequence
    {σ : Type}
    (strict : Strictness)
    (step : σ → Reader σ)
    (state : σ) :
    Reader σ := fun bytes =>
  match skipSpace bytes with
  | [] => .error .endInArray
  | b :: rest =>
      if b = byte ']' then .ok (state, rest)
      else
        match step state (b :: rest) with
        | .error e => .error e
        | .ok (state, rest) =>
            sequenceFrom strict step state rest rest

end SiteSearch.Json

------------------------------------------------------------
-- Objects
------------------------------------------------------------

namespace SiteSearch.Json

/- Read the colon behind a key. -/
def colon : Reader Unit := fun bytes =>
  match skipSpace bytes with
  | [] => .error .endInObject
  | b :: rest =>
      if b = byte ':' then .ok ((), rest) else .error .expectedColon

/-
  Go on reading an object behind a member: another member or
  the closing brace.  A member's step begins behind the quote
  that opens the key.
-/
def membersFrom
    {σ : Type}
    (strict : Strictness)
    (step : σ → Reader σ)
    (state : σ)
    (clock : List UInt8) :
    Reader σ := fun bytes =>
  match skipSpace bytes with
  | [] => .error .endInObject
  | b :: rest =>
      if b = byte '}' then .ok (state, rest)
      else if b = byte ',' then
        match skipSpace rest with
        | [] => .error strict.endAfterComma
        | c :: rest' =>
            if c = byte '}' then .error strict.braceAfterComma
            else if c = byte '"' then
              match clock with
              | [] => .error strict.endAfterComma
              | _ :: clock =>
                  match step state rest' with
                  | .error e => .error e
                  | .ok (state, rest) =>
                      membersFrom strict step state clock rest
            else .error .keyNotString
      else .error .expectedCommaOrBrace

/-
  Read an object behind its opening brace, folding its
  members.
-/
def members
    {σ : Type}
    (strict : Strictness)
    (step : σ → Reader σ)
    (state : σ) :
    Reader σ := fun bytes =>
  match skipSpace bytes with
  | [] => .error .endInObject
  | b :: rest =>
      if b = byte '}' then .ok (state, rest)
      else if b = byte '"' then
        match step state rest with
        | .error e => .error e
        | .ok (state, rest) => membersFrom strict step state rest rest
      else .error .keyNotString

end SiteSearch.Json

------------------------------------------------------------
-- Whole Texts
------------------------------------------------------------

namespace SiteSearch.Json

/- Read a whole text: a value with nothing but space around it. -/
def readAll
    {α : Type}
    (reader : Reader α)
    (bytes : List UInt8) :
    Except Error α :=
  match reader bytes with
  | .error e => .error e
  | .ok (value, rest) =>
      match skipSpace rest with
      | [] => .ok value
      | _ :: _ => .error .trailingCharacters

end SiteSearch.Json
