import SiteSearch.Json.Literal
import SiteSearch.Json.Numeral

/-
  Reading values.

  Key definitions include:
    * `SiteSearch.Json.Forms`
    * `SiteSearch.Json.anyForm`
    * `SiteSearch.Json.value`
    * `SiteSearch.Json.scalar`
    * `SiteSearch.Json.skip`
    * `SiteSearch.Json.parse`

  The first byte of a value tells its form.  A generic value
  is kept whole and may nest arrays and objects only so deep;
  a scalar refuses arrays and objects at their first byte; a
  skipped value may nest to any depth.
-/

------------------------------------------------------------
-- Forms
------------------------------------------------------------

namespace SiteSearch.Json

/-
  What is made of each form.  Numbers are read from their first
  byte on, the bracketed forms behind it.
-/
structure Forms (α : Type) where
  null : α
  bool : Bool → α
  number : Reader α
  string : Reader α
  array : Reader α
  object : Reader α

/- Read the rest of a word and give it a meaning. -/
def wordOf
    {α : Type}
    (letters : List UInt8)
    (meaning : α) :
    Reader α := fun bytes =>
  match word letters bytes with
  | .error e => .error e
  | .ok (_, rest) => .ok (meaning, rest)

/- Read a value of any form. -/
def anyForm
    {α : Type}
    (forms : Forms α) :
    Reader α := fun bytes =>
  match skipSpace bytes with
  | [] => .error .endInValue
  | b :: rest =>
      if b = byte 'n' then
        wordOf [byte 'u', byte 'l', byte 'l'] forms.null rest
      else if b = byte 't' then
        wordOf [byte 'r', byte 'u', byte 'e'] (forms.bool true) rest
      else if b = byte 'f' then
        wordOf [byte 'a', byte 'l', byte 's', byte 'e']
          (forms.bool false) rest
      else if b = byte '-' ∨ isDigit b then forms.number (b :: rest)
      else if b = byte '"' then forms.string rest
      else if b = byte '[' then forms.array rest
      else if b = byte '{' then forms.object rest
      else .error .expectedValue

end SiteSearch.Json

------------------------------------------------------------
-- Generic Values
------------------------------------------------------------

namespace SiteSearch.Json

/- Apply a function to what a reader yields. -/
def Reader.map
    {α β : Type}
    (f : α → β)
    (reader : Reader α) :
    Reader β := fun bytes =>
  match reader bytes with
  | .error e => .error e
  | .ok (a, rest) => .ok (f a, rest)

/- Refuse with an error. -/
def Reader.fail
    {α : Type}
    (e : Error) :
    Reader α := fun _ =>
  .error e

/- One member of an object, set among those before it. -/
def member
    (item : Reader Json)
    (before : List (String × Json)) :
    Reader (List (String × Json)) := fun bytes => do
  let (key, bytes) ← text bytes
  let (_, bytes) ← colon bytes
  let (value, bytes) ← item bytes
  return (insertMember key value before, bytes)

/- The elements of an array behind its bracket. -/
def arrayOf
    (item : Reader Json) :
    Reader Json :=
  (sequence kept (fun items => item.map (· :: items)) []).map
    fun items => .array items.reverse

/- The members of an object behind its brace. -/
def objectOf
    (item : Reader Json) :
    Reader Json :=
  (members kept (member item) []).map .object

/- Values whose arrays and objects are read in a given way. -/
def valueForms
    (array object : Reader Json) :
    Forms Json where
  null := .null
  bool := .bool
  number := Reader.map .number readNumber
  string := Reader.map .string text
  array := array
  object := object

/-
  A value with at most `depth` arrays and objects inside
  each other.
-/
def value
    (depth : Nat) :
    Reader Json :=
  match depth with
  | 0 =>
      anyForm (valueForms (Reader.fail .tooDeep) (Reader.fail .tooDeep))
  | depth + 1 =>
      anyForm
        (valueForms (arrayOf (value depth)) (objectOf (value depth)))

/- A text may nest arrays and objects this deep. -/
def depthLimit : Nat := 127

/- The value that a text writes. -/
def parse
    (bytes : List UInt8) :
    Except Error Json :=
  readAll (value depthLimit) bytes

end SiteSearch.Json

------------------------------------------------------------
-- Scalars
------------------------------------------------------------

namespace SiteSearch.Json

/- How a number is named where it is not expected. -/
def Number.found :
    Json.Number → Found
  | whole value => .whole value
  | negative value => .negative value
  | float value => .float value

/- How a value is named where it is not expected. -/
def found :
    Json → Found
  | null => .null
  | bool value => .bool value
  | number value => value.found
  | string value => .string value
  | array _ => .sequence
  | object _ => .map

/- Refuse a value of the wrong type. -/
def mistyped
    {α : Type}
    (expected : String)
    (value : Json) :
    Except Error α :=
  .error (.wrongType value.found expected)

/-
  Read a value that is neither an array nor an object and
  convert it.  Brackets are refused as soon as they are met.
-/
def scalar
    {α : Type}
    (expected : String)
    (convert : Json → Except Error α) :
    Reader α := fun bytes => do
  let (value, rest) ←
    anyForm
      (valueForms (Reader.fail (.wrongType .sequence expected))
        (Reader.fail (.wrongType .map expected)))
      bytes
  return (← convert value, rest)

end SiteSearch.Json

------------------------------------------------------------
-- Skipped Values
------------------------------------------------------------

namespace SiteSearch.Json

/- One member of an object that nobody needs. -/
def skipMember
    (item : Reader Unit)
    (_ : Unit) :
    Reader Unit := fun bytes => do
  let (_, bytes) ← skipText bytes
  let (_, bytes) ← colon bytes
  item bytes

/-
  Read over a value.  The clock bounds the depth of its
  nesting.
-/
def skipFrom
    (clock : List UInt8) :
    Reader Unit :=
  match clock with
  | [] => Reader.fail .endInValue
  | _ :: clock =>
      anyForm {
        null := ()
        bool := fun _ => ()
        number := (numeral .invalidNumber).map fun _ => ()
        string := skipText
        array := sequence dropped (fun _ => skipFrom clock) ()
        object := members dropped (skipMember (skipFrom clock)) ()
      }

/- Read over a value of any depth. -/
def skip : Reader Unit := fun bytes =>
  skipFrom bytes bytes

end SiteSearch.Json
