import SiteSearch.Json.Error

/-
  Writing values.

  Key definitions include:
    * `SiteSearch.Json.compact`
    * `SiteSearch.Json.pretty`

  The compact form has no space in it.  The pretty form puts
  each element and each member on a line of its own, indented
  by two blanks for each bracket it stands in.  Of a string
  only quotes, backslashes and controls are escaped.
-/

------------------------------------------------------------
-- Scalars
------------------------------------------------------------

namespace SiteSearch.Json

/-
  A control without a letter of its own, as four hexadecimal
  digits.
-/
def hexControl
    (c : Char) :
    List Char :=
  ['\\', 'u', '0', '0',
    Nat.digitChar (c.toNat / 16), Nat.digitChar (c.toNat % 16)]

/- One character of a string as written. -/
def writeChar
    (c : Char) :
    List Char :=
  if c = '"' then ['\\', '"']
  else if c = '\\' then ['\\', '\\']
  else if c = '\x08' then ['\\', 'b']
  else if c = '\x0C' then ['\\', 'f']
  else if c = '\n' then ['\\', 'n']
  else if c = '\r' then ['\\', 'r']
  else if c = '\t' then ['\\', 't']
  else if c < ' ' then hexControl c
  else [c]

/- A string as written. -/
def writeString
    (text : String) :
    List Char :=
  '"' :: (text.toList.flatMap writeChar ++ ['"'])

/- A number as written.  What is not finite cannot be written. -/
def writeNumber :
    Json.Number → List Char
  | .whole value => (toString value).toList
  | .negative value => (toString value).toList
  | .float value =>
      if value.isFinite then (floatLayout.write value).toList
      else "null".toList

end SiteSearch.Json

------------------------------------------------------------
-- Compact Form
------------------------------------------------------------

namespace SiteSearch.Json

mutual

/- The characters of a value without space. -/
def compactChars :
    Json → List Char
  | null => "null".toList
  | bool true => "true".toList
  | bool false => "false".toList
  | number value => writeNumber value
  | string value => writeString value
  | array items =>
      '[' :: ([','].intercalate (compactItems items) ++ [']'])
  | object members =>
      '{' :: ([','].intercalate (compactMembers members) ++ ['}'])

/- The elements of an array, each without space. -/
def compactItems :
    List Json → List (List Char)
  | [] => []
  | item :: items => compactChars item :: compactItems items

/- The members of an object, each without space. -/
def compactMembers :
    List (String × Json) → List (List Char)
  | [] => []
  | (key, value) :: members =>
      (writeString key ++ ':' :: compactChars value) ::
        compactMembers members

end

/- A value in compact form. -/
def compact
    (value : Json) :
    String :=
  String.ofList (compactChars value)

end SiteSearch.Json

------------------------------------------------------------
-- Pretty Form
------------------------------------------------------------

namespace SiteSearch.Json

/- A new line that stands in some brackets. -/
def newLine
    (depth : Nat) :
    List Char :=
  '\n' :: List.replicate (2 * depth) ' '

/-
  Lines between brackets; nothing stands between those of an
  empty value.
-/
def bracketed
    (depth : Nat)
    (opening closing : Char)
    (lines : List (List Char)) :
    List Char :=
  match lines with
  | [] => [opening, closing]
  | line :: lines =>
      let separator := ',' :: newLine (depth + 1)
      opening :: (newLine (depth + 1) ++
        separator.intercalate (line :: lines) ++ newLine depth ++
        [closing])

mutual

/-
  The characters of a value that stands in some brackets, on
  lines.
-/
def prettyChars
    (depth : Nat) :
    Json → List Char
  | array items =>
      bracketed depth '[' ']' (prettyItems (depth + 1) items)
  | object members =>
      bracketed depth '{' '}' (prettyMembers (depth + 1) members)
  | null => compactChars null
  | bool value => compactChars (bool value)
  | number value => compactChars (number value)
  | string value => compactChars (string value)

/- The elements of an array, each on lines. -/
def prettyItems
    (depth : Nat) :
    List Json → List (List Char)
  | [] => []
  | item :: items => prettyChars depth item :: prettyItems depth items

/- The members of an object, each on lines. -/
def prettyMembers
    (depth : Nat) :
    List (String × Json) → List (List Char)
  | [] => []
  | (key, value) :: members =>
      (writeString key ++ ':' :: ' ' :: prettyChars depth value)
        :: prettyMembers depth members

end

/- A value in pretty form. -/
def pretty
    (value : Json) :
    String :=
  String.ofList (prettyChars 0 value)

end SiteSearch.Json
