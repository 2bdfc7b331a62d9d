import SiteSearch.Json.Read
import SiteSearch.Record.Id

/-
  Objects with known fields.

  Key definitions include:
    * `SiteSearch.Json.Kind`
    * `SiteSearch.Json.Field`
    * `SiteSearch.Json.Schema`
    * `SiteSearch.Json.Schema.ofJson`
    * `SiteSearch.Json.Schema.read`

  A schema lists fields with the kind of their values.  What
  it describes is an object with these members, in any order
  and among others, or an array with these elements, in this
  order and alone.  A field may have a default for when it is
  absent.  There are two ways in: from a generic value, and
  straight from a text, where other members are skipped and
  the first error from the left wins.
-/

------------------------------------------------------------
-- Kinds
------------------------------------------------------------

namespace SiteSearch.Json

/- What the value of a field may be. -/
inductive Kind where
  | id
  | text
  | optionalText
  | size
  | flag
  | score
deriving DecidableEq, Repr

/- What a value of a kind is read as. -/
abbrev Kind.Carrier :
    Kind → Type
  | id => RecordId
  | text => String
  | optionalText => Option String
  | size => UInt64
  | flag => Bool
  | score => Float

/- How a kind is named where something else was found. -/
def Kind.describe :
    Kind → String
  | id => "RecordId"
  | text => "a string"
  | optionalText => "a string"
  | size => "usize"
  | flag => "a boolean"
  | score => "f64"

/- A number as a floating-point number. -/
def Number.toFloat :
    Json.Number → Float
  | whole value => value.toFloat
  | negative value => value.toFloat
  | float value => value

/- The value of a kind that a generic value is. -/
def Kind.ofJson :
    (kind : Kind) → Json → Except Error kind.Carrier
  | id, number (.whole value) => .ok (.number value)
  | id, number (.negative value) => .ok (.signed value)
  | id, string value => .ok (.text value)
  | id, _ => .error (.noVariant id.describe)
  | text, string value => .ok value
  | optionalText, null => .ok none
  | optionalText, string value => .ok (some value)
  | size, number (.whole value) => .ok value
  | size, number (.negative value) =>
      .error (.wrongValue (.negative value) size.describe)
  | flag, bool value => .ok value
  | score, number value => .ok value.toFloat
  | kind, value => mistyped kind.describe value

/-
  Read a value of a kind.  Only an identifier is read as a
  generic value first.
-/
def Kind.read
    (kind : Kind)
    (depth : Nat) :
    Reader kind.Carrier :=
  match kind with
  | id => fun bytes => do
      let (value, rest) ← value depth bytes
      return (← Kind.ofJson id value, rest)
  | kind => scalar kind.describe kind.ofJson

end SiteSearch.Json

------------------------------------------------------------
-- Schemas
------------------------------------------------------------

namespace SiteSearch.Json

/- A field, with its value where it is absent, if it may be. -/
structure Field where
  name : String
  kind : Kind
  default? : Option kind.Carrier

/- The values of some fields. -/
abbrev Values :
    List Field → Type
  | [] => Unit
  | field :: fields => field.kind.Carrier × Values fields

/- The values of some fields that were met so far. -/
abbrev Draft :
    List Field → Type
  | [] => Unit
  | field :: fields => Option field.kind.Carrier × Draft fields

/- A named list of fields. -/
structure Schema where
  name : String
  fields : List Field

/- Nothing was met yet. -/
def emptyDraft :
    (fields : List Field) → Draft fields
  | [] => ()
  | _ :: fields => (none, emptyDraft fields)

/- The values of a draft, with defaults for absent ones. -/
def complete :
    (fields : List Field) → Draft fields →
      Except Error (Values fields)
  | [], _ => .ok ()
  | field :: fields, (met, draft) =>
      match met, field.default? with
      | none, none => .error (.missingField field.name)
      | some value, _ | none, some value =>
          match complete fields draft with
          | .error e => .error e
          | .ok values => .ok (value, values)

/- How a schema is named where something else was found. -/
def Schema.describe
    (schema : Schema) :
    String :=
  "struct " ++ schema.name

/- What is expected of an array that ends too early. -/
def Schema.describeArray
    (schema : Schema) :
    String :=
  s!"{schema.describe} with {schema.fields.length} elements"

end SiteSearch.Json

------------------------------------------------------------
-- From Generic Values
------------------------------------------------------------

namespace SiteSearch.Json

/-
  Put the value of one member into a draft; other members
  are ignored.
-/
def draftMember
    (key : String)
    (value : Json) :
    (fields : List Field) → Draft fields →
      Except Error (Draft fields)
  | [], _ => .ok ()
  | field :: fields, (met, draft) =>
      if key = field.name then
        match field.kind.ofJson value with
        | .error e => .error e
        | .ok value => .ok (some value, draft)
      else
        match draftMember key value fields draft with
        | .error e => .error e
        | .ok draft => .ok (met, draft)

/- Put the values of members into a draft. -/
def draftMembers
    (fields : List Field) :
    List (String × Json) → Draft fields → Except Error (Draft fields)
  | [], draft => .ok draft
  | (key, value) :: members, draft =>
      match draftMember key value fields draft with
      | .error e => .error e
      | .ok draft => draftMembers fields members draft

/-
  Take the values of fields from the front of an array.  Fields
  behind its end take their defaults.
-/
def elementsOf
    (tooShort : Nat → Error)
    (index : Nat) :
    (fields : List Field) → List Json →
      Except Error (Values fields × List Json)
  | [], items => .ok ((), items)
  | field :: fields, [] =>
      match field.default? with
      | none => .error (tooShort index)
      | some value =>
          match elementsOf tooShort (index + 1) fields [] with
          | .error e => .error e
          | .ok (values, rest) => .ok ((value, values), rest)
  | field :: fields, item :: items =>
      match field.kind.ofJson item with
      | .error e => .error e
      | .ok value =>
          match elementsOf tooShort (index + 1) fields items with
          | .error e => .error e
          | .ok (values, rest) => .ok ((value, values), rest)

/- The field values that a generic value holds. -/
def Schema.ofJson
    (schema : Schema)
    (value : Json) :
    Except Error (Values schema.fields) :=
  match value with
  | object members =>
      match draftMembers schema.fields members
          (emptyDraft schema.fields) with
      | .error e => .error e
      | .ok draft => complete schema.fields draft
  | array items =>
      match elementsOf (.wrongLength · schema.describeArray) 0
          schema.fields items with
      | .error e => .error e
      | .ok (values, []) => .ok values
      | .ok (_, _ :: _) =>
          .error (.wrongLength items.length "fewer elements in array")
  | value => mistyped schema.describe value

end SiteSearch.Json

------------------------------------------------------------
-- From Texts
------------------------------------------------------------

namespace SiteSearch.Json

/-
  Read the value of one member into a draft, from its colon on.
  A known key that was met before is refused at once; the value
  of an unknown one is skipped.
-/
def readMember
    (depth : Nat)
    (key : String) :
    (fields : List Field) → Draft fields → Reader (Draft fields)
  | [], _ => fun bytes => do
      let (_, bytes) ← colon bytes
      let (_, bytes) ← skip bytes
      return ((), bytes)
  | field :: fields, (met, draft) => fun bytes =>
      if key = field.name then
        match met with
        | some _ => .error (.duplicateField field.name)
        | none => do
            let (_, bytes) ← colon bytes
            let (value, bytes) ← field.kind.read depth bytes
            return ((some value, draft), bytes)
      else do
        let (draft, bytes) ← readMember depth key fields draft bytes
        return ((met, draft), bytes)

/- Whether another element follows, and its bytes. -/
def another
    (isFirst : Bool) :
    Reader Bool := fun bytes =>
  match skipSpace bytes with
  | [] => .error .endInArray
  | b :: rest =>
      if b = byte ']' then .ok (false, b :: rest)
      else if isFirst then .ok (true, b :: rest)
      else if b = byte ',' then
        match skipSpace rest with
        | [] => .error .endInValue
        | c :: rest =>
            if c = byte ']' then .error .trailingComma
            else .ok (true, c :: rest)
      else .error .expectedCommaOrBracket

/- Read the values of fields from the elements of an array. -/
def readElements
    (depth : Nat)
    (tooShort : Nat → Error)
    (index : Nat) :
    (fields : List Field) → Reader (Values fields)
  | [] => fun bytes => .ok ((), bytes)
  | field :: fields => fun bytes => do
      let (follows, bytes) ← another (index == 0) bytes
      if follows then
        let (value, bytes) ← field.kind.read depth bytes
        let (values, bytes) ←
          readElements depth tooShort (index + 1) fields bytes
        return ((value, values), bytes)
      else
        match field.default? with
        | none => .error (tooShort index)
        | some value =>
            let (values, bytes) ←
              readElements depth tooShort (index + 1) fields bytes
            return ((value, values), bytes)

/- The bracket that closes an array behind all its fields. -/
def closing : Reader Unit := fun bytes =>
  match skipSpace bytes with
  | [] => .error .endInArray
  | b :: rest =>
      if b = byte ']' then .ok ((), rest)
      else if b = byte ',' then
        match skipSpace rest with
        | c :: _ =>
            .error
              (if c = byte ']' then .trailingComma
              else .trailingCharacters)
        | [] => .error .trailingCharacters
      else .error .trailingCharacters

/- Read the field values from an array, behind its bracket. -/
def Schema.readArray
    (schema : Schema)
    (depth : Nat) :
    Reader (Values schema.fields) := fun bytes => do
  let (values, bytes) ←
    readElements depth (.wrongLength · schema.describeArray) 0
      schema.fields bytes
  let (_, bytes) ← closing bytes
  return (values, bytes)

/- Read the field values from an object, behind its brace. -/
def Schema.readObject
    (schema : Schema)
    (depth : Nat) :
    Reader (Values schema.fields) := fun bytes => do
  let step := fun draft bytes => do
    let (key, bytes) ← text bytes
    readMember depth key schema.fields draft bytes
  let (draft, bytes) ←
    members kept step (emptyDraft schema.fields) bytes
  return (← complete schema.fields draft, bytes)

/- Read the field values at the front of a text. -/
def Schema.read
    (schema : Schema) :
    Reader (Values schema.fields) := fun bytes =>
  match skipSpace bytes with
  | [] => .error .endInValue
  | b :: rest =>
      if b = byte '[' then schema.readArray (depthLimit - 1) rest
      else if b = byte '{' then
        schema.readObject (depthLimit - 1) rest
      else
        scalar schema.describe (mistyped schema.describe) (b :: rest)

/- The field values that a text writes. -/
def Schema.parse
    (schema : Schema)
    (bytes : List UInt8) :
    Except Error (Values schema.fields) :=
  readAll schema.read bytes

end SiteSearch.Json
