import SiteSearch.Record
import SiteSearch.Score

/-
  Matches.

  Key definitions include:
    * `SiteSearch.Match`
    * `SiteSearch.Match.schema`
    * `SiteSearch.Match.parse`
    * `SiteSearch.Match.toJson`

  A match carries what is needed to show a link to a record,
  all of it taken from the record as it stands, and the score
  that ranked it.
-/

------------------------------------------------------------
-- Matches
------------------------------------------------------------

namespace SiteSearch

/- A record that was found, with its score. -/
structure Match (σ : Type) where
  id : RecordId
  title : String
  href : String
  parent : Option String
  score : σ
deriving DecidableEq, Repr

end SiteSearch

------------------------------------------------------------
-- Reading and Writing
------------------------------------------------------------

namespace SiteSearch.Match

/- The fields of a match. -/
abbrev fields : List Json.Field :=
  [⟨"id", .id, none⟩,
   ⟨"title", .text, none⟩,
   ⟨"href", .text, none⟩,
   ⟨"parent", .optionalText, some none⟩,
   ⟨"score", .score, some (0 : Float)⟩]

/- What a match looks like. -/
abbrev schema : Json.Schema :=
  ⟨"Match", fields⟩

/- The match with these field values. -/
def ofValues :
    Json.Values fields → Match Float
  | (id, title, href, parent, score, _) =>
      ⟨id, title, href, parent, score⟩

/- The match that a generic value is. -/
def ofJson
    (value : Json) :
    Except Json.Error (Match Float) :=
  (schema.ofJson value).map ofValues

/- The match that a text writes. -/
def parse
    (bytes : List UInt8) :
    Except Json.Error (Match Float) :=
  (schema.parse bytes).map ofValues

/- A match as a value, its members in the order of its fields. -/
def toJson
    (found : Match Float) :
    Json :=
  .object
    [("id", found.id.toJson),
     ("title", .string found.title),
     ("href", .string found.href),
     ("parent", optionalText found.parent),
     ("score", .number (.float found.score))]

end SiteSearch.Match

------------------------------------------------------------
-- Field Names
------------------------------------------------------------

namespace SiteSearch

/- The names that a field may have, as a message lists them. -/
def fieldNames : String := "`title` or `content`"

/- The field of a name. -/
def SearchedField.ofName
    (name : String) :
    Except Json.Error SearchedField :=
  if name = SearchedField.title.name then .ok .title
  else if name = SearchedField.content.name then .ok .content
  else .error (.unknownVariant name fieldNames)

/-
  The field that a value names: a string, or an object whose
  only key is the name and whose value is null.
-/
def SearchedField.ofJson :
    Json → Except Json.Error SearchedField
  | .string name => SearchedField.ofName name
  | .object [(name, value)] =>
      match SearchedField.ofName name, value with
      | .ok field, .null => .ok field
      | .ok _, value => Json.mistyped "unit" value
      | .error e, _ => .error e
  | .object _ => .error (.wrongValue .map "map with a single key")
  | value => Json.mistyped "string or map" value

end SiteSearch
