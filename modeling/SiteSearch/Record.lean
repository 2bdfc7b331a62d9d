import SiteSearch.Json.Schema

/-
  Records.

  Key definitions include:
    * `SiteSearch.Record`
    * `SiteSearch.Record.schema`
    * `SiteSearch.Record.ofJson`
    * `SiteSearch.Record.parse`
    * `SiteSearch.Record.toJson`

  A site generator writes one record for each section of a
  page.  Title and content are searched.  Absent content and
  null both mean that there is none, and a page at the top of
  the site has no parent.
-/

------------------------------------------------------------
-- Records
------------------------------------------------------------

namespace SiteSearch

/- One unit of site content. -/
structure Record where
  id : RecordId
  title : String
  content : String
  href : String
  parent : Option String
deriving DecidableEq, Repr

/- An identifier as a value. -/
def RecordId.toJson :
    RecordId → Json
  | number value => .number (.whole value)
  | signed value => .number (.negative value)
  | text value => .string value

/- A text that may be absent, as a value. -/
def optionalText :
    Option String → Json
  | none => .null
  | some text => .string text

end SiteSearch

------------------------------------------------------------
-- Reading and Writing
------------------------------------------------------------

namespace SiteSearch.Record

/- The fields of a record. -/
abbrev fields : List Json.Field :=
  [⟨"id", .id, none⟩,
   ⟨"title", .text, none⟩,
   ⟨"content", .optionalText, some none⟩,
   ⟨"href", .text, none⟩,
   ⟨"parent", .optionalText, some none⟩]

/- What a record looks like. -/
abbrev schema : Json.Schema :=
  ⟨"DocumentRecord", fields⟩

/- The record with these field values. -/
def ofValues :
    Json.Values fields → Record
  | (id, title, content, href, parent, _) =>
      ⟨id, title, content.getD "", href, parent⟩

/- The record that a generic value is. -/
def ofJson
    (value : Json) :
    Except Json.Error Record :=
  (schema.ofJson value).map ofValues

/- The record that a text writes. -/
def parse
    (bytes : List UInt8) :
    Except Json.Error Record :=
  (schema.parse bytes).map ofValues

/- A record as a value, its members in the order of its fields. -/
def toJson
    (record : Record) :
    Json :=
  .object
    [("id", record.id.toJson),
     ("title", .string record.title),
     ("content", .string record.content),
     ("href", .string record.href),
     ("parent", optionalText record.parent)]

end SiteSearch.Record
