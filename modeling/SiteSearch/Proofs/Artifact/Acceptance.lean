import SiteSearch.Proofs.Artifact.RoundTrip
import SiteSearch.Proofs.Json.Given

/-
  What is a record.

  A generic value is a record if it is an object whose members
  are of the right kinds, or an array of four or five elements
  that are.  Nothing else about the value matters, and nothing
  is converted.  Of some values exactly those that are records
  are kept.

  Main declarations:
    * `SiteSearch.Json.IsProper`
    * `SiteSearch.Json.IsRecord`
    * `SiteSearch.Artifact.Kept`
    * `SiteSearch.Record.ofJson_iff_isRecord`
    * `SiteSearch.Artifact.keeps_what_is_a_record`
-/

------------------------------------------------------------
-- Proper Values
------------------------------------------------------------

namespace SiteSearch.Json

/-
  A generic value as there are some: a number that stands
  apart for being negative is below zero, and an object names
  no key twice.
-/
inductive IsProper :
    Json → Prop
  | null : IsProper .null
  | bool (flag : Bool) : IsProper (.bool flag)
  | whole (n : UInt64) : IsProper (.number (.whole n))
  | negative {i : Int64} (hNegative : i < 0) :
      IsProper (.number (.negative i))
  | float (x : Float) : IsProper (.number (.float x))
  | string (text : String) : IsProper (.string text)
  | array {items : List Json} (hItems : ∀ v ∈ items, IsProper v) :
      IsProper (.array items)
  | object {members : List (String × Json)}
      (hKeys : (members.map Prod.fst).Nodup)
      (hMembers : ∀ member ∈ members, IsProper member.2) :
      IsProper (.object members)

attribute [simp] IsProper.null IsProper.bool IsProper.whole
  IsProper.float IsProper.string

@[simp] theorem isProper_negative_iff
    {i : Int64} :
    (Json.number (.negative i)).IsProper ↔ i < 0 := by
  constructor
  · rintro ⟨⟩
    assumption
  · exact .negative

/- An array is proper if its elements are. -/
@[simp] theorem isProper_array_iff
    {items : List Json} :
    (Json.array items).IsProper ↔ ∀ v ∈ items, v.IsProper := by
  constructor
  · rintro ⟨⟩
    assumption
  · exact .array

/-
  An object is proper if its keys differ and its values are
  proper.
-/
@[simp] theorem isProper_object_iff
    {members : List (String × Json)} :
    (Json.object members).IsProper ↔
      (members.map Prod.fst).Nodup ∧
        ∀ member ∈ members, member.2.IsProper := by
  constructor
  · rintro ⟨⟩
    exact ⟨‹_›, ‹_›⟩
  · exact fun ⟨hKeys, hMembers⟩ => .object hKeys hMembers

/- What a proper object has for a key is proper. -/
theorem IsProper.of_lookup
    {members : List (String × Json)}
    (hProper : (Json.object members).IsProper)
    {key : String}
    {v : Json}
    (hLookup : members.lookup key = some v) :
    v.IsProper := by
  rcases isProper_object_iff.mp hProper with ⟨hKeys, hMembers⟩
  exact hMembers _ ((lookup_eq_some_iff_mem hKeys key v).mp hLookup)

/- Whatever is read is proper. -/
theorem IsRead.isProper
    {v : Json}
    (hRead : v.IsRead) :
    v.IsProper := by
  match v with
  | .null => exact .null
  | .bool flag => exact .bool flag
  | .number (.whole n) => exact .whole n
  | .number (.negative i) => exact .negative hRead.neg
  | .number (.float x) => exact .float x
  | .string text => exact .string text
  | .array items =>
      exact .array fun w hMember =>
        (hRead.of_mem_array hMember).isProper
  | .object members =>
      exact .object hRead.of_object.1 fun (key, w) hMember =>
        (hRead.of_object.2 (key, w) hMember).isProper
termination_by sizeOf v
decreasing_by
  · exact (List.sizeOf_lt_of_mem hMember).trans (by simp)
  · have hSmaller := List.sizeOf_lt_of_mem hMember
    rw [Prod.mk.sizeOf_spec] at hSmaller
    rw [Json.object.sizeOf_spec]
    omega

end SiteSearch.Json

------------------------------------------------------------
-- Fields of a Record
------------------------------------------------------------

namespace SiteSearch.Json

/-
  The identifier that a value is: a whole number of 64 bits, a
  negative one, or a text.
-/
inductive IsId :
    Json → RecordId → Prop
  | number (n : UInt64) : IsId (.number (.whole n)) (.number n)
  | signed {i : Int64} (hNegative : i < 0) :
      IsId (.number (.negative i)) (.signed i)
  | text (name : String) : IsId (.string name) (.text name)

/-
  A text that may be given: absent and null both mean that
  there is none.
-/
inductive IsOptionalText :
    Option Json → Option String → Prop
  | absent : IsOptionalText none none
  | null : IsOptionalText (some .null) none
  | text (written : String) :
      IsOptionalText (some (.string written)) (some written)

/-
  The record whose fields are given these values, if they
  are given any.
-/
structure IsGiven
    (id title content href parent : Option Json)
    (record : Record) :
    Prop where
  id : ∃ v, id = some v ∧ v.IsId record.id
  title : title = some (.string record.title)
  content : ∃ text, IsOptionalText content text ∧
    record.content = text.getD ""
  href : href = some (.string record.href)
  parent : IsOptionalText parent record.parent

/-
  The record that a value is: an object with the members of a
  record, and with any other members, or an array with four or
  five elements, the fields of a record in this order.
-/
inductive IsRecord :
    Json → Record → Prop
  | object
      {members : List (String × Json)}
      {record : Record}
      (hGiven : IsGiven (members.lookup "id") (members.lookup "title")
        (members.lookup "content") (members.lookup "href")
        (members.lookup "parent") record) :
      IsRecord (.object members) record
  | array
      {items : List Json}
      {record : Record}
      (hLength : items.length = 4 ∨ items.length = 5)
      (hGiven :
        IsGiven items[0]? items[1]? items[2]? items[3]? items[4]?
        record) :
      IsRecord (.array items) record

/- A proper value is taken for an identifier if it is one. -/
theorem ofJson_id_iff_isId
    {v : Json}
    (hProper : v.IsProper)
    {id : RecordId} :
    Kind.ofJson .id v = .ok id ↔ v.IsId id := by
  constructor
  · intro hId
    cases hProper with
    | whole n =>
        cases hId
        exact .number n
    | negative hNegative =>
        cases hId
        exact .signed hNegative
    | string name =>
        cases hId
        exact .text name
    | null => cases hId
    | bool flag => cases hId
    | float x => cases hId
    | array hItems => cases hId
    | object hKeys hMembers => cases hId
  · intro hId
    cases hId <;> rfl

/- A field that must be a text takes a text. -/
theorem takes_text_iff
    {name : String}
    {given : Option Json}
    {text : String} :
    (Json.Field.mk name .text none).Takes given text ↔
      given = some (.string text) := by
  rcases given with _ | v
  · simp [Field.Takes]
  · cases v <;> simp [Field.Takes, Kind.ofJson, mistyped]

/- A field that may be a text takes one, or none. -/
theorem takes_optionalText_iff
    {name : String}
    {given : Option Json}
    {text : Option String} :
    (Json.Field.mk name .optionalText (some none)).Takes given text ↔
      IsOptionalText given text := by
  constructor
  · intro hTakes
    rcases given with _ | v
    · cases hTakes
      exact .absent
    · cases v with
      | null =>
          cases hTakes
          exact .null
      | string written =>
          cases hTakes
          exact .text written
      | bool flag => cases hTakes
      | number n => cases hTakes
      | array items => cases hTakes
      | object members => cases hTakes
  · intro hText
    cases hText <;> rfl

/- A field that must be an identifier takes one. -/
theorem takes_id_iff
    {name : String}
    {given : Option Json}
    (hProper : ∀ v, given = some v → v.IsProper)
    {id : RecordId} :
    (Json.Field.mk name .id none).Takes given id ↔
      ∃ v, given = some v ∧ v.IsId id := by
  rcases given with _ | v
  · simp [Field.Takes]
  · simp [Field.Takes, ofJson_id_iff_isId (hProper v rfl)]

end SiteSearch.Json

------------------------------------------------------------
-- Records
------------------------------------------------------------

namespace SiteSearch.Record

open Json

/-
  The values that the fields of a record take when they are
  given these.
-/
def Take
    (id title content href parent : Option Json)
    (values : Values fields) :
    Prop :=
  (Json.Field.mk "id" .id none).Takes id values.1 ∧
    (Json.Field.mk "title" .text none).Takes title values.2.1 ∧
    (Json.Field.mk "content" .optionalText (some none)).Takes content
      values.2.2.1 ∧
    (Json.Field.mk "href" .text none).Takes href values.2.2.2.1 ∧
    (Json.Field.mk "parent" .optionalText (some none)).Takes parent
      values.2.2.2.2.1

/- A record is made of the values that its fields take. -/
theorem exists_take_iff_isGiven
    {id title content href parent : Option Json}
    (hProper : ∀ v, id = some v → v.IsProper)
    {record : Record} :
    (∃ values, Take id title content href parent values ∧
        ofValues values = record) ↔
      IsGiven id title content href parent record := by
  constructor
  · rintro ⟨⟨i, t, c, h, p, ⟨⟩⟩,
      ⟨hId, hTitle, hContent, hHref, hParent⟩, rfl⟩
    exact {
      id := (takes_id_iff hProper).mp hId
      title := takes_text_iff.mp hTitle
      content := ⟨c, takes_optionalText_iff.mp hContent, rfl⟩
      href := takes_text_iff.mp hHref
      parent := takes_optionalText_iff.mp hParent
    }
  · intro hGiven
    rcases hGiven.content with ⟨c, hContent, hSame⟩
    refine
      ⟨(record.id, record.title, c, record.href, record.parent, ()),
      ⟨(takes_id_iff hProper).mpr hGiven.id,
        takes_text_iff.mpr hGiven.title,
        takes_optionalText_iff.mpr hContent,
        takes_text_iff.mpr hGiven.href,
        takes_optionalText_iff.mpr hGiven.parent⟩, ?_⟩
    rw [ofValues, ← hSame]

theorem given_fields_iff_take
    {find : String → Option Json}
    {values : Values fields} :
    AreGiven find fields values ↔
      Take (find "id") (find "title") (find "content") (find "href")
        (find "parent") values := by
  simp only [AreGiven, Take, and_true]

theorem placed_fields_iff_take
    {items : List Json}
    {values : Values fields} :
    Placed items 0 fields values ↔
      Take items[0]? items[1]? items[2]? items[3]? items[4]? values ∧
        items.length ≤ 5 := by
  simp only [Placed, Take, Nat.zero_add, and_assoc]

/-
  An object is a record if its members are given to the
  fields of one.
-/
theorem ofJson_object_iff
    {members : List (String × Json)}
    (hProper : (Json.object members).IsProper)
    {record : Record} :
    ofJson (.object members) = .ok record ↔
      (Json.object members).IsRecord record := by
  have hKeys := (isProper_object_iff.mp hProper).1
  have hOnce : ∀ field ∈ fields,
      (members.map Prod.fst).count field.name ≤ 1 :=
    fun field _ => List.nodup_iff_count_le_one.mp hKeys field.name
  have hTake : ∀ values,
      schema.ofJson (.object members) = .ok values ↔
        Take (members.lookup "id") (members.lookup "title")
          (members.lookup "content") (members.lookup "href")
          (members.lookup "parent") values := by
    intro values
    rw [Schema.ofJson_object_iff_given nodup_names hOnce,
      given_fields_iff_take]
  have hRecord : (Json.object members).IsRecord record ↔
      IsGiven (members.lookup "id") (members.lookup "title")
        (members.lookup "content") (members.lookup "href")
        (members.lookup "parent") record := by
    constructor
    · intro hRecord
      cases hRecord with
      | object hGiven => exact hGiven
    · exact .object
  rw [ofJson_eq_ok_iff, hRecord]
  simp only [hTake]
  exact exists_take_iff_isGiven fun v => hProper.of_lookup

/-
  An array is a record if its elements are given to the
  fields of one.
-/
theorem ofJson_array_iff
    {items : List Json}
    (hProper : (Json.array items).IsProper)
    {record : Record} :
    ofJson (.array items) = .ok record ↔
      (Json.array items).IsRecord record := by
  have hTake : ∀ values,
      schema.ofJson (.array items) = .ok values ↔
        Take items[0]? items[1]? items[2]? items[3]? items[4]? values ∧
          items.length ≤ 5 := by
    intro values
    rw [Schema.ofJson_array_iff_placed, placed_fields_iff_take]
  have hFirst : ∀ v, items[0]? = some v → v.IsProper :=
    fun v hItem =>
      isProper_array_iff.mp hProper v (List.mem_of_getElem? hItem)
  rw [ofJson_eq_ok_iff]
  simp only [hTake]
  constructor
  · rintro ⟨values, ⟨hValues, hLength⟩, hSame⟩
    have hGiven := (exists_take_iff_isGiven hFirst).mp
      ⟨values, hValues, hSame⟩
    -- There is a fourth element, since it is the link.
    rcases List.getElem?_eq_some_iff.mp hGiven.href with ⟨hLink, -⟩
    exact .array (by omega) hGiven
  · intro hRecord
    cases hRecord with
    | array hLength hGiven =>
        rcases (exists_take_iff_isGiven hFirst).mpr hGiven with
          ⟨values, hValues, hSame⟩
        exact ⟨values, ⟨hValues, by omega⟩, hSame⟩

/- A proper value is read as the record that it is. -/
theorem ofJson_iff_isRecord
    {v : Json}
    (hProper : v.IsProper)
    {record : Record} :
    ofJson v = .ok record ↔ v.IsRecord record := by
  cases v with
  | object members => exact ofJson_object_iff hProper
  | array items => exact ofJson_array_iff hProper
  | null => exact ⟨nofun, nofun⟩
  | bool flag => exact ⟨nofun, nofun⟩
  | number n => exact ⟨nofun, nofun⟩
  | string text => exact ⟨nofun, nofun⟩

end SiteSearch.Record

------------------------------------------------------------
-- Elements That Are Kept
------------------------------------------------------------

namespace SiteSearch.Artifact

open Json

/-
  What is kept of some values: the records that they are, in
  their order.  Other values are passed over.
-/
inductive Kept :
    List Json → List Record → Prop
  | nil : Kept [] []
  | keep
      {v : Json}
      {values : List Json}
      {record : Record}
      {records : List Record}
      (hRecord : v.IsRecord record)
      (hRest : Kept values records) :
      Kept (v :: values) (record :: records)
  | skip
      {v : Json}
      {values : List Json}
      {records : List Record}
      (hOther : ∀ record, ¬ v.IsRecord record)
      (hRest : Kept values records) :
      Kept (v :: values) records

/- The first value is kept if it is a record. -/
theorem recordsOf_cons
    (v : Json)
    (values : List Json) :
    recordsOf (v :: values) =
      (Record.ofJson v).toOption.toList ++ recordsOf values := by
  rw [recordsOf, recordsOf, List.filterMap_cons]
  cases (Record.ofJson v).toOption <;> rfl

/- The records of proper values are what is kept of them. -/
theorem recordsOf_eq_iff_kept
    {values : List Json}
    (hProper : ∀ v ∈ values, v.IsProper)
    {records : List Record} :
    recordsOf values = records ↔ Kept values records := by
  induction values generalizing records with
  | nil =>
      constructor
      · rintro rfl
        exact .nil
      · intro hKept
        cases hKept
        rfl
  | cons v values ih =>
      have hFirst := fun record =>
        @Record.ofJson_iff_isRecord v (hProper v List.mem_cons_self)
          record
      have hRest := fun records =>
        @ih (fun w hMember =>
          hProper w (List.mem_cons_of_mem _ hMember)) records
      rw [recordsOf_cons]
      cases hRead : Record.ofJson v with
      | error cause =>
          have hOther : ∀ record, ¬ v.IsRecord record := by
            intro record hRecord
            cases hRead.symm.trans ((hFirst record).mpr hRecord)
          constructor
          · intro hRecords
            exact .skip hOther ((hRest records).mp hRecords)
          · intro hKept
            cases hKept with
            | keep hRecord hMore => exact absurd hRecord (hOther _)
            | skip _ hMore => exact (hRest records).mpr hMore
      | ok record =>
          have hRecord := (hFirst record).mp hRead
          constructor
          · rintro rfl
            exact .keep hRecord ((hRest _).mp rfl)
          · intro hKept
            cases hKept with
            | skip hOther hMore => exact absurd hRecord (hOther record)
            | keep hRecord' hMore =>
                have hSame := hRead.symm.trans ((hFirst _).mpr hRecord')
                cases hSame
                exact congrArg (record :: ·) ((hRest _).mpr hMore)

/- The elements of search data that was loaded are proper. -/
theorem isProper_of_values
    {bytes : List UInt8}
    {items : List Json}
    (hValues : values bytes = .ok items)
    {v : Json}
    (hMember : v ∈ items) :
    v.IsProper := by
  rcases values_eq_ok_iff.mp hValues with ⟨front, rest, -, hListed, -⟩
  rcases hListed.exists_read hMember with ⟨inner, after, hValue⟩
  exact IsRead.isProper ⟨_, inner, after, hValue⟩

/-
  A generic value is accepted as a record exactly if it is
  one, and then as the record that it is.  Of any list of
  values those that are records are kept, in their order, and
  so it is with the elements of all search data.
-/
theorem keeps_what_is_a_record :
    (∀ v : Json, v.IsProper →
      ∀ record, Record.ofJson v = .ok record ↔ v.IsRecord record) ∧
    (∀ values : List Json, (∀ v ∈ values, v.IsProper) →
      ∀ records, recordsOf values = records ↔ Kept values records) ∧
    ∀ (location : String) (bytes : List UInt8) (artifact : Artifact),
      ofBytes location bytes = .ok artifact →
      ∃ items, values bytes = .ok items ∧
        (∀ v ∈ items, v.IsProper) ∧ Kept items artifact.records := by
  refine ⟨fun v hProper record => Record.ofJson_iff_isRecord hProper,
    fun values hProper records => recordsOf_eq_iff_kept hProper, ?_⟩
  intro location bytes artifact hLoads
  rcases ofBytes_eq_ok_iff.mp hLoads with ⟨items, hValues, rfl⟩
  have hProper := fun v => @isProper_of_values bytes items hValues v
  exact ⟨items, hValues, hProper,
    (recordsOf_eq_iff_kept hProper).mp rfl⟩

/-
  An object with null for its content and a member that
  nobody needs.
-/
def coldObject : Json :=
  .object
    [("content", .null), ("href", .string "/cold"),
     ("id", .number (.negative (-5))), ("tags", .array [.bool true]),
     ("title", .string "Cold")]

/- The record that it is. -/
def cold : Record :=
  ⟨.signed (-5), "Cold", "", "/cold", none⟩

/- Records as objects and arrays, between values that are none. -/
def mixedValues : List Json :=
  [coldObject,
   .object
     [("href", .string "/"), ("id", .number (.float 1)),
      ("title", .string "Home")],
   .array [.string "x", .string "X", .null, .string "/x"],
   .array [.string "x", .string "X", .null],
   .array
     [.number (.whole 18446744073709551615), .string "Last",
      .string "text", .string "/last", .string "Up"]]

/- A record and a number, as search data. -/
def mixedText : List UInt8 :=
  Bytes.ofText "[[0,\"A\",null,\"/a\",null], 7]"

/- Of both exactly the records are kept. -/
theorem keeps_what_is_a_record_of_mixed :
    (coldObject.IsProper ∧ coldObject.IsRecord cold) ∧
      (∀ v ∈ mixedValues, v.IsProper) ∧
      Kept mixedValues
        [cold, ⟨.text "x", "X", "", "/x", none⟩,
         ⟨.number 18446744073709551615, "Last", "text", "/last",
           some "Up"⟩] ∧
      ∃ artifact, ofBytes "index.json" mixedText = .ok artifact ∧
        ∃ items, values mixedText = .ok items ∧
          Kept items artifact.records := by
  rcases keeps_what_is_a_record with ⟨hAccepts, hKeeps, hLoaded⟩
  have hCold : coldObject.IsProper := by
    have hNegative : (-5 : Int64) < 0 := by decide
    simp [coldObject, hNegative]
  have hMixed : ∀ v ∈ mixedValues, v.IsProper := by
    simp [mixedValues, hCold]
  have hOk : (ofBytes "index.json" mixedText).isOk = true := by
    decide +kernel
  refine ⟨⟨hCold, (hAccepts _ hCold cold).mp rfl⟩, hMixed,
    (hKeeps _ hMixed _).mp rfl, ?_⟩
  cases hLoads : ofBytes "index.json" mixedText with
  | error cause =>
      rw [hLoads] at hOk
      cases hOk
  | ok artifact =>
      rcases hLoaded _ _ _ hLoads with ⟨items, hValues, -, hKept⟩
      exact ⟨artifact, rfl, items, hValues, hKept⟩

end SiteSearch.Artifact
