import SiteSearch.Proofs.Json.Schema

/-
  What the fields of a schema are given.

  A field that is given a value takes it if it is of its kind,
  and one that is given none takes its default.  An object
  gives each field the member of its name, an array gives the
  fields its elements one by one.

  Main declarations:
    * `SiteSearch.Json.Field.Takes`
    * `SiteSearch.Json.AreGiven`
    * `SiteSearch.Json.Placed`
    * `SiteSearch.Json.exists_complete_iff_given`
    * `SiteSearch.Json.Schema.ofJson_object_iff_given`
    * `SiteSearch.Json.readObject_iff_given`
    * `SiteSearch.Json.Schema.ofJson_array_iff_placed`
-/

------------------------------------------------------------
-- One Field
------------------------------------------------------------

namespace SiteSearch.Json

/- What a field takes: its default if it is given nothing. -/
def Field.Takes
    (field : Field)
    (given : Option Json)
    (x : field.kind.Carrier) :
    Prop :=
  match given with
  | none => field.default? = some x
  | some v => field.kind.ofJson v = .ok x

/-
  A draft is complete if its first field has a value or a
  default.
-/
theorem complete_cons_eq_ok_iff
    {field : Field}
    {fields : List Field}
    {met : Option field.kind.Carrier}
    {draft : Draft fields}
    {x : field.kind.Carrier}
    {values : Values fields} :
    complete (field :: fields) (met, draft) = .ok (x, values) ↔
      met.or field.default? = some x ∧
        complete fields draft = .ok values := by
  cases met with
  | some y =>
      rw [complete]
      cases complete fields draft <;> simp
  | none =>
      rw [complete.eq_def]
      dsimp only
      cases field.default? with
      | none => simp
      | some y => cases complete fields draft <;> simp

/- A field that was not met before takes what it is given. -/
theorem exists_filling_iff_takes
    {field : Field}
    {given : Option Json}
    {x : field.kind.Carrier} :
    (∃ met, Filling field.kind given none met ∧
        met.or field.default? = some x) ↔
      field.Takes given x := by
  cases given <;> simp [Filling, Field.Takes]

end SiteSearch.Json

------------------------------------------------------------
-- Members
------------------------------------------------------------

namespace SiteSearch.Json

/- The values of fields, each of which is given what is found. -/
def AreGiven
    (find : String → Option Json) :
    (fields : List Field) → Values fields → Prop
  | [], _ => True
  | field :: fields, (x, values) =>
      field.Takes (find field.name) x ∧ AreGiven find fields values

/- What is given depends on the names of the fields alone. -/
theorem given_congr
    {find find' : String → Option Json}
    {fields : List Field}
    (hSame : ∀ field ∈ fields, find field.name = find' field.name)
    {values : Values fields} :
    AreGiven find fields values ↔ AreGiven find' fields values := by
  induction fields with
  | nil => exact Iff.rfl
  | cons field fields ih =>
      rcases values with ⟨x, values⟩
      rw [AreGiven, AreGiven, hSame field List.mem_cons_self,
        ih fun other hOther =>
          hSame other (List.mem_cons_of_mem _ hOther)]

/- An empty draft is filled and completed by what is given. -/
theorem exists_complete_iff_given
    {find : String → Option Json}
    {fields : List Field}
    {values : Values fields} :
    (∃ draft, Filled find fields (emptyDraft fields) draft ∧
        complete fields draft = .ok values) ↔
      AreGiven find fields values := by
  induction fields with
  | nil => exact ⟨fun _ => trivial, fun _ => ⟨(), trivial, rfl⟩⟩
  | cons field fields ih =>
      rcases values with ⟨x, values⟩
      rw [AreGiven, ← ih, ← exists_filling_iff_takes]
      constructor
      · rintro ⟨⟨met, draft⟩, ⟨hMet, hDraft⟩, hComplete⟩
        rcases complete_cons_eq_ok_iff.mp hComplete with ⟨hFirst, hRest⟩
        exact ⟨⟨met, hMet, hFirst⟩, draft, hDraft, hRest⟩
      · rintro ⟨⟨met, hMet, hFirst⟩, draft, hDraft, hRest⟩
        exact ⟨(met, draft), ⟨hMet, hDraft⟩,
          complete_cons_eq_ok_iff.mpr ⟨hFirst, hRest⟩⟩

/- An object holds the fields if its members give them values. -/
theorem Schema.ofJson_object_iff_given
    {schema : Schema}
    (hNames : (schema.fields.map Field.name).Nodup)
    {members : List (String × Json)}
    (hOnce : ∀ field ∈ schema.fields,
      (members.map Prod.fst).count field.name ≤ 1)
    {values : Values schema.fields} :
    schema.ofJson (.object members) = .ok values ↔
      AreGiven (fun name => members.lookup name) schema.fields
        values := by
  rw [Schema.ofJson_object_eq_ok_iff, ← exists_complete_iff_given]
  simp only [draftMembers_eq_ok_iff hNames hOnce]

/-
  Straight from a text an object is read if it names no field
  twice, and the fields are given what stands for its members.
-/
theorem readObject_iff_given
    {depth : Nat}
    {schema : Schema}
    (hNames : (schema.fields.map Field.name).Nodup)
    {item : Reader Json}
    (hItem : item.StandsFor depth schema.fields)
    {bytes after rest : List UInt8}
    {named : List (String × Json)}
    (hNamed : Listed (byte '}') (quoted (keyed item)) true
      bytes named after)
    {values : Values schema.fields} :
    schema.readObject depth bytes = .ok (values, rest) ↔
      rest = after ∧
        (∀ field ∈ schema.fields,
          (named.map Prod.fst).count field.name ≤ 1) ∧
        AreGiven (fun name => named.lookup name) schema.fields
          values := by
  rw [readObject_eq_ok_iff hNames hItem hNamed]
  refine and_congr_right fun _ => and_congr_right fun hOnce => ?_
  have hSorted : ((membersOf named).map Prod.fst).Nodup :=
    (pairwise_membersOf named).imp ne_of_lt
  rw [Schema.ofJson_object_iff_given hNames fun field _ =>
    List.nodup_iff_count_le_one.mp hSorted field.name]
  exact given_congr fun field hField =>
    lookup_membersOf (hOnce field hField)

end SiteSearch.Json

------------------------------------------------------------
-- Elements
------------------------------------------------------------

namespace SiteSearch.Json

/-
  The values of fields, each of which is given the element in
  its place, where no element is left over.
-/
def Placed
    (items : List Json)
    (place : Nat) :
    (fields : List Field) → Values fields → Prop
  | [], _ => items.length ≤ place
  | field :: fields, (x, values) =>
      field.Takes items[place]? x ∧
        Placed items (place + 1) fields values

/- The elements from a place on are taken as they are placed. -/
theorem elementsOf_eq_ok_iff_placed
    {tooShort : Nat → Error}
    {items : List Json}
    {place : Nat}
    {fields : List Field}
    {values : Values fields} :
    elementsOf tooShort place fields (items.drop place) =
        .ok (values, []) ↔
      Placed items place fields values := by
  induction fields generalizing place with
  | nil => simp [elementsOf, Placed]
  | cons field fields ih =>
      rcases values with ⟨x, values⟩
      rw [Placed, ← ih]
      by_cases hPlace : place < items.length
      · rw [List.drop_eq_getElem_cons hPlace,
          List.getElem?_eq_getElem hPlace]
        exact elementsOf_cons_eq_ok_iff
      · have hEnd := not_lt.mp hPlace
        rw [List.drop_eq_nil_of_le hEnd, List.getElem?_eq_none hEnd,
          List.drop_eq_nil_of_le (hEnd.trans (Nat.le_succ place))]
        exact elementsOf_nil_eq_ok_iff

/-
  An array holds the fields if its elements are in their
  places.
-/
theorem Schema.ofJson_array_iff_placed
    {schema : Schema}
    {items : List Json}
    {values : Values schema.fields} :
    schema.ofJson (.array items) = .ok values ↔
      Placed items 0 schema.fields values := by
  rw [Schema.ofJson_array_eq_ok_iff, ← elementsOf_eq_ok_iff_placed,
    List.drop_zero]

end SiteSearch.Json
