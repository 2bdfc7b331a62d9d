import SiteSearch.Loader
import SiteSearch.Proofs.Artifact.Agreement
import SiteSearch.Proofs.Json.Written

/-
  Search data that is written and loaded.

  Records with arbitrary texts are loaded as they were written.
  Whatever search data is loaded, its records can be written
  so, since a number that is read as negative is below zero.

  Main declarations:
    * `SiteSearch.RecordId.IsProper`
    * `SiteSearch.Record.isItem_toJson`
    * `SiteSearch.Artifact.ofBytes_write`
    * `SiteSearch.Artifact.isProper_of_mem_records`
    * `SiteSearch.Artifact.loads_what_is_written`
-/

------------------------------------------------------------
-- Records as Written
------------------------------------------------------------

namespace SiteSearch

open Json

/-
  An identifier that stands apart for being negative is
  below zero.
-/
def RecordId.IsProper :
    RecordId → Prop
  | number _ => True
  | signed value => value < 0
  | text _ => True

namespace Record

/- The members of a record, as they are written. -/
def members
    (record : Record) :
    List (String × Json) :=
  [("id", record.id.toJson),
   ("title", .string record.title),
   ("content", .string record.content),
   ("href", .string record.href),
   ("parent", optionalText record.parent)]

theorem toJson_eq
    (record : Record) :
    record.toJson = .object record.members := rfl

/- An identifier is read back from what is written of it. -/
theorem takes_id
    (depth : Nat)
    {id : RecordId}
    (hProper : id.IsProper) :
    (value depth).Takes (charBytes (compactChars id.toJson))
      id.toJson := by
  cases id with
  | number n => exact takes_whole depth n
  | signed n => exact takes_negative depth hProper
  | text name => exact takes_string depth name

/- So is a text that may be absent. -/
theorem takes_optionalText
    (depth : Nat)
    (given : Option String) :
    (value depth).Takes (charBytes (compactChars (optionalText given)))
      (optionalText given) := by
  cases given with
  | none => exact takes_null depth
  | some written => exact takes_string depth written

/- A record is an item of an array as it is written. -/
theorem isItem_toJson
    (depth : Nat)
    {record : Record}
    (hProper : record.id.IsProper) :
    IsItem (byte ']') (value (depth + 1)) (compactChars record.toJson)
      (.object (membersOf record.members)) := by
  have hMembers : List.Forall₂
      (IsItem (byte '}') (quoted (keyed (value depth))))
      (compactMembers record.members) record.members := by
    rw [compactMembers_eq_map]
    exact .cons (isItem_member (takes_id depth hProper) _)
      (.cons (isItem_member (takes_string depth _) _)
        (.cons (isItem_member (takes_string depth _) _)
          (.cons (isItem_member (takes_string depth _) _)
            (.cons (isItem_member (takes_optionalText depth _) _)
              .nil))))
  have hChars : compactChars record.toJson =
      '{' :: ([','].intercalate (compactMembers record.members) ++
        ['}']) := by
    rw [toJson_eq, compactChars]
  rw [hChars]
  exact ⟨takes_object hMembers, byte '{', _, rfl, by decide, by decide⟩

/- A record is made of its members, in any order. -/
theorem ofJson_membersOf_members
    (record : Record) :
    ofJson (.object (membersOf record.members)) = .ok record := by
  have hOnce : ∀ field ∈ fields,
      (record.members.map Prod.fst).count field.name ≤ 1 := by
    change ∀ field ∈ fields,
      ["id", "title", "content", "href", "parent"].count field.name ≤ 1
    decide
  have hDraft : draftMembers fields record.members (emptyDraft fields) =
      .ok (some record.id, some record.title,
        some (some record.content), some record.href,
        some record.parent, ()) := by
    rcases record with ⟨id, title, content, href, parent⟩
    cases id <;> cases parent <;> rfl
  have hValues : schema.ofJson (.object (membersOf record.members)) =
      .ok (record.id, record.title, some record.content, record.href,
        record.parent, ()) :=
    Schema.ofJson_object_eq_ok_iff.mpr
      ⟨_, (draftMembers_membersOf nodup_names hOnce).mpr hDraft, rfl⟩
  exact ofJson_eq_ok_iff.mpr ⟨_, hValues, rfl⟩

end Record

end SiteSearch

------------------------------------------------------------
-- Records as Read
------------------------------------------------------------

namespace SiteSearch.Json

/- A value that some bytes write. -/
def IsRead
    (v : Json) :
    Prop :=
  ∃ depth bytes rest, value depth bytes = .ok (v, rest)

/- The elements of an array that was read were read. -/
theorem IsRead.of_mem_array
    {items : List Json}
    (hRead : (Json.array items).IsRead)
    {v : Json}
    (hMember : v ∈ items) :
    v.IsRead := by
  rcases hRead with ⟨depth, bytes, rest, hValue⟩
  rcases value_cases hValue with
    ⟨hLeaf, -⟩ | ⟨d, -, front, ⟨-, listed, hListed, hSame⟩
      | ⟨-, named, -, hSame⟩⟩
  · cases hLeaf
  · cases hSame
    rcases hListed.exists_read hMember with ⟨front, after, hItem⟩
    exact ⟨d, front, after, hItem⟩
  · cases hSame

/-
  The members of an object that was read were read, and no key
  is there twice.
-/
theorem IsRead.of_object
    {members : List (String × Json)}
    (hRead : (Json.object members).IsRead) :
    (members.map Prod.fst).Nodup ∧ ∀ member ∈ members,
      member.2.IsRead := by
  rcases hRead with ⟨depth, bytes, rest, hValue⟩
  rcases value_cases hValue with
    ⟨hLeaf, -⟩ | ⟨d, -, front, ⟨-, listed, -, hSame⟩
      | ⟨-, named, hNamed, hSame⟩⟩
  · cases hLeaf
  · cases hSame
  · cases hSame
    refine ⟨(pairwise_membersOf named).imp ne_of_lt, ?_⟩
    rintro ⟨key, v⟩ hMember
    rcases hNamed.exists_read (mem_of_mem_membersOf hMember) with
      ⟨front, after, hItem⟩
    rcases quoted_eq_ok_iff.mp hItem with ⟨tail, -, hKeyed⟩
    rcases keyed_eq_ok_iff.mp hKeyed with ⟨_, inner, -, -, hInner⟩
    exact ⟨d, inner, after, hInner⟩

/- A negative number that was read is below zero. -/
theorem IsRead.neg
    {i : Int64}
    (hRead : (Json.number (.negative i)).IsRead) :
    i < 0 := by
  rcases hRead with ⟨depth, bytes, rest, hValue⟩
  rcases exists_readNumber_of_value hValue with ⟨front, hNumber⟩
  rw [readNumber_eq] at hNumber
  rcases Reader.andThen_eq_ok_iff.mp hNumber with
    ⟨n, between, -, hValued⟩
  rcases bind_eq_ok_iff.mp hValued with ⟨_, hNumeral, hPure⟩
  cases hPure
  exact neg_of_value_eq_negative hNumeral

end SiteSearch.Json

------------------------------------------------------------
-- Identifiers as Read
------------------------------------------------------------

namespace SiteSearch.Record

open Json

/- An identifier that was read is proper. -/
theorem isProper_of_ofJson_id
    {v : Json}
    (hRead : v.IsRead)
    {id : RecordId}
    (hId : Kind.ofJson .id v = .ok id) :
    id.IsProper := by
  cases v with
  | number n =>
      cases n with
      | whole n =>
          cases hId
          trivial
      | negative n =>
          cases hId
          exact hRead.neg
      | float x => cases hId
  | string name =>
      cases hId
      trivial
  | null => cases hId
  | bool flag => cases hId
  | array items => cases hId
  | object members => cases hId

/- So is that of a record that was read. -/
theorem isProper_of_ofJson
    {v : Json}
    (hRead : v.IsRead)
    {record : Record}
    (hRecord : ofJson v = .ok record) :
    record.id.IsProper := by
  rcases ofJson_eq_ok_iff.mp hRecord with ⟨values, hValues, rfl⟩
  rcases values with ⟨id, title, content, href, parent, ⟨⟩⟩
  change id.IsProper
  cases v with
  | array items =>
      have hElements := Schema.ofJson_array_eq_ok_iff.mp hValues
      cases items with
      | nil =>
          rcases elementsOf_nil_eq_ok_iff.mp hElements with
            ⟨hDefault, -⟩
          cases hDefault
      | cons item items =>
          rcases elementsOf_cons_eq_ok_iff.mp hElements with ⟨hId, -⟩
          exact isProper_of_ofJson_id
            (hRead.of_mem_array List.mem_cons_self) hId
  | object members =>
      rcases hRead.of_object with ⟨hKeys, hMembers⟩
      rcases Schema.ofJson_object_eq_ok_iff.mp hValues with
        ⟨⟨met, draft⟩, hDraft, hComplete⟩
      rw [draftMembers_eq_ok_iff nodup_names fun field _ =>
        List.nodup_iff_count_le_one.mp hKeys field.name] at hDraft
      have hFound : Filling .id (members.lookup "id") none met :=
        hDraft.1
      cases hLookup : members.lookup "id" with
      | none =>
          rw [hLookup] at hFound
          have hNone : met = none := hFound
          rw [hNone] at hComplete
          cases hComplete
      | some w =>
          rw [hLookup] at hFound
          rcases hFound with ⟨x, hId, rfl⟩
          have hSame := complete_cons_some hComplete
          rw [← hSame] at hId
          have hMember :=
            (lookup_eq_some_iff_mem hKeys "id" w).mp hLookup
          exact isProper_of_ofJson_id (hMembers _ hMember) hId
  | null => cases hValues
  | bool flag => cases hValues
  | number n => cases hValues
  | string name => cases hValues

end SiteSearch.Record

------------------------------------------------------------
-- Search Data as Written
------------------------------------------------------------

namespace SiteSearch.Artifact

open Json

/- Records are loaded from what is written of them. -/
theorem values_write
    {records : List Record}
    (hProper : ∀ record ∈ records, record.id.IsProper) :
    values (Bytes.ofText (write records)) =
      .ok (records.map fun record =>
        .object (membersOf record.members)) := by
  have hItems :
      List.Forall₂ (IsItem (byte ']') (value (depthLimit - 1)))
      (compactItems (records.map Record.toJson))
      (records.map fun record =>
        .object (membersOf record.members)) := by
    rw [compactItems_eq_map, List.map_map]
    induction records with
    | nil => exact .nil
    | cons record records ih =>
        exact .cons
          (Record.isItem_toJson _ (hProper record List.mem_cons_self))
          (ih fun other hMember =>
            hProper other (List.mem_cons_of_mem _ hMember))
  have hListed := listed_of_isItem (by decide) (by decide) hItems []
  have hBytes : Bytes.ofText (write records) =
      byte '[' :: (charBytes ([','].intercalate
        (compactItems (records.map Record.toJson))) ++ [byte ']']) := by
    rw [write, compact, ofText_ofList, compactChars, charBytes_cons,
      charBytes_append]
    rfl
  rw [hBytes]
  exact values_eq_ok_iff.mpr ⟨_, [], rfl, hListed, rfl⟩

/- All of them are, and nothing is skipped. -/
theorem ofBytes_write
    (location : String)
    {records : List Record}
    (hProper : ∀ record ∈ records, record.id.IsProper) :
    ∃ artifact,
      ofBytes location (Bytes.ofText (write records)) = .ok artifact ∧
      artifact.records = records ∧
      artifact.info.records = records.length ∧
      artifact.info.skipped = 0 := by
  have hRecords :
      recordsOf (records.map fun record =>
        .object (membersOf record.members)) = records := by
    rw [recordsOf, List.filterMap_map]
    have hAll : ((fun v => (Record.ofJson v).toOption) ∘ fun record =>
        .object (membersOf record.members)) = some := by
      funext record
      simp [Record.ofJson_membersOf_members, Except.toOption]
    rw [hAll, List.filterMap_some]
  refine ⟨_, ofBytes_eq_ok_iff.mpr ⟨_, values_write hProper, rfl⟩,
    hRecords, ?_, ?_⟩
  · simp [ofValues, hRecords]
  · simp [ofValues, hRecords]

/-
  The records of search data that was loaded have proper
  identifiers.
-/
theorem isProper_of_mem_records
    {location : String}
    {bytes : List UInt8}
    {artifact : Artifact}
    (hLoads : ofBytes location bytes = .ok artifact)
    {record : Record}
    (hMember : record ∈ artifact.records) :
    record.id.IsProper := by
  rcases ofBytes_eq_ok_iff.mp hLoads with ⟨items, hValues, rfl⟩
  rcases values_eq_ok_iff.mp hValues with ⟨front, rest, -, hListed, -⟩
  rcases List.mem_filterMap.mp hMember with ⟨v, hItem, hSome⟩
  rcases hListed.exists_read hItem with ⟨inner, after, hValue⟩
  refine Record.isProper_of_ofJson ⟨_, inner, after, hValue⟩ ?_
  cases hRecord : Record.ofJson v with
  | error cause => simp [hRecord, Except.toOption] at hSome
  | ok other => simpa [hRecord, Except.toOption] using hSome

/-
  Search data is loaded as it was written.  For all records
  with any texts, whose identifiers are whole numbers, negative
  numbers or texts, what a site generator writes is loaded from
  memory with these records in this order, and none is skipped.
  And all records that are ever loaded have such identifiers,
  so that writing them and loading them again yields the same
  records.
-/
theorem loads_what_is_written :
    (∀ records : List Record,
      (∀ record ∈ records, record.id.IsProper) →
      let source := Source.memory (Bytes.ofText (write records))
      ∃ bytes artifact,
        (∀ (m : Type → Type) [Monad m] (access : Access m),
          source.fetch access = pure (.bytes bytes)) ∧
        ofBytes source.location bytes = .ok artifact ∧
        artifact.records = records ∧
        artifact.info.records = records.length ∧
        artifact.info.skipped = 0) ∧
    ∀ (location : String) (bytes : List UInt8) (artifact : Artifact),
      ofBytes location bytes = .ok artifact →
      (∀ record ∈ artifact.records, record.id.IsProper) ∧
      ∀ location' : String, ∃ again,
        ofBytes location' (Bytes.ofText (write artifact.records)) =
          .ok again ∧
        again.records = artifact.records := by
  constructor
  · intro records hProper source
    rcases ofBytes_write source.location hProper with
      ⟨artifact, hLoads, hRecords, hCount, hSkipped⟩
    exact ⟨_, artifact, fun m _ access => rfl, hLoads, hRecords, hCount,
      hSkipped⟩
  · intro location bytes artifact hLoads
    have hProper := fun record => @isProper_of_mem_records
      location bytes artifact hLoads record
    refine ⟨hProper, fun location' => ?_⟩
    rcases ofBytes_write location' hProper with
      ⟨again, hAgain, hSame, -⟩
    exact ⟨again, hAgain, hSame⟩

/-
  Records with the outermost identifiers and texts that need
  escapes.
-/
def oddRecords : List Record :=
  [⟨.number 18446744073709551615, "a \"b\" \\ c", "d\ne\x01 😀", "/",
     none⟩,
   ⟨.signed (-9223372036854775808), "", "", "/x", some "Up"⟩,
   ⟨.text "-1", "\t", "", "", some ""⟩]

/- They are loaded as they were written, and once more. -/
theorem loads_what_is_written_of_odd :
    let source := Source.memory (Bytes.ofText (write oddRecords))
    ∃ bytes artifact,
      ofBytes source.location bytes = .ok artifact ∧
      artifact.records = oddRecords ∧
      artifact.info.skipped = 0 ∧
      ∃ again,
        ofBytes source.location
            (Bytes.ofText (write artifact.records)) =
          .ok again ∧
        again.records = oddRecords := by
  intro source
  have hProper : ∀ record ∈ oddRecords, record.id.IsProper := by
    have hNegative : (-9223372036854775808 : Int64) < 0 := by decide
    simp [oddRecords, RecordId.IsProper, hNegative]
  rcases loads_what_is_written.1 oddRecords hProper with
    ⟨bytes, artifact, -, hLoads, hRecords, -, hSkipped⟩
  rcases (loads_what_is_written.2 _ bytes artifact hLoads).2
      source.location with ⟨again, hAgain, hSame⟩
  exact ⟨bytes, artifact, hLoads, hRecords, hSkipped, again, hAgain,
    hSame.trans hRecords⟩

end SiteSearch.Artifact
