import SiteSearch.Proofs.Artifact.Elements
import SiteSearch.Proofs.Json.Schema

/-
  One record alone and in an array.

  A record can be read straight from a text, or as the only
  element of search data.  The two agree, with two exceptions:
  search data is refused as a whole where a part that nobody
  needs has no generic value, and a text that names a field
  twice is no record on its own.

  Main declarations:
    * `SiteSearch.Record.nodup_names`
    * `SiteSearch.Record.exists_only_of_parse`
    * `SiteSearch.Record.parse_of_only`
    * `SiteSearch.Record.parse_agrees_with_artifact`
-/

------------------------------------------------------------
-- Only Elements
------------------------------------------------------------

namespace SiteSearch.Artifact

open Json

/- The bytes of an array with only one element. -/
def only
    (bytes : List UInt8) :
    List UInt8 :=
  byte '[' :: (bytes ++ [byte ']'])

theorem skipSpace_only
    (bytes : List UInt8) :
    skipSpace (only bytes) = byte '[' :: (bytes ++ [byte ']']) := by
  rfl

/-
  The elements of the array, if there are any, begin with the
  value of the bytes between its brackets.
-/
theorem cases_of_values_only
    {bytes : List UInt8}
    {items : List Json}
    (hValues : values (only bytes) = .ok items) :
    (items = [] ∧ ∃ rest,
        skipSpace (bytes ++ [byte ']']) = byte ']' :: rest) ∨
      ∃ v others after rest,
        items = v :: others ∧
        value (depthLimit - 1) (bytes ++ [byte ']']) = .ok (v, after) ∧
        Listed (byte ']') (value (depthLimit - 1)) false
          after others rest ∧
        skipSpace rest = [] := by
  rcases values_eq_ok_iff.mp hValues with
    ⟨front, rest, hSkip, hListed, hEnd⟩
  rw [skipSpace_only, List.cons.injEq] at hSkip
  rw [← hSkip.2] at hListed
  cases hListed with
  | close hClose => exact Or.inl ⟨rfl, rest, hClose⟩
  | item hAhead hItem hMore =>
      cases hAhead with
      | first hFront hBracket =>
          rw [← hFront, value_skipSpace] at hItem
          exact Or.inr ⟨_, _, _, rest, rfl, hItem, hMore, hEnd⟩

/- Behind nothing but space, an array closes at its bracket. -/
theorem skipSpace_append_close
    {space : List UInt8}
    (hSpace : skipSpace space = []) :
    skipSpace (space ++ [byte ']']) = [byte ']'] := by
  rw [skipSpace, List.dropWhile_append_of_pos]
  · rfl
  · exact fun b hMember => isSpace_of_skipSpace_eq_nil hSpace hMember

/-
  The last bracket is the one with nothing but space behind
  it.
-/
theorem eq_of_append_close_eq
    {bytes front rest : List UInt8}
    (hBytes : bytes ++ [byte ']'] = front ++ byte ']' :: rest)
    (hEnd : skipSpace rest = []) :
    bytes = front ∧ rest = [] := by
  rcases List.eq_nil_or_concat rest with rfl | ⟨others, b, rfl⟩
  · exact ⟨List.append_cancel_right hBytes, rfl⟩
  · have hSplit : bytes ++ [byte ']'] =
        (front ++ byte ']' :: others) ++ [b] := by
      rw [hBytes]
      simp
    have hLast := (List.append_inj' hSplit rfl).2
    rw [List.cons.injEq] at hLast
    have hSpace := isSpace_of_skipSpace_eq_nil hEnd
      (show b ∈ others.concat b by simp)
    rw [← hLast.1] at hSpace
    exact absurd hSpace (by decide)

/-
  If the array has one element, then that is the value of the
  bytes between its brackets.
-/
theorem exists_value_of_values_only
    {bytes : List UInt8}
    {v : Json}
    (hValues : values (only bytes) = .ok [v]) :
    ∃ rest, value (depthLimit - 1) bytes = .ok (v, rest) ∧
      skipSpace rest = [] := by
  rcases cases_of_values_only hValues with
    ⟨hNone, -⟩ | ⟨_, _, after, rest, hItems, hValue, hMore, hEnd⟩
  · cases hNone
  · cases hItems
    cases hMore with
    | close hClose =>
        -- Space may stand between the value and its bracket.
        have hAfter :
            after = after.takeWhile isSpace ++ byte ']' :: rest := by
          rw [← hClose, skipSpace, List.takeWhile_append_dropWhile]
        rcases framed_value _ hValue with ⟨taken, hBytes, hFrame⟩
        rw [hAfter, ← List.append_assoc] at hBytes
        rcases eq_of_append_close_eq hBytes hEnd with ⟨rfl, rfl⟩
        refine ⟨after.takeWhile isSpace, hFrame _ ?_, ?_⟩
        · generalize after.takeWhile isSpace = space at hAfter
          rw [hAfter]
          cases space with
          | nil => exact mayReplace_nil _
          | cons b space => exact Or.inl rfl
        · exact List.dropWhile_eq_nil_iff.mpr fun b hMember =>
            List.mem_takeWhile_imp hMember

end SiteSearch.Artifact

------------------------------------------------------------
-- Records
------------------------------------------------------------

namespace SiteSearch.Record

open Json Artifact

/- The fields of a record have different names. -/
theorem nodup_names : (fields.map Field.name).Nodup := by
  decide

/- A record is read from a text by its schema. -/
theorem parse_eq_ok_iff
    {bytes : List UInt8}
    {record : Record} :
    parse bytes = .ok record ↔
      ∃ values rest, schema.read bytes = .ok (values, rest) ∧
        skipSpace rest = [] ∧ ofValues values = record := by
  have hSchema : ∀ values, schema.parse bytes = .ok values ↔
      ∃ rest, schema.read bytes = .ok (values, rest) ∧
        skipSpace rest = [] := fun values => readAll_eq_ok_iff
  rw [parse]
  cases hParse : schema.parse bytes with
  | error e =>
      constructor
      · intro hOk
        cases hOk
      · rintro ⟨values, rest, hRead, hEnd, -⟩
        rw [(hSchema values).mpr ⟨rest, hRead, hEnd⟩] at hParse
        cases hParse
  | ok values =>
      rcases (hSchema values).mp hParse with ⟨rest, hRead, hEnd⟩
      constructor
      · intro hOk
        cases hOk
        exact ⟨values, rest, hRead, hEnd, rfl⟩
      · rintro ⟨values', rest', hRead', hEnd', rfl⟩
        rw [(hSchema values').mpr ⟨rest', hRead', hEnd'⟩] at hParse
        cases hParse
        rfl

/- A generic value is a record if it holds the fields. -/
theorem ofJson_eq_ok_iff
    {v : Json}
    {record : Record} :
    ofJson v = .ok record ↔
      ∃ values, schema.ofJson v = .ok values ∧
        ofValues values = record := by
  rw [ofJson]
  cases schema.ofJson v <;> simp [Except.map]

/- Where one element was kept and none skipped, there was one. -/
theorem exists_only_of_recordsOf
    {items : List Json}
    {record : Record}
    (hRecords : recordsOf items = [record])
    (hSkipped : items.length - (recordsOf items).length = 0) :
    ∃ v, items = [v] ∧ ofJson v = .ok record := by
  rw [hRecords] at hSkipped
  match items, hSkipped with
  | [], _ => cases hRecords
  | [v], _ =>
      refine ⟨v, rfl, ?_⟩
      cases hRecord : ofJson v with
      | error cause =>
          simp [recordsOf, hRecord, Except.toOption] at hRecords
      | ok other =>
          simpa [recordsOf, hRecord, Except.toOption] using hRecords
  | _ :: _ :: _, hSkipped => simp at hSkipped

/-
  What is a record on its own is the only element of an array,
  or the array is refused.
-/
theorem exists_only_of_parse
    {bytes : List UInt8}
    {record : Record}
    (hParse : parse bytes = .ok record)
    {items : List Json}
    (hValues : Artifact.values (only bytes) = .ok items) :
    ∃ v, items = [v] ∧ ofJson v = .ok record := by
  rcases parse_eq_ok_iff.mp hParse with ⟨values, left, hRead, hEnd, rfl⟩
  have hNumeric : ∀ b ∈ [byte ']'].head?, isNumeric b = false := by
    rintro _ ⟨⟩
    rfl
  have hLonger : schema.read (bytes ++ [byte ']']) =
      .ok (values, left ++ [byte ']']) :=
    schema.indifferent_read hNumeric hRead
  rcases cases_of_values_only hValues with
    ⟨-, rest, hClose⟩ | ⟨v, others, after, rest, rfl, hValue, hMore, -⟩
  · rcases Schema.read_cases hLonger with
      ⟨front, ⟨hOpen, -⟩ | ⟨hOpen, -⟩⟩
    · rw [hClose, List.cons.injEq] at hOpen
      exact absurd hOpen.1 (by decide)
    · rw [hClose, List.cons.injEq] at hOpen
      exact absurd hOpen.1 (by decide)
  · rcases (Schema.read_eq_ok_iff nodup_names (by decide) hValue).mp
        hLonger with ⟨rfl, -, hFields⟩
    refine ⟨v, ?_, ofJson_eq_ok_iff.mpr ⟨values, hFields, rfl⟩⟩
    cases hMore with
    | close hClose => rfl
    | item hAhead hItem hMore =>
        exact absurd (skipSpace_append_close hEnd)
          (hAhead.not_close (by decide))

/-
  The only element of an array is a record on its own, unless
  it names a field twice.
-/
theorem parse_of_only
    {bytes : List UInt8}
    {v : Json}
    {record : Record}
    (hValues : Artifact.values (only bytes) = .ok [v])
    (hRecord : ofJson v = .ok record)
    (hOnce : ∀ field ∈ fields, (keysOf bytes).count field.name ≤ 1) :
    parse bytes = .ok record := by
  rcases exists_value_of_values_only hValues with ⟨rest, hValue, hEnd⟩
  rcases ofJson_eq_ok_iff.mp hRecord with ⟨values, hFields, rfl⟩
  exact parse_eq_ok_iff.mpr ⟨values, rest,
    (Schema.read_eq_ok_iff nodup_names (by decide) hValue).mpr
      ⟨rfl, hOnce, hFields⟩, hEnd, rfl⟩

/-
  A record that stands alone and the same record in an array
  agree.  Where the text is a record, search data with this
  text as its only element holds this record and nothing else,
  unless it is refused as a whole.  And where search data has
  this text as its only element and that is a record, the text
  is this record, unless it is an object that names one of the
  fields twice.
-/
theorem parse_agrees_with_artifact
    (location : String)
    (bytes : List UInt8)
    (record : Record) :
    (parse bytes = .ok record →
      (∃ cause, Artifact.ofBytes location (only bytes) = .error cause) ∨
        ∃ artifact,
          Artifact.ofBytes location (only bytes) = .ok artifact ∧
          artifact.records = [record] ∧ artifact.info.skipped = 0) ∧
      ∀ artifact,
        Artifact.ofBytes location (only bytes) = .ok artifact →
        artifact.records = [record] →
        artifact.info.skipped = 0 →
        (∀ field ∈ fields, (keysOf bytes).count field.name ≤ 1) →
          parse bytes = .ok record := by
  constructor
  · intro hParse
    cases hValues : Artifact.values (only bytes) with
    | error cause =>
        exact Or.inl ⟨cause, by simp only [Artifact.ofBytes, hValues]⟩
    | ok items =>
        rcases exists_only_of_parse hParse hValues with
          ⟨v, rfl, hRecord⟩
        have hRecords : recordsOf [v] = [record] := by
          simp [recordsOf, hRecord, Except.toOption]
        refine Or.inr ⟨_, ofBytes_eq_ok_iff.mpr ⟨[v], hValues, rfl⟩,
          hRecords, ?_⟩
        simp [Artifact.ofValues, hRecords]
  · intro artifact hLoads hRecords hSkipped hOnce
    rcases ofBytes_eq_ok_iff.mp hLoads with ⟨items, hValues, rfl⟩
    rcases exists_only_of_recordsOf hRecords hSkipped with
      ⟨v, rfl, hRecord⟩
    exact parse_of_only hValues hRecord hOnce

/- A text of one record, with a member that nobody needs. -/
def homeText : List UInt8 :=
  Bytes.ofText
    "\x7b\"href\":\"/\", \"id\":1, \"tags\":[], \"title\":\"Home\"\x7d"

/- The record that it writes. -/
def home : Record :=
  ⟨.number 1, "Home", "", "/", none⟩

/- It is read alike alone and in an array. -/
theorem parse_agrees_with_artifact_of_home :
    parse homeText = .ok home ∧
      ∃ artifact,
        Artifact.ofBytes "index.json" (only homeText) = .ok artifact ∧
        artifact.records = [home] ∧ artifact.info.skipped = 0 := by
  have hAgrees := parse_agrees_with_artifact "index.json" homeText home
  have hParse : parse homeText = .ok home := by
    have hSome :
        (parse homeText).toOption = some home := by decide +kernel
    cases hRead : parse homeText with
    | error e =>
        rw [hRead] at hSome
        cases hSome
    | ok record =>
        rw [hRead] at hSome
        exact congrArg Except.ok (Option.some.inj hSome)
  have hOk :
      (Artifact.ofBytes "index.json" (only homeText)).isOk = true := by
    decide +kernel
  rcases hAgrees.1 hParse with
    ⟨cause, hError⟩ | ⟨artifact, hLoads, hRecords, hSkipped⟩
  · rw [hError] at hOk
    cases hOk
  · have hAgain := hAgrees.2 artifact hLoads hRecords hSkipped
      (by decide +kernel)
    exact ⟨hAgain, artifact, hLoads, hRecords, hSkipped⟩

end SiteSearch.Record
