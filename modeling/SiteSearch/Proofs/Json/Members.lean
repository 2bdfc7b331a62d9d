import SiteSearch.Proofs.Json.StandIn

/-
  Texts that are objects.

  An object has members with names and values of any form, in
  any order.  Straight from such a text the fields of a schema
  are read if each name stands for a text, no field is named
  twice, and each field accepts the value of its member.

  Main declarations:
    * `SiteSearch.Json.IsName`
    * `SiteSearch.Json.IsObject`
    * `SiteSearch.Json.find`
    * `SiteSearch.Json.exists_isObject`
    * `SiteSearch.Json.Schema.readObject_named_iff`
    * `SiteSearch.Json.Schema.parse_object_iff`
-/

------------------------------------------------------------
-- Names
------------------------------------------------------------

namespace SiteSearch.Json

/-
  What a string stands for: a text, unless it has half a
  pair of surrogates.
-/
inductive IsName
    (chars : List Char) :
    Option String → Prop
  | spelled
      {name : String}
      (hText : IsText chars name) :
      IsName chars (some name)
  | broken
      (hQuoted : IsQuoted chars)
      (hBroken : ∀ name, ¬ IsText chars name) :
      IsName chars none

/- Every string stands for a text or for none. -/
theorem IsQuoted.exists_isName
    {chars : List Char}
    (hQuoted : IsQuoted chars) :
    ∃ name, IsName chars name := by
  by_cases hText : ∃ name, IsText chars name
  · rcases hText with ⟨name, hName⟩
    exact ⟨some name, .spelled hName⟩
  · exact ⟨none, .broken hQuoted fun name hName => hText ⟨name, hName⟩⟩

/- Read a string behind its first quote, if only to skip it. -/
def anyName : Reader (Option String) := fun bytes =>
  match text bytes with
  | .ok (name, rest) => .ok (some name, rest)
  | .error _ => skipText.map (fun _ => none) bytes

/- A string is read as what it stands for. -/
theorem IsName.exists_anyName
    {chars : List Char}
    {name : Option String}
    (hName : IsName chars name) :
    ∃ body, chars = '"' :: (body ++ ['"']) ∧
      ∀ rest, anyName (charBytes body ++ byte '"' :: rest) =
        .ok (name, rest) := by
  unfold anyName
  cases hName with
  | @spelled name hText =>
      rcases hText with ⟨body, rfl, hSpells⟩
      refine ⟨body, rfl, fun rest => ?_⟩
      rw [(text_iff_spells hSpells.isBody).mpr ⟨hSpells, rfl⟩]
  | broken hQuoted hBroken =>
      rcases hQuoted with ⟨body, rfl, hBody⟩
      refine ⟨body, rfl, fun rest => ?_⟩
      cases hRead : text (charBytes body ++ byte '"' :: rest) with
      | error e =>
          exact Reader.map_eq_ok_iff.mpr
            ⟨(), skipText_of_isBody hBody rest, rfl⟩
      | ok result =>
          rcases result with ⟨name, left⟩
          exact absurd ⟨body, rfl, ((text_iff_spells hBody).mp hRead).1⟩
            (hBroken name)

/-
  Read a member behind its first quote, whatever its name
  and its value.
-/
def anyMember : Reader (Option String × Json) :=
  anyName.andThen fun name => colon.andThen fun _ => skim.map (name, ·)

/- A member whose name is a text is read like one with a key. -/
theorem keyed_skim_of_anyMember
    {bytes rest : List UInt8}
    {key : String}
    {v : Json}
    (hRead : anyMember bytes = .ok ((some key, v), rest)) :
    keyed skim bytes = .ok ((key, v), rest) := by
  rcases Reader.andThen_eq_ok_iff.mp hRead with
    ⟨name, behind, hName, hMore⟩
  rcases Reader.andThen_eq_ok_iff.mp hMore with
    ⟨done, front, hColon, hSkim⟩
  rcases Reader.map_eq_ok_iff.mp hSkim with ⟨w, hValue, hSame⟩
  rw [Prod.mk.injEq] at hSame
  rcases hSame with ⟨rfl, rfl⟩
  unfold anyName at hName
  cases hText : text bytes with
  | ok result =>
      rw [hText] at hName
      cases hName
      exact keyed_eq_ok_iff.mpr ⟨_, front, hText, hColon, hValue⟩
  | error e =>
      rw [hText] at hName
      rcases Reader.map_eq_ok_iff.mp hName with ⟨_, _, hNone⟩
      cases hNone

/- A member whose name is no text goes into no draft. -/
theorem fieldStep_ne_ok_of_anyMember
    {bytes rest : List UInt8}
    {v : Json}
    (hRead : anyMember bytes = .ok ((none, v), rest))
    (depth : Nat)
    {fields : List Field}
    (draft next : Draft fields)
    (left : List UInt8) :
    fieldStep depth fields draft bytes ≠ .ok (next, left) := by
  intro hStep
  rcases Reader.andThen_eq_ok_iff.mp hStep with ⟨key, behind, hText, -⟩
  rcases Reader.andThen_eq_ok_iff.mp hRead with ⟨name, _, hName, hMore⟩
  rcases Reader.andThen_eq_ok_iff.mp hMore with ⟨_, _, _, hSkim⟩
  rcases Reader.map_eq_ok_iff.mp hSkim with ⟨_, _, hSame⟩
  cases hSame
  rw [anyName, hText] at hName
  cases hName

end SiteSearch.Json

------------------------------------------------------------
-- Objects
------------------------------------------------------------

namespace SiteSearch.Json

/-
  The characters of an object with these members, each with
  what its name stands for, and with nothing but space around
  and between them.
-/
inductive IsObject
    (named : List (Option String × Member)) :
    List Char → Prop
  | mk
      {front last back : List Char}
      (hFront : IsGap front)
      (hLast : IsGap last)
      (hBack : IsGap back)
      (hSpaced : ∀ entry ∈ named, entry.2.IsSpaced)
      (hNames : ∀ entry ∈ named, IsName entry.2.name.chars entry.1)
      (hValues : ∀ entry ∈ named, IsValue entry.2.value.chars) :
      IsObject named
        (front ++ ('{' :: (joined last (named.map (·.2.padded)) ++ ['}'])
          ++ back))

/-
  Every object by the grammar is one with what its names
  stand for.
-/
theorem exists_isObject
    {members : List Member}
    {front last back : List Char}
    (hFront : IsGap front)
    (hLast : IsGap last)
    (hBack : IsGap back)
    (hSpaced : ∀ member ∈ members, member.IsSpaced)
    (hNames : ∀ member ∈ members, IsQuoted member.name.chars)
    (hValues : ∀ member ∈ members, IsValue member.value.chars) :
    ∃ named, named.map Prod.snd = members ∧ IsObject named
      (front ++ ('{' :: (joined last (members.map Member.padded) ++ ['}'])
        ++ back)) := by
  have hNamed : ∃ named : List (Option String × Member),
      named.map Prod.snd = members ∧
        ∀ entry ∈ named, IsName entry.2.name.chars entry.1 := by
    clear hSpaced hValues
    induction members with
    | nil => exact ⟨[], rfl, nofun⟩
    | cons member members ih =>
        rw [List.forall_mem_cons] at hNames
        rcases hNames.1.exists_isName with ⟨name, hName⟩
        rcases ih hNames.2 with ⟨named, rfl, hOthers⟩
        exact ⟨(name, member) :: named, rfl,
          List.forall_mem_cons.mpr ⟨hName, hOthers⟩⟩
  rcases hNamed with ⟨named, rfl, hNamed⟩
  rw [List.forall_mem_map] at hSpaced hValues
  refine ⟨named, rfl, ?_⟩
  rw [List.map_map]
  exact .mk hFront hLast hBack hSpaced hNamed hValues

/- What is read of a member. -/
def skimmed :
    Option String × Member → Option String × Json :=
  Prod.map id fun member => standIn member.value.chars

/-
  The members of an object are read one by one, whatever
  they are.
-/
theorem listed_anyMember
    {named : List (Option String × Member)}
    {last : List Char}
    (hLast : IsGap last)
    (hSpaced : ∀ entry ∈ named, entry.2.IsSpaced)
    (hNames : ∀ entry ∈ named, IsName entry.2.name.chars entry.1)
    (hValues : ∀ entry ∈ named, IsValue entry.2.value.chars)
    (rest : List UInt8) :
    Listed (byte '}') (quoted anyMember) true
      (charBytes (joined last (named.map (·.2.padded))) ++
        byte '}' :: rest)
      (named.map skimmed) rest := by
  have hEach : ∀ entry ∈ named,
      IsPadded (byte '}') (quoted anyMember) entry.2.padded
        (skimmed entry) := by
    intro entry hEntry
    have hSpace := hSpaced entry hEntry
    have hTakes := skim_takes hSpace.value.before (hValues entry hEntry)
    rcases (hNames entry hEntry).exists_anyName with
      ⟨body, hChars, hName⟩
    refine isPadded_member hSpace hChars hName
      (fun name => skim.map (name, ·)) ?_
    exact fun rest hRest =>
      Reader.map_eq_ok_iff.mpr ⟨_, hTakes rest hRest, rfl⟩
  refine listed_joined hLast (by decide) (by decide) ?_ rest
  rw [List.forall₂_map_left_iff, List.forall₂_map_right_iff,
    List.forall₂_same]
  exact hEach

/-
  Where members are folded into a draft, their names are
  texts.
-/
theorem Listed.exists_known_of_folded
    {depth : Nat}
    {fields : List Field}
    (hItem : skim.StandsFor depth fields)
    {isFirst : Bool}
    {bytes after rest : List UInt8}
    {entries : List (Option String × Json)}
    (hEntries : Listed (byte '}') (quoted anyMember) isFirst
      bytes entries after)
    {draft last : Draft fields}
    (hFolded : Folded (byte '}')
      (fun draft => quoted (fieldStep depth fields draft)) isFirst
      draft bytes last rest) :
    ∃ known : List (String × Json),
      entries = known.map (Prod.map some id) := by
  induction hEntries generalizing draft with
  | close hClose => exact ⟨[], rfl⟩
  | @item isFirst entry entries bytes front between after hAhead
    hEntry hMore ih =>
      rcases entry with ⟨name, v⟩
      rcases quoted_eq_ok_iff.mp hEntry with ⟨tail, rfl, hMember⟩
      cases hFolded with
      | close hClose =>
          exact absurd hClose (hAhead.not_close (by decide))
      | item hAhead' hStep hRest =>
          rw [← hAhead.unique hAhead'] at hStep
          cases name with
          | none =>
              rcases quoted_eq_ok_iff.mp hStep with ⟨_, hSame, hField⟩
              cases hSame
              exact absurd hField
                (fieldStep_ne_ok_of_anyMember hMember _ _ _ _)
          | some key =>
              have hKeyed : quoted (keyed skim) (byte '"' :: tail) =
                  .ok ((key, v), between) :=
                quoted_eq_ok_iff.mpr
                  ⟨tail, rfl, keyed_skim_of_anyMember hMember⟩
              rw [((fieldStep_eq_ok_iff hItem hKeyed).mp hStep).1] at hRest
              rcases ih hRest with ⟨known, rfl⟩
              exact ⟨(key, v) :: known, rfl⟩

/- Members whose names are texts are read like those with keys. -/
theorem Listed.keyed_of_anyMember
    {isFirst : Bool}
    {bytes after : List UInt8}
    {known : List (String × Json)}
    (hEntries : Listed (byte '}') (quoted anyMember) isFirst
      bytes (known.map (Prod.map some id)) after) :
    Listed (byte '}') (quoted (keyed skim)) isFirst bytes known
      after := by
  generalize hSame : known.map (Prod.map some id) = entries at hEntries
  induction hEntries generalizing known with
  | close hClose =>
      rw [List.map_eq_nil_iff] at hSame
      rw [hSame]
      exact .close hClose
  | item hAhead hEntry hMore ih =>
      rcases List.map_eq_cons_iff.mp hSame with
        ⟨⟨key, v⟩, others, rfl, rfl, hOthers⟩
      rcases quoted_eq_ok_iff.mp hEntry with ⟨tail, rfl, hMember⟩
      exact .item hAhead
        (quoted_eq_ok_iff.mpr ⟨tail, rfl, keyed_skim_of_anyMember hMember⟩)
        (ih hOthers)

/- The characters of the value that a name has in an object. -/
def find
    (named : List (Option String × Member))
    (name : String) :
    Option (List Char) :=
  (named.lookup (some name)).map (·.value.chars)

/- What is found in an object is a value. -/
theorem IsObject.isValue_of_find
    {named : List (Option String × Member)}
    {chars value : List Char}
    (hObject : IsObject named chars)
    {name : String}
    (hFind : find named name = some value) :
    IsValue value := by
  rcases Option.map_eq_some_iff.mp hFind with ⟨member, hMember, rfl⟩
  rcases List.lookup_eq_some_iff.mp hMember with ⟨before, after, rfl, -⟩
  cases hObject with
  | mk hFront hLast hBack hSpaced hNames hValues =>
      exact hValues (some name, member) (by simp)

/- Members all of whose names are texts have keys. -/
theorem exists_known_iff
    {entries : List (Option String × Json)} :
    (∃ known : List (String × Json),
        entries = known.map (Prod.map some id)) ↔
      none ∉ entries.map Prod.fst := by
  constructor
  · rintro ⟨known, rfl⟩
    simp
  · intro hTexts
    induction entries with
    | nil => exact ⟨[], rfl⟩
    | cons entry entries ih =>
        rcases entry with ⟨name, v⟩
        rw [List.map_cons, List.mem_cons, not_or] at hTexts
        rcases ih hTexts.2 with ⟨known, rfl⟩
        cases name with
        | none => exact absurd rfl hTexts.1
        | some key => exact ⟨(key, v) :: known, rfl⟩

/-
  The fields of a schema are read straight from an object if
  all names are texts, no field is named twice, and each takes
  what stands in for its value.
-/
theorem Schema.readObject_named_iff
    {schema : Schema}
    (hNames : (schema.fields.map Field.name).Nodup)
    (hKinds : ∀ field ∈ schema.fields, field.kind ≠ .id)
    {depth : Nat}
    {bytes after rest : List UInt8}
    {named : List (Option String × Member)}
    (hListed : Listed (byte '}') (quoted anyMember) true bytes
      (named.map skimmed) after)
    {values : Values schema.fields} :
    schema.readObject depth bytes = .ok (values, rest) ↔
      rest = after ∧ none ∉ named.map Prod.fst ∧
        (∀ field ∈ schema.fields,
          (named.map Prod.fst).count (some field.name) ≤ 1) ∧
        AreGiven (fun name => (find named name).map standIn)
          schema.fields values := by
  have hFirst :
      (named.map skimmed).map Prod.fst = named.map Prod.fst := by
    rw [List.map_map]
    rfl
  by_cases hKnown : ∃ known : List (String × Json),
      named.map skimmed = known.map (Prod.map some id)
  · have hTexts := exists_known_iff.mp hKnown
    rcases hKnown with ⟨known, hSame⟩
    rw [hSame] at hListed
    have hKeys :
        named.map Prod.fst = (known.map Prod.fst).map some := by
      rw [← hFirst, hSame, List.map_map, List.map_map]
      rfl
    have hFind : ∀ name,
        known.lookup name = (find named name).map standIn := by
      intro name
      have hSkimmed := lookup_map_of_injective Function.injective_id
        (fun member : Member => standIn member.value.chars) named
        (some name)
      have hSome :=
        lookup_map_of_injective (Option.some_injective String)
        id known name
      rw [Option.map_id, ← hSame] at hSome
      rw [find, Option.map_map]
      exact hSome.symm.trans hSkimmed
    rw [readObject_iff_given hNames (standsFor_skim hKinds depth)
      hListed.keyed_of_anyMember]
    simp only [hKeys, hFind,
      List.count_map_of_injective _ _ (Option.some_injective String)]
    simp
  · constructor
    · intro hRead
      rcases readObject_iff_folded.mp hRead with ⟨draft, hFolded, -⟩
      exact absurd
        (hListed.exists_known_of_folded
          (standsFor_skim hKinds depth) hFolded)
        hKnown
    · rintro ⟨-, hTexts, -⟩
      rw [← hFirst] at hTexts
      exact absurd (exists_known_iff.mpr hTexts) hKnown

/- So they are from a whole text. -/
theorem Schema.parse_object_iff
    {schema : Schema}
    (hNames : (schema.fields.map Field.name).Nodup)
    (hKinds : ∀ field ∈ schema.fields, field.kind ≠ .id)
    {named : List (Option String × Member)}
    {chars : List Char}
    (hObject : IsObject named chars)
    {values : Values schema.fields} :
    schema.parse (charBytes chars) = .ok values ↔
      none ∉ named.map Prod.fst ∧
        (∀ field ∈ schema.fields,
          (named.map Prod.fst).count (some field.name) ≤ 1) ∧
        AreGiven (fun name => (find named name).map standIn)
          schema.fields values := by
  cases hObject with
  | @mk front last back hFront hLast hBack hSpaced hTexts hValues =>
      have hListed :=
        listed_anyMember hLast hSpaced hTexts hValues (charBytes back)
      have hBytes : charBytes (front ++
            ('{' :: (joined last (named.map (·.2.padded)) ++ ['}'])
              ++ back)) =
          charBytes front ++ byte '{' ::
            (charBytes (joined last (named.map (·.2.padded))) ++
              byte '}' :: charBytes back) := by
        rw [charBytes_append, charBytes_append,
          charBytes_between (by rfl) (by rfl)]
      have hRead := schema.read_of_brace
        (hFront.skipSpace (by decide) (charBytes
          (joined last (named.map (·.2.padded))) ++
            byte '}' :: charBytes back))
      have hEnd : skipSpace (charBytes back) = [] :=
        List.dropWhile_eq_nil_iff.mpr hBack
      rw [hBytes, Schema.parse, readAll_eq_ok_iff]
      simp only [hRead,
        Schema.readObject_named_iff hNames hKinds hListed]
      constructor
      · rintro ⟨rest, ⟨-, hAll⟩, -⟩
        exact hAll
      · intro hAll
        exact ⟨_, ⟨rfl, hAll⟩, hEnd⟩

end SiteSearch.Json
