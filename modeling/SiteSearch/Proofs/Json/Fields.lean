import SiteSearch.Json.Schema
import SiteSearch.Proofs.Association
import SiteSearch.Proofs.Json.Values
import Mathlib.Data.String.Basic

/-
  Fields of generic values.

  An object keeps its members by their keys, the latest of each
  key.  It holds the fields of a schema if these members fill
  them, in whatever order they were named; where a key is named
  once, it is enough to look it up.

  Main declarations:
    * `SiteSearch.Json.lookup_membersOf`
    * `SiteSearch.Json.Filled`
    * `SiteSearch.Json.draftMembers_eq_ok_iff`
    * `SiteSearch.Json.draftMembers_membersOf`
    * `SiteSearch.Json.Schema.ofJson_object_eq_ok_iff`
    * `SiteSearch.Json.Schema.ofJson_array_eq_ok_iff`
-/

------------------------------------------------------------
-- Members in Order
------------------------------------------------------------

namespace SiteSearch.Json

/- A member that was set is found, and all others as before. -/
theorem lookup_insertMember
    (key other : String)
    (v : Json)
    (members : List (String × Json)) :
    (insertMember key v members).lookup other =
      if other = key then some v else members.lookup other := by
  induction members with
  | nil =>
      rw [insertMember, lookup_cons_eq_ite]
  | cons member members ih =>
      rcases member with ⟨key', v'⟩
      rw [insertMember]
      by_cases hLess : key < key'
      · rw [if_pos hLess, lookup_cons_eq_ite]
      by_cases hSame : key = key'
      · subst hSame
        rw [if_neg hLess, if_pos rfl, lookup_cons_eq_ite,
          lookup_cons_eq_ite]
        split_ifs <;> rfl
      · rw [if_neg hLess, if_neg hSame, lookup_cons_eq_ite,
          lookup_cons_eq_ite, ih]
        by_cases hOther : other = key'
        · have hNot : other ≠ key := by
            rw [hOther]
            exact fun h => hSame h.symm
          rw [if_pos hOther, if_neg hNot, if_pos hOther]
        · rw [if_neg hOther, if_neg hOther]

/- Setting a member adds its key. -/
theorem mem_keys_insertMember
    {key other : String}
    {v : Json}
    {members : List (String × Json)}
    (hMember : other ∈ (insertMember key v members).map Prod.fst) :
    other = key ∨ other ∈ members.map Prod.fst := by
  induction members with
  | nil => simpa [insertMember] using hMember
  | cons member members ih =>
      rcases member with ⟨key', v'⟩
      rw [insertMember] at hMember
      split_ifs at hMember with hLess hSame
      · simpa using hMember
      · subst hSame
        exact Or.inr (by simpa using hMember)
      · rw [List.map_cons, List.mem_cons] at hMember
        rcases hMember with rfl | hMember
        · exact Or.inr List.mem_cons_self
        · exact (ih hMember).imp_right (List.mem_cons_of_mem _)

/- Members stay in ascending order. -/
theorem pairwise_insertMember
    (key : String)
    (v : Json)
    {members : List (String × Json)}
    (hSorted : (members.map Prod.fst).Pairwise (· < ·)) :
    ((insertMember key v members).map Prod.fst).Pairwise (· < ·) := by
  induction members with
  | nil => simp [insertMember]
  | cons member members ih =>
      rcases member with ⟨key', v'⟩
      have hParts := List.pairwise_cons.mp hSorted
      rw [insertMember]
      split_ifs with hLess hSame
      · refine List.pairwise_cons.mpr ⟨?_, hSorted⟩
        intro other hOther
        rcases List.mem_cons.mp hOther with rfl | hOther
        · exact hLess
        · exact hLess.trans (hParts.1 other hOther)
      · subst hSame
        exact hSorted
      · refine List.pairwise_cons.mpr ⟨?_, ih hParts.2⟩
        intro other hOther
        rcases mem_keys_insertMember hOther with rfl | hOther
        · exact lt_of_le_of_ne (not_lt.mp hLess) fun h => hSame h.symm
        · exact hParts.1 other hOther

/- The members of an object are in ascending order. -/
theorem pairwise_membersOf
    (named : List (String × Json)) :
    ((membersOf named).map Prod.fst).Pairwise (· < ·) := by
  have hFold : ∀ members : List (String × Json),
      (members.map Prod.fst).Pairwise (· < ·) →
      ((named.foldl (fun members member =>
        insertMember member.1 member.2 members) members).map
          Prod.fst).Pairwise (· < ·) := by
    induction named with
    | nil => exact fun members hSorted => hSorted
    | cons entry named ih =>
        exact fun members hSorted =>
          ih _ (pairwise_insertMember entry.1 entry.2 hSorted)
  exact hFold [] List.Pairwise.nil

/- A member behind an insertion is the new one or was there. -/
theorem mem_of_mem_insertMember
    {key : String}
    {v : Json}
    {members : List (String × Json)}
    {member : String × Json}
    (hMember : member ∈ insertMember key v members) :
    member = (key, v) ∨ member ∈ members := by
  induction members with
  | nil => simpa [insertMember] using hMember
  | cons first members ih =>
      rcases first with ⟨key', v'⟩
      rw [insertMember] at hMember
      split_ifs at hMember
      · simpa using hMember
      · rcases List.mem_cons.mp hMember with rfl | hLater
        · exact Or.inl rfl
        · exact Or.inr (List.mem_cons_of_mem _ hLater)
      · rcases List.mem_cons.mp hMember with rfl | hLater
        · exact Or.inr List.mem_cons_self
        · exact (ih hLater).imp_right (List.mem_cons_of_mem _)

/- The members of an object are those that were named. -/
theorem mem_of_mem_membersOf
    {named : List (String × Json)}
    {member : String × Json}
    (hMember : member ∈ membersOf named) :
    member ∈ named := by
  have hFold : ∀ members : List (String × Json),
      member ∈ named.foldl (fun members member =>
        insertMember member.1 member.2 members) members →
      member ∈ named ∨ member ∈ members := by
    clear hMember
    induction named with
    | nil => exact fun members hLater => Or.inr hLater
    | cons entry named ih =>
        intro members hLater
        rcases ih _ hLater with hNamed | hInserted
        · exact Or.inl (List.mem_cons_of_mem _ hNamed)
        · rcases mem_of_mem_insertMember hInserted with rfl | hOld
          · exact Or.inl List.mem_cons_self
          · exact Or.inr hOld
  rcases hFold [] hMember with hNamed | hNone
  · exact hNamed
  · cases hNone

/- What is never named is not found. -/
theorem lookup_eq_none_of_count_eq_zero
    {name : String}
    {members : List (String × Json)}
    (hCount : (members.map Prod.fst).count name = 0) :
    members.lookup name = none := by
  apply lookup_eq_none_of_forall_ne
  intro pair hPair hKey
  exact List.count_eq_zero.mp hCount
    (List.mem_map.mpr ⟨pair, hPair, hKey⟩)

/- A key that is named at most once is found as it was named. -/
theorem lookup_membersOf
    {name : String}
    {named : List (String × Json)}
    (hOnce : (named.map Prod.fst).count name ≤ 1) :
    (membersOf named).lookup name = named.lookup name := by
  have hFold : ∀ members : List (String × Json),
      (named.foldl (fun members member =>
        insertMember member.1 member.2 members) members).lookup name =
          (named.lookup name).or (members.lookup name) := by
    induction named with
    | nil => simp
    | cons entry named ih =>
        intro members
        rw [List.map_cons] at hOnce
        rw [List.foldl_cons,
          ih ((List.count_le_count_cons).trans hOnce),
          lookup_insertMember, lookup_cons_eq_ite]
        by_cases hName : name = entry.1
        · have hAbsent : named.lookup name = none := by
            rw [← hName, List.count_cons_self] at hOnce
            exact lookup_eq_none_of_count_eq_zero (by omega)
          rw [if_pos hName, if_pos hName, hAbsent]
          rfl
        · rw [if_neg hName, if_neg hName]
  rw [membersOf, hFold]
  simp

end SiteSearch.Json

------------------------------------------------------------
-- Drafts Field by Field
------------------------------------------------------------

namespace SiteSearch.Json

/- What a field holds once it was given a value, or was not. -/
def Filling
    (kind : Kind)
    (given : Option Json)
    (met met' : Option kind.Carrier) :
    Prop :=
  match given with
  | none => met' = met
  | some v => ∃ x, kind.ofJson v = .ok x ∧ met' = some x

/-
  A draft that differs from another in the fields that are
  found: these hold the values that were found.
-/
def Filled
    (find : String → Option Json) :
    (fields : List Field) → Draft fields → Draft fields → Prop
  | [], _, _ => True
  | field :: fields, (met, draft), (met', draft') =>
      Filling field.kind (find field.name) met met' ∧
        Filled find fields draft draft'

/- Where nothing is found, nothing changes. -/
theorem filled_iff_of_forall_none
    {find : String → Option Json}
    {fields : List Field}
    (hNone : ∀ field ∈ fields, find field.name = none)
    {draft draft' : Draft fields} :
    Filled find fields draft draft' ↔ draft' = draft := by
  induction fields with
  | nil => exact ⟨fun _ => rfl, fun _ => trivial⟩
  | cons field fields ih =>
      rcases draft with ⟨met, draft⟩
      rcases draft' with ⟨met', draft'⟩
      rw [Filled, hNone field List.mem_cons_self,
        ih fun other hOther =>
          hNone other (List.mem_cons_of_mem _ hOther),
        Filling, Prod.mk.injEq]

/- What is found depends on the names of the fields alone. -/
theorem filled_congr
    {find find' : String → Option Json}
    {fields : List Field}
    (hSame : ∀ field ∈ fields, find field.name = find' field.name)
    {draft draft' : Draft fields} :
    Filled find fields draft draft' ↔
      Filled find' fields draft draft' := by
  induction fields with
  | nil => exact Iff.rfl
  | cons field fields ih =>
      rcases draft with ⟨met, draft⟩
      rcases draft' with ⟨met', draft'⟩
      rw [Filled, Filled, hSame field List.mem_cons_self,
        ih fun other hOther =>
          hSame other (List.mem_cons_of_mem _ hOther)]

/- Names of fields are their own. -/
theorem name_ne_of_nodup
    {field : Field}
    {fields : List Field}
    (hNames : ((field :: fields).map Field.name).Nodup) :
    ∀ other ∈ fields, other.name ≠ field.name := by
  intro other hOther hSame
  exact (List.nodup_cons.mp hNames).1
    (List.mem_map.mpr ⟨other, hOther, hSame⟩)

/- A member is found by its key alone. -/
theorem draftMember_eq_ok_iff
    {key : String}
    {v : Json}
    {fields : List Field}
    (hNames : (fields.map Field.name).Nodup)
    {draft draft' : Draft fields} :
    draftMember key v fields draft = .ok draft' ↔
      Filled (fun name => if name = key then some v else none) fields
        draft draft' := by
  induction fields with
  | nil => exact ⟨fun _ => trivial, fun _ => rfl⟩
  | cons field fields ih =>
      rcases draft with ⟨met, draft⟩
      rcases draft' with ⟨met', draft'⟩
      have hRest := (List.nodup_cons.mp hNames).2
      rw [draftMember, Filled]
      by_cases hKey : key = field.name
      · have hNone : ∀ other ∈ fields,
            (if other.name = key then some v else none) = none := by
          intro other hOther
          rw [hKey]
          exact if_neg (name_ne_of_nodup hNames other hOther)
        rw [if_pos hKey, if_pos hKey.symm,
          filled_iff_of_forall_none hNone, Filling]
        cases hKind : field.kind.ofJson v with
        | error e => simp
        | ok x =>
            simp only [Except.ok.injEq, Prod.mk.injEq,
              exists_eq_left', eq_comm]
      · rw [if_neg hKey, if_neg (Ne.symm hKey), ← ih hRest, Filling]
        cases hMember : draftMember key v fields draft with
        | error e => simp
        | ok next => simp [Prod.ext_iff, eq_comm]

/-
  A field is given a value by the first member or by one
  behind it.
-/
theorem exists_filling_iff
    {kind : Kind}
    {first second : Option Json}
    (hOne : first = none ∨ second = none)
    {met met' : Option kind.Carrier} :
    (∃ next, Filling kind first met next ∧
      Filling kind second next met') ↔
      Filling kind (first.or second) met met' := by
  rcases hOne with rfl | rfl
  · simp [Filling]
  · cases first <;> simp [Filling]

/- A member and those behind it are found together. -/
theorem exists_filled_iff
    {find find' : String → Option Json}
    {fields : List Field}
    (hOne : ∀ field ∈ fields,
      find field.name = none ∨ find' field.name = none)
    {draft draft' : Draft fields} :
    (∃ next, Filled find fields draft next ∧
        Filled find' fields next draft') ↔
      Filled (fun name => (find name).or (find' name)) fields
        draft draft' := by
  induction fields with
  | nil => exact ⟨fun _ => trivial, fun _ => ⟨(), trivial, trivial⟩⟩
  | cons field fields ih =>
      rcases draft with ⟨met, draft⟩
      rcases draft' with ⟨met', draft'⟩
      rw [Filled, ← exists_filling_iff (hOne field List.mem_cons_self),
        ← ih fun other hOther =>
          hOne other (List.mem_cons_of_mem _ hOther)]
      constructor
      · rintro ⟨⟨met₁, next⟩, ⟨hMet, hNext⟩, hMet', hNext'⟩
        exact ⟨⟨met₁, hMet, hMet'⟩, next, hNext, hNext'⟩
      · rintro ⟨⟨met₁, hMet, hMet'⟩, next, hNext, hNext'⟩
        exact ⟨⟨met₁, next⟩, ⟨hMet, hNext⟩, hMet', hNext'⟩

/- A value that was met is the value of its field. -/
theorem complete_cons_some
    {field : Field}
    {fields : List Field}
    {x y : field.kind.Carrier}
    {draft : Draft fields}
    {values : Values fields}
    (hComplete : complete (field :: fields) (some x, draft) =
      .ok (y, values)) :
    y = x := by
  rw [complete] at hComplete
  split at hComplete
  · cases hComplete
  · cases hComplete
    rfl

/- The first member is drafted before all others. -/
theorem draftMembers_cons_eq_ok_iff
    {fields : List Field}
    {key : String}
    {v : Json}
    {members : List (String × Json)}
    {draft draft' : Draft fields} :
    draftMembers fields ((key, v) :: members) draft = .ok draft' ↔
      ∃ next, draftMember key v fields draft = .ok next ∧
        draftMembers fields members next = .ok draft' := by
  rw [draftMembers]
  cases draftMember key v fields draft with
  | error e => simp
  | ok next => simp

/-
  One more member fills the fields first, if none is named
  twice.
-/
theorem filled_cons_iff
    {fields : List Field}
    {key : String}
    {v : Json}
    {members : List (String × Json)}
    (hOnce : ∀ field ∈ fields,
      (((key, v) :: members).map Prod.fst).count field.name ≤ 1)
    {draft draft' : Draft fields} :
    Filled (fun name => ((key, v) :: members).lookup name)
        fields draft draft' ↔
      ∃ next,
        Filled (fun name => if name = key then some v else none)
          fields draft next ∧
        Filled (fun name => members.lookup name) fields next
          draft' := by
  have hOne : ∀ field ∈ fields,
      (if field.name = key then some v else none) = none ∨
        members.lookup field.name = none := by
    intro field hField
    by_cases hKey : field.name = key
    · right
      have hCount := hOnce field hField
      rw [hKey, List.map_cons, List.count_cons_self] at hCount
      rw [hKey]
      exact lookup_eq_none_of_count_eq_zero (by omega)
    · exact Or.inl (if_neg hKey)
  have hFind : ∀ field ∈ fields,
      (if field.name = key then some v else none).or
          (members.lookup field.name) =
        ((key, v) :: members).lookup field.name := by
    intro field _
    rw [lookup_cons_eq_ite]
    split_ifs <;> simp
  exact ((exists_filled_iff hOne).trans (filled_congr hFind)).symm

/-
  The fields that members name at most once are found by
  their names.
-/
theorem draftMembers_eq_ok_iff
    {fields : List Field}
    (hNames : (fields.map Field.name).Nodup)
    {members : List (String × Json)}
    (hOnce : ∀ field ∈ fields,
      (members.map Prod.fst).count field.name ≤ 1)
    {draft draft' : Draft fields} :
    draftMembers fields members draft = .ok draft' ↔
      Filled (fun name => members.lookup name) fields draft draft' := by
  induction members generalizing draft with
  | nil =>
      rw [draftMembers, filled_iff_of_forall_none fun _ _ => rfl]
      simp [eq_comm]
  | cons member members ih =>
      rcases member with ⟨key, v⟩
      have hRest : ∀ field ∈ fields,
          (members.map Prod.fst).count field.name ≤ 1 :=
        fun field hField =>
          List.count_le_count_cons.trans (hOnce field hField)
      rw [draftMembers_cons_eq_ok_iff, filled_cons_iff hOnce]
      simp only [draftMember_eq_ok_iff hNames, ih hRest]

/- The order in which members are named does not matter. -/
theorem draftMembers_membersOf
    {fields : List Field}
    (hNames : (fields.map Field.name).Nodup)
    {named : List (String × Json)}
    (hOnce : ∀ field ∈ fields,
      (named.map Prod.fst).count field.name ≤ 1)
    {draft draft' : Draft fields} :
    draftMembers fields (membersOf named) draft = .ok draft' ↔
      draftMembers fields named draft = .ok draft' := by
  have hSorted : ((membersOf named).map Prod.fst).Nodup :=
    (pairwise_membersOf named).imp ne_of_lt
  rw [draftMembers_eq_ok_iff hNames hOnce,
    draftMembers_eq_ok_iff hNames fun field _ =>
      List.nodup_iff_count_le_one.mp hSorted field.name]
  exact filled_congr fun field hField =>
    lookup_membersOf (hOnce field hField)

/- An object holds the fields if its members fill them. -/
theorem Schema.ofJson_object_eq_ok_iff
    {schema : Schema}
    {members : List (String × Json)}
    {values : Values schema.fields} :
    schema.ofJson (.object members) = .ok values ↔
      ∃ draft,
        draftMembers schema.fields members (emptyDraft schema.fields) =
          .ok draft ∧
        complete schema.fields draft = .ok values := by
  unfold Schema.ofJson
  dsimp only
  cases draftMembers schema.fields members
    (emptyDraft schema.fields) with
  | error e => simp
  | ok draft => simp

/-
  An array holds the fields if its elements are theirs, one
  by one.
-/
theorem Schema.ofJson_array_eq_ok_iff
    {schema : Schema}
    {items : List Json}
    {values : Values schema.fields} :
    schema.ofJson (.array items) = .ok values ↔
      elementsOf (.wrongLength · schema.describeArray) 0 schema.fields
        items = .ok (values, []) := by
  unfold Schema.ofJson
  dsimp only
  cases elementsOf (.wrongLength · schema.describeArray) 0 schema.fields
      items with
  | error e => simp
  | ok result =>
      rcases result with ⟨values', _ | ⟨item, more⟩⟩ <;> simp

end SiteSearch.Json
