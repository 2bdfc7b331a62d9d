import Mathlib.Data.List.Nodup

/-
  Lists that assign values to keys.

  The slots of an index, the entries of its terms and the
  scores of a query are such lists, read by `List.lookup`.
  Where no key occurs twice, looking up a key and being a
  member of the list say the same.

  Main declarations:
    * `SiteSearch.lookup_eq_some_iff_mem`
    * `SiteSearch.lookup_filterMap`
-/

------------------------------------------------------------
-- Lookup
------------------------------------------------------------

namespace SiteSearch

variable {κ α β : Type}
variable [DecidableEq κ]

/- The first pair decides if it has the key. -/
theorem lookup_cons_eq_ite
    (key : κ)
    (pair : κ × α)
    (pairs : List (κ × α)) :
    (pair :: pairs).lookup key =
      if key = pair.1 then some pair.2 else pairs.lookup key := by
  rcases pair with ⟨other, value⟩
  by_cases hKey : key = other
  · subst hKey
    simp
  · have hBeq : (key == other) = false := beq_eq_false_iff_ne.mpr hKey
    simp [List.lookup_cons, hBeq, hKey]

/- A key that no pair has is not found. -/
theorem lookup_eq_none_of_forall_ne
    {key : κ}
    {pairs : List (κ × α)}
    (hAbsent : ∀ pair ∈ pairs, pair.1 ≠ key) :
    pairs.lookup key = none := by
  rw [List.lookup_eq_none_iff]
  intro pair hPair
  simpa using (hAbsent pair hPair).symm

/-
  With different keys, the pairs of a list are what is found
  in it.
-/
theorem lookup_eq_some_iff_mem
    {pairs : List (κ × α)}
    (hNodup : (pairs.map Prod.fst).Nodup)
    (key : κ)
    (value : α) :
    pairs.lookup key = some value ↔ (key, value) ∈ pairs := by
  induction pairs with
  | nil => simp
  | cons pair pairs ih =>
      rcases pair with ⟨other, first⟩
      rw [List.map_cons, List.nodup_cons] at hNodup
      rw [lookup_cons_eq_ite, List.mem_cons, Prod.mk.injEq]
      by_cases hKey : key = other
      · subst hKey
        have hAbsent : (key, value) ∉ pairs := by
          intro hMember
          exact hNodup.1 (List.mem_map.mpr ⟨_, hMember, rfl⟩)
        simp [hAbsent, eq_comm]
      · simp [hKey, ih hNodup.2]

/-
  Keys and values that are renamed are found under the new
  names.
-/
omit [DecidableEq κ] in
theorem lookup_map_of_injective
    {κ' : Type}
    [BEq κ]
    [LawfulBEq κ]
    [BEq κ']
    [LawfulBEq κ']
    {rename : κ → κ'}
    (hInjective : Function.Injective rename)
    (change : α → β)
    (pairs : List (κ × α))
    (key : κ) :
    (pairs.map (Prod.map rename change)).lookup (rename key) =
      (pairs.lookup key).map change := by
  induction pairs with
  | nil => rfl
  | cons pair pairs ih =>
      have hSame : (rename key == rename pair.1) = (key == pair.1) := by
        rw [Bool.eq_iff_iff, beq_iff_eq, beq_iff_eq]
        exact hInjective.eq_iff
      rw [List.map_cons, Prod.map, List.lookup_cons,
        List.lookup_cons, ih, hSame]
      cases key == pair.1 <;> rfl

/- Dropping pairs and changing values adds no keys. -/
omit [DecidableEq κ] in
theorem map_fst_filterMap_sublist
    (change : κ → α → Option β)
    (pairs : List (κ × α)) :
    ((pairs.filterMap fun pair =>
        (change pair.1 pair.2).map (pair.1, ·)).map Prod.fst).Sublist
      (pairs.map Prod.fst) := by
  induction pairs with
  | nil => simp
  | cons pair pairs ih =>
      cases hChange : change pair.1 pair.2 with
      | none => simpa [hChange] using ih.cons _
      | some value => simpa [hChange] using ih

/-
  With different keys, what is found after some values were
  changed is the changed value of what was found before.
-/
theorem lookup_filterMap
    (change : κ → α → Option β)
    {pairs : List (κ × α)}
    (hNodup : (pairs.map Prod.fst).Nodup)
    (key : κ) :
    (pairs.filterMap fun pair =>
        (change pair.1 pair.2).map (pair.1, ·)).lookup key =
      (pairs.lookup key).bind (change key) := by
  induction pairs with
  | nil => simp
  | cons pair pairs ih =>
      rcases pair with ⟨other, first⟩
      rw [List.map_cons, List.nodup_cons] at hNodup
      have hRest := ih hNodup.2
      by_cases hKey : key = other
      · subst hKey
        have hAbsent : pairs.lookup key = none := by
          apply lookup_eq_none_of_forall_ne
          intro pair hPair hEq
          exact hNodup.1 (List.mem_map.mpr ⟨pair, hPair, hEq⟩)
        rw [hAbsent] at hRest
        cases hChange : change key first with
        | none => simpa [hChange] using hRest
        | some value => simp [hChange]
      · cases hChange : change other first with
        | none => simpa [hChange, lookup_cons_eq_ite, hKey] using hRest
        | some value =>
            simpa [hChange, lookup_cons_eq_ite, hKey] using hRest

end SiteSearch
