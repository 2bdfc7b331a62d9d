import SiteSearch.Proofs.Index.Representation

/-
  The records that are left after a history of additions.

  Of the records added under one identifier the last one is
  left.  `survivors` lists these in the order in which they
  were added, and `latestFrom` lists them with their places,
  which are the slots that an index gives them.

  Main declarations:
    * `SiteSearch.survivors`
    * `SiteSearch.latestFrom`
    * `SiteSearch.mem_latestFrom_iff`
    * `SiteSearch.nodup_ids_survivors`
    * `SiteSearch.SearchIndex.Represents.size_eq`
-/

------------------------------------------------------------
-- Survivors
------------------------------------------------------------

namespace SiteSearch

/- The records that no later one replaces, in order. -/
def survivors :
    List Record → List Record
  | [] => []
  | record :: later =>
      if later.any fun other => other.id = record.id then
        survivors later
      else record :: survivors later

/- The same with their places, counted from `start`. -/
def latestFrom
    (start : Nat) :
    List Record → List (Nat × Record)
  | [] => []
  | record :: later =>
      if later.any fun other => other.id = record.id then
        latestFrom (start + 1) later
      else (start, record) :: latestFrom (start + 1) later

/- Without their places they are the survivors. -/
theorem map_snd_latestFrom
    (start : Nat)
    (history : List Record) :
    (latestFrom start history).map Prod.snd = survivors history := by
  induction history generalizing start with
  | nil => rfl
  | cons record later ih =>
      unfold latestFrom survivors
      split
      · exact ih (start + 1)
      · rw [List.map_cons, ih]

/-
  The first record is the latest one if no later one has its
  identifier.
-/
theorem isLatest_cons_zero_iff
    (first : Record)
    (later : List Record)
    (record : Record) :
    IsLatest (first :: later) 0 record ↔
      first = record ∧ ∀ other ∈ later, other.id ≠ record.id := by
  unfold IsLatest
  rw [List.getElem?_cons_zero, Option.some.injEq]
  refine and_congr_right fun _ => ?_
  constructor
  · intro hLast other hOther
    rcases List.mem_iff_getElem?.mp hOther with ⟨place, hPlace⟩
    exact hLast (place + 1) other (Nat.succ_pos place) hPlace
  · intro hLast other record hBehind hRecord
    rcases Nat.exists_eq_add_of_lt hBehind with ⟨place, rfl⟩
    rw [Nat.zero_add, List.getElem?_cons_succ] at hRecord
    exact hLast record (List.mem_of_getElem? hRecord)

/-
  Whether another record is a latest one is decided behind
  the first.
-/
theorem isLatest_cons_succ_iff
    (first : Record)
    (later : List Record)
    (place : Nat)
    (record : Record) :
    IsLatest (first :: later) (place + 1) record ↔
      IsLatest later place record := by
  unfold IsLatest
  rw [List.getElem?_cons_succ]
  refine and_congr_right fun _ => ?_
  constructor
  · intro hLast other record hBehind hRecord
    exact hLast (other + 1) record (Nat.succ_lt_succ hBehind) hRecord
  · intro hLast other record hBehind hRecord
    cases other with
    | zero => exact absurd hBehind (Nat.not_lt_zero _)
    | succ other =>
        exact hLast other record (Nat.lt_of_succ_lt_succ hBehind)
          hRecord

/- What is listed are the latest records at their places. -/
theorem mem_latestFrom_iff
    (start : Nat)
    (history : List Record)
    (slot : Nat)
    (record : Record) :
    (slot, record) ∈ latestFrom start history ↔
      ∃ place, slot = start + place ∧
        IsLatest history place record := by
  induction history generalizing start with
  | nil => simp [latestFrom, IsLatest]
  | cons first later ih =>
      have hLater :
          (slot, record) ∈ latestFrom (start + 1) later ↔
            ∃ place, slot = start + (place + 1) ∧
              IsLatest (first :: later) (place + 1) record := by
        simp only [ih, isLatest_cons_succ_iff, Nat.add_assoc,
          Nat.add_comm 1]
      have hPlaces :
          (∃ place, slot = start + place ∧
            IsLatest (first :: later) place record) ↔
          (slot = start ∧ IsLatest (first :: later) 0 record) ∨
            ∃ place, slot = start + (place + 1) ∧
              IsLatest (first :: later) (place + 1) record := by
        constructor
        · rintro ⟨place | place, hSlot, hLatest⟩
          · exact Or.inl ⟨hSlot, hLatest⟩
          · exact Or.inr ⟨place, hSlot, hLatest⟩
        · rintro (⟨hSlot, hLatest⟩ | ⟨place, hSlot, hLatest⟩)
          · exact ⟨0, hSlot, hLatest⟩
          · exact ⟨place + 1, hSlot, hLatest⟩
      rw [latestFrom, hPlaces, ← hLater, isLatest_cons_zero_iff]
      split
      · rename_i hReplaced
        simp only [List.any_eq_true, decide_eq_true_eq] at hReplaced
        rcases hReplaced with ⟨other, hOther, hId⟩
        constructor
        · exact Or.inr
        · rintro (⟨-, rfl, hLast⟩ | hRest)
          · exact absurd hId (hLast other hOther)
          · exact hRest
      · rename_i hLast
        simp only [List.any_eq_true, decide_eq_true_eq, not_exists,
          not_and] at hLast
        rw [List.mem_cons, Prod.mk.injEq]
        refine or_congr_left ?_
        constructor
        · rintro ⟨hSlot, rfl⟩
          exact ⟨hSlot, rfl, hLast⟩
        · rintro ⟨hSlot, rfl, -⟩
          exact ⟨hSlot, rfl⟩

/- What is listed are the latest records of a history. -/
theorem mem_latestFrom_zero_iff
    (history : List Record)
    (slot : Nat)
    (record : Record) :
    (slot, record) ∈ latestFrom 0 history ↔
      IsLatest history slot record := by
  simp [mem_latestFrom_iff]

/- The records are listed in the order of their places. -/
theorem pairwise_latestFrom
    (start : Nat)
    (history : List Record) :
    (latestFrom start history).Pairwise fun a b => a.1 < b.1 := by
  induction history generalizing start with
  | nil => exact List.Pairwise.nil
  | cons record later ih =>
      unfold latestFrom
      split
      · exact ih (start + 1)
      · refine List.pairwise_cons.mpr ⟨?_, ih (start + 1)⟩
        rintro ⟨slot, other⟩ hOther
        rcases (mem_latestFrom_iff ..).mp hOther with ⟨place, rfl, -⟩
        omega

/- A record survives if it is the latest one at some place. -/
theorem mem_survivors_iff
    (history : List Record)
    (record : Record) :
    record ∈ survivors history ↔
      ∃ slot, IsLatest history slot record := by
  rw [← map_snd_latestFrom 0, List.mem_map]
  constructor
  · rintro ⟨⟨slot, other⟩, hMember, rfl⟩
    exact ⟨slot, (mem_latestFrom_zero_iff ..).mp hMember⟩
  · rintro ⟨slot, hLatest⟩
    exact ⟨(slot, record), (mem_latestFrom_zero_iff ..).mpr hLatest,
      rfl⟩

/- No two survivors have the same identifier. -/
theorem nodup_ids_survivors
    (history : List Record) :
    ((survivors history).map Record.id).Nodup := by
  induction history with
  | nil => exact List.nodup_nil
  | cons record later ih =>
      unfold survivors
      split
      · exact ih
      · rename_i hLast
        rw [List.map_cons, List.nodup_cons]
        refine ⟨?_, ih⟩
        intro hMember
        rcases List.mem_map.mp hMember with ⟨other, hOther, hId⟩
        rcases (mem_survivors_iff later other).mp hOther with
          ⟨slot, hPlace, -⟩
        apply hLast
        rw [List.any_eq_true]
        exact ⟨other, List.mem_of_getElem? hPlace, by simpa using hId⟩

end SiteSearch

------------------------------------------------------------
-- Survivors in an Index
------------------------------------------------------------

namespace SiteSearch.SearchIndex.Represents

variable {index : SearchIndex}
variable {history : List Record}
variable (hIndex : index.Represents history)

include hIndex

/- The identifiers of an index are those of the survivors. -/
theorem slots_perm :
    index.slots.Perm
      ((latestFrom 0 history).map fun (slot, record) =>
        (record.id, slot)) := by
  have hSlots : index.slots.Nodup := List.Nodup.of_map _ hIndex.ids
  have hLatest :
      ((latestFrom 0 history).map fun (slot, record) =>
        (record.id, slot)).Nodup := by
    rw [List.Nodup, List.pairwise_map]
    refine (pairwise_latestFrom 0 history).imp ?_
    intro a b hLess hSame
    exact hLess.ne (Prod.mk.inj hSame).2
  rw [List.perm_ext_iff_of_nodup hSlots hLatest]
  rintro ⟨id, slot⟩
  rw [hIndex.slots, List.mem_map]
  constructor
  · rintro ⟨record, hRecord, rfl⟩
    exact ⟨(slot, record),
      (mem_latestFrom_zero_iff ..).mpr hRecord, rfl⟩
  · rintro ⟨⟨place, record⟩, hMember, hPair⟩
    rcases Prod.mk.inj hPair with ⟨rfl, rfl⟩
    exact ⟨record, (mem_latestFrom_zero_iff ..).mp hMember, rfl⟩

/- An index is as large as there are survivors. -/
theorem size_eq :
    index.size = (survivors history).length := by
  rw [SearchIndex.size, hIndex.slots_perm.length_eq, List.length_map,
    ← map_snd_latestFrom 0, List.length_map]

end SiteSearch.SearchIndex.Represents
