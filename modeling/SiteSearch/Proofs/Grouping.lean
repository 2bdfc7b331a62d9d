import SiteSearch.Grouping
import SiteSearch.Proofs.Distinct

/-
  Grouping divides matches among their parents.

  There is one group for each parent, in the order in which
  the parents first appear, and it holds the matches of that
  parent in their order.  While matches are divided, each
  parent that was met has its place in that order, so a match
  is always added to a group that is there.

  Main declarations:
    * `SiteSearch.parentsOf`
    * `SiteSearch.Division.Divides`
    * `SiteSearch.groupByParent_eq_map`
    * `SiteSearch.groupByParent_flatten`
    * `SiteSearch.Partitions`
    * `SiteSearch.partitions_groupByParent`
-/

------------------------------------------------------------
-- Matches of a Parent
------------------------------------------------------------

namespace SiteSearch

variable {σ : Type}

/- The parents of some matches, in order of first appearance. -/
def parentsOf
    (found : List (Match σ)) :
    List (Option String) :=
  (found.map Match.parent).eraseDups

theorem mem_parentsOf_iff
    (found : List (Match σ))
    (parent : Option String) :
    parent ∈ parentsOf found ↔ parent ∈ found.map Match.parent :=
  List.mem_eraseDups

theorem nodup_parentsOf
    (found : List (Match σ)) :
    (parentsOf found).Nodup :=
  nodup_eraseDups _

/- A parent that was not met yet comes behind all others. -/
theorem parentsOf_append_singleton
    (found : List (Match σ))
    (next : Match σ) :
    parentsOf (found ++ [next]) =
      if next.parent ∈ parentsOf found then parentsOf found
      else parentsOf found ++ [next.parent] := by
  rw [parentsOf, List.map_append, List.map_singleton,
    eraseDups_append_singleton]
  simp only [← mem_parentsOf_iff]
  rfl

/- One more element stands behind all others. -/
theorem getElem?_append_singleton_iff
    {α : Type}
    {front : List α}
    {last a : α}
    {place : Nat} :
    (front ++ [last])[place]? = some a ↔
      front[place]? = some a ∨ place = front.length ∧ a = last := by
  grind

/- The matches with a parent, in their order. -/
def under
    (parent : Option String)
    (found : List (Match σ)) :
    List (Match σ) :=
  found.filter fun m => m.parent = parent

/- The next match comes last under its parent. -/
theorem under_append_singleton
    (parent : Option String)
    (found : List (Match σ))
    (next : Match σ) :
    under parent (found ++ [next]) =
      if next.parent = parent then under parent found ++ [next]
      else under parent found := by
  rw [under, List.filter_append, under]
  split_ifs with hParent <;> simp [hParent]

/-
  There are matches under the parents that were met, and no
  others.
-/
theorem under_ne_nil_iff
    (found : List (Match σ))
    (parent : Option String) :
    under parent found ≠ [] ↔ parent ∈ parentsOf found := by
  rw [under, Ne, List.filter_eq_nil_iff, mem_parentsOf_iff,
    List.mem_map]
  simp

/- The group of a parent among some matches. -/
def groupOf
    (found : List (Match σ))
    (parent : Option String) :
    Group σ :=
  ⟨parent, under parent found⟩

end SiteSearch

------------------------------------------------------------
-- Dividing
------------------------------------------------------------

namespace SiteSearch.Division

variable {σ : Type}

/-
  The groups are those of the given parents, and the places
  are where these parents stand.
-/
structure Divides
    (division : Division σ)
    (parents : List (Option String))
    (found : List (Match σ)) :
    Prop where
  groups : division.groups = parents.map (groupOf found)
  places : ∀ parent place,
    division.places.lookup parent = some place ↔
      parents[place]? = some parent

/-
  A parent stands among those that were met and itself, and
  its group is empty if it was not met yet.
-/
theorem Divides.locate
    {division : Division σ}
    {found : List (Match σ)}
    (hDivides : division.Divides (parentsOf found) found)
    (next : Match σ) :
    (division.locate next.parent).2.Divides
        (parentsOf (found ++ [next])) found ∧
      (parentsOf (found ++ [next]))[
        (division.locate next.parent).1]? = some next.parent := by
  rw [parentsOf_append_singleton]
  unfold Division.locate
  cases hPlace : division.places.lookup next.parent with
  | some place =>
      have hStands := (hDivides.places _ _).mp hPlace
      rw [if_pos (List.mem_of_getElem? hStands)]
      exact ⟨hDivides, hStands⟩
  | none =>
      have hNew : next.parent ∉ parentsOf found := by
        intro hMet
        rcases List.mem_iff_getElem?.mp hMet with ⟨place, hStands⟩
        rw [(hDivides.places _ _).mpr hStands] at hPlace
        cases hPlace
      have hNone : under next.parent found = [] :=
        not_not.mp (hNew ∘ (under_ne_nil_iff found _).mp)
      have hLength : division.groups.length =
          (parentsOf found).length := by
        rw [hDivides.groups, List.length_map]
      rw [if_neg hNew, hLength]
      refine ⟨⟨?_, fun parent place => ?_⟩, List.getElem?_concat_length⟩
      · rw [List.map_append, List.map_singleton, groupOf, hNone,
          ← hDivides.groups]
      · rw [getElem?_append_singleton_iff, ← hDivides.places]
        by_cases hParent : parent = next.parent
        · simp [hParent, hPlace, eq_comm]
        · simp [List.lookup_cons, beq_eq_false_iff_ne.mpr hParent,
            hParent]

/- The next match is added to the group of its parent. -/
theorem Divides.add
    {division : Division σ}
    {found : List (Match σ)}
    (hDivides : division.Divides (parentsOf found) found)
    (next : Match σ) :
    (division.add next).Divides (parentsOf (found ++ [next]))
      (found ++ [next]) := by
  rcases hDivides.locate next with ⟨hLocated, hStands⟩
  refine ⟨?_, hLocated.places⟩
  unfold Division.add
  dsimp only
  rw [hLocated.groups]
  generalize (division.locate next.parent).1 = place at hStands
  have hNodup := nodup_parentsOf (found ++ [next])
  generalize parentsOf (found ++ [next]) = parents at *
  ext1 other
  rw [List.getElem?_modify, List.getElem?_map, List.getElem?_map]
  cases hOther : parents[other]? with
  | none => rfl
  | some parent =>
      -- No two places belong to one parent.
      have hSame : place = other ↔ next.parent = parent := by
        constructor
        · rintro rfl
          exact Option.some.inj (hStands.symm.trans hOther)
        · rintro rfl
          exact (List.getElem?_inj
            (List.getElem?_eq_some_iff.mp hStands).1 hNodup).mp
              (hStands.trans hOther.symm)
      simp only [Option.map_some, Option.map_eq_map, hSame, groupOf,
        under_append_singleton]
      split_ifs <;> rfl

/- Dividing gives each parent its group and its place. -/
theorem divides_ofMatches
    (found : List (Match σ)) :
    (ofMatches found).Divides (parentsOf found) found := by
  induction found using List.reverseRecOn with
  | nil => exact ⟨rfl, by simp [ofMatches, empty, parentsOf]⟩
  | append_singleton front next ih =>
      rw [ofMatches, List.foldl_append]
      exact ih.add next

/- A match is added at a place where a group stands. -/
theorem locate_lt_length
    (found : List (Match σ))
    (next : Match σ) :
    ((ofMatches found).locate next.parent).1 <
      ((ofMatches found).locate next.parent).2.groups.length := by
  rcases (divides_ofMatches found).locate next with
    ⟨hLocated, hStands⟩
  rw [hLocated.groups, List.length_map]
  exact (List.getElem?_eq_some_iff.mp hStands).1

end SiteSearch.Division

------------------------------------------------------------
-- Groups
------------------------------------------------------------

namespace SiteSearch

variable {σ : Type}

/-
  The groups are those of the parents in order of first
  appearance.
-/
theorem groupByParent_eq_map
    (found : List (Match σ)) :
    groupByParent found = (parentsOf found).map (groupOf found) :=
  (Division.divides_ofMatches found).groups

theorem map_key_groupByParent
    (found : List (Match σ)) :
    (groupByParent found).map Group.key = parentsOf found := by
  rw [groupByParent_eq_map, List.map_map]
  exact List.map_id _

/- What is searched for by its equal is itself, if it is there. -/
theorem find?_beq_eq_ite
    {α : Type}
    [BEq α]
    [LawfulBEq α]
    (items : List α)
    (a : α) :
    (items.find? fun b => b == a) =
      if a ∈ items then some a else none := by
  induction items with
  | nil => rfl
  | cons b items ih =>
      by_cases hSame : b = a
      · simp [hSame]
      · simp [beq_eq_false_iff_ne.mpr hSame, ih, Ne.symm hSame]

/- A group is found by its parent, if that was met. -/
theorem members?_groupByParent
    (found : List (Match σ))
    (parent : Option String) :
    Group.members? (groupByParent found) parent =
      if parent ∈ found.map Match.parent then
        some (under parent found)
      else none := by
  have hKey : ((fun group : Group σ => group.key == parent) ∘
      groupOf found) = fun other => other == parent := rfl
  rw [Group.members?, groupByParent_eq_map, List.find?_map, hKey,
    find?_beq_eq_ite]
  simp only [mem_parentsOf_iff]
  split_ifs <;> rfl

/- As many matches are counted as there are in all groups. -/
theorem count_eq_length_flatten
    (groups : List (Group σ)) :
    Group.count groups = (Group.flatten groups).length := by
  induction groups with
  | nil => rfl
  | cons group groups ih =>
      rw [Group.flatten, List.flatMap_cons, List.length_append,
        ← Group.flatten, ← ih]
      rfl

end SiteSearch

------------------------------------------------------------
-- Matches Group by Group
------------------------------------------------------------

namespace SiteSearch

variable {σ : Type}

theorem flatten_groupByParent
    (found : List (Match σ)) :
    Group.flatten (groupByParent found) =
      (parentsOf found).flatMap fun parent => under parent found := by
  rw [Group.flatten, groupByParent_eq_map, List.flatMap_map]
  rfl

/-
  Parents without repetitions divide the matches that have
  them.
-/
theorem flatMap_under_perm
    {parents : List (Option String)}
    (hNodup : parents.Nodup)
    {found : List (Match σ)}
    (hParents : ∀ m ∈ found, m.parent ∈ parents) :
    (parents.flatMap fun parent => under parent found).Perm found := by
  induction parents generalizing found with
  | nil =>
      rw [List.eq_nil_iff_forall_not_mem.mpr fun m hFound =>
        List.not_mem_nil (hParents m hFound)]
      exact List.Perm.refl _
  | cons first parents ih =>
      rcases List.nodup_cons.mp hNodup with ⟨hFirst, hRest⟩
      let others := found.filter fun m => !decide (m.parent = first)
      have hSame : ∀ parent ∈ parents,
          under parent found = under parent others := by
        intro parent hParent
        unfold under
        rw [List.filter_filter]
        refine List.filter_congr fun m _ => ?_
        have hOther : parent ≠ first :=
          fun hEqual => hFirst (hEqual ▸ hParent)
        by_cases hOwn : m.parent = parent
        · simp [hOwn, hOther]
        · simp [hOwn]
      have hOthers : ∀ m ∈ others, m.parent ∈ parents := by
        intro m hMember
        rcases List.mem_filter.mp hMember with ⟨hFound, hOther⟩
        refine (List.mem_cons.mp (hParents m hFound)).resolve_left ?_
        simpa using hOther
      rw [List.flatMap_cons, List.flatMap_congr hSame]
      exact ((ih hRest hOthers).append_left _).trans
        (List.filter_append_perm _ found)

/- Group by group the same matches are there. -/
theorem flatten_groupByParent_perm
    (found : List (Match σ)) :
    (Group.flatten (groupByParent found)).Perm found := by
  rw [flatten_groupByParent]
  refine flatMap_under_perm (nodup_parentsOf found) fun m hFound => ?_
  exact (mem_parentsOf_iff ..).mpr (List.mem_map_of_mem hFound)

/-
  They have the same parents, which first appear in the same
  order.
-/
theorem parentsOf_flatten
    (found : List (Match σ)) :
    parentsOf (Group.flatten (groupByParent found)) =
      parentsOf found := by
  rw [flatten_groupByParent, parentsOf, List.map_flatMap]
  refine eraseDups_flatMap (nodup_parentsOf found) ?_ ?_
  · intro parent hMet
    rw [Ne, List.map_eq_nil_iff]
    exact (under_ne_nil_iff found parent).mpr hMet
  · intro parent _ other hOther
    rcases List.mem_map.mp hOther with ⟨m, hUnder, rfl⟩
    exact of_decide_eq_true (List.mem_filter.mp hUnder).2

/- And the same matches stand under each of them. -/
theorem under_flatten
    {found : List (Match σ)}
    {parent : Option String}
    (hMet : parent ∈ parentsOf found) :
    under parent (Group.flatten (groupByParent found)) =
      under parent found := by
  have hUnder : ∀ other,
      (under other found).filter (fun m => m.parent = parent) =
        if other = parent then under parent found else [] := by
    intro other
    unfold under
    rw [List.filter_filter]
    split_ifs with hSame
    · simp [hSame]
    · rw [List.filter_eq_nil_iff]
      intro m _ hBoth
      rw [Bool.and_eq_true, decide_eq_true_eq,
        decide_eq_true_eq] at hBoth
      exact hSame (hBoth.2.symm.trans hBoth.1)
  rw [flatten_groupByParent, under, List.filter_flatMap]
  simp only [hUnder]
  exact flatMap_ite_eq (nodup_parentsOf found) hMet _

/- So grouping what was grouped changes nothing. -/
theorem groupByParent_flatten
    (found : List (Match σ)) :
    groupByParent (Group.flatten (groupByParent found)) =
      groupByParent found := by
  rw [groupByParent_eq_map (Group.flatten _), parentsOf_flatten,
    groupByParent_eq_map found]
  refine List.map_congr_left fun parent hMet => ?_
  rw [← groupByParent_eq_map, groupOf, under_flatten hMet, groupOf]

end SiteSearch

------------------------------------------------------------
-- A Stable Partition
------------------------------------------------------------

namespace SiteSearch

variable {σ : Type}

/-
  Some groups divide some matches among their parents.  Having
  no parent is a parent of its own, which no text is.
-/
structure Partitions
    (groups : List (Group σ))
    (found : List (Match σ)) :
    Prop where
  /- The parents of the groups are in order of first appearance. -/
  keys_eq : groups.map Group.key = (found.map Match.parent).eraseDups
  /- No parent has two groups. -/
  keys_nodup : (groups.map Group.key).Nodup
  /- A group holds the matches of its parent in their order. -/
  matched_eq : ∀ group ∈ groups,
    group.matched = found.filter fun m => m.parent = group.key
  /- No group is empty. -/
  matched_ne_nil : ∀ group ∈ groups, group.matched ≠ []
  /- A parent that some match has leads to its matches. -/
  members?_eq : ∀ parent,
    Group.members? groups parent =
      if parent ∈ found.map Match.parent then
        some (found.filter fun m => m.parent = parent)
      else none
  /- Each match is counted once. -/
  count_eq : Group.count groups = found.length
  /- Each match is in one group. -/
  flatten_perm : (Group.flatten groups).Perm found
  /- Divided again, the matches make the same groups. -/
  again_eq : groupByParent (Group.flatten groups) = groups

/-
  Grouping is a stable partition of any matches, and while it
  goes on there is always a group at the place where the next
  match is added.
-/
theorem partitions_groupByParent
    (found : List (Match σ)) :
    Partitions (groupByParent found) found ∧
      ∀ next : Match σ,
        ((Division.ofMatches found).locate next.parent).1 <
          ((Division.ofMatches found).locate
            next.parent).2.groups.length := by
  refine ⟨?_, Division.locate_lt_length found⟩
  have hGroups : ∀ group ∈ groupByParent found,
      group.matched = under group.key found ∧
        group.key ∈ parentsOf found := by
    rw [groupByParent_eq_map, List.forall_mem_map]
    exact fun parent hMet => ⟨rfl, hMet⟩
  exact {
    keys_eq := map_key_groupByParent found
    keys_nodup := map_key_groupByParent found ▸ nodup_parentsOf found
    matched_eq := fun group hGroup => (hGroups group hGroup).1
    matched_ne_nil := by
      intro group hGroup
      rw [(hGroups group hGroup).1]
      exact (under_ne_nil_iff found group.key).mpr
        (hGroups group hGroup).2
    members?_eq := members?_groupByParent found
    count_eq := by
      rw [count_eq_length_flatten]
      exact (flatten_groupByParent_perm found).length_eq
    flatten_perm := flatten_groupByParent_perm found
    again_eq := groupByParent_flatten found
  }

end SiteSearch
