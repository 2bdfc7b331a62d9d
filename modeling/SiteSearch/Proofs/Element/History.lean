import SiteSearch.Proofs.Element.Edits
import Mathlib.Data.List.Induction

/-
  Elements with a history.

  An element is made by edits, one after the other, of a new
  one.  Its classes are a set and its attributes a map, both
  in an order that the edits decide: what was decided last of
  a name holds of it, and names stand in the order of the
  edits that brought them in.

  Main declarations:
    * `SiteSearch.Element.edited`
    * `SiteSearch.Element.lastWord`
    * `SiteSearch.Element.StandInOrder`
    * `SiteSearch.Element.introduces_append_iff`
    * `SiteSearch.Element.setsFirst_append_iff`
    * `SiteSearch.Element.Records`
    * `SiteSearch.Element.Records.apply`
    * `SiteSearch.Element.history_decides_element`
-/

------------------------------------------------------------
-- The Last Word
------------------------------------------------------------

namespace SiteSearch.Element

/- What edits make of a new element. -/
def edited
    (tag : String)
    (edits : List Edit) :
    Element :=
  edits.foldl Edit.apply (new tag)

/-
  What is decided by the last of the edits that decide
  anything.
-/
def lastWord
    {α : Type}
    (decides : Edit → Option α)
    (edits : List Edit) :
    Option α :=
  edits.reverse.findSome? decides

/- One more edit has the last word if it decides anything. -/
theorem lastWord_append
    {α : Type}
    (decides : Edit → Option α)
    (edits : List Edit)
    (edit : Edit) :
    lastWord decides (edits ++ [edit]) =
      (decides edit).or (lastWord decides edits) := by
  rw [lastWord, List.reverse_append, List.reverse_singleton,
    List.singleton_append, List.findSome?_cons, lastWord]
  cases decides edit <;> rfl

/- The edits since the last one that removed all children. -/
def sinceCleared
    (edits : List Edit) :
    List Edit :=
  (edits.reverse.takeWhile fun edit => !edit.clears).reverse

theorem sinceCleared_append
    (edits : List Edit)
    (edit : Edit) :
    sinceCleared (edits ++ [edit]) =
      if edit.clears then [] else sinceCleared edits ++ [edit] := by
  rw [sinceCleared, List.reverse_append, List.reverse_singleton,
    List.singleton_append, List.takeWhile_cons, sinceCleared]
  cases edit.clears <;> simp

end SiteSearch.Element

------------------------------------------------------------
-- Names in Order
------------------------------------------------------------

namespace SiteSearch.Element

/-
  Names stand in the order of the edits that bring them in:
  there is one for each place in the history where a name is
  brought in.
-/
def StandInOrder
    (brings : Nat → String → Prop)
    (names : List String) :
    Prop :=
  ∃ calls : List (Nat × String),
    calls.map Prod.snd = names ∧
      calls.Pairwise (fun a b => a.1 < b.1) ∧
      ∀ place name, (place, name) ∈ calls ↔ brings place name

namespace StandInOrder

variable {brings : Nat → String → Prop}
variable {names : List String}

/- There are no names if none is brought in. -/
theorem nil
    (hNone : ∀ place name, ¬ brings place name) :
    StandInOrder brings [] :=
  ⟨[], rfl, List.Pairwise.nil, fun place name =>
    ⟨nofun, fun hBrings => absurd hBrings (hNone place name)⟩⟩

/- Names stay in order if the same places bring them in. -/
theorem congr
    (hOrder : StandInOrder brings names)
    {others : Nat → String → Prop}
    (hSame : ∀ place name, others place name ↔ brings place name) :
    StandInOrder others names := by
  rcases hOrder with ⟨calls, hNames, hAscending, hBrings⟩
  refine ⟨calls, hNames, hAscending, fun place name => ?_⟩
  rw [hSame, hBrings]

/- So do those that are left when others are removed. -/
theorem filter
    (hOrder : StandInOrder brings names)
    (keeps : String → Bool) :
    StandInOrder (fun place name => brings place name ∧
      keeps name = true)
      (names.filter keeps) := by
  rcases hOrder with ⟨calls, rfl, hAscending, hBrings⟩
  refine ⟨calls.filter (keeps ∘ Prod.snd), ?_, hAscending.filter _, ?_⟩
  · rw [List.filter_map]
  · intro place name
    rw [List.mem_filter, hBrings]
    rfl

/- A name that is brought in later stands behind the others. -/
theorem append
    (hOrder : StandInOrder brings names)
    {last : Nat}
    (hBefore : ∀ place name, brings place name → place < last)
    (name : String) :
    StandInOrder
      (fun place other => brings place other ∨
        place = last ∧ other = name)
      (names ++ [name]) := by
  rcases hOrder with ⟨calls, rfl, hAscending, hBrings⟩
  refine ⟨calls ++ [(last, name)], ?_, ?_, ?_⟩
  · rw [List.map_append, List.map_singleton]
  · rw [List.pairwise_append]
    refine ⟨hAscending, List.pairwise_singleton _ _, ?_⟩
    rintro ⟨place, other⟩ hCall newer hNewer
    rw [List.mem_singleton.mp hNewer]
    exact hBefore place other ((hBrings place other).mp hCall)
  · intro place other
    rw [List.mem_append, List.mem_singleton, Prod.mk.injEq, hBrings]

end StandInOrder

end SiteSearch.Element

------------------------------------------------------------
-- Names That Are Brought In
------------------------------------------------------------

namespace SiteSearch.Element

/-
  The edit at some place brought in a class: it added the
  class when it was not there, and no edit has removed it
  since.
-/
structure Introduces
    (edits : List Edit)
    (place : Nat)
    (name : String) :
    Prop where
  added : edits[place]? = some (.addClass name)
  absent : lastWord (Edit.class? name) (edits.take place) ≠ some true
  kept : Edit.removeClass name ∉ edits.drop (place + 1)

/- The edit at some place was the first to set an attribute. -/
structure SetsFirst
    (edits : List Edit)
    (place : Nat)
    (name : String) :
    Prop where
  set : ∃ value, edits[place]? = some (.setAttribute name value)
  first : ∀ value, Edit.setAttribute name value ∉ edits.take place

/-
  An edit of a longer history is the last one, or one of
  those before.
-/
theorem getElem?_append_eq_some_iff
    (edits : List Edit)
    (edit found : Edit)
    (place : Nat) :
    (edits ++ [edit])[place]? = some found ↔
      edits[place]? = some found ∨
        place = edits.length ∧ edit = found := by
  rcases Nat.lt_trichotomy place edits.length with
    hBefore | rfl | hBehind
  · rw [List.getElem?_append_left hBefore]
    simp [Nat.ne_of_lt hBefore]
  · simp
  · have hLength : (edits ++ [edit]).length ≤ place := by
      simpa using Nat.succ_le_of_lt hBehind
    rw [List.getElem?_eq_none hLength,
      List.getElem?_eq_none (Nat.le_of_lt hBehind)]
    simp [Nat.ne_of_gt hBehind]

theorem Introduces.place_lt
    {edits : List Edit}
    {place : Nat}
    {name : String}
    (hIntroduces : Introduces edits place name) :
    place < edits.length :=
  (List.getElem?_eq_some_iff.mp hIntroduces.added).1

theorem SetsFirst.place_lt
    {edits : List Edit}
    {place : Nat}
    {name : String}
    (hSets : SetsFirst edits place name) :
    place < edits.length := by
  rcases hSets.set with ⟨value, hValue⟩
  exact (List.getElem?_eq_some_iff.mp hValue).1

/-
  One more edit brings in the class that it adds if that is
  not there.  It undoes what brought in the class that it
  removes, and nothing else.
-/
theorem introduces_append_iff
    (edits : List Edit)
    (edit : Edit)
    (place : Nat)
    (name : String) :
    Introduces (edits ++ [edit]) place name ↔
      Introduces edits place name ∧ edit ≠ .removeClass name ∨
        place = edits.length ∧ edit = .addClass name ∧
          lastWord (Edit.class? name) edits ≠ some true := by
  constructor
  · rintro ⟨hAdded, hAbsent, hKept⟩
    rcases (getElem?_append_eq_some_iff ..).mp hAdded with
      hBefore | ⟨rfl, rfl⟩
    · have hPlace := (List.getElem?_eq_some_iff.mp hBefore).1
      rw [List.take_append_of_le_length (Nat.le_of_lt hPlace)] at hAbsent
      rw [List.drop_append_of_le_length hPlace, List.mem_append,
        List.mem_singleton, not_or] at hKept
      exact Or.inl ⟨⟨hBefore, hAbsent, hKept.1⟩, Ne.symm hKept.2⟩
    · rw [List.take_left] at hAbsent
      exact Or.inr ⟨rfl, rfl, hAbsent⟩
  · rintro (⟨hIntroduces, hOther⟩ | ⟨rfl, rfl, hAbsent⟩)
    · have hPlace := hIntroduces.place_lt
      refine ⟨?_, ?_, ?_⟩
      · rw [List.getElem?_append_left hPlace, hIntroduces.added]
      · rw [List.take_append_of_le_length (Nat.le_of_lt hPlace)]
        exact hIntroduces.absent
      · rw [List.drop_append_of_le_length hPlace, List.mem_append,
          List.mem_singleton, not_or]
        exact ⟨hIntroduces.kept, hOther.symm⟩
    · refine ⟨List.getElem?_concat_length, ?_, ?_⟩
      · rwa [List.take_left]
      · rw [List.drop_eq_nil_of_le (by simp)]
        exact List.not_mem_nil

/-
  A class that was not there is brought in by the edit that
  adds it.
-/
theorem introduces_append_addClass_iff
    {edits : List Edit}
    {name : String}
    (hAbsent : lastWord (Edit.class? name) edits ≠ some true)
    (place : Nat)
    (other : String) :
    Introduces (edits ++ [.addClass name]) place other ↔
      Introduces edits place other ∨
        place = edits.length ∧ other = name := by
  rw [introduces_append_iff]
  constructor
  · rintro (⟨hBrings, -⟩ | ⟨hPlace, ⟨⟩, -⟩)
    · exact Or.inl hBrings
    · exact Or.inr ⟨hPlace, rfl⟩
  · rintro (hBrings | ⟨hPlace, rfl⟩)
    · exact Or.inl ⟨hBrings, nofun⟩
    · exact Or.inr ⟨hPlace, rfl, hAbsent⟩

/- An edit that removes a class leaves the others brought in. -/
theorem introduces_append_removeClass_iff
    (edits : List Edit)
    (name : String)
    (place : Nat)
    (other : String) :
    Introduces (edits ++ [.removeClass name]) place other ↔
      Introduces edits place other ∧ other ≠ name := by
  rw [introduces_append_iff, Ne, Edit.removeClass.injEq, eq_comm]
  constructor
  · rintro (hKept | ⟨-, ⟨⟩, -⟩)
    exact hKept
  · exact Or.inl

/- Any other edit brings in no class. -/
theorem introduces_append_other_iff
    {edits : List Edit}
    {edit : Edit}
    {name : String}
    (hThere : edit = .addClass name →
      lastWord (Edit.class? name) edits = some true)
    (hOther : edit ≠ .removeClass name)
    (place : Nat) :
    Introduces (edits ++ [edit]) place name ↔
      Introduces edits place name := by
  rw [introduces_append_iff]
  constructor
  · rintro (⟨hBrings, -⟩ | ⟨-, hAdds, hAbsent⟩)
    · exact hBrings
    · exact absurd (hThere hAdds) hAbsent
  · exact fun hBrings => Or.inl ⟨hBrings, hOther⟩

/-
  No edit was about an attribute on which there is no last
  word.
-/
theorem lastWord_attribute?_eq_none_iff
    (edits : List Edit)
    (name : String) :
    lastWord (Edit.attribute? name) edits = none ↔
      ∀ value, Edit.setAttribute name value ∉ edits := by
  rw [lastWord, List.findSome?_eq_none_iff]
  constructor
  · intro hSilent value hMember
    have hNone := hSilent _ (List.mem_reverse.mpr hMember)
    rw [Edit.attribute?, if_pos rfl] at hNone
    cases hNone
  · intro hOther edit hMember
    cases edit with
    | setAttribute other value =>
        refine if_neg ?_
        rintro rfl
        exact hOther value (List.mem_reverse.mp hMember)
    | _ => rfl

/-
  One more edit is the first to set an attribute that has no
  value.
-/
theorem setsFirst_append_iff
    (edits : List Edit)
    (edit : Edit)
    (place : Nat)
    (name : String) :
    SetsFirst (edits ++ [edit]) place name ↔
      SetsFirst edits place name ∨
        place = edits.length ∧
          (∃ value, edit = .setAttribute name value) ∧
          lastWord (Edit.attribute? name) edits = none := by
  rw [lastWord_attribute?_eq_none_iff]
  constructor
  · rintro ⟨⟨value, hValue⟩, hFirst⟩
    rcases (getElem?_append_eq_some_iff ..).mp hValue with
      hBefore | ⟨rfl, rfl⟩
    · have hPlace := (List.getElem?_eq_some_iff.mp hBefore).1
      rw [List.take_append_of_le_length (Nat.le_of_lt hPlace)] at hFirst
      exact Or.inl ⟨⟨value, hBefore⟩, hFirst⟩
    · rw [List.take_left] at hFirst
      exact Or.inr ⟨rfl, ⟨value, rfl⟩, hFirst⟩
  · rintro (hSets | ⟨rfl, ⟨value, rfl⟩, hFirst⟩)
    · have hPlace := hSets.place_lt
      rcases hSets.set with ⟨value, hValue⟩
      refine ⟨⟨value, ?_⟩, ?_⟩
      · rw [List.getElem?_append_left hPlace, hValue]
      · rw [List.take_append_of_le_length (Nat.le_of_lt hPlace)]
        exact hSets.first
    · refine ⟨⟨value, List.getElem?_concat_length⟩, ?_⟩
      rwa [List.take_left]

/-
  An attribute without a value is set first by the edit that
  sets it.
-/
theorem setsFirst_append_setAttribute_iff
    {edits : List Edit}
    {name : String}
    (hAbsent : lastWord (Edit.attribute? name) edits = none)
    (value : String)
    (place : Nat)
    (other : String) :
    SetsFirst (edits ++ [.setAttribute name value]) place other ↔
      SetsFirst edits place other ∨
        place = edits.length ∧ other = name := by
  rw [setsFirst_append_iff]
  constructor
  · rintro (hBrings | ⟨hPlace, ⟨_, ⟨⟩⟩, -⟩)
    · exact Or.inl hBrings
    · exact Or.inr ⟨hPlace, rfl⟩
  · rintro (hBrings | ⟨hPlace, rfl⟩)
    · exact Or.inl hBrings
    · exact Or.inr ⟨hPlace, ⟨value, rfl⟩, hAbsent⟩

/- Any other edit is the first to set no attribute. -/
theorem setsFirst_append_other_iff
    {edits : List Edit}
    {edit : Edit}
    {name : String}
    (hThere : ∀ value, edit = .setAttribute name value →
      lastWord (Edit.attribute? name) edits ≠ none)
    (place : Nat) :
    SetsFirst (edits ++ [edit]) place name ↔
      SetsFirst edits place name := by
  rw [setsFirst_append_iff]
  constructor
  · rintro (hBrings | ⟨-, ⟨value, hSets⟩, hAbsent⟩)
    · exact hBrings
    · exact absurd hAbsent (hThere value hSets)
  · exact Or.inl

end SiteSearch.Element

------------------------------------------------------------
-- What a History Makes
------------------------------------------------------------

namespace SiteSearch.Element

/-
  An element is what a history makes of a new one: whatever
  has been decided last holds, the children are those added
  since they were last removed, and neither a class nor the
  name of an attribute occurs twice.
-/
structure Records
    (element : Element)
    (tag : String)
    (edits : List Edit) :
    Prop where
  tag_eq : element.tag = tag
  id_eq : element.id = lastWord Edit.id? edits
  text_eq : element.text = lastWord Edit.text? edits
  children_eq :
    element.children = (sinceCleared edits).filterMap Edit.child?
  nodup_classes : element.classes.Nodup
  hasClass_iff : ∀ name,
    element.hasClass name = true ↔
      lastWord (Edit.class? name) edits = some true
  /- Classes stand in the order in which they were brought in. -/
  classes_order : StandInOrder (Introduces edits) element.classes
  nodup_attributes : (element.attributes.map Prod.fst).Nodup
  attribute?_eq : ∀ name,
    element.attribute? name = lastWord (Edit.attribute? name) edits
  /- Attributes stand in the order in which they were first set. -/
  attributes_order :
    StandInOrder (SetsFirst edits) (element.attributes.map Prod.fst)

/- A new element has no history. -/
theorem records_new
    (tag : String) :
    Records (new tag) tag [] where
  tag_eq := rfl
  id_eq := rfl
  text_eq := rfl
  children_eq := rfl
  nodup_classes := List.nodup_nil
  hasClass_iff := fun name => by simp [hasClass, new, lastWord]
  classes_order := StandInOrder.nil fun place _ hBrings =>
    Nat.not_lt_zero place hBrings.place_lt
  nodup_attributes := List.nodup_nil
  attribute?_eq := fun name => rfl
  attributes_order := StandInOrder.nil fun place _ hBrings =>
    Nat.not_lt_zero place hBrings.place_lt

namespace Records

variable {element : Element}
variable {tag : String}
variable {edits : List Edit}

/- One more edit keeps the classes a set in order. -/
theorem classes_step
    (hRecords : Records element tag edits)
    (edit : Edit) :
    (edit.apply element).classes.Nodup ∧
      StandInOrder (Introduces (edits ++ [edit]))
        (edit.apply element).classes := by
  have hNodup := hRecords.nodup_classes
  have hOrder := hRecords.classes_order
  rcases edit.classes_apply element with
    ⟨name, rfl, hAbsent, hClasses⟩ | ⟨name, rfl, hClasses⟩ |
      ⟨hThere, hOther, hClasses⟩
  · rw [hClasses]
    have hNew : name ∉ element.classes := by
      simpa [hasClass] using hAbsent
    have hLast : lastWord (Edit.class? name) edits ≠ some true := by
      rw [Ne, ← hRecords.hasClass_iff, hAbsent]
      exact Bool.false_ne_true
    have hLater :=
      hOrder.append (fun _ _ hBrings => hBrings.place_lt) name
    exact ⟨List.concat_eq_append ▸ hNodup.concat hNew,
      hLater.congr (introduces_append_addClass_iff hLast)⟩
  · rw [hClasses]
    refine ⟨hNodup.filter _,
      (hOrder.filter _).congr fun place other => ?_⟩
    rw [introduces_append_removeClass_iff, decide_eq_true_eq]
  · rw [hClasses]
    refine ⟨hNodup, hOrder.congr fun place name => ?_⟩
    exact introduces_append_other_iff
      (fun hAdds => (hRecords.hasClass_iff name).mp (hThere name hAdds))
      (hOther name) place

/- One more edit keeps the attributes a map in order. -/
theorem attributes_step
    (hRecords : Records element tag edits)
    (edit : Edit) :
    ((edit.apply element).attributes.map Prod.fst).Nodup ∧
      StandInOrder (SetsFirst (edits ++ [edit]))
        ((edit.apply element).attributes.map Prod.fst) := by
  have hNodup := hRecords.nodup_attributes
  have hOrder := hRecords.attributes_order
  rcases edit.attributes_apply element with
    ⟨name, value, rfl, hAbsent, hNames⟩ | ⟨hThere, hNames⟩
  · rw [hNames]
    have hNew := (element.attribute?_eq_none_iff name).mp hAbsent
    rw [hRecords.attribute?_eq] at hAbsent
    have hLater :=
      hOrder.append (fun _ _ hBrings => hBrings.place_lt) name
    exact ⟨List.concat_eq_append ▸ hNodup.concat hNew,
      hLater.congr (setsFirst_append_setAttribute_iff hAbsent value)⟩
  · rw [hNames]
    refine ⟨hNodup, hOrder.congr fun place name => ?_⟩
    refine setsFirst_append_other_iff (fun value hSets => ?_) place
    rw [← hRecords.attribute?_eq]
    exact hThere name value hSets

/- One more edit is one more step of the history. -/
theorem apply
    (hRecords : Records element tag edits)
    (edit : Edit) :
    Records (edit.apply element) tag (edits ++ [edit]) where
  tag_eq := by rw [edit.tag_apply, hRecords.tag_eq]
  id_eq := by rw [edit.id_apply, lastWord_append, hRecords.id_eq]
  text_eq := by rw [edit.text_apply, lastWord_append, hRecords.text_eq]
  children_eq := by
    rw [edit.children_apply, sinceCleared_append, hRecords.children_eq]
    split_ifs
    · rfl
    · rw [List.filterMap_append, List.filterMap_cons]
      cases edit.child? <;> rfl
  nodup_classes := (hRecords.classes_step edit).1
  hasClass_iff := fun name => by
    rw [edit.hasClass_apply, lastWord_append]
    cases edit.class? name with
    | none => exact hRecords.hasClass_iff name
    | some there => simp
  classes_order := (hRecords.classes_step edit).2
  nodup_attributes := (hRecords.attributes_step edit).1
  attribute?_eq := fun name => by
    rw [edit.attribute?_apply, lastWord_append, hRecords.attribute?_eq]
  attributes_order := (hRecords.attributes_step edit).2

end Records

/- So an element records the edits that made it. -/
theorem records_edited
    (tag : String)
    (edits : List Edit) :
    Records (edited tag edits) tag edits := by
  -- A history grows at its end, so the induction takes off the
  -- last edit.
  induction edits using List.reverseRecOn with
  | nil => exact records_new tag
  | append_singleton edits edit ih =>
      rw [edited, List.foldl_append]
      exact ih.apply edit

/-
  An element that edits made is what was decided last: its
  classes are a set and its attributes a map, in the order in
  which edits brought them in, and what an edit is not about
  stays as it is, in its place.
-/
theorem history_decides_element
    (tag : String)
    (edits : List Edit) :
    Records (edited tag edits) tag edits ∧
      ∀ edit : Edit,
        (edited tag (edits ++ [edit])).without edit.part =
          (edited tag edits).without edit.part := by
  refine ⟨records_edited tag edits, fun edit => ?_⟩
  rw [edited, List.foldl_append]
  exact without_apply edit (edited tag edits)

/- A class that comes back stands behind those that stayed. -/
example :
    (edited "ul"
      [.addClass "a", .addClass "b", .removeClass "a",
        .addClass "b", .addClass "a"]).classes = ["b", "a"] := by
  decide

end SiteSearch.Element
