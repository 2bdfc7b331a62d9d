import SiteSearch.Match

/-
  Grouping by section.

  Key definitions include:
    * `SiteSearch.Group`
    * `SiteSearch.Division`
    * `SiteSearch.groupByParent`
    * `SiteSearch.Group.members?`

  Ranked matches are divided among their parents.  Groups
  stand in the order in which their parents first appear, and
  members in the order of the matches.  The matches without a
  parent make a group of their own.
-/

------------------------------------------------------------
-- Groups
------------------------------------------------------------

namespace SiteSearch

/- The matches that share a parent. -/
structure Group (σ : Type) where
  key : Option String
  matched : List (Match σ)
deriving DecidableEq, Repr

end SiteSearch

------------------------------------------------------------
-- Dividing
------------------------------------------------------------

namespace SiteSearch

variable {σ : Type}

/-
  Groups as they grow, and where the group of each parent
  stands.
-/
structure Division (σ : Type) where
  groups : List (Group σ)
  places : List (Option String × Nat)

namespace Division

/- No groups. -/
def empty : Division σ :=
  ⟨[], []⟩

/-
  Where the group of a parent stands.  A parent that has none
  gets one without matches, behind all others.
-/
def locate
    (division : Division σ)
    (parent : Option String) :
    Nat × Division σ :=
  match division.places.lookup parent with
  | some place => (place, division)
  | none => (division.groups.length, {
      groups := division.groups ++ [⟨parent, []⟩]
      places := (parent, division.groups.length) :: division.places
    })

/- Add a match to the group of its parent. -/
def add
    (division : Division σ)
    (found : Match σ) :
    Division σ :=
  let (place, division) := division.locate found.parent
  { division with
    groups := division.groups.modify place fun group =>
      { group with matched := group.matched ++ [found] } }

/- Some matches divided, one after the other. -/
def ofMatches
    (found : List (Match σ)) :
    Division σ :=
  found.foldl add empty

end Division

/- The matches of each parent, in order of first appearance. -/
def groupByParent
    (found : List (Match σ)) :
    List (Group σ) :=
  (Division.ofMatches found).groups

end SiteSearch

------------------------------------------------------------
-- Reading Groups
------------------------------------------------------------

namespace SiteSearch.Group

variable {σ : Type}

/- The members of the group with a key, if there is one. -/
def members?
    (groups : List (Group σ))
    (key : Option String) :
    Option (List (Match σ)) :=
  (groups.find? fun group => group.key == key).map (·.matched)

/- How many matches are in the groups. -/
def count
    (groups : List (Group σ)) :
    Nat :=
  groups.foldr (fun group count => group.matched.length + count) 0

/- All matches, group by group. -/
def flatten
    (groups : List (Group σ)) :
    List (Match σ) :=
  groups.flatMap (·.matched)

end SiteSearch.Group
