/-
  Maximal runs of a class of items.

  Key definitions include:
    * `SiteSearch.Text.runs`

  A list is cut at every item outside a class; what remains
  are the maximal runs of items inside it.  Words are the runs
  of characters that are no white space, and terms the runs of
  alphanumeric ones.
-/

------------------------------------------------------------
-- Runs
------------------------------------------------------------

namespace SiteSearch.Text

/- The run collected so far in reverse, if it holds anything. -/
def closeRun
    {α : Type}
    (collected : List α) :
    List (List α) :=
  match collected with
  | [] => []
  | _ :: _ => [collected.reverse]

/- The runs of a list that continues the run collected so far. -/
def runsFrom
    {α : Type}
    (inside : α → Bool)
    (collected : List α) :
    List α → List (List α)
  | [] => closeRun collected
  | a :: rest =>
      if inside a then runsFrom inside (a :: collected) rest
      else closeRun collected ++ runsFrom inside [] rest

/-
  The maximal non-empty runs of items inside a class, in
  order.
-/
def runs
    {α : Type}
    (inside : α → Bool)
    (items : List α) :
    List (List α) :=
  runsFrom inside [] items

end SiteSearch.Text
