import SiteSearch.Config
import SiteSearch.Loader
import SiteSearch.ResultList

/-
  The search box.

  Key definitions include:
    * `SiteSearch.Outcome`
    * `SiteSearch.Widget`
    * `SiteSearch.Widget.disarm`
    * `SiteSearch.Widget.answer`

  A search box has an input and a list of results.  Whenever
  the input changes, the old results go.  New ones come only
  if there is a query, the index is ready and something
  matches; then the list carries a class that says so.
-/

------------------------------------------------------------
-- Widgets
------------------------------------------------------------

namespace SiteSearch

/- How a query was answered. -/
inductive Outcome where
  | empty
  | notReady (status : String)
  | noHits
  | hits (count : Nat)
deriving DecidableEq, Repr

/- A search box; the first focus on it starts the load. -/
structure Widget where
  config : Config
  armed : Bool
  input : Element
  results : Element

namespace Widget

/- A search box that nobody has used. -/
def new
    (config : Config) :
    Widget where
  config := config
  armed := true
  input :=
    (((Element.new "input").withId config.inputId).setAttribute
      "type" "search").setAttribute "value" ""
  results := (Element.new "ul").withId config.resultsId

/- The query in the input. -/
def query
    (widget : Widget) :
    String :=
  (widget.input.attribute? "value").getD ""

/- Whether results are shown. -/
def hasHits
    (widget : Widget) :
    Bool :=
  widget.results.hasClass hasHitsClass

/- The search box after a focus that has had its effect. -/
def disarm
    (widget : Widget) :
    Widget :=
  { widget with armed := false }

end Widget

end SiteSearch

------------------------------------------------------------
-- Queries
------------------------------------------------------------

namespace SiteSearch.Widget

/- Take a query into the input and clear the results. -/
def enter
    (widget : Widget)
    (query : String) :
    Widget :=
  { widget with
    input := widget.input.setAttribute "value" query
    results := widget.results.clearChildren }

/- Say that there are no results. -/
def unmark
    (widget : Widget) :
    Widget :=
  { widget with results := widget.results.removeClass hasHitsClass }

/- Show some matches. -/
def present
    (widget : Widget)
    (found : List (Match Float)) :
    Widget :=
  let view := ResultView.ofMatches found widget.config.showParent
  { widget with
    results := view.render (widget.results.addClass hasHitsClass) }

/- The matches of a query, as many as are wanted. -/
def found
    (widget : Widget)
    (handle : Handle)
    (query : String) :
    List (Match Float) :=
  handle.index.search query widget.config.limit.toNat

/- Answer a query with what the loader has. -/
def answer
    (widget : Widget)
    (status : Status)
    (query : String) :
    Widget × Outcome × List Event :=
  let entered := widget.enter query
  if query = "" then (entered.unmark, .empty, [])
  else
    match status with
    | .ready handle =>
        match widget.found handle query with
        | [] => (entered.unmark, .noHits, [])
        | first :: others =>
            let count := others.length + 1
            (entered.present (first :: others), .hits count,
              [.rendered query count])
    | other =>
        (entered.unmark, .notReady other.name, [.notReady other.name])

end SiteSearch.Widget
