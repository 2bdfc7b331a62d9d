import SiteSearch.Widget

/-
  Pages.

  Key definitions include:
    * `SiteSearch.Page`
    * `SiteSearch.Step`
    * `SiteSearch.Page.step`
    * `SiteSearch.Page.run`

  The search boxes of a page share one loader.  A load that
  was started goes on in the background: it ends at some step
  of its own, or at the latest when somebody waits for it.
-/

------------------------------------------------------------
-- Pages
------------------------------------------------------------

namespace SiteSearch

/-
  A loader, the search boxes on it, and what has happened so
  far.
-/
structure Page where
  loader : Loader
  widgets : List Widget
  log : List Event

/-
  What can be done on a page; search boxes are told by their
  number.
-/
inductive Step where
  | focus (widget : Nat)
  | start
  | query (widget : Nat) (text : String)
  | queryWhenReady (widget : Nat) (text : String)
  | wait
  | ensure
  | progress
deriving DecidableEq, Repr

/- What a step comes back with. -/
inductive Reply where
  | started (here : Bool)
  | outcome (outcome : Outcome)
  | status (status : Status)
  | nothing

namespace Page

/- A page that nobody has used. -/
def new
    (source : String)
    (answer : Answer)
    (configs : List Config) :
    Page :=
  ⟨Loader.new source answer, configs.map Widget.new, []⟩

/- Put a search box into its place. -/
def setWidget
    (page : Page)
    (number : Nat)
    (widget : Widget) :
    Page :=
  { page with widgets := page.widgets.set number widget }

/- Start the load, unless it was started. -/
def start
    (page : Page) :
    Page × Bool :=
  let (loader, started) := page.loader.claim
  ({ page with loader := loader }, started)

/- Let a load that was started come to its end. -/
def finish
    (page : Page) :
    Page :=
  let (loader, events) := page.loader.finish
  { page with loader := loader, log := page.log ++ events }

/-
  Start the load, unless it was started, and let it come to
  its end.
-/
def ensure
    (page : Page) :
    Page :=
  page.start.1.finish

/- The first focus on a search box starts the load. -/
def focus
    (page : Page)
    (number : Nat) :
    Page × Bool :=
  match page.widgets[number]? with
  | none => (page, false)
  | some widget =>
      if widget.armed then (page.setWidget number widget.disarm).start
      else (page, false)

/- Answer a query in a search box. -/
def query
    (page : Page)
    (number : Nat)
    (text : String) :
    Page × Outcome :=
  match page.widgets[number]? with
  | none => (page, .empty)
  | some widget =>
      let (widget, outcome, events) :=
        widget.answer page.loader.status text
      ({ page.setWidget number widget with log := page.log ++ events },
        outcome)

/-
  Answer a query in a search box as soon as the load has
  ended.
-/
def queryWhenReady
    (page : Page)
    (number : Nat)
    (text : String) :
    Page × Outcome :=
  match page.widgets[number]? with
  | none => (page, .empty)
  | some widget =>
      ((page.setWidget number widget.disarm).ensure).query number text

/- Do one thing on a page. -/
def step
    (page : Page) :
    Step → Page × Reply
  | .focus number => (page.focus number).map id .started
  | .start => page.start.map id .started
  | .query number text => (page.query number text).map id .outcome
  | .queryWhenReady number text =>
      (page.queryWhenReady number text).map id .outcome
  | .wait => (page.finish, .status page.finish.loader.status)
  | .ensure => (page.ensure, .status page.ensure.loader.status)
  | .progress => (page.finish, .nothing)

/- Do several things on a page, one after the other. -/
def run
    (page : Page)
    (steps : List Step) :
    Page :=
  steps.foldl (fun page step => (page.step step).1) page

end Page

end SiteSearch
