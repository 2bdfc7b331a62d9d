import SiteSearch.Page

/-
  Pages used by many at once.

  On a page everything is done at one stroke: who waits for the
  load is answered in the same step.  In fact a load and those
  who wait for it take turns with everybody else.  Here each
  turn is a move of its own, as small as the locks allow:
  claiming the load, asking the source, writing the status,
  waking those who listen, beginning to listen, and looking at
  the status.  Moves may come in any order; one that is not
  possible changes nothing.

  Key definitions include:
    * `SiteSearch.Errand`
    * `SiteSearch.Point`
    * `SiteSearch.Stage`
    * `SiteSearch.Note`
    * `SiteSearch.Runtime`
    * `SiteSearch.Runtime.step`
    * `SiteSearch.Runtime.run`
-/

------------------------------------------------------------
-- Calls
------------------------------------------------------------

namespace SiteSearch

/- What a caller waits for. -/
inductive Errand where
  | ensure
  | wait
  | query (widget : Nat) (text : String)
deriving DecidableEq, Repr

/-
  How far a call has come.  One that started the load itself
  joins it.  All others listen for its end, then look at the
  status, and fall asleep if the load is under way; who listens
  or sleeps may be woken.
-/
inductive Point where
  | begun
  | joining
  | entering
  | listening (woken : Bool)
  | asleep (woken : Bool)
  | answering
  | returned
deriving DecidableEq, Repr

/- A call that may have to wait. -/
structure Call where
  errand : Errand
  point : Point
deriving DecidableEq, Repr

/- Who listens or sleeps is woken. -/
def Point.wake :
    Point → Point
  | listening _ => listening true
  | asleep _ => asleep true
  | point => point

/- The call with its caller woken. -/
def Call.wake
    (call : Call) :
    Call :=
  { call with point := call.point.wake }

end SiteSearch

------------------------------------------------------------
-- The Load
------------------------------------------------------------

namespace SiteSearch

/-
  How far the load has come.  Its task asks the source, and
  either goes on or dies of it; then its guard goes on instead.
  The status is written before those who listen are woken.
-/
inductive Stage where
  | idle
  | claimed
  | asked
  | died
  | written
  | ended
deriving DecidableEq, Repr

/-
  What those who use a page get to know, and what its source
  does.
-/
inductive Note where
  | started (here : Bool)
  | claimed (call : Nat)
  | asked
  | answered (outcome : Outcome)
  | returned (call : Nat) (errand : Errand) (reply : Reply)

/- Whether a load was started here. -/
def Note.isClaim :
    Note → Bool
  | started here => here
  | claimed _ => true
  | _ => false

/- Whether the source was asked here. -/
def Note.isAsked :
    Note → Bool
  | asked => true
  | _ => false

end SiteSearch

------------------------------------------------------------
-- Moves
------------------------------------------------------------

namespace SiteSearch

/-
  A page with its load, the calls made so far, and all that
  happened.
-/
structure Runtime where
  page : Page
  stage : Stage
  calls : List Call
  history : List Note

/- Who has the next turn: somebody new, a caller, or the load. -/
inductive Move where
  | focus (widget : Nat)
  | start
  | query (widget : Nat) (text : String)
  | call (errand : Errand)
  | resume (call : Nat)
  | load
deriving DecidableEq, Repr

/-
  A search box that waits for the load no longer waits for a
  focus.
-/
def Page.disarm
    (page : Page)
    (number : Nat) :
    Page :=
  match page.widgets[number]? with
  | none => page
  | some widget => page.setWidget number widget.disarm

namespace Runtime

/- A page that nobody has used. -/
def new
    (location : String)
    (answer : Answer)
    (configs : List Config) :
    Runtime :=
  ⟨Page.new location answer configs, .idle, [], []⟩

/- The status of the loader. -/
def status
    (runtime : Runtime) :
    Status :=
  runtime.page.loader.status

/- Note that something happened. -/
def record
    (runtime : Runtime)
    (note : Note) :
    Runtime :=
  { runtime with history := runtime.history ++ [note] }

/- Let a call be where it has come to. -/
def put
    (runtime : Runtime)
    (number : Nat)
    (call : Call)
    (point : Point) :
    Runtime :=
  { runtime with
    calls := runtime.calls.set number { call with point := point } }

/-
  A page after an attempt to start the load, which may have
  won.
-/
def attempt
    (runtime : Runtime)
    (tried : Page × Bool) :
    Runtime :=
  { runtime with
    page := tried.1
    stage := if tried.2 then .claimed else runtime.stage }

/-
  A call that tries to start the load: it joins its own, or
  enters.
-/
def claim
    (runtime : Runtime)
    (number : Nat)
    (call : Call) :
    Runtime :=
  let tried := runtime.page.start
  if tried.2 then
    ((runtime.attempt tried).put number call .joining).record
      (.claimed number)
  else runtime.put number call .entering

/- The first turn of a call. -/
def enter
    (runtime : Runtime)
    (number : Nat)
    (call : Call) :
    Runtime :=
  match call.errand with
  | .wait => runtime.put number call .entering
  | .ensure => runtime.claim number call
  | .query widget _ =>
      { runtime with page := runtime.page.disarm widget }.claim
        number call

/-
  A call that waits no longer returns the status, or answers
  its query.
-/
def conclude
    (runtime : Runtime)
    (number : Nat)
    (call : Call) :
    Runtime :=
  match call.errand with
  | .query _ _ => runtime.put number call .answering
  | errand =>
      (runtime.put number call .returned).record
        (.returned number errand (.status runtime.status))

/-
  A call looks at the status, and waits on if the load is
  under way.
-/
def look
    (runtime : Runtime)
    (number : Nat)
    (call : Call)
    (woken : Bool) :
    Runtime :=
  match runtime.status with
  | .loading => runtime.put number call (.asleep woken)
  | _ => runtime.conclude number call

/- A query is answered when its call has come through. -/
def reply
    (runtime : Runtime)
    (number : Nat)
    (call : Call) :
    Runtime :=
  match call.errand with
  | .query widget text =>
      let answered := runtime.page.query widget text
      ({ runtime with page := answered.1 }.put number call .returned).record
        (.returned number call.errand (.outcome answered.2))
  | _ => runtime

/- One turn of a call. -/
def resume
    (runtime : Runtime)
    (number : Nat)
    (call : Call) :
    Runtime :=
  match call.point with
  | .begun => runtime.enter number call
  | .joining =>
      if runtime.stage = .ended then runtime.put number call .entering
      else runtime
  | .entering => runtime.put number call (.listening false)
  | .listening woken => runtime.look number call woken
  | .asleep true => runtime.put number call .entering
  | .asleep false => runtime
  | .answering => runtime.reply number call
  | .returned => runtime

/- One turn of the load. -/
def load
    (runtime : Runtime) :
    Runtime :=
  match runtime.stage with
  | .idle => runtime
  | .claimed =>
      let stage :=
        match runtime.page.loader.answer with
        | .death => .died
        | _ => .asked
      { runtime with stage := stage }.record .asked
  | .asked | .died =>
      { runtime with page := runtime.page.finish, stage := .written }
  | .written =>
      { runtime with
        calls := runtime.calls.map Call.wake, stage := .ended }
  | .ended => runtime

/- One move. -/
def step
    (runtime : Runtime) :
    Move → Runtime
  | .focus number =>
      let tried := runtime.page.focus number
      (runtime.attempt tried).record (.started tried.2)
  | .start =>
      let tried := runtime.page.start
      (runtime.attempt tried).record (.started tried.2)
  | .query number text =>
      let answered := runtime.page.query number text
      { runtime with page := answered.1 }.record (.answered answered.2)
  | .call errand =>
      { runtime with calls := runtime.calls ++ [⟨errand, .begun⟩] }
  | .resume number =>
      match runtime.calls[number]? with
      | none => runtime
      | some call => runtime.resume number call
  | .load => runtime.load

/- Some moves, one after the other. -/
def run
    (runtime : Runtime)
    (moves : List Move) :
    Runtime :=
  moves.foldl step runtime

end Runtime

end SiteSearch
