import SiteSearch.Artifact
import SiteSearch.Source

/-
  What is logged.

  Key definitions include:
    * `SiteSearch.Level`
    * `SiteSearch.Event`
    * `SiteSearch.Event.line`
    * `SiteSearch.shownEvents`

  Loading and searching leave events behind.  Each has a
  level, and only those of the chosen level and above it are
  shown.
-/

------------------------------------------------------------
-- Levels
------------------------------------------------------------

namespace SiteSearch

/- How important an event is. -/
inductive Level where
  | trace
  | debug
  | info
  | warn
  | error
deriving DecidableEq, Repr

namespace Level

/- The name of a level. -/
def name :
    Level → String
  | trace => "TRACE"
  | debug => "DEBUG"
  | info => "INFO"
  | warn => "WARN"
  | error => "ERROR"

/- The place of a level in the order of importance. -/
def rank :
    Level → Nat
  | trace => 0
  | debug => 1
  | info => 2
  | warn => 3
  | error => 4

/- The least level that is shown at a verbosity. -/
def ofVerbosity :
    Nat → Level
  | 0 => warn
  | 1 => debug
  | _ => trace

end Level

end SiteSearch

------------------------------------------------------------
-- Events
------------------------------------------------------------

namespace SiteSearch

/- Something that happened. -/
inductive Event where
  | loading (location : String)
  | skipped (skip : Skip)
  | ready (location : String) (records terms : Nat)
  | unavailable (location : String) (cause : LoadError)
  | died (location : String)
  | notReady (status : String)
  | rendered (query : String) (count : Nat)

namespace Event

/- The level of an event. -/
def level :
    Event → Level
  | loading _ => .debug
  | skipped _ => .warn
  | ready .. => .info
  | unavailable .. => .warn
  | died _ => .error
  | notReady _ => .debug
  | rendered .. => .trace

/- What is said about an event. -/
def message :
    Event → String
  | loading location => s!"loading search data location={location}"
  | skipped skip =>
      s!"skipping search record position={skip.position} id={skip.id} error={skip.cause.message}"
  | ready location records terms =>
      s!"search index ready location={location} records={records} terms={terms}"
  | unavailable location cause =>
      s!"search index unavailable location={location} error={cause.message}"
  | died location =>
      s!"search index load task died location={location}"
  | notReady status =>
      "query before index ready status=" ++ Text.quote status
  | rendered query count =>
      "rendered results query=" ++ Text.quote query ++
        s!" count={count}"

/- An event as a line of the log. -/
def line
    (event : Event) :
    String :=
  event.level.name ++ " " ++ event.message

end Event

/- The events that are shown at a verbosity. -/
def shownEvents
    (verbosity : Nat)
    (events : List Event) :
    List Event :=
  events.filter fun event =>
    (Level.ofVerbosity verbosity).rank ≤ event.level.rank

end SiteSearch
