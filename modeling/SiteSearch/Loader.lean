import SiteSearch.Index
import SiteSearch.Log

/-
  The loader.

  Key definitions include:
    * `SiteSearch.Handle`
    * `SiteSearch.Status`
    * `SiteSearch.Loader`
    * `SiteSearch.Loader.claim`
    * `SiteSearch.Loader.finish`
    * `SiteSearch.Loader.ensure`

  The index of a page is built on first use.  Whoever claims
  the load first moves the loader from unloaded to loading,
  and no one after that can.  When the load ends the loader is
  ready or has failed, and stays so.
-/

------------------------------------------------------------
-- Statuses
------------------------------------------------------------

namespace SiteSearch

/- A finished index and the search data that it was built from. -/
structure Handle where
  index : SearchIndex
  artifact : ArtifactInfo

/- How far a loader has come. -/
inductive Status where
  | unloaded
  | loading
  | ready (handle : Handle)
  | failed (cause : LoadError)

namespace Status

/- The name of a status. -/
def name :
    Status → String
  | unloaded => "unloaded"
  | loading => "loading"
  | ready _ => "ready"
  | failed _ => "failed"

/- Whether a status is final. -/
def isSettled :
    Status → Bool
  | unloaded => false
  | loading => false
  | ready _ => true
  | failed _ => true

/- Whether searches can be answered. -/
def isReady :
    Status → Bool
  | ready _ => true
  | _ => false

/- The finished index, if there is one. -/
def handle? :
    Status → Option Handle
  | ready handle => some handle
  | _ => none

end Status

end SiteSearch

------------------------------------------------------------
-- Loads
------------------------------------------------------------

namespace SiteSearch

/- How a load ends, and what happens on the way. -/
def load
    (location : String)
    (answer : Answer) :
    Status × List Event :=
  match answer with
  | .death => (.failed .aborted, [.loading location, .died location])
  | .failure cause =>
      (.failed cause,
        [.loading location, .unavailable location cause])
  | .bytes bytes =>
      match Artifact.ofBytes location bytes with
      | .error cause =>
          (.failed (.invalid cause),
            [.loading location,
              .unavailable location (.invalid cause)])
      | .ok artifact =>
          let index := SearchIndex.ofRecords artifact.records
          (.ready ⟨index, artifact.info⟩,
            .loading location :: (artifact.skips.map .skipped
              ++ [.ready location index.size index.termCount]))

/-
  A loader: its source's name, what the source yields when
  asked, and its status.
-/
structure Loader where
  location : String
  answer : Answer
  status : Status

namespace Loader

/- A loader that nobody has used. -/
def new
    (location : String)
    (answer : Answer) :
    Loader :=
  ⟨location, answer, .unloaded⟩

/- Start the load, unless it was started; whether this did. -/
def claim
    (loader : Loader) :
    Loader × Bool :=
  match loader.status with
  | .unloaded => ({ loader with status := .loading }, true)
  | _ => (loader, false)

/- Let a load that was started come to its end. -/
def finish
    (loader : Loader) :
    Loader × List Event :=
  match loader.status with
  | .loading =>
      let (status, events) := load loader.location loader.answer
      ({ loader with status := status }, events)
  | _ => (loader, [])

/-
  Start the load, unless it was started, and let it come to
  its end.
-/
def ensure
    (loader : Loader) :
    Loader × List Event :=
  loader.claim.1.finish

end Loader

end SiteSearch
