import SiteSearch.Json.Error
import SiteSearch.Source.Files
import SiteSearch.Source.Location
import SiteSearch.Source.Status
import SiteSearch.Web.Url

/-
  Sources of search data.

  Key definitions include:
    * `SiteSearch.LoadError`
    * `SiteSearch.Source`
    * `SiteSearch.Source.ofLocation`
    * `SiteSearch.Source.fetch`

  The search data lies in a file, in memory or in the web.
  Fetching yields its bytes, fails, or dies on the way.
-/

------------------------------------------------------------
-- Failures
------------------------------------------------------------

namespace SiteSearch

/- Why search data cannot be loaded. -/
inductive LoadError where
  | transport (url : String) (message : String)
  | status (url : String) (code : Nat)
  | unreadable (path : String) (cause : FileError)
  | invalid (cause : Json.Error)
  | aborted

/- What is said about search data that cannot be loaded. -/
def LoadError.message :
    LoadError → String
  | transport url message =>
      s!"transport error fetching {url}: {message}"
  | status url code =>
      let reason :=
        match statusReason? code with
        | some reason => " " ++ reason
        | none => ""
      s!"{url} returned HTTP {code}{reason}"
  | unreadable path cause =>
      s!"failed to read {path}: {cause.message}"
  | invalid cause => s!"invalid search data: {cause.message}"
  | aborted => "search index build aborted"

end SiteSearch

------------------------------------------------------------
-- Sources
------------------------------------------------------------

namespace SiteSearch

/-
  Where search data comes from; a broken source dies when it
  is asked.
-/
inductive Source where
  | file (path : String)
  | memory (bytes : List UInt8)
  | web (url : String)
  | broken
deriving DecidableEq, Repr

namespace Source

/-
  The source that a location names: its own address, a path on
  a site if there is one, or else a file.
-/
def ofLocation
    (location : String)
    (base? : Option String) :
    Source :=
  if isUrl location then web location
  else
    match base? with
    | some base => web (joinUrl base location)
    | none => file location

/- How a source is called. -/
def location :
    Source → String
  | file path => path
  | memory bytes => s!"<memory: {bytes.length} bytes>"
  | web url => url
  | broken => "<panics>"

end Source

end SiteSearch

------------------------------------------------------------
-- Fetching
------------------------------------------------------------

namespace SiteSearch

/- What a source yields. -/
inductive Answer where
  | bytes (content : List UInt8)
  | failure (cause : LoadError)
  | death

/-
  What a web server answers.  Of the body announced, so many
  bytes may be missing.
-/
inductive WebAnswer where
  | refused
  | response (status : Nat) (body : List UInt8) (missing : Nat)

/- How files and web servers are reached. -/
structure Access (m : Type → Type) where
  file : String → m (Except FileError (List UInt8))
  request : Url → m WebAnswer

namespace Source

/- What a web server's answer yields. -/
def ofWebAnswer
    (location : String)
    (url : Url) :
    WebAnswer → Answer
  | .refused =>
      .failure
        (.transport location
          s!"error sending request for url ({url.display})")
  | .response status body missing =>
      if !isSuccess status then .failure (.status location status)
      else if hasNoBody status then .bytes []
      else if 0 < missing then
        .failure (.transport location "error decoding response body")
      else .bytes body

/- Fetch the search data. -/
def fetch
    {m : Type → Type}
    [Monad m]
    (access : Access m) :
    Source → m Answer
  | file path => do
      match ← access.file path with
      | .ok bytes => return .bytes bytes
      | .error cause => return .failure (.unreadable path cause)
  | memory bytes => return .bytes bytes
  | web location =>
      match (Url.parse? location).map Url.withoutCredentials with
      | none => return .failure (.transport location "builder error")
      | some url =>
          if url.isRequestable then
            return ofWebAnswer location url (← access.request url)
          else
            return .failure
              (.transport location
                s!"builder error for url ({url.display})")
  | broken => return .death

end Source

end SiteSearch
