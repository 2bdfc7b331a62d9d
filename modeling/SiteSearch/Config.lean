import SiteSearch.Json.Schema
import SiteSearch.Source.Files

/-
  Configuration of the search box.

  Key definitions include:
    * `SiteSearch.Config`
    * `SiteSearch.Config.parse`
    * `SiteSearch.Config.ofContent`
    * `SiteSearch.ConfigError`

  Every setting has a default, so an empty object configures
  the stock search box.
-/

------------------------------------------------------------
-- Settings
------------------------------------------------------------

namespace SiteSearch

/- The settings of a search box. -/
structure Config where
  dataUrl : String
  inputId : String
  resultsId : String
  limit : UInt64
  showParent : Bool
deriving DecidableEq, Repr

namespace Config

/- The settings of the stock search box. -/
def standard : Config where
  dataUrl := "/en.search-data.min.json"
  inputId := "gdoc-search-input"
  resultsId := "gdoc-search-results"
  limit := 10
  showParent := true

/- The settings by name. -/
abbrev fields : List Json.Field :=
  [⟨"dataUrl", .text, some standard.dataUrl⟩,
   ⟨"inputId", .text, some standard.inputId⟩,
   ⟨"resultsId", .text, some standard.resultsId⟩,
   ⟨"limit", .size, some standard.limit⟩,
   ⟨"showParent", .flag, some standard.showParent⟩]

/- What a configuration looks like. -/
abbrev schema : Json.Schema :=
  ⟨"WidgetConfig", fields⟩

/- The configuration with these settings. -/
def ofValues :
    Json.Values fields → Config
  | (dataUrl, inputId, resultsId, limit, showParent, _) =>
      ⟨dataUrl, inputId, resultsId, limit, showParent⟩

/- The configuration that a text writes. -/
def parse
    (bytes : List UInt8) :
    Except Json.Error Config :=
  (schema.parse bytes).map ofValues

/- A configuration as a value. -/
def toJson
    (config : Config) :
    Json :=
  .object
    [("dataUrl", .string config.dataUrl),
     ("inputId", .string config.inputId),
     ("resultsId", .string config.resultsId),
     ("limit", .number (.whole config.limit)),
     ("showParent", .bool config.showParent)]

end Config

end SiteSearch

------------------------------------------------------------
-- Files
------------------------------------------------------------

namespace SiteSearch

/- Why a configuration file cannot be used. -/
inductive ConfigError where
  | unreadable (path : String) (cause : FileError)
  | invalid (path : String) (cause : Json.Error)

/- What is said about a configuration file that cannot be used. -/
def ConfigError.message :
    ConfigError → String
  | unreadable path cause =>
      s!"failed to read config {path}: {cause.message}"
  | invalid path cause => s!"invalid config {path}: {cause.message}"

/- The configuration in a file with this content. -/
def Config.ofContent
    (path : String)
    (content : Except FileError (List UInt8)) :
    Except ConfigError Config :=
  match content with
  | .error cause => .error (.unreadable path cause)
  | .ok bytes =>
      match Bytes.text? bytes with
      | none => .error (.unreadable path .notText)
      | some _ =>
          match parse bytes with
          | .error cause => .error (.invalid path cause)
          | .ok config => .ok config

end SiteSearch
