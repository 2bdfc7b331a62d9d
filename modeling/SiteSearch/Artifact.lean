import SiteSearch.Bytes.Checksum
import SiteSearch.Json.Printer
import SiteSearch.Record

/-
  Search data.

  Key definitions include:
    * `SiteSearch.Artifact.values`
    * `SiteSearch.Artifact.recordsOf`
    * `SiteSearch.Artifact.skipsOf`
    * `SiteSearch.Artifact.ofBytes`

  A site generator writes its records as one array.  Bytes
  that are no array are refused as a whole.  In an array each
  element stands alone: what is no record is skipped, and the
  records beside it are kept.
-/

------------------------------------------------------------
-- Elements
------------------------------------------------------------

namespace SiteSearch

/-
  An element that is no record: its place, its identifier as
  written, and why.
-/
structure Skip where
  position : Nat
  id : String
  cause : Json.Error

/- What is known of loaded search data. -/
structure ArtifactInfo where
  location : String
  size : Nat
  checksum : UInt32
  records : Nat
  skipped : Nat
deriving DecidableEq, Repr

/- Loaded search data. -/
structure Artifact where
  info : ArtifactInfo
  records : List Record
  skips : List Skip

namespace Artifact

/- One generic element behind those before it, kept in reverse. -/
def element
    (before : List Json) :
    Json.Reader (List Json) :=
  (Json.value (Json.depthLimit - 1)).map (· :: before)

/- Read the elements of the array that some bytes write. -/
def readValues : Json.Reader (List Json) := fun bytes =>
  match Json.skipSpace bytes with
  | [] => .error .endInValue
  | b :: rest =>
      if b = Json.byte '[' then
        ((Json.sequence Json.kept element []).map List.reverse) rest
      else
        Json.scalar "a sequence" (Json.mistyped "a sequence")
          (b :: rest)

/- The elements of the array that some bytes write. -/
def values
    (bytes : List UInt8) :
    Except Json.Error (List Json) :=
  Json.readAll readValues bytes

/- The records among some elements. -/
def recordsOf
    (values : List Json) :
    List Record :=
  values.filterMap fun value => (Record.ofJson value).toOption

/- Why an element is skipped, if it is. -/
def skip?
    (value : Json)
    (position : Nat) :
    Option Skip :=
  match Record.ofJson value with
  | .ok _ => none
  | .error cause =>
      some ⟨position, ((value.get? "id").map Json.compact).getD "",
        cause⟩

/- The elements that are skipped. -/
def skipsOf
    (values : List Json) :
    List Skip :=
  values.zipIdx.filterMap fun (value, position) =>
    skip? value position

/- The search data that some bytes write. -/
def ofBytes
    (location : String)
    (bytes : List UInt8) :
    Except Json.Error Artifact :=
  match values bytes with
  | .error cause => .error cause
  | .ok values =>
      let kept := recordsOf values
      .ok {
        info := {
          location := location
          size := bytes.length
          checksum := Bytes.checksum bytes
          records := kept.length
          skipped := values.length - kept.length
        }
        records := kept
        skips := skipsOf values
      }

/- Some records as a site generator writes them. -/
def write
    (records : List Record) :
    String :=
  Json.compact (.array (records.map Record.toJson))

end Artifact

end SiteSearch
