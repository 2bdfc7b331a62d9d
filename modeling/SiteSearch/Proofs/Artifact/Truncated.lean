import SiteSearch.Proofs.Artifact.Elements
import SiteSearch.Proofs.Page

/-
  Search data that was cut off.

  Bytes that are cut off anywhere before the bracket that
  closes their array are refused as a whole.  A page over them
  finds nothing, and its search boxes stay bare.

  Main declarations:
    * `SiteSearch.Artifact.error_of_truncated`
    * `SiteSearch.Page.Refuses`
    * `SiteSearch.Page.refuses_of_shows`
    * `SiteSearch.Page.refuses_of_error`
    * `SiteSearch.Page.refuses_truncated_after_run`
-/

------------------------------------------------------------
-- Refusal
------------------------------------------------------------

namespace SiteSearch.Artifact

open Json

/-
  What is cut off before a closing bracket holds no elements:
  those of the whole bytes would end at an earlier bracket.
-/
theorem values_take_ne_ok
    {bytes : List UInt8}
    {items : List Json}
    (hValues : values bytes = .ok items)
    {length : Nat}
    (hCut : byte ']' ∈ bytes.drop length)
    (cut : List Json) :
    values (bytes.take length) ≠ .ok cut := by
  intro hTake
  rcases readAll_eq_ok_iff.mp hValues with ⟨rest, hRead, hEnd⟩
  rcases readAll_eq_ok_iff.mp hTake with ⟨rest', hRead', -⟩
  have hWhole := indifferent_readValues (bytes.drop length) hRead'
  rw [List.take_append_drop, hRead, Except.ok.injEq,
    Prod.mk.injEq] at hWhole
  have hBehind : byte ']' ∈ rest := by
    rw [hWhole.2]
    exact List.mem_append_right rest' hCut
  have hSpace := isSpace_of_skipSpace_eq_nil hEnd hBehind
  revert hSpace
  decide

/-
  Search data that is cut off before its last bracket is
  refused.
-/
theorem error_of_truncated
    {location : String}
    {bytes : List UInt8}
    {artifact : Artifact}
    (hLoads : ofBytes location bytes = .ok artifact)
    {length : Nat}
    (hCut : byte ']' ∈ bytes.drop length)
    (location' : String) :
    ∃ cause, ofBytes location' (bytes.take length) = .error cause := by
  rcases ofBytes_eq_ok_iff.mp hLoads with ⟨items, hValues, -⟩
  cases hTake : ofBytes location' (bytes.take length) with
  | error cause => exact ⟨cause, rfl⟩
  | ok cut =>
      rcases ofBytes_eq_ok_iff.mp hTake with ⟨left, hLeft, -⟩
      exact absurd hLeft (values_take_ne_ok hValues hCut left)

end SiteSearch.Artifact

------------------------------------------------------------
-- Pages over Refused Search Data
------------------------------------------------------------

namespace SiteSearch.Page

/-
  The search box with a number exists, and its list of
  results is bare.
-/
def IsBare
    (page : Page)
    (number : Nat) :
    Prop :=
  ∃ widget, page.widgets[number]? = some widget ∧
    widget.results.children = [] ∧ widget.results.classes = []

/-
  A page that nothing is found on: its load can only fail, and
  each query that has a text is answered so, with a bare list.
-/
structure Refuses
    (page : Page)
    (cause : LoadError)
    (boxes : Nat) :
    Prop where
  settled : page.loader.status.isSettled = true →
    page.loader.status = .failed cause
  ensure : page.ensure.loader.status = .failed cause
  query : ∀ number < boxes, ∀ text, text ≠ "" →
    (page.query number text).2 = .notReady page.loader.status.name ∧
      (page.query number text).1.IsBare number
  queryWhenReady : ∀ number < boxes, ∀ text, text ≠ "" →
    (page.queryWhenReady number text).2 = .notReady "failed" ∧
      (page.queryWhenReady number text).1.IsBare number

/- What a search box shows without search data is bare. -/
theorem isBare_of_shows
    {page : Page}
    {number : Nat}
    {config : Config}
    {latest : Option Answered}
    (hShows : page.Shows number config none latest) :
    page.IsBare number := by
  rcases hShows with ⟨widget, hWidget, hShown⟩
  have hFound :
      (latest.map fun answered =>
        answered.found none config.limit.toNat).getD [] = [] := by
    cases latest with
    | none => rfl
    | some answered => simp [Answered.found, matchesFor]
  have hResults := hShown.results_eq
  rw [hFound] at hResults
  exact ⟨widget, hWidget, by rw [hResults]; rfl, by rw [hResults]; rfl⟩

/-
  A query with a text is answered with the status of the
  loader.
-/
theorem outcome_of_shows
    {page : Page}
    {number : Nat}
    {config : Config}
    {text : String}
    {status : Status}
    {outcome : Outcome}
    (hShows :
      page.Shows number config none (some ⟨text, status, outcome⟩))
    (hText : text ≠ "")
    (hStatus : status.isReady = false) :
    outcome = .notReady status.name := by
  rcases hShows with ⟨widget, -, hShown⟩
  refine (hShown.outcome_eq _ rfl).trans ?_
  simp [outcomeFor, hText, hStatus]

/-
  A page refuses if its load can only fail and what its search
  boxes show comes from no search data.
-/
theorem refuses_of_shows
    {page : Page}
    {location : String}
    {answer : Answer}
    {cause : LoadError}
    {boxes : Nat}
    (hNone : fetched? location answer = none)
    (hFailed : ∀ status, SettlesAs location answer status →
      status = .failed cause)
    (hLoads : page.loader.Loads location answer)
    (hServes : page.loader.Serves location answer)
    (hShows : ∀ number < boxes, ∃ config latest,
      page.Shows number config (fetched? location answer) latest) :
    page.Refuses cause boxes := by
  have hEnsure : page.ensure.loader.status = .failed cause :=
    hFailed _ hLoads.settlesAs_ensure
  refine ⟨fun hSettled => hFailed _ (hLoads.settled hSettled),
    hEnsure, ?_, ?_⟩
  · intro number hNumber text hText
    rcases hShows number hNumber with ⟨config, latest, hShown⟩
    have hAnswer := hShown.query hServes text
    rw [hNone] at hAnswer
    refine ⟨outcome_of_shows hAnswer hText ?_, isBare_of_shows hAnswer⟩
    cases hStatus : page.loader.status with
    | ready handle =>
        rcases hServes.ready handle hStatus with ⟨artifact, hSome, -⟩
        rw [hNone] at hSome
        cases hSome
    | unloaded => rfl
    | loading => rfl
    | failed cause => rfl
  · intro number hNumber text hText
    rcases hShows number hNumber with ⟨config, latest, hShown⟩
    have hAnswer := hShown.queryWhenReady hServes text
    rw [hNone, hEnsure] at hAnswer
    exact ⟨outcome_of_shows hAnswer hText rfl, isBare_of_shows hAnswer⟩

/- A page refuses whatever its source's bytes do not hold. -/
theorem refuses_of_error
    {location : String}
    {bytes : List UInt8}
    {cause : Json.Error}
    (hBytes : Artifact.ofBytes location bytes = .error cause)
    (configs : List Config)
    (steps : List Step) :
    ((Page.new location (.bytes bytes) configs).run steps).Refuses
      (.invalid cause) configs.length := by
  have hNone : fetched? location (.bytes bytes) = none := by
    simp [fetched?, hBytes, Except.toOption]
  have hFailed : ∀ status, SettlesAs location (.bytes bytes) status →
      status = .failed (.invalid cause) := by
    intro status hSettles
    rw [hSettles.eq_load]
    simp only [load, hBytes]
  have hNew := Loader.serves_new location (.bytes bytes)
  exact refuses_of_shows hNone hFailed
    (loads_run (Loader.loads_new _ _) steps) (serves_run hNew steps)
    fun number hNumber =>
      ⟨_, _, (shows_new _ _ configs ⟨number, hNumber⟩).run hNew steps⟩

/-
  Search data that is cut off anywhere before its last bracket
  is refused as a whole: no records are loaded from it, under
  whatever name.  On a page over it the load fails with this
  refusal, and whatever is done there, every query with a text
  finds the index not ready and leaves the list of results bare.
-/
theorem refuses_truncated_after_run
    {location : String}
    {bytes : List UInt8}
    {artifact : Artifact}
    (hLoads : Artifact.ofBytes location bytes = .ok artifact)
    {length : Nat}
    (hCut : Json.byte ']' ∈ bytes.drop length)
    (location' : String) :
    ∃ cause,
      Artifact.ofBytes location' (bytes.take length) = .error cause ∧
      ∀ (configs : List Config) (steps : List Step),
        ((Page.new location' (.bytes (bytes.take length)) configs).run
          steps).Refuses (.invalid cause) configs.length := by
  rcases Artifact.error_of_truncated hLoads hCut location' with
    ⟨cause, hError⟩
  exact ⟨cause, hError, fun configs steps =>
    refuses_of_error hError configs steps⟩

/-
  Search data of one record, in the form that a site
  generator writes.
-/
def oneRecord : List UInt8 :=
  Bytes.ofText "[\x7b\"id\":1,\"title\":\"Home\",\"href\":\"/\"\x7d]"

/- Cut off inside its title, it is refused. -/
theorem refuses_truncated_in_title :
    (∃ artifact,
      Artifact.ofBytes "index.json" oneRecord = .ok artifact) ∧
      Json.byte ']' ∈ oneRecord.drop 20 ∧
      ∃ cause,
        Artifact.ofBytes "index.json" (oneRecord.take 20) =
          .error cause ∧
        ∀ (configs : List Config) (steps : List Step),
          ((Page.new "index.json" (.bytes (oneRecord.take 20))
            configs).run steps).Refuses
              (.invalid cause) configs.length := by
  have hOk : (Artifact.ofBytes "index.json" oneRecord).isOk = true := by
    decide +kernel
  have hCut : Json.byte ']' ∈ oneRecord.drop 20 := by decide +kernel
  cases hLoads : Artifact.ofBytes "index.json" oneRecord with
  | error cause =>
      rw [hLoads] at hOk
      cases hOk
  | ok artifact =>
      exact ⟨⟨artifact, rfl⟩, hCut,
        refuses_truncated_after_run hLoads hCut "index.json"⟩

end SiteSearch.Page
