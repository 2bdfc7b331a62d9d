import SiteSearch.Loader

/-
  What a loader is ready with.

  A loader asks its source once and keeps what it was asked
  of.  If it ever is ready, then the source yielded search
  data, and the index is that of its records.  How a load ends
  depends on what the source yields, and on nothing else.

  Main declarations:
    * `SiteSearch.fetched?`
    * `SiteSearch.Loader.Serves`
    * `SiteSearch.Loader.Serves.claim`
    * `SiteSearch.Loader.Serves.finish`
    * `SiteSearch.SettlesAs`
    * `SiteSearch.Loader.Loads`
-/

------------------------------------------------------------
-- Search Data
------------------------------------------------------------

namespace SiteSearch

/-
  The search data that an answer of a source holds, if it
  does.
-/
def fetched?
    (location : String)
    (answer : Answer) :
    Option Artifact :=
  match answer with
  | .bytes bytes => (Artifact.ofBytes location bytes).toOption
  | .failure _ => none
  | .death => none

/- A load that ends ready has the index of the search data. -/
theorem exists_fetched_of_load
    {location : String}
    {answer : Answer}
    {handle : Handle}
    (hReady : (load location answer).1 = .ready handle) :
    ∃ artifact, fetched? location answer = some artifact ∧
      handle.index = SearchIndex.ofRecords artifact.records ∧
      handle.artifact = artifact.info := by
  cases answer with
  | death => simp [load] at hReady
  | failure cause => simp [load] at hReady
  | bytes bytes =>
      simp only [load] at hReady
      cases hArtifact : Artifact.ofBytes location bytes with
      | error cause => simp [hArtifact] at hReady
      | ok artifact =>
          simp only [hArtifact, Status.ready.injEq] at hReady
          subst hReady
          refine ⟨artifact, ?_, rfl, rfl⟩
          simp [fetched?, hArtifact, Except.toOption]

end SiteSearch

------------------------------------------------------------
-- Loaders
------------------------------------------------------------

namespace SiteSearch.Loader

/-
  A loader that asks a source, and is ready only with the
  index of the search data that this source yielded.
-/
structure Serves
    (loader : Loader)
    (location : String)
    (answer : Answer) :
    Prop where
  location_eq : loader.location = location
  answer_eq : loader.answer = answer
  ready : ∀ handle, loader.status = .ready handle →
    ∃ artifact, fetched? location answer = some artifact ∧
      handle.index = SearchIndex.ofRecords artifact.records ∧
      handle.artifact = artifact.info

/- A loader that nobody has used is not ready. -/
theorem serves_new
    (location : String)
    (answer : Answer) :
    (Loader.new location answer).Serves location answer where
  location_eq := rfl
  answer_eq := rfl
  ready := by
    intro handle hReady
    simp [Loader.new] at hReady

variable {loader : Loader}
variable {location : String}
variable {answer : Answer}

/- Starting a load does not make it ready. -/
theorem Serves.claim
    (hServes : loader.Serves location answer) :
    loader.claim.1.Serves location answer := by
  unfold Loader.claim
  split
  · exact ⟨hServes.location_eq, hServes.answer_eq, by simp⟩
  · exact hServes

/- A load that ends makes it ready with what was fetched. -/
theorem Serves.finish
    (hServes : loader.Serves location answer) :
    loader.finish.1.Serves location answer := by
  unfold Loader.finish
  split
  · refine ⟨hServes.location_eq, hServes.answer_eq, ?_⟩
    intro handle hReady
    apply exists_fetched_of_load
    rw [← hServes.location_eq, ← hServes.answer_eq]
    exact hReady
  · exact hServes

end SiteSearch.Loader

------------------------------------------------------------
-- Ends of a Load
------------------------------------------------------------

namespace SiteSearch

/-
  The status that a load ends with: the failure of the source,
  a refusal of its bytes as a whole, or the index of all the
  records that the bytes hold, with what is known of them.
-/
inductive SettlesAs
    (location : String) :
    Answer → Status → Prop where
  | aborted :
      SettlesAs location .death (.failed .aborted)
  | failed
      (cause : LoadError) :
      SettlesAs location (.failure cause) (.failed cause)
  | refused
      {bytes : List UInt8}
      {cause : Json.Error}
      (hBytes : Artifact.ofBytes location bytes = .error cause) :
      SettlesAs location (.bytes bytes) (.failed (.invalid cause))
  | ready
      {bytes : List UInt8}
      {artifact : Artifact}
      (hBytes : Artifact.ofBytes location bytes = .ok artifact) :
      SettlesAs location (.bytes bytes)
        (.ready ⟨SearchIndex.ofRecords artifact.records, artifact.info⟩)

/- A load ends so. -/
theorem settlesAs_load
    (location : String)
    (answer : Answer) :
    SettlesAs location answer (load location answer).1 := by
  cases answer with
  | death => exact .aborted
  | failure cause => exact .failed cause
  | bytes bytes =>
      simp only [load]
      cases hBytes : Artifact.ofBytes location bytes with
      | error cause => exact .refused hBytes
      | ok artifact => exact .ready hBytes

variable {location : String}
variable {answer : Answer}

/- A load has one end. -/
theorem SettlesAs.eq_load
    {status : Status}
    (hSettles : SettlesAs location answer status) :
    status = (load location answer).1 := by
  cases hSettles with
  | aborted => rfl
  | failed cause => rfl
  | refused hBytes => simp only [load, hBytes]
  | ready hBytes => simp only [load, hBytes]

/- The end of a load is final. -/
theorem SettlesAs.isSettled
    {status : Status}
    (hSettles : SettlesAs location answer status) :
    status.isSettled = true := by
  cases hSettles <;> rfl

namespace Loader

/-
  A loader that asks a source, and is settled only as the load
  from this source ends.
-/
structure Loads
    (loader : Loader)
    (location : String)
    (answer : Answer) :
    Prop where
  location_eq : loader.location = location
  answer_eq : loader.answer = answer
  settled : loader.status.isSettled = true →
    SettlesAs location answer loader.status

/- A loader that nobody has used is not settled. -/
theorem loads_new
    (location : String)
    (answer : Answer) :
    (Loader.new location answer).Loads location answer where
  location_eq := rfl
  answer_eq := rfl
  settled := by
    intro hSettled
    cases hSettled

variable {loader : Loader}

/- Starting a load does not settle it. -/
theorem Loads.claim
    (hLoads : loader.Loads location answer) :
    loader.claim.1.Loads location answer := by
  unfold Loader.claim
  split
  · refine ⟨hLoads.location_eq, hLoads.answer_eq, ?_⟩
    intro hSettled
    cases hSettled
  · exact hLoads

/- A load that ends settles as it should. -/
theorem Loads.finish
    (hLoads : loader.Loads location answer) :
    loader.finish.1.Loads location answer := by
  unfold Loader.finish
  split
  · refine ⟨hLoads.location_eq, hLoads.answer_eq, fun _ => ?_⟩
    rw [← hLoads.location_eq, ← hLoads.answer_eq]
    exact settlesAs_load loader.location loader.answer
  · exact hLoads

/- A load that was started settles when it ends. -/
theorem isSettled_finish
    (loader : Loader)
    (hStatus : loader.status = .loading) :
    loader.finish.1.status.isSettled = true := by
  unfold Loader.finish
  rw [hStatus]
  exact (settlesAs_load loader.location loader.answer).isSettled

/- Who waits for a load finds it settled. -/
theorem Loads.settlesAs_ensure
    (hLoads : loader.Loads location answer) :
    SettlesAs location answer loader.ensure.1.status := by
  apply hLoads.claim.finish.settled
  unfold Loader.claim
  cases hStatus : loader.status with
  | unloaded => exact isSettled_finish _ rfl
  | loading => exact isSettled_finish _ hStatus
  | ready handle => simp only [Loader.finish, hStatus, Status.isSettled]
  | failed cause => simp only [Loader.finish, hStatus, Status.isSettled]

end Loader

end SiteSearch
