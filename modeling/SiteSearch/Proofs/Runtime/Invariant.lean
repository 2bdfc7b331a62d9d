import SiteSearch.Proofs.Page
import SiteSearch.Proofs.Runtime.Moves

/-
  What every move keeps.

  The status of the loader follows the stage of its load.  Who
  has looked at the status knows that a load was started, and
  nobody sleeps once the load is over.  A load is started once
  and asks its source once.

  Main declarations:
    * `SiteSearch.Stage.Fits`
    * `SiteSearch.Call.Fits`
    * `SiteSearch.Note.Fits`
    * `SiteSearch.Runtime.Sound`
    * `SiteSearch.Runtime.Sound.step`
    * `SiteSearch.Runtime.Sound.run`
-/

------------------------------------------------------------
-- Stages and Calls
------------------------------------------------------------

namespace SiteSearch

/- Whether the load has written its status. -/
def Stage.isDone :
    Stage → Bool
  | written => true
  | ended => true
  | _ => false

/- How often the source was asked by then. -/
def Stage.asks :
    Stage → Nat
  | idle => 0
  | claimed => 0
  | _ => 1

/- How often the load was started by then. -/
def Stage.claims :
    Stage → Nat
  | idle => 0
  | _ => 1

/- A load that has asked its source, or died of it. -/
theorem Stage.of_asked
    {stage : Stage}
    (hAsked : stage = .asked ∨ stage = .died) :
    stage ≠ .idle ∧ stage ≠ .ended ∧ stage.isDone = false ∧
      stage.claims = 1 ∧ stage.asks = 1 := by
  rcases hAsked with rfl | rfl
  · exact ⟨nofun, nofun, rfl, rfl, rfl⟩
  · exact ⟨nofun, nofun, rfl, rfl, rfl⟩

/-
  A status that goes with a stage of the load: unloaded before
  its start, settled when it is done, and loading in between.
-/
structure Stage.Fits
    (stage : Stage)
    (status : Status) :
    Prop where
  idle_iff : stage = .idle ↔ status = .unloaded
  isDone_eq : stage.isDone = status.isSettled

/- A load that was started and is not done is under way. -/
theorem Stage.Fits.eq_loading
    {stage : Stage}
    {status : Status}
    (hFits : stage.Fits status)
    (hStarted : stage ≠ .idle)
    (hDone : stage.isDone = false) :
    status = .loading := by
  cases status with
  | unloaded => exact absurd (hFits.idle_iff.mpr rfl) hStarted
  | loading => rfl
  | ready handle => cases hDone.symm.trans hFits.isDone_eq
  | failed cause => cases hDone.symm.trans hFits.isDone_eq

/- A load that is under way was started and is not done. -/
theorem Stage.Fits.of_loading
    {stage : Stage}
    {status : Status}
    (hFits : stage.Fits status)
    (hStatus : status = .loading) :
    stage ≠ .idle ∧ stage.isDone = false := by
  rw [hStatus] at hFits
  exact ⟨mt hFits.idle_iff.mp nofun, hFits.isDone_eq⟩

/- A load that was started and is not under way has settled. -/
theorem Stage.Fits.isSettled
    {stage : Stage}
    {status : Status}
    (hFits : stage.Fits status)
    (hStarted : stage ≠ .idle)
    (hStatus : status ≠ .loading) :
    status.isSettled = true := by
  cases status with
  | unloaded => exact absurd (hFits.idle_iff.mpr rfl) hStarted
  | loading => exact absurd rfl hStatus
  | ready handle => rfl
  | failed cause => rfl

/-
  What a call that has come so far knows of the load.  Only who
  just waits may listen although no load was started, and who
  sleeps when the load is over has been woken.
-/
def Call.Fits
    (call : Call)
    (stage : Stage) :
    Prop :=
  match call.point with
  | .begun => True
  | .joining => stage ≠ .idle
  | .entering => call.errand = .wait ∨ stage ≠ .idle
  | .listening _ => call.errand = .wait ∨ stage ≠ .idle
  | .asleep woken => stage ≠ .idle ∧ (stage = .ended → woken = true)
  | .answering =>
      stage.isDone = true ∧ ∃ widget text,
        call.errand = .query widget text
  | .returned => True

/- A load that goes on changes nothing about what calls know. -/
theorem Call.Fits.mono
    {call : Call}
    {stage stage' : Stage}
    (hFits : call.Fits stage)
    (hStarted : stage ≠ .idle → stage' ≠ .idle)
    (hDone : stage.isDone = true → stage'.isDone = true)
    (hEnded : stage' = .ended → stage = .ended) :
    call.Fits stage' := by
  rcases call with ⟨errand, point⟩
  cases point with
  | begun => trivial
  | joining => exact hStarted hFits
  | entering => exact hFits.imp_right hStarted
  | listening woken => exact hFits.imp_right hStarted
  | asleep woken =>
      exact ⟨hStarted hFits.1, fun hEnd => hFits.2 (hEnded hEnd)⟩
  | answering => exact ⟨hDone hFits.1, hFits.2⟩
  | returned => trivial

/- Nobody returns by being woken. -/
theorem Call.returned_of_wake
    (call : Call)
    (hReturned : call.wake.point = .returned) :
    call.point = .returned := by
  rcases call with ⟨errand, point⟩
  cases point with
  | returned => rfl
  | begun => cases hReturned
  | joining => cases hReturned
  | entering => cases hReturned
  | listening woken => cases hReturned
  | asleep woken => cases hReturned
  | answering => cases hReturned

/- Those who are woken know that the load is over. -/
theorem Call.Fits.wake
    {call : Call}
    (hFits : call.Fits .written) :
    call.wake.Fits .ended := by
  rcases call with ⟨errand, point⟩
  cases point with
  | begun => trivial
  | joining => exact nofun
  | entering => exact Or.inr nofun
  | listening woken => exact Or.inr nofun
  | asleep woken => exact ⟨nofun, fun _ => rfl⟩
  | answering => exact ⟨rfl, hFits.2⟩
  | returned => trivial

end SiteSearch

------------------------------------------------------------
-- Notes
------------------------------------------------------------

namespace SiteSearch

/- Whether a load was started in the course of some notes. -/
def isStarted
    (history : List Note) :
    Bool :=
  history.any Note.isClaim

/-
  What a caller gets to know behind what had happened before.
  Who asks for the load gets its end.  Who just waits gets its
  end, too, unless no load was started.  Who queries is never
  told that the index is not ready yet.
-/
def Note.Fits
    (location : String)
    (answer : Answer)
    (before : List Note) :
    Note → Prop
  | returned _ .ensure reply =>
      ∃ status, reply = .status status ∧
        SettlesAs location answer status
  | returned _ .wait reply =>
      if isStarted before then
        ∃ status, reply = .status status ∧
          SettlesAs location answer status
      else reply = .status .unloaded
  | returned _ (.query _ _) reply =>
      ∃ outcome, reply = .outcome outcome ∧
        outcome ≠ .notReady "unloaded" ∧ outcome ≠ .notReady "loading"
  | _ => True

/- What holds of each note at its place. -/
def Told
    (location : String)
    (answer : Answer)
    (history : List Note) :
    Prop :=
  ∀ before note after, history = before ++ note :: after →
    note.Fits location answer before

/- One more note at the end. -/
theorem Told.append
    {location : String}
    {answer : Answer}
    {history : List Note}
    (hTold : Told location answer history)
    {note : Note}
    (hNote : note.Fits location answer history) :
    Told location answer (history ++ [note]) := by
  intro before other after hHistory
  rcases List.eq_nil_or_concat after with rfl | ⟨init, last, rfl⟩
  · have hSame := List.append_inj' hHistory rfl
    rw [List.cons.injEq] at hSame
    rw [← hSame.1, ← hSame.2.1]
    exact hNote
  · have hSplit :
        history ++ [note] = (before ++ other :: init) ++ [last] := by
      rw [hHistory]
      simp
    exact hTold before other init (List.append_inj' hSplit rfl).1

/-
  A query that finds the load at its end is not told
  otherwise.
-/
theorem Page.outcome_query_of_isSettled
    (page : Page)
    (hSettled : page.loader.status.isSettled = true)
    (number : Nat)
    (text : String) :
    (page.query number text).2 ≠ .notReady "unloaded" ∧
      (page.query number text).2 ≠ .notReady "loading" := by
  unfold Page.query
  split
  · exact ⟨nofun, nofun⟩
  · dsimp only
    unfold Widget.answer
    by_cases hText : text = ""
    · rw [if_pos hText]
      exact ⟨nofun, nofun⟩
    · rw [if_neg hText]
      cases hStatus : page.loader.status with
      | unloaded =>
          rw [hStatus] at hSettled
          cases hSettled
      | loading =>
          rw [hStatus] at hSettled
          cases hSettled
      | failed cause =>
          have hUnloaded :
              Outcome.notReady "failed" ≠ .notReady "unloaded" := by
            decide
          have hLoading :
              Outcome.notReady "failed" ≠ .notReady "loading" := by
            decide
          exact ⟨hUnloaded, hLoading⟩
      | ready handle =>
          dsimp only
          split
          · exact ⟨nofun, nofun⟩
          · exact ⟨nofun, nofun⟩

end SiteSearch

------------------------------------------------------------
-- Attempts to Start the Load
------------------------------------------------------------

namespace SiteSearch.Page

/-
  An attempt to start the load wins if nobody did before, and
  changes nothing about the loader else.
-/
inductive Tried
    (page : Page) :
    Page × Bool → Prop where
  | won
      {after : Page}
      (hStatus : page.loader.status = .unloaded)
      (hLoader :
        after.loader = { page.loader with status := .loading }) :
      Tried page (after, true)
  | lost
      {after : Page}
      (hLoader : after.loader = page.loader) :
      Tried page (after, false)

/- What an attempt comes back with. -/
theorem tried_start
    (page : Page) :
    page.Tried page.start := by
  unfold start Loader.claim
  cases hStatus : page.loader.status with
  | unloaded => exact .won hStatus rfl
  | loading => exact .lost rfl
  | ready handle => exact .lost rfl
  | failed cause => exact .lost rfl

/- The first attempt wins. -/
theorem start_of_unloaded
    (page : Page)
    (hStatus : page.loader.status = .unloaded) :
    page.start.2 = true := by
  unfold start Loader.claim
  rw [hStatus]

/- Only the loader of a page matters to an attempt. -/
theorem Tried.of_loader_eq
    {page other : Page}
    {tried : Page × Bool}
    (hTried : other.Tried tried)
    (hLoader : other.loader = page.loader) :
    page.Tried tried := by
  cases hTried with
  | won hStatus hAfter =>
      rw [hLoader] at hStatus hAfter
      exact .won hStatus hAfter
  | lost hAfter => exact .lost (hAfter.trans hLoader)

theorem tried_focus
    (page : Page)
    (number : Nat) :
    page.Tried (page.focus number) := by
  unfold focus
  split
  · exact .lost rfl
  · split
    · exact (tried_start _).of_loader_eq rfl
    · exact .lost rfl

@[simp] theorem loader_disarm
    (page : Page)
    (number : Nat) :
    (page.disarm number).loader = page.loader := by
  unfold disarm
  split <;> rfl

@[simp] theorem loader_query
    (page : Page)
    (number : Nat)
    (text : String) :
    (page.query number text).1.loader = page.loader := by
  unfold query
  split <;> rfl

end SiteSearch.Page

------------------------------------------------------------
-- Soundness
------------------------------------------------------------

namespace SiteSearch.Runtime

/- Whoever has returned came back with something. -/
def Replies
    (runtime : Runtime) :
    Prop :=
  ∀ number call, runtime.calls[number]? = some call →
    call.point = .returned →
    ∃ reply, .returned number call.errand reply ∈ runtime.history

/- A page with its load and its calls in order. -/
structure Sound
    (runtime : Runtime)
    (location : String)
    (answer : Answer) :
    Prop where
  loads : runtime.page.loader.Loads location answer
  stage : runtime.stage.Fits runtime.status
  calls : ∀ call ∈ runtime.calls, call.Fits runtime.stage
  claims : runtime.history.countP Note.isClaim = runtime.stage.claims
  asks : runtime.history.countP Note.isAsked = runtime.stage.asks
  told : Told location answer runtime.history
  replies : runtime.Replies

variable {runtime : Runtime}
variable {location : String}
variable {answer : Answer}

/- A load was started if it is no longer idle. -/
theorem Sound.isStarted_iff
    (hSound : runtime.Sound location answer) :
    isStarted runtime.history = true ↔ runtime.stage ≠ .idle := by
  rw [isStarted, List.any_eq_true, ← List.countP_pos_iff, hSound.claims]
  cases runtime.stage with
  | idle => exact ⟨nofun, fun hStarted => absurd rfl hStarted⟩
  | claimed => exact ⟨fun _ => nofun, fun _ => Nat.one_pos⟩
  | asked => exact ⟨fun _ => nofun, fun _ => Nat.one_pos⟩
  | died => exact ⟨fun _ => nofun, fun _ => Nat.one_pos⟩
  | written => exact ⟨fun _ => nofun, fun _ => Nat.one_pos⟩
  | ended => exact ⟨fun _ => nofun, fun _ => Nat.one_pos⟩

/- Noting something takes back nothing. -/
theorem Replies.record
    (hReplies : runtime.Replies)
    (note : Note) :
    (runtime.record note).Replies := by
  intro number call hCall hReturned
  rcases hReplies number call hCall hReturned with ⟨reply, hReply⟩
  exact ⟨reply, List.mem_append_left _ hReply⟩

/- A call that goes on without coming back is told nothing. -/
theorem Replies.put
    (hReplies : runtime.Replies)
    (number : Nat)
    (call : Call)
    {point : Point}
    (hPoint : point ≠ .returned) :
    (runtime.put number call point).Replies := by
  intro other found hFound hReturned
  rw [Runtime.put, List.getElem?_set] at hFound
  by_cases hNumber : number = other
  · rw [if_pos hNumber] at hFound
    split at hFound
    · cases hFound
      exact absurd hReturned hPoint
    · cases hFound
  · rw [if_neg hNumber] at hFound
    exact hReplies other found hFound hReturned

/- A call that comes back is told so. -/
theorem Replies.leave
    (hReplies : runtime.Replies)
    (number : Nat)
    (call : Call)
    (reply : Reply) :
    ((runtime.put number call .returned).record
      (.returned number call.errand reply)).Replies := by
  intro other found hFound hReturned
  change (runtime.calls.set number _)[other]? = some found at hFound
  rw [List.getElem?_set] at hFound
  by_cases hNumber : number = other
  · rw [if_pos hNumber] at hFound
    split at hFound
    · cases hFound
      rw [← hNumber]
      exact ⟨reply, List.mem_append_right _ (List.mem_singleton_self _)⟩
    · cases hFound
  · rw [if_neg hNumber] at hFound
    rcases hReplies other found hFound hReturned with ⟨before, hBefore⟩
    exact ⟨before, List.mem_append_left _ hBefore⟩

/- Something that happened in its order is noted. -/
theorem Sound.record
    (hSound : runtime.Sound location answer)
    {note : Note}
    (hClaim : note.isClaim = false)
    (hAsked : note.isAsked = false)
    (hNote : note.Fits location answer runtime.history) :
    (runtime.record note).Sound location answer where
  loads := hSound.loads
  stage := hSound.stage
  calls := hSound.calls
  claims := by
    rw [Runtime.record, List.countP_append, hSound.claims]
    simp [hClaim]
  asks := by
    rw [Runtime.record, List.countP_append, hSound.asks]
    simp [hAsked]
  told := hSound.told.append hNote
  replies := hSound.replies.record note

/- No other call moves when one is put somewhere. -/
theorem Sound.calls_put
    (hSound : runtime.Sound location answer)
    (number : Nat)
    {call : Call}
    {point : Point}
    (hCall : { call with point := point }.Fits runtime.stage) :
    ∀ other ∈ (runtime.put number call point).calls,
      other.Fits runtime.stage := by
  intro other hMember
  rcases List.mem_or_eq_of_mem_set hMember with hOld | rfl
  · exact hSound.calls other hOld
  · exact hCall

/- A call goes on to where it may be. -/
theorem Sound.put
    (hSound : runtime.Sound location answer)
    (number : Nat)
    {call : Call}
    {point : Point}
    (hCall : { call with point := point }.Fits runtime.stage)
    (hPoint : point ≠ .returned) :
    (runtime.put number call point).Sound location answer where
  loads := hSound.loads
  stage := hSound.stage
  calls := hSound.calls_put number hCall
  claims := hSound.claims
  asks := hSound.asks
  told := hSound.told
  replies := hSound.replies.put number call hPoint

/- A call comes back with what it may be told. -/
theorem Sound.leave
    (hSound : runtime.Sound location answer)
    {number : Nat}
    {call : Call}
    {errand : Errand}
    (hErrand : call.errand = errand)
    {reply : Reply}
    (hNote : (Note.returned number errand reply).Fits location answer
      runtime.history) :
    ((runtime.put number call .returned).record
      (.returned number errand reply)).Sound location answer where
  loads := hSound.loads
  stage := hSound.stage
  calls := hSound.calls_put number trivial
  claims := (List.countP_append ..).trans hSound.claims
  asks := (List.countP_append ..).trans hSound.asks
  told := hSound.told.append hNote
  replies := hErrand ▸ hSound.replies.leave number call reply

/- What is done without the loader changes nothing. -/
theorem Sound.page
    (hSound : runtime.Sound location answer)
    {page : Page}
    (hLoader : page.loader = runtime.page.loader) :
    ({ runtime with page := page } : Runtime).Sound location
      answer where
  loads := by
    rw [hLoader]
    exact hSound.loads
  stage := by
    have hStage := hSound.stage
    rw [status, ← hLoader] at hStage
    exact hStage
  calls := hSound.calls
  claims := hSound.claims
  asks := hSound.asks
  told := hSound.told
  replies := hSound.replies

/- An attempt to start the load is noted with its outcome. -/
theorem Sound.attempt
    (hSound : runtime.Sound location answer)
    {tried : Page × Bool}
    (hTried : runtime.page.Tried tried)
    {note : Note}
    (hClaim : note.isClaim = tried.2)
    (hAsked : note.isAsked = false)
    (hNote : note.Fits location answer runtime.history) :
    ((runtime.attempt tried).record note).Sound location answer := by
  cases hTried with
  | lost hLoader =>
      exact (hSound.page hLoader).record hClaim hAsked hNote
  | @won after hStatus hLoader =>
      have hIdle := hSound.stage.idle_iff.mpr hStatus
      have hClaims := hSound.claims
      have hAsks := hSound.asks
      rw [hIdle] at hClaims hAsks
      refine ⟨?_, ?_, ?_, ?_, ?_, hSound.told.append hNote,
        hSound.replies.record note⟩
      · refine ⟨?_, ?_, ?_⟩
        · change after.loader.location = location
          rw [hLoader]
          exact hSound.loads.location_eq
        · change after.loader.answer = answer
          rw [hLoader]
          exact hSound.loads.answer_eq
        · intro hSettled
          change after.loader.status.isSettled = true at hSettled
          rw [hLoader] at hSettled
          cases hSettled
      · change Stage.claimed.Fits after.loader.status
        rw [hLoader]
        exact ⟨⟨nofun, nofun⟩, rfl⟩
      · intro call hMember
        refine (hSound.calls call hMember).mono
          (fun _ => nofun) ?_ nofun
        rw [hIdle]
        exact nofun
      · change (runtime.history ++ [note]).countP Note.isClaim = 1
        rw [List.countP_append, hClaims]
        simp [hClaim, Stage.claims]
      · change (runtime.history ++ [note]).countP Note.isAsked = 0
        rw [List.countP_append, hAsks]
        simp [hAsked, Stage.asks]

end SiteSearch.Runtime

------------------------------------------------------------
-- Turns of a Call
------------------------------------------------------------

namespace SiteSearch.Runtime

variable {runtime : Runtime}
variable {location : String}
variable {answer : Answer}
variable {number : Nat}
variable {call : Call}

/- A call that tries to start the load finds it started then. -/
theorem Sound.claim
    (hSound : runtime.Sound location answer)
    (number : Nat)
    (call : Call) :
    (runtime.claim number call).Sound location answer := by
  have hTried := runtime.page.tried_start
  unfold Runtime.claim
  dsimp only
  by_cases hWon : runtime.page.start.2 = true
  · rw [if_pos hWon]
    have hNoted := hSound.attempt hTried
      (show (Note.claimed number).isClaim = _ from hWon.symm) rfl trivial
    refine hNoted.put number ?_ nofun
    change (if runtime.page.start.2 then Stage.claimed else _) ≠ _
    rw [if_pos hWon]
    exact nofun
  · rw [if_neg hWon]
    refine hSound.put number (Or.inr fun hIdle => hWon ?_) nofun
    exact runtime.page.start_of_unloaded
      (hSound.stage.idle_iff.mp hIdle)

/- The first turn of a call. -/
theorem Sound.enter
    (hSound : runtime.Sound location answer)
    (number : Nat)
    (call : Call) :
    (runtime.enter number call).Sound location answer := by
  unfold Runtime.enter
  cases hErrand : call.errand with
  | wait => exact hSound.put number (Or.inl hErrand) nofun
  | ensure => exact hSound.claim number call
  | query widget text =>
      exact (hSound.page (runtime.page.loader_disarm widget)).claim
        number call

/-
  Who waits no longer is told how the load ended, if it was
  started.
-/
theorem Sound.conclude
    (hSound : runtime.Sound location answer)
    (hStatus : runtime.status ≠ .loading)
    (hCall : call.errand = .wait ∨ runtime.stage ≠ .idle) :
    (runtime.conclude number call).Sound location answer := by
  have hSettled := hSound.stage.isSettled
  unfold Runtime.conclude
  cases hErrand : call.errand with
  | ensure =>
      have hStarted := hCall.resolve_left (by rw [hErrand]; exact nofun)
      apply hSound.leave hErrand
      exact ⟨_, rfl, hSound.loads.settled (hSettled hStarted hStatus)⟩
  | wait =>
      apply hSound.leave hErrand
      rw [Note.Fits]
      by_cases hStarted : isStarted runtime.history = true
      · rw [if_pos hStarted]
        have hStage := hSound.isStarted_iff.mp hStarted
        exact ⟨_, rfl, hSound.loads.settled (hSettled hStage hStatus)⟩
      · rw [if_neg hStarted]
        have hIdle := not_not.mp (mt hSound.isStarted_iff.mpr hStarted)
        rw [hSound.stage.idle_iff.mp hIdle]
  | query widget text =>
      have hStarted := hCall.resolve_left (by rw [hErrand]; exact nofun)
      refine hSound.put number ⟨?_, widget, text, hErrand⟩ nofun
      exact hSound.stage.isDone_eq.trans (hSettled hStarted hStatus)

/-
  A call that looks at the status sleeps only if it will be
  woken.
-/
theorem Sound.look
    (hSound : runtime.Sound location answer)
    (hCall : call.errand = .wait ∨ runtime.stage ≠ .idle)
    (woken : Bool) :
    (runtime.look number call woken).Sound location answer := by
  unfold Runtime.look
  split
  · next hLoading =>
      rcases hSound.stage.of_loading hLoading with ⟨hStarted, hDone⟩
      refine hSound.put number ⟨hStarted, fun hEnded => ?_⟩ nofun
      rw [hEnded] at hDone
      cases hDone
  · next hStatus => exact hSound.conclude hStatus hCall

/- A query that has waited is answered from a settled status. -/
theorem Sound.reply
    (hSound : runtime.Sound location answer)
    (hDone : runtime.stage.isDone = true) :
    (runtime.reply number call).Sound location answer := by
  unfold Runtime.reply
  cases hErrand : call.errand with
  | ensure => exact hSound
  | wait => exact hSound
  | query widget text =>
      have hPage := hSound.page (runtime.page.loader_query widget text)
      apply hPage.leave hErrand
      have hSettled := hSound.stage.isDone_eq.symm.trans hDone
      exact ⟨_, rfl,
        runtime.page.outcome_query_of_isSettled hSettled widget text⟩

/- Every turn of a call leaves all in order. -/
theorem Sound.resume
    (hSound : runtime.Sound location answer)
    (hCall : call.Fits runtime.stage) :
    (runtime.resume number call).Sound location answer := by
  unfold Runtime.resume
  cases hPoint : call.point with
  | begun => exact hSound.enter number call
  | joining =>
      rw [Call.Fits, hPoint] at hCall
      dsimp only
      split
      · exact hSound.put number (Or.inr hCall) nofun
      · exact hSound
  | entering =>
      rw [Call.Fits, hPoint] at hCall
      exact hSound.put number hCall nofun
  | listening woken =>
      rw [Call.Fits, hPoint] at hCall
      exact hSound.look hCall woken
  | asleep woken =>
      rw [Call.Fits, hPoint] at hCall
      cases woken with
      | true => exact hSound.put number (Or.inr hCall.1) nofun
      | false => exact hSound
  | answering =>
      rw [Call.Fits, hPoint] at hCall
      exact hSound.reply hCall.1
  | returned => exact hSound

end SiteSearch.Runtime

------------------------------------------------------------
-- Turns of the Load
------------------------------------------------------------

namespace SiteSearch.Runtime

variable {runtime : Runtime}
variable {location : String}
variable {answer : Answer}

/- A load that was started asks its source. -/
theorem Sound.ask
    (hSound : runtime.Sound location answer)
    (hStage : runtime.stage = .claimed)
    {stage : Stage}
    (hAsked : stage = .asked ∨ stage = .died) :
    ({ runtime with stage := stage }.record .asked).Sound location
      answer := by
  have hStatus := hSound.stage
  have hClaims := hSound.claims
  have hAsks := hSound.asks
  rw [hStage] at hStatus hClaims hAsks
  rcases Stage.of_asked hAsked with
    ⟨hStarted, hEnded, hDone, hClaim, hAsk⟩
  have hUnloaded := mt hStatus.idle_iff.mpr nofun
  refine ⟨hSound.loads, ⟨?_, hDone.trans hStatus.isDone_eq⟩, ?_, ?_, ?_,
    hSound.told.append trivial, hSound.replies.record _⟩
  · exact ⟨fun hIdle => absurd hIdle hStarted,
      fun hSame => absurd hSame hUnloaded⟩
  · intro call hMember
    refine (hSound.calls call hMember).mono (fun _ => hStarted) ?_
      fun hEnd => absurd hEnd hEnded
    rw [hStage]
    exact nofun
  · refine (List.countP_append ..).trans ?_
    rw [hClaims]
    exact hClaim.symm
  · refine (List.countP_append ..).trans ?_
    rw [hAsks]
    exact hAsk.symm

/- A load that has asked its source, or died of it, settles. -/
theorem Sound.settle
    (hSound : runtime.Sound location answer)
    (hStage : runtime.stage = .asked ∨ runtime.stage = .died) :
    ({ runtime with page := runtime.page.finish, stage := .written } :
      Runtime).Sound location answer := by
  rcases Stage.of_asked hStage with ⟨hStarted, -, hDone, hClaim, hAsk⟩
  have hLoading := hSound.stage.eq_loading hStarted hDone
  have hSettled := runtime.page.loader.isSettled_finish hLoading
  refine ⟨hSound.loads.finish, ⟨⟨nofun, ?_⟩, hSettled.symm⟩, ?_,
    hSound.claims.trans hClaim, hSound.asks.trans hAsk, hSound.told,
    hSound.replies⟩
  · intro hUnloaded
    change runtime.page.loader.finish.1.status = .unloaded at hUnloaded
    rw [hUnloaded] at hSettled
    cases hSettled
  · intro call hMember
    exact (hSound.calls call hMember).mono (fun _ => nofun)
      (fun _ => rfl) nofun

/- Those who wait for the load are woken at its end. -/
theorem Sound.rouse
    (hSound : runtime.Sound location answer)
    (hStage : runtime.stage = .written) :
    ({ runtime with calls := runtime.calls.map Call.wake, stage := .ended } :
      Runtime).Sound location answer := by
  have hStatus := hSound.stage
  have hCalls := hSound.calls
  rw [hStage] at hStatus hCalls
  refine ⟨hSound.loads, ⟨⟨nofun, ?_⟩, hStatus.isDone_eq⟩, ?_, ?_, ?_,
    hSound.told, ?_⟩
  · intro hUnloaded
    exact absurd (hStatus.idle_iff.mpr hUnloaded) nofun
  · intro woken hMember
    rcases List.mem_map.mp hMember with ⟨call, hCall, rfl⟩
    exact (hCalls call hCall).wake
  · rw [hSound.claims, hStage]
    rfl
  · rw [hSound.asks, hStage]
    rfl
  · intro number woken hFound hReturned
    rw [List.getElem?_map] at hFound
    rcases Option.map_eq_some_iff.mp hFound with ⟨call, hCall, rfl⟩
    exact hSound.replies number call hCall
      (call.returned_of_wake hReturned)

/- Every turn of the load leaves all in order. -/
theorem Sound.load
    (hSound : runtime.Sound location answer) :
    runtime.load.Sound location answer := by
  unfold Runtime.load
  cases hStage : runtime.stage with
  | idle => exact hSound
  | claimed =>
      apply hSound.ask hStage
      split
      · exact Or.inr rfl
      · exact Or.inl rfl
  | asked => exact hSound.settle (Or.inl hStage)
  | died => exact hSound.settle (Or.inr hStage)
  | written => exact hSound.rouse hStage
  | ended => exact hSound

end SiteSearch.Runtime

------------------------------------------------------------
-- Moves
------------------------------------------------------------

namespace SiteSearch.Runtime

variable {runtime : Runtime}
variable {location : String}
variable {answer : Answer}

/- A turn of a call that there is. -/
theorem step_resume
    {number : Nat}
    {call : Call}
    (hCall : runtime.calls[number]? = some call) :
    runtime.step (.resume number) = runtime.resume number call := by
  unfold Runtime.step
  dsimp only
  rw [hCall]

/- A turn of a call that there is not. -/
theorem step_resume_of_none
    {number : Nat}
    (hNone : runtime.calls[number]? = none) :
    runtime.step (.resume number) = runtime := by
  unfold Runtime.step
  dsimp only
  rw [hNone]

/- A new call knows nothing and was told nothing. -/
theorem Sound.begin
    (hSound : runtime.Sound location answer)
    (errand : Errand) :
    ({ runtime with calls := runtime.calls ++ [⟨errand, .begun⟩] } :
      Runtime).Sound location answer := by
  refine ⟨hSound.loads, hSound.stage, ?_, hSound.claims, hSound.asks,
    hSound.told, ?_⟩
  · intro call hMember
    rcases List.mem_append.mp hMember with hOld | hNew
    · exact hSound.calls call hOld
    · cases List.mem_singleton.mp hNew
      trivial
  · intro number call hCall hReturned
    rw [List.getElem?_append] at hCall
    split at hCall
    · exact hSound.replies number call hCall hReturned
    · have hMember := List.mem_of_getElem? hCall
      cases List.mem_singleton.mp hMember
      cases hReturned

/- Every move leaves all in order. -/
theorem Sound.step
    (hSound : runtime.Sound location answer)
    (move : Move) :
    (runtime.step move).Sound location answer := by
  cases move with
  | focus widget =>
      exact hSound.attempt (runtime.page.tried_focus widget) rfl rfl
        trivial
  | start =>
      exact hSound.attempt runtime.page.tried_start rfl rfl trivial
  | query widget text =>
      exact (hSound.page (runtime.page.loader_query widget text)).record
        rfl rfl trivial
  | call errand => exact hSound.begin errand
  | resume number =>
      cases hCall : runtime.calls[number]? with
      | none =>
          rw [step_resume_of_none hCall]
          exact hSound
      | some call =>
          rw [step_resume hCall]
          exact hSound.resume
            (hSound.calls call (List.mem_of_getElem? hCall))
  | load => exact hSound.load

/- And so does every run. -/
theorem Sound.run
    (hSound : runtime.Sound location answer)
    (moves : List Move) :
    (runtime.run moves).Sound location answer := by
  induction moves generalizing runtime with
  | nil => exact hSound
  | cons move moves ih => exact ih (hSound.step move)

end SiteSearch.Runtime
