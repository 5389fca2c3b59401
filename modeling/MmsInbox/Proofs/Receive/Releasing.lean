import MmsInbox.Downloads
import MmsInbox.Proofs.Receive.Containment
import MmsInbox.Proofs.Receive.Unfolding

namespace MmsInbox

/-!
# Whether a run releases its download

A run takes its location off the downloads in flight between the removal of stale notifications and the
report. It comes that far unless the notification store panics over the removal: then the run ends on the
spot, and the location stays in flight for good (`Receive.process_releases`).
-/

open Program

/-- The location that an event takes off the downloads in flight. -/
def Event.released? : Event → Option String
  | .acted (.finishDownload location) _ => some location
  | _ => none

namespace History

/-- The locations that a history takes off the downloads in flight. -/
def released (history : History) : List String :=
  history.filterMap Event.released?

@[simp] theorem released_nil : released [] = [] := rfl

@[simp] theorem released_answered
    (call : Call)
    (answer : call.Answer)
    (later : History) :
    released (.answered call answer :: later) = later.released := rfl

@[simp] theorem released_panicked
    (call : Call)
    (panic : Panic)
    (later : History) :
    released (.panicked call panic :: later) = later.released := rfl

@[simp] theorem released_finish
    (location : String)
    (began : Option Nat)
    (later : History) :
    released (.acted (.finishDownload location) began :: later) = location :: later.released := rfl

@[simp] theorem released_append
    (first second : History) :
    released (first ++ second) = first.released ++ second.released :=
  List.filterMap_append

theorem JustNotes.released_eq_nil
    {notes : History}
    (justNotes : notes.JustNotes) :
    notes.released = [] := by
  refine List.filterMap_eq_nil_iff.mpr fun event member => ?_
  have isNote := justNotes event member
  cases event with
  | answered call answer => rfl
  | panicked call panic => rfl
  | acted action answer =>
      cases action with
      | note notice => rfl
      | _ => cases isNote

end History

/-- The downloads in flight after some locations have been taken off them. -/
def Downloads.finishAll
    (downloads : Downloads)
    (locations : List String) :
    Downloads :=
  locations.foldl (fun kept location => (kept.finish location).2) downloads

/-- A location that was taken off the downloads in flight can begin again. -/
theorem Downloads.begin_finish
    (downloads : Downloads)
    (location : String)
    (now : Nat) :
    ((downloads.finish location).2.begin location now).1 = true := by
  simp [begin, finish, isInProgress]

/-- An environment that keeps the downloads in flight: what is finished is taken off them, and nothing else
changes them, whether a question is answered or somebody panics over it. -/
structure KeepsDownloads
    {σ : Type}
    (environment : Environment σ)
    (downloads : σ → Downloads) :
    Prop where
  finished
    {location : String}
    {began : Option Nat}
    {state later : σ}
    (acted : environment.perform (.finishDownload location) state = (began, later)) :
    (began, downloads later) = (downloads state).finish location
  acted
    {action : Action}
    (other : ∀ location, action ≠ .finishDownload location)
    (state : σ) :
    downloads (environment.perform action state).2 = downloads state
  asked
    (call : Call)
    (state : σ) :
    downloads (environment.answer call state).2 = downloads state

namespace KeepsDownloads

variable
  {σ : Type}
  {environment : Environment σ}
  {downloads : σ → Downloads}
  {before after : σ}

/-- An event takes off the downloads in flight what it says. -/
theorem downloads_of_yields
    (keeps : KeepsDownloads environment downloads)
    {event : Event}
    (yields : environment.Yields event before after) :
    downloads after = (downloads before).finishAll event.released?.toList := by
  cases event with
  | answered call answer =>
      have asked := keeps.asked call before
      rw [yields] at asked
      exact asked
  | panicked call panic =>
      have asked := keeps.asked call before
      rw [yields] at asked
      exact asked
  | acted action answer =>
      by_cases finishes : ∃ location, action = .finishDownload location
      · obtain ⟨location, rfl⟩ := finishes
        exact congrArg Prod.snd (keeps.finished yields)
      · have other : ∀ location, action ≠ .finishDownload location :=
          fun location same => finishes ⟨location, same⟩
        have acted := keeps.acted other before
        rw [yields] at acted
        cases action with
        | finishDownload location => exact absurd rfl (other location)
        | _ => exact acted

/-- A history takes off the downloads in flight what its events take off them, one after the other. -/
theorem downloads_of_passes
    (keeps : KeepsDownloads environment downloads)
    {history : History}
    (passes : history.Passes environment.Yields before after) :
    downloads after = (downloads before).finishAll history.released := by
  induction history generalizing before with
  | nil => exact congrArg downloads passes
  | cons event later inductionHypothesis =>
      obtain ⟨between, yields, rest⟩ := passes
      have shown :
          History.released (event :: later) =
            event.released?.toList ++ History.released later := by
        rw [History.released, List.filterMap_cons]
        cases event.released? <;> rfl
      rw [inductionHypothesis rest, keeps.downloads_of_yields yields, shown, Downloads.finishAll,
        Downloads.finishAll, Downloads.finishAll, List.foldl_append]

end KeepsDownloads

namespace Receive

section Released

variable
  {download : Download}
  {subscription : Subscription}
  {outcome : Outcome}
  {history : History}

theorem TakesIn.released_eq_nil
    {path : String}
    {content : Except File.Error Bytes}
    (takes : TakesIn path content history) :
    history.released = [] := by
  obtain ⟨removal, notes, justNotes, rfl⟩ := takes
  exact justNotes.released_eq_nil

theorem Deletes.released_eq_nil
    {location reason : String}
    (deletes : Deletes location reason history) :
    history.released = [] := by
  cases deletes <;> rfl

theorem Screens.released_eq_nil
    {sender : Option String}
    {location : String}
    {verdict : Verdict}
    (screens : Screens sender location verdict history) :
    history.released = [] := by
  cases screens with
  | anonymous unknown => rfl
  | admitted known => rfl
  | blocked known deletes => exact deletes.released_eq_nil

theorem Acknowledges.released_eq_nil
    {location : String}
    {uri : Option String}
    {retrieval : Retrieval}
    (acknowledges : Acknowledges location subscription uri retrieval history) :
    history.released = [] := by
  cases acknowledges with
  | unconfigured lineNumber justNotes => exact justNotes.released_eq_nil
  | unnamed credentials lineNumber nameless justNotes => exact justNotes.released_eq_nil
  | unavailable credentials error lineNumber name justNotes justMore =>
      simp [justNotes.released_eq_nil, justMore.released_eq_nil]
  | submitted credentials notification lineNumber name => rfl

theorem Cleans.released_eq_nil
    {status : Option FetchStatus}
    {location : String}
    (cleans : Cleans status location history) :
    history.released = [] := by
  cases cleans with
  | spared current => rfl
  | deleted reports stale deletes => exact deletes.released_eq_nil

theorem Reports.released_eq_nil
    {location : String}
    (reports : Reports location outcome history) :
    history.released = [] := by
  cases reports <;> rfl

/-- While a run receives, it releases nothing. -/
theorem Receives.released_eq_nil (receives : Receives download subscription outcome history) :
    history.released = [] := by
  cases receives with
  | unread takes => exact takes.released_eq_nil
  | empty takes marks =>
      obtain ⟨result, notes, justNotes, rfl⟩ := marks
      simp [takes.released_eq_nil, justNotes.released_eq_nil]
  | malformed takes nonempty => simp [takes.released_eq_nil]
  | unexpected takes nonempty other => simp [takes.released_eq_nil]
  | blocked takes nonempty screens => simp [takes.released_eq_nil, screens.released_eq_nil]
  | unstored takes nonempty screens acknowledges =>
      simp [takes.released_eq_nil, screens.released_eq_nil, acknowledges.released_eq_nil]
  | stored takes nonempty screens acknowledges =>
      simp only [History.released_append, History.released_answered, takes.released_eq_nil,
        screens.released_eq_nil, acknowledges.released_eq_nil, List.nil_append]
      rfl

/-- Whether or not a run is broken off while it receives, it has released nothing then. -/
theorem Attempts.released_eq_nil (attempts : Attempts download subscription outcome history) :
    history.released = [] := by
  cases attempts with
  | received calm receives => exact receives.released_eq_nil
  | brokenOff panic receives =>
      have nothing := receives.released_eq_nil
      rw [History.released_append, List.append_eq_nil_iff] at nothing
      rw [History.released_append, nothing.1]
      rfl

/-- The last that happens is that the notification store panics over the rows of a location. -/
def LeftInFlight (location : String) (history : History) : Prop :=
  ∃ panic, history.getLast? = some (.panicked (.deletePending location) panic)

/-- A run releases its download and no other, unless the notification store panics over the removal of
stale notifications; then it releases nothing. -/
theorem Unfolds.released_eq
    {result : Except Panic Outcome}
    (unfolds : Unfolds download subscription result history) :
    LeftInFlight download.location history ∧ history.released = [] ∨
      ¬ LeftInFlight download.location history ∧ history.released = [download.location] := by
  cases unfolds with
  | reported began attempts cleans reports =>
      refine .inr ⟨?_, ?_⟩
      · rintro ⟨panic, last⟩
        cases reports <;> simp [List.getLast?_append] at last
      · simp [attempts.released_eq_nil, cleans.released_eq_nil, reports.released_eq_nil]
  | unreported began panic attempts cleans reports =>
      refine .inr ⟨?_, ?_⟩
      · rintro ⟨cause, last⟩
        -- The application is told last, and the notification store is not the application.
        have told := reports.kind _ (List.mem_append_right _ List.mem_cons_self)
        simp only [← List.append_assoc, ← List.cons_append, List.getLast?_concat,
          Option.some.injEq] at last
        cases last
        cases told
      · have nothing := reports.released_eq_nil
        rw [History.released_append, List.append_eq_nil_iff] at nothing
        simp [attempts.released_eq_nil, cleans.released_eq_nil, nothing.1]
  | uncleaned panic attempts stale =>
      exact .inl ⟨⟨panic, by simp⟩, by simp [attempts.released_eq_nil]⟩

end Released

/-- What a run takes off the downloads in flight is what happens in it. -/
theorem downloads_process
    {σ : Type}
    {environment : Environment σ}
    {downloads : σ → Downloads}
    (keeps : KeepsDownloads environment downloads)
    (standard : Subscription)
    (download : Download)
    (start : σ) :
    downloads ((process standard download).run environment start).2 =
      (downloads start).finishAll ((process standard download).history environment start).released :=
  keeps.downloads_of_passes (passes_run environment (process standard download) start)

/-- When a run has ended, whatever panics there were, its location is no longer in flight and can begin
again, and the other locations are as before; except that nothing is released if the notification store
panics over the removal of stale notifications. -/
theorem process_releases
    {σ : Type}
    {environment : Environment σ}
    {downloads : σ → Downloads}
    (keeps : KeepsDownloads environment downloads)
    (standard : Subscription)
    (download : Download)
    (start : σ) :
    (¬ LeftInFlight download.location ((process standard download).history environment start) →
      downloads ((process standard download).run environment start).2 =
          ((downloads start).finish download.location).2 ∧
        ∀ now,
          ((downloads ((process standard download).run environment start).2).begin
            download.location now).1 = true) ∧
    (LeftInFlight download.location ((process standard download).history environment start) →
      downloads ((process standard download).run environment start).2 = downloads start) := by
  have unfolds := unfolds_of_leads (leads_run environment (process standard download) start)
  have final := downloads_process keeps standard download start
  rcases unfolds.released_eq with ⟨left, nothing⟩ | ⟨finished, released⟩
  · refine ⟨fun finished => absurd left finished, fun _ => ?_⟩
    rw [final, nothing]
    rfl
  · refine ⟨fun _ => ?_, fun left => absurd left finished⟩
    rw [final, released]
    exact ⟨rfl, (downloads start).begin_finish download.location⟩

/-- The world with downloads in flight besides. -/
def withDownloads
    {σ : Type}
    (environment : Environment σ) :
    Environment (σ × Downloads) where
  answer call world :=
    ((environment.answer call world.1).1, (environment.answer call world.1).2, world.2)
  perform action world :=
    match action with
    | .finishDownload location =>
        ((world.2.finish location).1, world.1, (world.2.finish location).2)
    | other => ((environment.perform other world.1).1, (environment.perform other world.1).2, world.2)

theorem keepsDownloads_withDownloads
    {σ : Type}
    (environment : Environment σ) :
    KeepsDownloads (withDownloads environment) Prod.snd where
  finished acted := by
    obtain ⟨rfl, rfl⟩ := Prod.mk.inj acted
    rfl
  acted {action} other state := by
    cases action with
    | finishDownload location => exact absurd rfl (other location)
    | _ => rfl
  asked call state := rfl

/-- The location of the greeting is in flight. -/
def inFlight : Downloads :=
  (Downloads.empty.begin staleGreeting.location 5).2

/-- A greeting is released although the blocklist has panicked. -/
theorem process_releases_staleGreeting :
    KeepsDownloads (withDownloads (smoothWorld.disturbed faultyBlocklist)) Prod.snd ∧
    ¬ LeftInFlight staleGreeting.location
        ((process .standard staleGreeting).history
          (withDownloads (smoothWorld.disturbed faultyBlocklist)) (((), 0), inFlight)) ∧
      ((process .standard staleGreeting).run
          (withDownloads (smoothWorld.disturbed faultyBlocklist)) (((), 0), inFlight)).2.2 =
        (inFlight.finish staleGreeting.location).2 ∧
      ∀ now,
        ((((process .standard staleGreeting).run
          (withDownloads (smoothWorld.disturbed faultyBlocklist)) (((), 0), inFlight)).2.2).begin
            staleGreeting.location now).1 = true := by
  have keeps := keepsDownloads_withDownloads (smoothWorld.disturbed faultyBlocklist)
  have finished :
      ¬ LeftInFlight staleGreeting.location
        ((process .standard staleGreeting).history
          (withDownloads (smoothWorld.disturbed faultyBlocklist)) (((), 0), inFlight)) := by
    rintro ⟨panic, last⟩
    cases last
  exact ⟨keeps, finished,
    (process_releases keeps .standard staleGreeting (((), 0), inFlight)).1 finished⟩

/-- The stale notifications are to be removed as the eighth question, and the notification store panics. -/
def faultyRemoval : Disturbance Unit where
  number := 7
  panic := ⟨"out of order"⟩
  harm _ _ := ()

/-- Not every run releases its download: a greeting stays in flight as the notification store panics over
the removal of stale notifications. -/
theorem not_forall_released :
    ¬ ∀ (σ : Type) (environment : Environment σ) (downloads : σ → Downloads)
        (standard : Subscription) (download : Download) (start : σ),
      KeepsDownloads environment downloads →
        (downloads ((process standard download).run environment start).2).isInProgress
          download.location = false := by
  intro released
  have keeps := keepsDownloads_withDownloads (smoothWorld.disturbed faultyRemoval)
  have final := downloads_process keeps .standard staleGreeting (((), 0), inFlight)
  have nothing :
      ((process .standard staleGreeting).history
        (withDownloads (smoothWorld.disturbed faultyRemoval)) (((), 0), inFlight)).released = [] :=
    rfl
  have stays : inFlight.isInProgress staleGreeting.location = true := by
    simp [inFlight, Downloads.begin, Downloads.empty, Downloads.isInProgress]
  have gone := released _ _ _ .standard staleGreeting (((), 0), inFlight) keeps
  rw [final, nothing] at gone
  exact Bool.noConfusion (stays.symm.trans gone)

end Receive

end MmsInbox
