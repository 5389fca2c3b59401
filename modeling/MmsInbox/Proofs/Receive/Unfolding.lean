import MmsInbox.Program.Interruption
import MmsInbox.Proofs.Receive.Course

namespace MmsInbox.Receive

/-!
# All the ways in which a run unfolds

What happens in a run whatever its collaborators do. The first part comes to an outcome or is broken off
by a panic (`Attempts`). What follows is complete, or a panic ends it while stale notifications are
removed or while the outcome is reported (`Unfolds`). There is no other way (`unfolds_of_leads`).
-/

open Program

/-- What happens in the first part of a run and where its panics are caught, and the outcome. -/
inductive Attempts
    (download : Download)
    (subscription : Subscription) :
    Outcome → History → Prop where
  | received
      {outcome : Outcome}
      {receiving : History}
      (calm : receiving.Calm)
      (receives : Receives download subscription outcome receiving) :
      Attempts download subscription outcome receiving
  | brokenOff
      {outcome : Outcome}
      {done later : History}
      {call : Call}
      {answer : call.Answer}
      (panic : Panic)
      (receives :
        Receives download subscription outcome (done ++ .answered call answer :: later)) :
      Attempts download subscription .aborted
        (done ++ [.panicked call panic, .acted (.note (.runPanicked download.location)) ()])

/-- What happens in a run, and how it ends. -/
inductive Unfolds
    (download : Download)
    (subscription : Subscription) :
    Except Panic Outcome → History → Prop where
  | reported
      {outcome : Outcome}
      {attempting cleaning reporting : History}
      (began : Option Nat)
      (attempts : Attempts download subscription outcome attempting)
      (cleans : Cleans download.status download.location cleaning)
      (reports : Reports download.location outcome reporting) :
      Unfolds download subscription (.ok outcome)
        (attempting ++
          (cleaning ++ .acted (.finishDownload download.location) began :: reporting))
  /-- The application panics while it is told. -/
  | unreported
      {outcome : Outcome}
      {attempting cleaning done later : History}
      {call : Call}
      {answer : call.Answer}
      (began : Option Nat)
      (panic : Panic)
      (attempts : Attempts download subscription outcome attempting)
      (cleans : Cleans download.status download.location cleaning)
      (reports : Reports download.location outcome (done ++ .answered call answer :: later)) :
      Unfolds download subscription (.error panic)
        (attempting ++
          (cleaning ++ .acted (.finishDownload download.location) began ::
            (done ++ [.panicked call panic])))
  /-- The notification store panics while stale notifications are removed. -/
  | uncleaned
      {outcome : Outcome}
      {attempting : History}
      (panic : Panic)
      (attempts : Attempts download subscription outcome attempting)
      (stale : download.status = some ⟨400⟩ ∨ download.status = some ⟨404⟩) :
      Unfolds download subscription (.error panic)
        (attempting ++ [.panicked (.deletePending download.location) panic])

section Inversion

variable
  {download : Download}
  {subscription : Subscription}
  {history : History}

/-- A question after which no other one is put is the only one that a panic can cut short. -/
theorem cut_at_first
    {first call : Call}
    {given : first.Answer}
    {answer : call.Answer}
    {others done later : History}
    (quiet : others.calls = [])
    (split : .answered first given :: others = done ++ .answered call answer :: later) :
    done = [] ∧ call = first := by
  cases done with
  | nil =>
      obtain ⟨same, _⟩ := List.cons.inj split
      cases same
      exact ⟨rfl, rfl⟩
  | cons event done =>
      obtain ⟨_, rfl⟩ := List.cons.inj split
      simp at quiet

/-- While stale notifications are removed, a panic can only come from the deletion itself. -/
theorem Cleans.cut
    {status : Option FetchStatus}
    {location : String}
    {done later : History}
    {call : Call}
    {answer : call.Answer}
    (cleans : Cleans status location (done ++ .answered call answer :: later)) :
    (status = some ⟨400⟩ ∨ status = some ⟨404⟩) ∧ done = [] ∧ call = .deletePending location := by
  generalize split : done ++ .answered call answer :: later = cleaning at cleans
  rcases cleans.spared_or_deleted with ⟨_, rfl⟩ | ⟨stale, reason, deletes⟩
  · simp at split
  · refine ⟨stale, ?_⟩
    cases deletes with
    | removed count => exact cut_at_first rfl split.symm
    | failed error notice => exact cut_at_first rfl split.symm

theorem attempts_of_leads
    {rest : Program Outcome}
    (finished : rest.hasEnded = true)
    (leads :
      Leads
        ((receive download subscription).catching fun _ => do
          note (.runPanicked download.location)
          return .aborted)
        history rest) :
    ∃ outcome, rest = .done outcome ∧ Attempts download subscription outcome history := by
  have forwards := (receive_plain download subscription).forwards
  rcases leads_catching_of_hasEnded finished leads with ⟨outcome, ends, receives⟩ |
    ⟨panic, first, second, rfl, receives, handles⟩
  · exact ⟨outcome, ends, .received (forwards.calm_of_leads receives) (receives_of_leads receives)⟩
  · obtain ⟨_, course⟩ := forwards.cutShort_of_leads receives
    obtain ⟨_, notes, rfl, afterNoting⟩ := leads_perform_bind_of_hasEnded finished handles
    obtain ⟨rfl, rfl⟩ := leads_done.mp afterNoting
    refine ⟨.aborted, rfl, ?_⟩
    simpa using Attempts.brokenOff panic (receives_of_leads course)

/-- What a run does after its first part is complete or ends in a panic. -/
theorem unfolds_of_leads_conclude
    {outcome : Outcome}
    {attempting : History}
    {result : Except Panic Outcome}
    (attempts : Attempts download subscription outcome attempting)
    (leads : Leads (conclude download outcome) history (ended result)) :
    Unfolds download subscription result (attempting ++ history) := by
  have finished := hasEnded_ended result
  rcases leads_bind_of_hasEnded finished leads with
    ⟨removed, cleaning, rest, rfl, cleans, afterCleaning⟩ | ⟨panic, ends, cleans⟩
  · have cleans := cleans_of_leads cleans
    obtain ⟨began, rest, rfl, afterRelease⟩ :=
      leads_perform_bind_of_hasEnded finished afterCleaning
    rcases leads_bind_of_hasEnded finished afterRelease with
      ⟨_, reporting, rest, rfl, reports, afterReport⟩ | ⟨panic, ends, reports⟩
    · obtain ⟨rfl, ends⟩ := leads_done.mp afterReport
      obtain rfl := ended_eq_done.mp ends
      simpa using Unfolds.reported began attempts cleans (reports_of_leads reports)
    · obtain rfl := ended_eq_unwound.mp ends
      obtain ⟨_, course⟩ := (report_plain outcome).forwards.cutShort_of_leads reports
      simpa using Unfolds.unreported began panic attempts cleans (reports_of_leads course)
  · obtain rfl := ended_eq_unwound.mp ends
    obtain ⟨_, course⟩ := (removeStale_plain download.status).forwards.cutShort_of_leads cleans
    obtain ⟨stale, rfl, rfl⟩ := (cleans_of_leads course).cut
    exact .uncleaned panic attempts stale

/-- A run unfolds in one of the ways listed, whatever its collaborators do. -/
theorem unfolds_of_leads
    {standard : Subscription}
    {result : Except Panic Outcome}
    (leads : Leads (process standard download) history (ended result)) :
    Unfolds download (download.subscription.getD standard) result history := by
  have finished := hasEnded_ended result
  rw [process_eq] at leads
  rcases leads_bind_of_hasEnded finished leads with
    ⟨outcome, attempting, rest, rfl, attempting, concludes⟩ | ⟨panic, _, attempting⟩
  · obtain ⟨_, same, attempts⟩ := attempts_of_leads rfl attempting
    cases same
    exact unfolds_of_leads_conclude attempts concludes
  · obtain ⟨_, ends, _⟩ := attempts_of_leads rfl attempting
    cases ends

end Inversion

end MmsInbox.Receive
