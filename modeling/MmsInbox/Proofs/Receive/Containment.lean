import MmsInbox.Program.Disturbance
import MmsInbox.Proofs.Receive.Acknowledging
import MmsInbox.Proofs.Receive.Independence

namespace MmsInbox.Receive

/-!
# A panic is contained

If a collaborator panics while a run receives, all that has happened before is what would have happened
anyway, and nothing more is received. The run goes on from whatever state the panic has left: it removes
stale notifications, releases the download and ends as aborted, without a word to the application
(`process_contained`).
-/

open Program

/-- An aborted run cleans up and releases the download, and tells nobody. -/
theorem concludes_of_leads
    {download : Download}
    {outcome : Outcome}
    {history : History}
    (leads : Leads (conclude download .aborted) history (.done outcome)) :
    outcome = .aborted ∧
      ∃ (cleaning : History) (began : Option Nat),
        Cleans download.status download.location cleaning ∧
          history = cleaning ++ [.acted (.finishDownload download.location) began] := by
  obtain ⟨removed, cleaning, rest, rfl, cleans, afterCleaning⟩ := leads_bind_done.mp leads
  obtain ⟨began, rest, rfl, afterRelease⟩ := leads_perform_bind.mp afterCleaning
  obtain ⟨rfl, same⟩ := leads_done_done.mp afterRelease
  exact ⟨same, cleaning, began, cleans_of_leads cleans, rfl⟩

/-- What a run makes of a panic while it receives. Up to the panic it has done what it would have done
without, and the panic found the world as this has left it (`effects`). Afterwards the run cleans up and
releases the download, from the world as the panic has left it (`afterwards`). -/
inductive Contained
    {σ : Type}
    (environment : Environment σ)
    (disturbance : Disturbance σ)
    (download : Download)
    (start final : σ)
    (received history : History) :
    Prop where
  | intro
      {done later cleaning : History}
      {call : Call}
      {answer : call.Answer}
      {between : σ}
      {began : Option Nat}
      (number : done.calls.length = disturbance.number)
      (reached : received = done ++ .answered call answer :: later)
      (effects : done.Passes environment.Yields start between)
      (happens :
        history =
          done ++ .panicked call disturbance.panic ::
            .acted (.note (.runPanicked download.location)) () ::
              (cleaning ++ [.acted (.finishDownload download.location) began]))
      (cleans : Cleans download.status download.location cleaning)
      (deletes :
        cleaning.calls =
          if download.status = some ⟨400⟩ ∨ download.status = some ⟨404⟩ then
            [.deletePending download.location]
          else [])
      (afterwards :
        History.Passes environment.Yields
          (.acted (.note (.runPanicked download.location)) () ::
            (cleaning ++ [.acted (.finishDownload download.location) began]))
          (disturbance.harm call between) final) :
      Contained environment disturbance download start final received history

/-- The cleanup deletes once, if the fetch was stale. -/
theorem Cleans.calls_eq
    {status : Option FetchStatus}
    {location : String}
    {cleaning : History}
    (cleans : Cleans status location cleaning) :
    cleaning.calls =
      if status = some ⟨400⟩ ∨ status = some ⟨404⟩ then [.deletePending location] else [] := by
  rcases cleans.spared_or_deleted with ⟨current, rfl⟩ | ⟨stale, reason, deletes⟩
  · rw [if_neg current, History.calls_nil]
  · rw [if_pos stale]
    cases deletes <;> rfl

section Untold

variable
  {location : String}
  {subscription : Subscription}
  {history : History}

theorem Screens.untold
    {sender : Option String}
    {verdict : Verdict}
    (screens : Screens sender location verdict history) :
    history.calls.filter isCallback = [] := by
  obtain _ | _ | ⟨known, _ | _⟩ := screens
  all_goals rfl

theorem Acknowledges.untold
    {uri : Option String}
    {retrieval : Retrieval}
    (acknowledges : Acknowledges location subscription uri retrieval history) :
    history.calls.filter isCallback = [] := by
  refine List.filter_eq_nil_iff.mpr ?_
  cases acknowledges with
  | unconfigured lineNumber justNotes => simp [justNotes.calls_eq_nil, isCallback]
  | unnamed credentials lineNumber nameless justNotes =>
      simp [justNotes.calls_eq_nil, isCallback]
  | unavailable credentials error lineNumber name justNotes justMore =>
      simp [justNotes.calls_eq_nil, justMore.calls_eq_nil, isCallback]
  | submitted credentials notification lineNumber name => simp [isCallback]

/-- While a run receives, the application is not told. -/
theorem Receives.untold
    {download : Download}
    {outcome : Outcome}
    (receives : Receives download subscription outcome history) :
    history.calls.filter isCallback = [] := by
  cases receives with
  | unread takes => rw [takes.calls_eq_nil, List.filter_nil]
  | empty takes marks =>
      obtain ⟨result, notes, justNotes, rfl⟩ := marks
      simp [takes.calls_eq_nil, justNotes.calls_eq_nil, isCallback]
  | malformed takes nonempty => simp [takes.calls_eq_nil, isCallback]
  | unexpected takes nonempty other => simp [takes.calls_eq_nil, isCallback]
  | blocked takes nonempty screens =>
      rw [History.calls_append, takes.calls_eq_nil, List.nil_append, History.calls_answered]
      exact screens.untold
  | unstored takes nonempty screens acknowledges =>
      simp only [History.calls_append, History.calls_answered, takes.calls_eq_nil, List.filter_append,
        List.filter_cons, isCallback, screens.untold, acknowledges.untold]
      rfl
  | stored takes nonempty screens acknowledges =>
      simp only [History.calls_append, History.calls_answered, takes.calls_eq_nil, List.filter_append,
        List.filter_cons, isCallback, screens.untold, acknowledges.untold]
      rfl

theorem Cleans.untold
    {status : Option FetchStatus}
    (cleans : Cleans status location history) :
    history.calls.filter isCallback = [] := by
  obtain _ | ⟨_, _, _ | _⟩ := cleans
  all_goals rfl

/-- While a run receives without a panic, the application is not told. -/
theorem untold_of_calm
    {σ : Type}
    {environment : Environment σ}
    {download : Download}
    {start : σ}
    (calm : ((receive download subscription).history environment start).Calm) :
    ((receive download subscription).history environment start).calls.filter isCallback = [] := by
  obtain ⟨outcome, value⟩ := (receive_plain download subscription).forwards.exists_value calm
  have course := leads_run environment (receive download subscription) start
  rw [value] at course
  exact (receives_of_leads course).untold

end Untold

/-- A panic while a run receives is contained, unless the cleanup panics as well. -/
theorem process_contained
    {σ : Type}
    (environment : Environment σ)
    (disturbance : Disturbance σ)
    (standard : Subscription)
    (download : Download)
    (start : σ)
    (calm :
      ((receive download (download.subscription.getD standard)).history environment start).Calm)
    (put :
      disturbance.number <
        ((receive download (download.subscription.getD standard)).history
          environment start).calls.length)
    (alone :
      ((process standard download).history
        (environment.disturbed disturbance) (start, 0)).countP Event.isPanic ≤ 1) :
    ((process standard download).run (environment.disturbed disturbance) (start, 0)).1 =
        .ok .aborted ∧
      ((process standard download).history
        (environment.disturbed disturbance) (start, 0)).calls.filter isCallback = [] ∧
      Contained environment disturbance download start
        ((process standard download).run (environment.disturbed disturbance) (start, 0)).2.1
        ((receive download (download.subscription.getD standard)).history environment start)
        ((process standard download).history (environment.disturbed disturbance) (start, 0)) := by
  have forwards := (receive_plain download (download.subscription.getD standard)).forwards
  obtain ⟨done, later, call, answer, between, reached, number, effects, cut, ended⟩ :=
    cut_of_disturbed forwards calm (Nat.zero_le _) (by simpa using put)
  let noted := environment.note (.runPanicked download.location) (disturbance.harm call between)
  obtain ⟨sameResult, sameState, sameHistory⟩ :=
    run_disturbed_of_lt environment (conclude download .aborted) noted
      (Nat.lt_succ_self disturbance.number)
  have ran :
      (process standard download).run (environment.disturbed disturbance) (start, 0) =
        (conclude download .aborted).run (environment.disturbed disturbance)
          (noted, disturbance.number + 1) := by
    rw [process_eq, run_bind, run_catching, ended]
    rfl
  have happens :
      (process standard download).history (environment.disturbed disturbance) (start, 0) =
        done ++ .panicked call disturbance.panic ::
          .acted (.note (.runPanicked download.location)) () ::
            (conclude download .aborted).history environment noted := by
    rw [process_eq, history_bind, history_catching, run_catching, cut, ended, ← sameHistory,
      List.append_assoc, List.append_assoc]
    rfl
  have calmAfterwards : ((conclude download .aborted).history environment noted).Calm := by
    have quiet : ¬ Event.isPanic (.acted (.note (.runPanicked download.location)) ()) = true :=
      Bool.false_ne_true
    rw [happens, List.countP_append, List.countP_cons_of_pos rfl, List.countP_cons_of_neg quiet]
      at alone
    have never :
        ((conclude download .aborted).history environment noted).countP Event.isPanic = 0 := by
      omega
    simpa [History.Calm] using List.countP_eq_zero.mp never
  obtain ⟨outcome, value⟩ := (conclude_plain download .aborted).forwards.exists_value calmAfterwards
  have course := leads_run environment (conclude download .aborted) noted
  rw [value] at course
  obtain ⟨rfl, cleaning, began, cleans, concluded⟩ := concludes_of_leads course
  have passes := passes_run environment (conclude download .aborted) noted
  rw [concluded] at happens passes
  rw [ran, sameResult, sameState, value, happens]
  refine ⟨rfl, ?_, .intro (by omega) reached effects rfl cleans cleans.calls_eq ⟨noted, rfl, passes⟩⟩
  have untold := untold_of_calm calm
  rw [reached, History.calls_append, History.calls_answered, List.filter_append,
    List.append_eq_nil_iff] at untold
  obtain ⟨untoldBefore, untoldThen⟩ := untold
  have other : isCallback call = false := by
    simpa using List.filter_eq_nil_iff.mp untoldThen call List.mem_cons_self
  simp only [History.calls_append, History.calls_panicked, History.calls_acted, List.filter_append,
    List.filter_cons, untoldBefore, other, cleans.untold]
  rfl

/-- The blocklist is asked second, and it panics. -/
def faultyBlocklist : Disturbance Unit where
  number := 1
  panic := ⟨"out of order"⟩
  harm _ _ := ()

/-- A greeting whose fetch was stale, as the blocklist panics. -/
theorem process_contained_staleGreeting :
    ((receive staleGreeting .standard).history smoothWorld ()).Calm ∧
    faultyBlocklist.number <
      ((receive staleGreeting .standard).history smoothWorld ()).calls.length ∧
    ((process .standard staleGreeting).history
      (smoothWorld.disturbed faultyBlocklist) ((), 0)).countP Event.isPanic ≤ 1 ∧
    ((process .standard staleGreeting).run (smoothWorld.disturbed faultyBlocklist) ((), 0)).1 =
        .ok .aborted ∧
      ((process .standard staleGreeting).history
        (smoothWorld.disturbed faultyBlocklist) ((), 0)).calls.filter isCallback = [] ∧
      Contained smoothWorld faultyBlocklist staleGreeting ()
        ((process .standard staleGreeting).run
          (smoothWorld.disturbed faultyBlocklist) ((), 0)).2.1
        ((receive staleGreeting .standard).history smoothWorld ())
        ((process .standard staleGreeting).history
          (smoothWorld.disturbed faultyBlocklist) ((), 0)) := by
  have calm : ((receive staleGreeting .standard).history smoothWorld ()).Calm := by
    unfold History.Calm
    decide
  have put :
      faultyBlocklist.number <
        ((receive staleGreeting .standard).history smoothWorld ()).calls.length := by
    decide
  have alone :
      ((process .standard staleGreeting).history
        (smoothWorld.disturbed faultyBlocklist) ((), 0)).countP Event.isPanic ≤ 1 := by
    decide
  exact ⟨calm, put, alone,
    process_contained smoothWorld faultyBlocklist .standard staleGreeting () calm put alone⟩

end MmsInbox.Receive
