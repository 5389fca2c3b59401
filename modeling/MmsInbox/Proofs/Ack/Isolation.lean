import Mathlib.Data.List.Forall2
import Mathlib.Data.List.SplitBy
import MmsInbox.Program.Auditing
import MmsInbox.Proofs.Ack.Hearing
import MmsInbox.Proofs.Ack.Posting
import MmsInbox.Proofs.Ack.Settling
import MmsInbox.Proofs.Ack.Submitting

namespace MmsInbox

/-!
# A failed acknowledgment affects no other

A send begins as its unit is composed, so what the worker puts to the world falls into sends
(`History.sends`), and what has come of each of them can be told apart. If the worker is not told to drop
anything, it attempts all accepted tasks in their order, each in a send of its own
(`Submitters.Shift.served`), and each send has results of its own (`Submitters.Shift.exists_results`).
What comes of one send leaves the others as they are (`Submitters.failure_isolated`).
-/

open Program

namespace Ack

/-- The codec is asked to write a unit. -/
def isCompose : Call → Bool
  | .compose _ => true
  | _ => false

end Ack

/-- A unit is to be composed. -/
def Event.isComposing (event : Event) : Bool :=
  event.call?.any Ack.isCompose

instance Call.decidableEqAnswer : (call : Call) → DecidableEq call.Answer
  | .parse _ | .compose _ | .persist _ | .load _ | .deletePending _ | .updateRetrieveStatus _ _
  | .isAddressBlocked _ | .relayCredentials _ | .lineNumber _ | .onMessageReceived _ | .onError _
  | .submit _ | .prefersDirectPath | .ensureRouteToHost _ _ | .post _ | .awaitResponse =>
      inferInstance

/-- The event is as these results have it; nobody panics. -/
def Event.GivenBy (results : (call : Call) → call.Answer) : Event → Prop
  | .answered call answer => answer = results call
  | .panicked _ _ => False
  | .acted _ _ => True

instance Event.decidableGivenBy (results : (call : Call) → call.Answer) :
    DecidablePred (Event.GivenBy results)
  | .answered call answer => inferInstanceAs (Decidable (answer = results call))
  | .panicked _ _ => inferInstanceAs (Decidable False)
  | .acted _ _ => inferInstanceAs (Decidable True)

namespace History

/-- All that happens is as these results have it. -/
def GivenBy
    (results : (call : Call) → call.Answer)
    (history : History) :
    Prop :=
  ∀ event ∈ history, event.GivenBy results

/-- Where nobody panics and nothing is asked twice, results are given. -/
theorem exists_given
    {history : History}
    (calm : history.Calm)
    (once : history.calls.Nodup) :
    ∃ results, history.GivenBy results := by
  induction history with
  | nil => exact ⟨fun call => call.nonempty_answer.some, List.forall_mem_nil _⟩
  | cons event later inductionHypothesis =>
      obtain ⟨calmNow, calmLater⟩ := List.forall_mem_cons.mp calm
      cases event with
      | panicked call panic => cases calmNow
      | acted action answer =>
          obtain ⟨results, given⟩ := inductionHypothesis calmLater once
          exact ⟨results, List.forall_mem_cons.mpr ⟨trivial, given⟩⟩
      | answered call answer =>
          obtain ⟨unasked, onceLater⟩ := List.nodup_cons.mp once
          obtain ⟨results, given⟩ := inductionHypothesis calmLater onceLater
          refine ⟨Function.update results call answer, List.forall_mem_cons.mpr ⟨?_, ?_⟩⟩
          · exact (Function.update_self call answer results).symm
          · intro event member
            have givenThis := given event member
            cases event with
            | panicked other panic => exact givenThis
            | acted action reply => trivial
            | answered other reply =>
                have different : other ≠ call := by
                  rintro rfl
                  exact unasked (List.mem_filterMap.mpr ⟨_, member, rfl⟩)
                exact givenThis.trans (Function.update_of_ne different answer results).symm

/-- The sends in a history; each begins as a unit is composed. -/
def sends (history : History) : List History :=
  history.splitBy fun _ next => !next.isComposing

/-- A unit is composed at the beginning of a course and nowhere else. -/
def IsSend (course : History) : Prop :=
  ∃ first later,
    course = first :: later ∧ first.isComposing = true ∧ ∀ event ∈ later, event.isComposing = false

theorem flatten_sends (history : History) : history.sends.flatten = history :=
  List.flatten_splitBy _ _

/-- Sends one after another are told apart again. -/
theorem sends_flatten
    {courses : List History}
    (areSends : ∀ course ∈ courses, IsSend course) :
    sends courses.flatten = courses := by
  refine List.splitBy_flatten ?_ ?_ ?_
  · intro member
    obtain ⟨first, later, same, _⟩ := areSends [] member
    cases same
  · intro course member
    obtain ⟨first, later, rfl, _, quiet⟩ := areSends course member
    refine List.Pairwise.isChain (List.pairwise_cons.mpr ⟨?_, ?_⟩)
    · intro event follows
      simp [quiet event follows]
    · exact List.pairwise_of_forall_mem_list fun _ _ event follows => by simp [quiet event follows]
  · refine List.Pairwise.isChain (List.pairwise_of_forall_mem_list ?_)
    intro course member next nextMember
    obtain ⟨first, later, rfl, _, _⟩ := areSends course member
    obtain ⟨nextFirst, nextLater, rfl, composing, _⟩ := areSends next nextMember
    exact ⟨List.cons_ne_nil _ _, List.cons_ne_nil _ _, by simpa using composing⟩

end History

namespace Ack

variable
  {settings : AckSettings}
  {task : AckTask}
  {course : History}

theorem isComposing_of_calls
    {history : History}
    (uncomposed : ∀ call ∈ history.calls, isCompose call = false) :
    ∀ event ∈ history, event.isComposing = false := by
  intro event member
  cases put : event.call? with
  | none => simp [Event.isComposing, put]
  | some call =>
      have asked : call ∈ history.calls := List.mem_filterMap.mpr ⟨event, member, put⟩
      simpa [Event.isComposing, put] using uncomposed call asked

/-- Nothing is composed while a route is looked up. -/
theorem Routes.uncomposed
    {subscription : Subscription}
    {found : Except RouteError (Option Route)}
    {history : History}
    (routes : Routes subscription found history) :
    ∀ call ∈ history.calls, isCompose call = false := by
  intro call put
  have routing := routes.kind call put
  cases call <;> first | rfl | cases routing

/-- A send composes its unit first, and nothing else. -/
theorem Sends.composes
    (sends : Sends settings task course) :
    ∃ composed later,
      course = .answered (.compose task.attempt.pdu) composed :: later ∧
        ∀ call ∈ History.calls later, isCompose call = false := by
  cases sends with
  | uncomposed error => exact ⟨_, _, rfl, by simp⟩
  | unrouted body routes nowhere unasked =>
      refine ⟨_, _, rfl, ?_⟩
      simpa [unasked] using routes.uncomposed
  | posted body routes awaits =>
      refine ⟨_, _, rfl, ?_⟩
      simp only [History.calls_append, History.calls_answered, awaits, List.mem_append, List.mem_cons]
      rintro call (routing | rfl | rfl | none)
      · exact routes.uncomposed call routing
      · rfl
      · rfl
      · cases none

/-- A delivery is a send, and then at most a word about its failure. -/
theorem deliver_split
    (leads : Leads (deliver settings task) course (.done ())) :
    ∃ sending telling,
      course = sending ++ telling ∧ Sends settings task sending ∧ History.calls telling = [] := by
  obtain ⟨result, sending, telling, rfl, sends, tells⟩ := leads_bind_done.mp leads
  refine ⟨sending, telling, rfl, sends_of_leads sends, ?_⟩
  cases result with
  | ok status =>
      obtain ⟨rfl, _⟩ := leads_done.mp tells
      rfl
  | error error =>
      obtain ⟨_, rest, rfl, afterNoting⟩ := leads_perform_bind.mp tells
      obtain rfl := leads_perform_done.mp afterNoting
      rfl

/-- A delivery composes one unit, at its beginning. -/
theorem isSend_of_leads (leads : Leads (deliver settings task) course (.done ())) :
    course.IsSend := by
  obtain ⟨sending, telling, rfl, sends, silent⟩ := deliver_split leads
  obtain ⟨composed, later, rfl, uncomposed⟩ := sends.composes
  refine ⟨_, later ++ telling, rfl, rfl, isComposing_of_calls ?_⟩
  simpa [silent] using uncomposed

/-- A route is looked up without asking anything twice. -/
theorem Routes.nodup
    {subscription : Subscription}
    {found : Except RouteError (Option Route)}
    {history : History}
    (routes : Routes subscription found history) :
    history.calls.Nodup := by
  cases routes <;> simp [History.calls, Event.call?]

/-- A send asks nothing twice. -/
theorem Sends.nodup
    (sends : Sends settings task course) :
    course.calls.Nodup := by
  cases sends with
  | uncomposed error => simp
  | unrouted body routes nowhere unasked =>
      simp only [History.calls_answered, History.calls_append, unasked, List.append_nil]
      refine List.nodup_cons.mpr ⟨fun put => ?_, routes.nodup⟩
      cases routes.kind _ put
  | posted body routes awaits =>
      simp only [History.calls_answered, History.calls_append, awaits]
      refine List.nodup_cons.mpr ⟨fun put => ?_, ?_⟩
      · rcases List.mem_append.mp put with put | put
        · cases routes.kind _ put
        · simp at put
      · refine List.nodup_append.mpr ⟨routes.nodup, by simp, ?_⟩
        rintro call put _ posting rfl
        have routing := routes.kind call put
        simp only [List.mem_cons, List.not_mem_nil, or_false] at posting
        rcases posting with rfl | rfl <;> cases routing

/-- A delivery asks nothing twice. -/
theorem nodup_of_leads (leads : Leads (deliver settings task) course (.done ())) :
    course.calls.Nodup := by
  obtain ⟨sending, telling, rfl, sends, silent⟩ := deliver_split leads
  simpa [silent] using sends.nodup

/-- A delivery posts at most once. -/
theorem countP_isPost_of_leads (leads : Leads (deliver settings task) course (.done ())) :
    course.calls.countP isPost ≤ 1 := by
  obtain ⟨sending, telling, rfl, sends, silent⟩ := deliver_split leads
  simpa [silent] using sends.countP_isPost_le_one

/-- A panic ends a delivery, and a delivery does nothing on its own but write down. -/
theorem deliver_plain
    (settings : AckSettings)
    (task : AckTask) :
    (deliver settings task).Plain Event.WritesDown := by
  refine Plain.bind (send_plain settings task) ?_
  intro result
  cases result with
  | ok status => exact .done _
  | error error => exact .bind (.perform fun _ => trivial) fun _ => .perform fun _ => trivial

/-- What two deliveries of a task have the same results for is the same in both. -/
theorem course_eq_of_given
    {other : History}
    {results : (call : Call) → call.Answer}
    (leads : Leads (deliver settings task) course (.done ()))
    (leadsToo : Leads (deliver settings task) other (.done ()))
    (given : course.GivenBy results)
    (givenToo : other.GivenBy results) :
    course = other := by
  have plain := deliver_plain settings task
  have agree : course.Agree other := by
    refine ⟨fun inFirst inSecond => ?_, fun {action _ _} inFirst _ => ?_⟩
    · exact (given _ inFirst).trans (givenToo _ inSecond).symm
    · have writes := (plain.keeps.of_leads leads).1 _ inFirst
      cases action with
      | audit event => rfl
      | note notice => rfl
      | _ => exact writes.elim
  exact (leads.unique leadsToo (plain.forwards.calm_of_leads leads)
    (plain.forwards.calm_of_leads leadsToo) agree).1

end Ack

/-- The worker has heard nothing but, perhaps, the order to finish, and has thrown nothing away. -/
structure Undropped (log : List LaneEvent) : Prop where
  heard : ∀ news ∈ log.filterMap LaneEvent.news?, news = .ok .finalised
  kept : log.filterMap LaneEvent.discarded? = []

/-- What was not dropped was not dropped before. -/
theorem Undropped.earlier
    {log events : List LaneEvent}
    (undropped : Undropped (log ++ events)) :
    Undropped log := by
  obtain ⟨heard, kept⟩ := undropped
  rw [List.filterMap_append] at heard kept
  exact ⟨fun news member => heard news (List.mem_append_left _ member),
    (List.append_eq_nil_iff.mp kept).1⟩

/-- The worker has made a delivery for each attempt, one after another. Whatever else it has put to the
world was not for the audit, and there is nothing else if nothing was dropped. -/
theorem Chronicle.attempts
    {settings : AckSettings}
    {log : List LaneEvent}
    {record : History}
    (chronicle : Chronicle settings log record) :
    ∃ courses : List History,
      List.Forall₂ (fun task course => Leads (Ack.deliver settings task) course (.done ()))
          (log.filterMap LaneEvent.attempted?) courses ∧
        courses.flatten.Sublist record ∧
        record.audits = courses.flatMap History.audits ∧
        (Undropped log → record = courses.flatten) := by
  induction chronicle with
  | start => exact ⟨[], .nil, .slnil, rfl, fun _ => rfl⟩
  | heard before signal inductionHypothesis =>
      obtain ⟨courses, deliveries, within, told, whole⟩ := inductionHypothesis
      exact ⟨courses, by simpa [List.filterMap_cons, LaneEvent.attempted?] using deliveries,
        within, told, fun undropped => whole undropped.earlier⟩
  | lost before loss inductionHypothesis =>
      obtain ⟨courses, deliveries, within, told, _⟩ := inductionHypothesis
      refine ⟨courses, by simpa [List.filterMap_cons, LaneEvent.attempted?] using deliveries,
        within.trans (List.sublist_append_left _ _), ?_, fun undropped => ?_⟩
      · simpa [Action.audited?] using told
      · cases undropped.heard (.error loss) (by simp [LaneEvent.news?])
  | @sent _ _ course task before delivered inductionHypothesis =>
      obtain ⟨courses, deliveries, within, told, whole⟩ := inductionHypothesis
      refine ⟨courses ++ [course], ?_, ?_, by simp [told], fun undropped => ?_⟩
      · simpa [List.filterMap_cons, LaneEvent.attempted?] using
          List.rel_append deliveries (.cons delivered .nil)
      · simpa using within.append (List.Sublist.refl course)
      · simp [whole undropped.earlier]
  | discarded before task inductionHypothesis =>
      obtain ⟨courses, deliveries, within, told, _⟩ := inductionHypothesis
      refine ⟨courses, by simpa [List.filterMap_cons, LaneEvent.attempted?] using deliveries,
        within.trans (List.sublist_append_left _ _), ?_, fun undropped => ?_⟩
      · simpa [Action.audited?] using told
      · have kept := undropped.kept
        simp [LaneEvent.discarded?] at kept
  | stopped before inductionHypothesis =>
      obtain ⟨courses, deliveries, within, told, whole⟩ := inductionHypothesis
      exact ⟨courses, by simpa [List.filterMap_cons, LaneEvent.attempted?] using deliveries,
        within, told, fun undropped => whole undropped.earlier⟩

/-- If nothing was dropped, the worker has put to the world one delivery after another, one for each
attempt. -/
theorem Chronicle.deliveries
    {settings : AckSettings}
    {log : List LaneEvent}
    {record : History}
    (chronicle : Chronicle settings log record)
    (undropped : Undropped log) :
    ∃ courses : List History,
      record = courses.flatten ∧
        List.Forall₂ (fun task course => Leads (Ack.deliver settings task) course (.done ()))
          (log.filterMap LaneEvent.attempted?) courses := by
  obtain ⟨courses, deliveries, _, _, whole⟩ := chronicle.attempts
  exact ⟨courses, whole undropped, deliveries⟩

/-- Each delivery in a row is one of some task. -/
theorem Ack.exists_task
    {settings : AckSettings}
    {tasks : List AckTask}
    {courses : List History}
    (deliveries :
      List.Forall₂ (fun task course => Leads (deliver settings task) course (.done ()))
        tasks courses)
    {course : History}
    (member : course ∈ courses) :
    ∃ task, Leads (deliver settings task) course (.done ()) := by
  obtain ⟨lengths, delivers⟩ := List.forall₂_iff_get.mp deliveries
  obtain ⟨position, within, rfl⟩ := List.mem_iff_getElem.mp member
  exact ⟨_, delivers position (by omega) within⟩

namespace Submitters

variable
  {σ τ : Type}
  {surroundings : Surroundings σ}
  {settings : AckSettings}
  {submitters : Submitters σ}

/-- A shift of the worker of a new lane: it has gone on until it had nothing left to do. Nobody panicked,
and the worker was not told to drop what was queued. -/
structure Shift
    (surroundings : Surroundings σ)
    (settings : AckSettings)
    (submitters : Submitters σ) :
    Prop where
  ran :
    ∃ signalCapacity world moves,
      run? surroundings settings moves (.new signalCapacity world) = some submitters
  calm : submitters.traffic.record.Calm
  /-- Signals that are lost count as an order to drop what is queued. -/
  heard : ∀ news ∈ submitters.traffic.news, news = .ok .finalised
  resting : submitters.step? surroundings settings .work = none

/-- All accepted tasks have been sent. -/
structure Served
    (settings : AckSettings)
    (submitters : Submitters σ) :
    Prop where
  /-- The tasks were attempted in the order in which they were accepted. -/
  inOrder : submitters.traffic.attempted = submitters.traffic.accepted
  /-- Each task has a delivery of its own, in that order. -/
  deliveries :
    List.Forall₂ (fun task course => Leads (Ack.deliver settings task) course (.done ()))
      submitters.traffic.accepted submitters.traffic.record.sends
  /-- In each delivery one unit is composed, at the beginning. -/
  apart : ∀ course ∈ submitters.traffic.record.sends, course.IsSend
  /-- No task is posted twice. -/
  postedOnce :
    ∀ course ∈ submitters.traffic.record.sends, course.calls.countP Ack.isPost ≤ 1
  /-- The lane goes on accepting tasks, as long as nobody told it to finish and somebody can submit. -/
  accepting :
    submitters.traffic.news = [] → submitters.traffic.lane.handles ≠ 0 →
      submitters.traffic.lane.accepting = true

/-- What is no broadcast leaves the lane quiet. -/
theorem quiet_of_step?
    {later : Submitters σ}
    {move : Move σ}
    (quiet : submitters.traffic.Quiet)
    (silent : move.isSilent = true)
    (stepped : submitters.step? surroundings settings move = some later) :
    later.traffic.Quiet := by
  cases happens_of_step? stepped with
  | submits tasks => exact quiet
  | pushes present => exact quiet.push _ _
  | passes _ unbroadcast passed => exact quiet.step (unbroadcast silent) passed

/-- As long as nothing is broadcast, the lane stays quiet. -/
theorem quiet_of_run?
    {later : Submitters σ}
    {moves : List (Move σ)}
    (quiet : submitters.traffic.Quiet)
    (silent : ∀ move ∈ moves, move.isSilent = true)
    (ran : run? surroundings settings moves submitters = some later) :
    later.traffic.Quiet := by
  induction moves generalizing submitters with
  | nil =>
      obtain rfl := Option.some.inj ran
      exact quiet
  | cons move moves inductionHypothesis =>
      obtain ⟨now, afterwards⟩ := List.forall_mem_cons.mp silent
      obtain ⟨next, stepped, ranOn⟩ := Option.bind_eq_some_iff.mp ran
      exact inductionHypothesis (quiet_of_step? quiet now stepped) afterwards ranOn

/-- The results of the sends, by position. -/
def GivenBy
    (results : Nat → (call : Call) → call.Answer)
    (submitters : Submitters σ) :
    Prop :=
  ∀ (position : Nat) (course : History),
    submitters.traffic.record.sends[position]? = some course → course.GivenBy (results position)

/-- A worker that is among submitters and has nothing left to do has nothing left to do on its lane. -/
theorem lane_step?_of_step?
    (resting : submitters.step? surroundings settings .work = none) :
    submitters.traffic.lane.step? surroundings.lane settings submitters.traffic.world = none := by
  cases stepped : submitters.traffic.lane.step? surroundings.lane settings
      submitters.traffic.world with
  | none => rfl
  | some reached =>
      obtain ⟨after, worked, _⟩ := step?_work stepped
      rw [resting] at worked
      cases worked

/-- If the worker is left alone, it goes on until it has nothing left to do. -/
theorem exists_resting
    (surroundings : Surroundings σ)
    (settings : AckSettings)
    (submitters : Submitters σ) :
    ∃ count reached,
      run? surroundings settings (List.replicate count .work) submitters = some reached ∧
        reached.step? surroundings settings .work = none := by
  obtain ⟨count, reached, ran, _, arrived⟩ :=
    @run?_settle σ surroundings settings (fun _ => false) submitters
  refine ⟨count, reached, ran, ?_⟩
  have still := @Lane.step?_settle σ surroundings.lane settings submitters.traffic.lane
    submitters.traffic.world
  rw [← arrived, ← Lane.step?_recorded _ _ reached.traffic.record, Option.map_eq_none_iff] at still
  simp [step?, pass?, Traffic.step?, Traffic.work?, still]

namespace Shift

/-- If nothing is broadcast and nobody panics, the worker has had a shift once it has nothing left to do. -/
theorem of_silent
    {signalCapacity : Nat}
    {world : σ}
    {moves : List (Move σ)}
    (ran : run? surroundings settings moves (.new signalCapacity world) = some submitters)
    (silent : ∀ move ∈ moves, move.isSilent = true)
    (calm : submitters.traffic.record.Calm)
    (resting : submitters.step? surroundings settings .work = none) :
    Shift surroundings settings submitters where
  ran := ⟨signalCapacity, world, moves, ran⟩
  calm := calm
  heard := by
    have quiet := quiet_of_run? (.new signalCapacity world) silent ran
    simp [quiet.unheard]
  resting := resting

theorem accounts (shift : Shift surroundings settings submitters) :
    submitters.traffic.Accounts settings := by
  obtain ⟨signalCapacity, world, moves, ran⟩ := shift.ran
  exact ((Kept.new signalCapacity world).run ran).accounts shift.calm

/-- At the end of a shift the books are a chronicle, nothing is queued, nothing was thrown away, and the
lane is open unless somebody told it to finish or nobody can submit. -/
theorem closes (shift : Shift surroundings settings submitters) :
    Chronicle settings submitters.traffic.log submitters.traffic.record ∧
      submitters.traffic.lane.queue = [] ∧ submitters.traffic.discarded = [] ∧
        (submitters.traffic.news = [] → submitters.traffic.lane.handles ≠ 0 →
          submitters.traffic.lane.accepting = true) := by
  rcases Lane.idle_of_step? (lane_step?_of_step? shift.resting) with
    ⟨waiting, empty, handled⟩ | ended
  · have chronicle := shift.accounts.chronicled
    rw [waiting] at chronicle
    obtain ⟨accepting, _, kept⟩ := shift.accounts.standing.of_serving (.inl waiting)
    exact ⟨chronicle, empty, kept, fun _ _ => accepting⟩
  · obtain ⟨chronicle, empty, cause, spared⟩ := shift.accounts.of_hasEnded shift.calm ended
    refine ⟨chronicle, empty, spared ?_, fun unheard handled => ?_⟩
    · rcases cause with ⟨unheard, _⟩ | ⟨order, heard⟩
      · exact .inl unheard
      · have finishing := shift.heard order (by simp [heard])
        exact .inr (by rw [heard, finishing])
    · rcases cause with ⟨_, unhandled⟩ | ⟨order, heard⟩
      · exact absurd unhandled handled
      · simp [unheard] at heard

/-- On a shift all accepted tasks are sent. -/
theorem served (shift : Shift surroundings settings submitters) :
    submitters.Served settings := by
  obtain ⟨chronicle, empty, kept, accepting⟩ := shift.closes
  have inOrder : submitters.traffic.attempted = submitters.traffic.accepted := by
    simp [shift.accounts.balanced, kept, empty]
  obtain ⟨courses, whole, deliveries⟩ := chronicle.deliveries ⟨shift.heard, kept⟩
  have apart : ∀ course ∈ courses, History.IsSend course := by
    intro course member
    obtain ⟨task, leads⟩ := Ack.exists_task deliveries member
    exact Ack.isSend_of_leads leads
  have sends : submitters.traffic.record.sends = courses := by
    rw [whole, History.sends_flatten apart]
  rw [← sends] at deliveries apart
  refine ⟨inOrder, inOrder ▸ deliveries, apart, fun course member => ?_, accepting⟩
  obtain ⟨task, leads⟩ := Ack.exists_task deliveries member
  exact Ack.countP_isPost_of_leads leads

/-- Every shift has results, as a send asks nothing twice. -/
theorem exists_results (shift : Shift surroundings settings submitters) :
    ∃ results, submitters.GivenBy results := by
  have sendWise :
      ∀ position : Nat, ∃ results : (call : Call) → call.Answer,
        ∀ course, submitters.traffic.record.sends[position]? = some course →
          course.GivenBy results := by
    intro position
    cases sent : submitters.traffic.record.sends[position]? with
    | none => exact ⟨fun call => call.nonempty_answer.some, nofun⟩
    | some course =>
        have member := List.mem_of_getElem? sent
        obtain ⟨task, leads⟩ := Ack.exists_task shift.served.deliveries member
        have calm : course.Calm := by
          intro event within
          refine shift.calm event ?_
          rw [← History.flatten_sends submitters.traffic.record]
          exact List.mem_flatten_of_mem member within
        obtain ⟨results, given⟩ := History.exists_given calm (Ack.nodup_of_leads leads)
        refine ⟨results, fun other same => ?_⟩
        obtain rfl := Option.some.inj same
        exact given
  choose results given using sendWise
  exact ⟨results, given⟩

end Shift

/-- A send that has the same results among two groups of submitters with the same tasks is the same in
both. -/
theorem Served.send_eq
    {others : Submitters τ}
    {position : Nat}
    {given : (call : Call) → call.Answer}
    (served : submitters.Served settings)
    (servedToo : others.Served settings)
    (sameTasks : others.traffic.accepted = submitters.traffic.accepted)
    (first :
      ∀ course, submitters.traffic.record.sends[position]? = some course → course.GivenBy given)
    (second :
      ∀ course, others.traffic.record.sends[position]? = some course → course.GivenBy given) :
    others.traffic.record.sends[position]? = submitters.traffic.record.sends[position]? := by
  have deliveriesToo := servedToo.deliveries
  rw [sameTasks] at deliveriesToo
  obtain ⟨lengths, delivers⟩ := List.forall₂_iff_get.mp served.deliveries
  obtain ⟨lengthsToo, deliversToo⟩ := List.forall₂_iff_get.mp deliveriesToo
  rcases Nat.lt_or_ge position submitters.traffic.accepted.length with within | beyond
  · have sent := List.getElem?_eq_getElem (lengths ▸ within)
    have sentToo := List.getElem?_eq_getElem (lengthsToo ▸ within)
    rw [sent, sentToo]
    exact congrArg some
      (Ack.course_eq_of_given (deliversToo position within _) (delivers position within _)
        (second _ sentToo) (first _ sent))
  · rw [List.getElem?_eq_none (by omega), List.getElem?_eq_none (by omega)]

/-- A failed acknowledgment affects no other. Whatever goes on on and around two lanes that accept the same
tasks, each comes to rest if its worker is left alone; and if the results of the sends differ at one
position only, then by the time both are at rest both have attempted all tasks in order, each in a send of
its own that posts once at most, and the sends at all other positions are the same, with all that they
post. -/
theorem failure_isolated
    {surroundingsToo : Surroundings τ}
    {results resultsToo : Nat → (call : Call) → call.Answer}
    {others : Submitters τ}
    {exceptional : Nat}
    (shift : Shift surroundings settings submitters)
    (shiftToo : Shift surroundingsToo settings others)
    (sameTasks : others.traffic.accepted = submitters.traffic.accepted)
    (given : submitters.GivenBy results)
    (givenToo : others.GivenBy resultsToo)
    (alike : ∀ position, position ≠ exceptional → resultsToo position = results position) :
    submitters.Served settings ∧ others.Served settings ∧
      (∀ position, position ≠ exceptional →
        others.traffic.record.sends[position]? = submitters.traffic.record.sends[position]?) ∧
      ∀ midway : Submitters σ, ∃ count reached,
        run? surroundings settings (List.replicate count .work) midway = some reached ∧
          reached.step? surroundings settings .work = none := by
  have served := shift.served
  have servedToo := shiftToo.served
  refine ⟨served, servedToo, fun position ordinary => ?_, exists_resting surroundings settings⟩
  have second : ∀ course, others.traffic.record.sends[position]? = some course →
      course.GivenBy (results position) := alike position ordinary ▸ givenToo position
  exact served.send_eq servedToo sameTasks (given position) second

/-- The relay can be reached directly and answers each post with a status. -/
def answering (status : UInt16) : (call : Call) → call.Answer
  | .parse _ => .error (.truncated 0)
  | .compose _ => .ok [1]
  | .persist _ => .error (.internal "")
  | .load _ => .error (.internal "")
  | .deletePending _ => .ok 0
  | .updateRetrieveStatus _ _ => .ok 0
  | .isAddressBlocked _ => false
  | .relayCredentials _ => some ⟨"mmsc:relay", none⟩
  | .lineNumber _ => none
  | .onMessageReceived _ => ()
  | .onError _ => ()
  | .submit _ => ()
  | .prefersDirectPath => true
  | .ensureRouteToHost _ _ => .ok ()
  | .post _ => ()
  | .awaitResponse => .ok ⟨status, []⟩

/-- The relay accepts all posts but the second, which it answers with a status. -/
def secondAnswered
    (status : UInt16)
    (position : Nat) :
    (call : Call) → call.Answer :=
  if position = 1 then answering status else answering 200

/-- A world that counts the sends, so as to have the results for each. -/
def counting (results : Nat → (call : Call) → call.Answer) : Environment Nat where
  answer call begun :=
    if Ack.isCompose call then (.ok (results begun call), begun + 1)
    else (.ok (results (begun - 1) call), begun)
  perform action begun :=
    match action with
    | .readFile _ => (.ok [], begun)
    | .removeFile _ => (.ok (), begun)
    | .finishDownload _ => (none, begun)
    | .audit _ => ((), begun)
    | .note _ => ((), begun)

/-- The worker and everybody else count together. -/
def counted (status : UInt16) : Surroundings Nat :=
  ⟨counting (secondAnswered status), counting (secondAnswered status)⟩

/-- Three tasks are pushed before the worker begins. -/
def three : List AckTask :=
  [response "a", response "b", response "c"]

/-- The three tasks are sent one after another, in so many steps of the worker, with the results of a
status for the second post. -/
def threeSent
    (status : UInt16)
    (steps : Nat) :
    Bool :=
  (run? (counted status) .standard
      (.submit three :: (List.replicate 3 (.push 0) ++ List.replicate steps .work))
      (.new 1 0)).any fun submitters =>
    submitters.traffic.accepted = three && submitters.traffic.record.all (!·.isPanic) &&
      (submitters.step? (counted status) .standard .work).isNone &&
      submitters.traffic.record.sends.zipIdx.all fun (course, position) =>
        List.all course fun event => decide (event.GivenBy (secondAnswered status position))

theorem shift_of_threeSent
    {status : UInt16}
    {steps : Nat}
    (sent : threeSent status steps = true) :
    ∃ submitters,
      Shift (counted status) .standard submitters ∧ submitters.traffic.accepted = three ∧
        submitters.GivenBy (secondAnswered status) := by
  obtain ⟨submitters, ran, holds⟩ := (Option.any_eq_true _ _).mp sent
  simp only [Bool.and_eq_true, decide_eq_true_eq, Option.isNone_iff_eq_none] at holds
  obtain ⟨⟨⟨accepted, untroubled⟩, resting⟩, given⟩ := holds
  refine ⟨submitters, .of_silent ran ?_ ?_ resting, accepted, ?_⟩
  · simp [Move.isSilent]
  · intro event member
    simpa using List.all_eq_true.mp untroubled event member
  · intro position course found event member
    have within := List.all_eq_true.mp given (course, position)
      (List.mem_zipIdx_iff_getElem?.mpr found)
    simpa using List.all_eq_true.mp within event member

/-- Whether the relay accepts the second of three posts or fails on it, the first and the third send are the
same. -/
theorem failure_isolated_serverError :
    ∃ submitters others,
      Shift (counted 200) .standard submitters ∧ Shift (counted 500) .standard others ∧
        others.traffic.accepted = submitters.traffic.accepted ∧
        submitters.GivenBy (secondAnswered 200) ∧ others.GivenBy (secondAnswered 500) ∧
        (∀ position, position ≠ 1 → secondAnswered 500 position = secondAnswered 200 position) ∧
        submitters.Served .standard ∧ others.Served .standard ∧
        ∀ position, position ≠ 1 →
          others.traffic.record.sends[position]? = submitters.traffic.record.sends[position]? := by
  obtain ⟨submitters, shift, accepted, given⟩ :=
    shift_of_threeSent (show threeSent 200 21 = true by decide +kernel)
  obtain ⟨others, shiftToo, acceptedToo, givenToo⟩ :=
    shift_of_threeSent (show threeSent 500 22 = true by decide +kernel)
  have sameTasks := acceptedToo.trans accepted.symm
  have alike :
      ∀ position, position ≠ 1 → secondAnswered 500 position = secondAnswered 200 position := by
    intro position ordinary
    simp [secondAnswered, ordinary]
  obtain ⟨served, servedToo, same, _⟩ :=
    failure_isolated shift shiftToo sameTasks given givenToo alike
  exact ⟨submitters, others, shift, shiftToo, sameTasks, given, givenToo, alike, served, servedToo,
    same⟩

end Submitters

end MmsInbox
