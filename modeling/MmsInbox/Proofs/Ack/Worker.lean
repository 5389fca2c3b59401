import MmsInbox.Ack.Traffic
import MmsInbox.Program.Assurance

namespace MmsInbox

/-!
# What the worker does

Each step of the worker of a lane is one of a few moves (`Lane.Works`, `Lane.works_of_step?`). What the
worker puts to the world as it makes them is a chronicle of what is seen of it (`Chronicle`): between two
sends there is one course of a whole delivery for each attempt, and one notice for each discarded task.
-/

open Program

namespace Lane

variable {σ : Type}

/-- What the worker can do in one step, with what is seen of it. -/
inductive Works
    (environment : Environment σ)
    (settings : AckSettings)
    (lane : Lane)
    (world : σ) :
    List LaneEvent → Lane → σ → Prop where
  | hears
      {news : Except SignalLoss Signal}
      {signals : SignalInbox}
      (waiting : lane.worker = .waiting)
      (received : lane.signals.receive? = some (news, signals)) :
      Works environment settings lane world [.heard news]
        (lane.heed environment news signals world).1 (lane.heed environment news signals world).2
  | begins
      {task : AckTask}
      {later : List AckTask}
      (waiting : lane.worker = .waiting)
      (quiet : lane.signals.receive? = none)
      (queued : lane.queue = task :: later) :
      Works environment settings lane world [.began task]
        (lane.beginSend settings task later false) world
  | drains
      {task : AckTask}
      {later : List AckTask}
      (draining : lane.worker = .draining)
      (queued : lane.queue = task :: later) :
      Works environment settings lane world [.began task]
        (lane.beginSend settings task later true) world
  | discards
      {task : AckTask}
      {later : List AckTask}
      (discarding : lane.worker = .discarding)
      (queued : lane.queue = task :: later) :
      Works environment settings lane world [.discarded task]
        { lane with queue := later } (environment.note (.droppedAtShutdown task) world)
  | abandons
      (waiting : lane.worker = .waiting)
      (unhandled : lane.handles = 0)
      (empty : lane.queue = []) :
      Works environment settings lane world [.stopped] lane.stop world
  | finishes
      (closing : lane.worker = .draining ∨ lane.worker = .discarding)
      (empty : lane.queue = []) :
      Works environment settings lane world [.stopped] lane.stop world
  | sends
      {rest remaining : Program Unit}
      {draining : Bool}
      {later : σ}
      (sending : lane.worker = .sending rest draining)
      (stepped : rest.step? environment world = some (remaining, later)) :
      Works environment settings lane world (lane.seen (lane.afterSend remaining draining))
        (lane.afterSend remaining draining) later
  | settles
      {rest : Program Unit}
      {draining : Bool}
      (sending : lane.worker = .sending rest draining)
      (atEnd : rest.step? environment world = none) :
      Works environment settings lane world (lane.seen (lane.afterSend rest draining))
        (lane.afterSend rest draining) world

/-- Every step of the worker is one of these. -/
theorem works_of_step?
    {environment : Environment σ}
    {settings : AckSettings}
    {lane next : Lane}
    {world later : σ}
    (stepped : lane.step? environment settings world = some (next, later)) :
    Works environment settings lane world (lane.seen next) next later := by
  cases doing : lane.worker with
  | waiting =>
      cases received : lane.signals.receive? with
      | some heard =>
          obtain ⟨news, signals⟩ := heard
          simp only [step?, move?, doing, received, Option.some.injEq] at stepped
          have hears : Works environment settings lane world [.heard news]
              (lane.heed environment news signals world).1
              (lane.heed environment news signals world).2 := .hears doing received
          simpa [seen, doing, received, stepped] using hears
      | none =>
          cases queued : lane.queue with
          | cons task rest =>
              simp only [step?, move?, doing, received, queued, Option.some.injEq,
                Prod.mk.injEq] at stepped
              obtain ⟨rfl, rfl⟩ := stepped
              simpa [seen, doing, received, queued] using Works.begins doing received queued
          | nil =>
              by_cases unhandled : lane.handles = 0
              · simp only [step?, move?, doing, received, queued, unhandled, ↓reduceIte,
                  Option.some.injEq, Prod.mk.injEq] at stepped
                obtain ⟨rfl, rfl⟩ := stepped
                simpa [seen, doing, received, queued] using Works.abandons doing unhandled queued
              · simp [step?, move?, doing, received, queued, unhandled] at stepped
  | sending rest draining =>
      cases going : rest.step? environment world with
      | some reached =>
          obtain ⟨remaining, after⟩ := reached
          simp only [step?, doing, going, Option.some.injEq, Prod.mk.injEq] at stepped
          obtain ⟨rfl, rfl⟩ := stepped
          exact .sends doing going
      | none =>
          simp only [step?, doing, going, Option.some.injEq, Prod.mk.injEq] at stepped
          obtain ⟨rfl, rfl⟩ := stepped
          exact .settles doing going
  | draining =>
      cases queued : lane.queue with
      | cons task rest =>
          simp only [step?, move?, doing, queued, Option.some.injEq, Prod.mk.injEq] at stepped
          obtain ⟨rfl, rfl⟩ := stepped
          simpa [seen, doing, queued] using Works.drains doing queued
      | nil =>
          simp only [step?, move?, doing, queued, Option.some.injEq, Prod.mk.injEq] at stepped
          obtain ⟨rfl, rfl⟩ := stepped
          simpa [seen, doing, queued] using Works.finishes (.inl doing) queued
  | discarding =>
      cases queued : lane.queue with
      | cons task rest =>
          simp only [step?, move?, doing, queued, Option.some.injEq, Prod.mk.injEq] at stepped
          obtain ⟨rfl, rfl⟩ := stepped
          simpa [seen, doing, queued] using Works.discards doing queued
      | nil =>
          simp only [step?, move?, doing, queued, Option.some.injEq, Prod.mk.injEq] at stepped
          obtain ⟨rfl, rfl⟩ := stepped
          simpa [seen, doing, queued] using Works.finishes (.inr doing) queued
  | stopped => simp [step?, move?, doing] at stepped
  | panicked panic => simp [step?, move?, doing] at stepped

end Lane

/-- What the worker puts to the world as it is seen to do something, between two sends. -/
inductive Chronicle (settings : AckSettings) : List LaneEvent → History → Prop where
  | start : Chronicle settings [] []
  | heard
      {log : List LaneEvent}
      {record : History}
      (before : Chronicle settings log record)
      (signal : Signal) :
      Chronicle settings (log ++ [.heard (.ok signal)]) record
  | lost
      {log : List LaneEvent}
      {record : History}
      (before : Chronicle settings log record)
      (loss : SignalLoss) :
      Chronicle settings (log ++ [.heard (.error loss)])
        (record ++ [.acted (.note (.laneLostSignals loss)) ()])
  /-- An attempt is a whole delivery. -/
  | sent
      {log : List LaneEvent}
      {record course : History}
      {task : AckTask}
      (before : Chronicle settings log record)
      (delivered : Leads (Ack.deliver settings task) course (.done ())) :
      Chronicle settings (log ++ [.began task, .ended]) (record ++ course)
  | discarded
      {log : List LaneEvent}
      {record : History}
      (before : Chronicle settings log record)
      (task : AckTask) :
      Chronicle settings (log ++ [.discarded task])
        (record ++ [.acted (.note (.droppedAtShutdown task)) ()])
  | stopped
      {log : List LaneEvent}
      {record : History}
      (before : Chronicle settings log record) :
      Chronicle settings (log ++ [.stopped]) record

/-- The books of a worker are a chronicle, with one delivery that is still going on if the worker is in a
send. A worker has not ended in a panic unless somebody panicked. -/
def Chronicled
    (settings : AckSettings)
    (log : List LaneEvent)
    (record : History) :
    LaneWorker → Prop
  | .waiting => Chronicle settings log record
  | .sending rest _ =>
      ∃ earlier before task course,
        log = earlier ++ [.began task] ∧ record = before ++ course ∧
          Chronicle settings earlier before ∧ Leads (Ack.deliver settings task) course rest
  | .draining => Chronicle settings log record
  | .discarding => Chronicle settings log record
  | .stopped => Chronicle settings log record
  | .panicked _ => ¬ record.Calm

/-- The notices that tell what has become of a task that was not sent. -/
def losses : Focus where
  asks _ := false
  acts action :=
    match action with
    | .note (.laneClosed _) => true
    | .note (.droppedAtShutdown _) => true
    | _ => false

/-- Looking up a route tells of no task that was not sent. -/
theorem losses_aside_resolveRoute (subscription : Subscription) :
    Aside losses (Ack.resolveRoute subscription) := by
  refine Aside.bind (Aside.call rfl) fun credentials => ?_
  cases credentials with
  | none => exact Aside.done _
  | some credentials =>
      dsimp only
      split
      · exact Aside.done _
      · refine Aside.bind (Aside.call rfl) fun straight => ?_
        split
        · exact Aside.done _
        · split
          · exact Aside.done _
          · refine Aside.bind (Aside.call rfl) fun ensured => ?_
            cases ensured with
            | error error => exact Aside.done _
            | ok done => exact Aside.done _

/-- Posting tells of no task that was not sent. -/
theorem losses_aside_postOn
    (settings : AckSettings)
    (task : AckTask)
    (body : Bytes)
    (route : Route) :
    Aside losses (Ack.postOn settings task body route) := by
  refine Aside.bind (Aside.call rfl) fun _ => Aside.bind (Aside.call rfl) fun response => ?_
  cases response with
  | error error => exact Aside.done _
  | ok response =>
      dsimp only
      split
      · exact Aside.bind (Aside.perform rfl) fun _ => Aside.done _
      · exact Aside.done _

/-- A delivery tells of no task that was not sent. -/
theorem losses_aside_deliver
    (settings : AckSettings)
    (task : AckTask) :
    Aside losses (Ack.deliver settings task) := by
  have sent : Aside losses (Ack.send settings task) := by
    refine Aside.bind (Aside.call rfl) fun composed => ?_
    cases composed with
    | error error => exact Aside.done _
    | ok body =>
        refine Aside.bind (losses_aside_resolveRoute _) fun route => ?_
        rcases route with error | _ | route
        · exact Aside.done _
        · exact Aside.bind (Aside.perform rfl) fun _ => Aside.done _
        · exact losses_aside_postOn settings task body route
  refine Aside.bind sent fun result => ?_
  cases result with
  | ok status => exact Aside.done ()
  | error error => exact Aside.bind (Aside.perform rfl) fun _ => Aside.perform rfl

/-- A send that has come to its end without a panic was a whole delivery. -/
theorem Chronicled.afterSend
    {settings : AckSettings}
    {log : List LaneEvent}
    {record course : History}
    {task : AckTask}
    {lane : Lane}
    {rest remaining : Program Unit}
    {draining : Bool}
    (sending : lane.worker = .sending rest draining)
    (before : Chronicle settings log record)
    (leads : Leads (Ack.deliver settings task) course remaining)
    (calm : (record ++ course).Calm) :
    Chronicled settings
      (log ++ [.began task] ++ lane.seen (lane.afterSend remaining draining))
      (record ++ course) (lane.afterSend remaining draining).worker := by
  cases remaining with
  | done value =>
      have sent := before.sent leads
      cases draining <;> simpa [Lane.seen, Lane.afterSend, sending, Lane.isSending, Chronicled] using sent
  | unwound panic =>
      have ends : Leads (Ack.deliver settings task) course (ended (.error panic)) := leads
      obtain ⟨_, _, impossible, _⟩ :=
        (losses_aside_deliver settings task).leads ends (History.calm_append _ _ |>.mp calm).2
      cases impossible
  | ask call answered panicked =>
      simp only [Lane.seen, Lane.afterSend, sending, Lane.isSending, Chronicled]
      exact ⟨log, record, task, course, by simp, rfl, before, leads⟩
  | act action next =>
      simp only [Lane.seen, Lane.afterSend, sending, Lane.isSending, Chronicled]
      exact ⟨log, record, task, course, by simp, rfl, before, leads⟩

/-- Whatever the worker does, its books stay a chronicle. -/
theorem Chronicled.works
    {σ : Type}
    {environment : Environment σ}
    {settings : AckSettings}
    {lane next : Lane}
    {world later : σ}
    {log events : List LaneEvent}
    {record longer : History}
    (chronicled : Chronicled settings log record lane.worker)
    (works :
      Lane.Works environment.recorded settings lane (world, record) events next (later, longer))
    (calm : longer.Calm) :
    Chronicled settings (log ++ events) longer next.worker := by
  generalize finish : (later, longer) = reached at works
  cases works with
  | @hears news signals waiting received =>
      rw [waiting] at chronicled
      rcases news with loss | signal
      · obtain ⟨rfl, rfl⟩ := Prod.mk.inj finish
        exact chronicled.lost loss
      · cases signal with
        | finalised =>
            obtain ⟨rfl, rfl⟩ := Prod.mk.inj finish
            exact chronicled.heard .finalised
        | shutdown =>
            obtain ⟨rfl, rfl⟩ := Prod.mk.inj finish
            exact chronicled.heard .shutdown
  | @begins task queue waiting quiet queued =>
      obtain ⟨rfl, rfl⟩ := Prod.mk.inj finish
      rw [waiting] at chronicled
      exact ⟨log, longer, task, [], rfl, by simp, chronicled, .here _⟩
  | @drains task queue draining queued =>
      obtain ⟨rfl, rfl⟩ := Prod.mk.inj finish
      rw [draining] at chronicled
      exact ⟨log, longer, task, [], rfl, by simp, chronicled, .here _⟩
  | @discards task queue discarding queued =>
      obtain ⟨rfl, rfl⟩ := Prod.mk.inj finish
      rw [discarding] at chronicled
      simp only [discarding]
      exact chronicled.discarded task
  | abandons waiting unhandled empty =>
      obtain ⟨rfl, rfl⟩ := Prod.mk.inj finish
      rw [waiting] at chronicled
      exact chronicled.stopped
  | finishes closing empty =>
      obtain ⟨rfl, rfl⟩ := Prod.mk.inj finish
      rcases closing with draining | discarding
      · rw [draining] at chronicled
        exact chronicled.stopped
      · rw [discarding] at chronicled
        exact chronicled.stopped
  | @sends rest remaining draining after sending stepped =>
      subst finish
      rw [sending] at chronicled
      obtain ⟨earlier, before, task, course, rfl, rfl, chronicle, leads⟩ := chronicled
      obtain ⟨event, rfl, further⟩ := step?_recorded stepped
      have onward := leads.trans further
      rw [List.append_assoc before] at calm ⊢
      exact Chronicled.afterSend sending chronicle onward calm
  | @settles rest draining sending atEnd =>
      obtain ⟨rfl, rfl⟩ := Prod.mk.inj finish
      rw [sending] at chronicled
      obtain ⟨earlier, before, task, course, rfl, rfl, chronicle, leads⟩ := chronicled
      exact Chronicled.afterSend sending chronicle leads calm

end MmsInbox
