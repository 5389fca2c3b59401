import MmsInbox.Proofs.Ack.Worker

namespace MmsInbox

/-!
# The lane accounts for its tasks

Whatever happens on and around a lane, its books balance (`Traffic.Accounts`): the accepted tasks are the
attempted ones, then the discarded ones, then those in the queue. Each move of the traffic is a push, a step
of the worker or something around the worker (`Traffic.happens_of_step?`), and keeps the books balanced
(`Accounts.step`), as long as nobody panics in the worker's dealings with the world.
-/

open Program

namespace Chronicle

variable
  {settings : AckSettings}
  {log : List LaneEvent}
  {record : History}

/-- Between two sends every attempt is over. -/
theorem attempts_over (chronicle : Chronicle settings log record) :
    (log.filterMap LaneEvent.attempted?).length = log.countP LaneEvent.isEnded := by
  induction chronicle with
  | start => rfl
  | heard before signal inductionHypothesis =>
      simpa [List.filterMap_cons, LaneEvent.attempted?, LaneEvent.isEnded] using inductionHypothesis
  | lost before loss inductionHypothesis =>
      simpa [List.filterMap_cons, LaneEvent.attempted?, LaneEvent.isEnded] using inductionHypothesis
  | sent before delivered inductionHypothesis =>
      simpa [List.filterMap_cons, LaneEvent.attempted?, LaneEvent.isEnded] using inductionHypothesis
  | discarded before task inductionHypothesis =>
      simpa [List.filterMap_cons, LaneEvent.attempted?, LaneEvent.isEnded] using inductionHypothesis
  | stopped before inductionHypothesis =>
      simpa [List.filterMap_cons, LaneEvent.attempted?, LaneEvent.isEnded] using inductionHypothesis

/-- The notice that a task was thrown away. -/
def dropNotice (task : AckTask) : Event :=
  .acted (.note (.droppedAtShutdown task)) ()

/-- The worker tells of the tasks that it has thrown away, once each, and of no other task. -/
theorem losses_told
    (chronicle : Chronicle settings log record)
    (calm : record.Calm) :
    record.filter losses.sees = (log.filterMap LaneEvent.discarded?).map dropNotice := by
  induction chronicle with
  | start => rfl
  | heard before signal inductionHypothesis =>
      simpa [List.filterMap_cons, LaneEvent.discarded?] using inductionHypothesis calm
  | lost before loss inductionHypothesis =>
      have told := inductionHypothesis ((History.calm_append _ _).mp calm).1
      simpa [List.filterMap_cons, List.filter_cons, LaneEvent.discarded?, Focus.sees, losses] using told
  | @sent _ _ course task before delivered inductionHypothesis =>
      obtain ⟨calmBefore, calmCourse⟩ := (History.calm_append _ _).mp calm
      have told := inductionHypothesis calmBefore
      have silent := (losses_aside_deliver settings task).filter_eq_nil delivered calmCourse
      simpa [List.filterMap_cons, LaneEvent.discarded?, silent] using told
  | discarded before task inductionHypothesis =>
      have told := inductionHypothesis ((History.calm_append _ _).mp calm).1
      simpa [List.filterMap_cons, List.filter_cons, LaneEvent.discarded?, Focus.sees, losses,
        dropNotice] using told
  | stopped before inductionHypothesis =>
      simpa [List.filterMap_cons, LaneEvent.discarded?] using inductionHypothesis calm

end Chronicle

namespace Chronicled

variable
  {settings : AckSettings}
  {lane : Lane}
  {log : List LaneEvent}
  {record : History}

/-- Every attempt is over but the one of the send that the worker is in. -/
theorem attempts_over
    (chronicled : Chronicled settings log record lane.worker)
    (calm : record.Calm) :
    (log.filterMap LaneEvent.attempted?).length =
      log.countP LaneEvent.isEnded + (if lane.isSending then 1 else 0) := by
  unfold Lane.isSending
  cases doing : lane.worker with
  | sending rest draining =>
      rw [doing] at chronicled
      obtain ⟨earlier, before, task, course, rfl, rfl, chronicle, _⟩ := chronicled
      simpa [List.filterMap_cons, LaneEvent.attempted?, LaneEvent.isEnded] using chronicle.attempts_over
  | panicked panic =>
      rw [doing] at chronicled
      exact absurd calm chronicled
  | _ =>
      rw [doing] at chronicled
      exact Chronicle.attempts_over chronicled

/-- The worker tells of the tasks that it has thrown away, once each, and of no other task. -/
theorem losses_told
    (chronicled : Chronicled settings log record lane.worker)
    (calm : record.Calm) :
    record.filter losses.sees = (log.filterMap LaneEvent.discarded?).map Chronicle.dropNotice := by
  cases doing : lane.worker with
  | sending rest draining =>
      rw [doing] at chronicled
      obtain ⟨earlier, before, task, course, rfl, rfl, chronicle, leads⟩ := chronicled
      obtain ⟨calmBefore, calmCourse⟩ := (History.calm_append _ _).mp calm
      have told := chronicle.losses_told calmBefore
      have silent := (losses_aside_deliver settings task).filter_eq_nil leads calmCourse
      simpa [List.filterMap_cons, LaneEvent.discarded?, silent] using told
  | panicked panic =>
      rw [doing] at chronicled
      exact absurd calm chronicled
  | _ =>
      rw [doing] at chronicled
      exact Chronicle.losses_told chronicled calm

end Chronicled

/-- After news other than the order to finish, no attempt has begun. -/
def Obedient (log : List LaneEvent) : Prop :=
  ∀ before news after,
    log = before ++ .heard news :: after →
    news ≠ .ok .finalised →
    after.filterMap LaneEvent.attempted? = []

namespace Obedient

variable
  {log : List LaneEvent}
  {event : LaneEvent}

/-- What is seen next comes after all news, or is itself news. -/
theorem split
    {before after : List LaneEvent}
    {news : Except SignalLoss Signal}
    (shape : log ++ [event] = before ++ .heard news :: after) :
    after = [] ∨ ∃ between, after = between ++ [event] ∧ log = before ++ .heard news :: between := by
  rcases List.eq_nil_or_concat after with rfl | ⟨between, last, rfl⟩
  · exact .inl rfl
  · have regrouped : log ++ [event] = (before ++ .heard news :: between) ++ [last] := by
      simpa using shape
    obtain ⟨same, sameLast⟩ := List.append_inj' regrouped rfl
    cases sameLast
    exact .inr ⟨between, by simp, same⟩

/-- Whatever is no attempt may be seen at any time. -/
theorem next
    (obedient : Obedient log)
    (idle : event.attempted? = none) :
    Obedient (log ++ [event]) := by
  intro before news after shape serious
  rcases split shape with rfl | ⟨between, rfl, earlier⟩
  · rfl
  · have quiet := obedient before news between earlier serious
    simp [quiet, idle]

/-- An attempt may begin as long as no other news was heard. -/
theorem attempt
    (unheard :
      ∀ news ∈ log.filterMap LaneEvent.news?, news = .ok .finalised)
    (task : AckTask) :
    Obedient (log ++ [.began task]) := by
  intro before news after shape serious
  rcases split shape with rfl | ⟨between, rfl, earlier⟩
  · rfl
  · refine absurd (unheard news ?_) serious
    rw [earlier]
    exact List.mem_filterMap.mpr ⟨.heard news, by simp, rfl⟩

end Obedient

namespace Lane

variable
  {lane : Lane}
  {signal : Signal}

@[simp] theorem signal_worker : (lane.signal signal).worker = lane.worker := by
  unfold Lane.signal
  split <;> rfl

@[simp] theorem signal_accepting : (lane.signal signal).accepting = lane.accepting := by
  unfold Lane.signal
  split <;> rfl

@[simp] theorem signal_queue : (lane.signal signal).queue = lane.queue := by
  unfold Lane.signal
  split <;> rfl

@[simp] theorem signal_handles : (lane.signal signal).handles = lane.handles := by
  unfold Lane.signal
  split <;> rfl

/-- Reading news takes nothing from the queue. -/
@[simp] theorem heed_queue
    {σ : Type}
    {environment : Environment σ}
    {news : Except SignalLoss Signal}
    {signals : SignalInbox}
    {world : σ} :
    (lane.heed environment news signals world).1.queue = lane.queue := by
  rcases news with loss | signal
  · rfl
  · cases signal <;> rfl

/-- A part of a send takes nothing from the queue unless it ends in a panic. -/
theorem afterSend_queue
    {remaining : Program Unit}
    {draining : Bool}
    (sound : ∀ panic, (lane.afterSend remaining draining).worker ≠ .panicked panic) :
    (lane.afterSend remaining draining).queue = lane.queue := by
  cases remaining with
  | unwound panic => exact absurd rfl (sound panic)
  | _ => rfl

/-- Of a worker in a send nothing is seen but the end of the send. -/
theorem seen_of_sending
    {rest : Program Unit}
    {draining : Bool}
    (sending : lane.worker = .sending rest draining)
    (next : Lane) :
    lane.seen next = [] ∨ lane.seen next = [.ended] := by
  simp only [seen, sending]
  split
  · exact .inl rfl
  · exact .inr rfl

end Lane

/-- What goes on around a worker leaves the worker and its queue alone, and there are no new handles where
there are none. -/
structure Lane.Around (lane next : Lane) : Prop where
  worker : next.worker = lane.worker
  accepting : next.accepting = lane.accepting
  queue : next.queue = lane.queue
  handles : lane.handles = 0 → next.handles = 0

/-- How far a worker has come, by what it has heard. -/
inductive Standing
    (lane : Lane)
    (log : List LaneEvent) :
    Prop where
  | serving
      (worker : lane.worker = .waiting ∨ ∃ rest, lane.worker = .sending rest false)
      (accepting : lane.accepting = true)
      (news : log.filterMap LaneEvent.news? = [])
      (discarded : log.filterMap LaneEvent.discarded? = [])
  | draining
      (worker : lane.worker = .draining ∨ ∃ rest, lane.worker = .sending rest true)
      (accepting : lane.accepting = false)
      (news : log.filterMap LaneEvent.news? = [.ok .finalised])
      (discarded : log.filterMap LaneEvent.discarded? = [])
  | discarding
      {order : Except SignalLoss Signal}
      (worker : lane.worker = .discarding)
      (accepting : lane.accepting = false)
      (news : log.filterMap LaneEvent.news? = [order])
      (serious : order ≠ .ok .finalised)
  | abandoned
      (worker : lane.worker = .stopped)
      (accepting : lane.accepting = false)
      (queue : lane.queue = [])
      (handles : lane.handles = 0)
      (news : log.filterMap LaneEvent.news? = [])
      (discarded : log.filterMap LaneEvent.discarded? = [])
  | finished
      (worker : lane.worker = .stopped)
      (accepting : lane.accepting = false)
      (queue : lane.queue = [])
      (news : log.filterMap LaneEvent.news? = [.ok .finalised])
      (discarded : log.filterMap LaneEvent.discarded? = [])
  | halted
      {order : Except SignalLoss Signal}
      (worker : lane.worker = .stopped)
      (accepting : lane.accepting = false)
      (queue : lane.queue = [])
      (news : log.filterMap LaneEvent.news? = [order])
      (serious : order ≠ .ok .finalised)
  | collapsed
      {panic : Panic}
      (worker : lane.worker = .panicked panic)

namespace Standing

variable
  {lane : Lane}
  {log : List LaneEvent}

/-- A worker that waits or sends with the queue open has heard nothing. -/
theorem of_serving
    (standing : Standing lane log)
    (worker : lane.worker = .waiting ∨ ∃ rest, lane.worker = .sending rest false) :
    lane.accepting = true ∧ log.filterMap LaneEvent.news? = [] ∧
      log.filterMap LaneEvent.discarded? = [] := by
  rcases worker with waiting | ⟨rest, sending⟩
  · cases standing <;> simp_all
  · cases standing <;> simp_all

/-- A worker that drains the queue has heard the order to finish. -/
theorem of_draining
    (standing : Standing lane log)
    (worker : lane.worker = .draining ∨ ∃ rest, lane.worker = .sending rest true) :
    lane.accepting = false ∧ log.filterMap LaneEvent.news? = [.ok .finalised] ∧
      log.filterMap LaneEvent.discarded? = [] := by
  rcases worker with draining | ⟨rest, sending⟩
  · cases standing <;> simp_all
  · cases standing <;> simp_all

/-- A worker that discards the queue has heard something else. -/
theorem of_discarding
    (standing : Standing lane log)
    (worker : lane.worker = .discarding) :
    lane.accepting = false ∧
      ∃ order, log.filterMap LaneEvent.news? = [order] ∧ order ≠ .ok .finalised := by
  cases standing <;> simp_all

/-- A worker that has stopped has left nothing in the queue, and has thrown nothing away but on an order
other than to finish. -/
theorem of_stopped
    (standing : Standing lane log)
    (worker : lane.worker = .stopped) :
    lane.queue = [] ∧
      (log.filterMap LaneEvent.news? = [] ∧ lane.handles = 0 ∨
        ∃ order, log.filterMap LaneEvent.news? = [order]) ∧
      (log.filterMap LaneEvent.news? = [] ∨ log.filterMap LaneEvent.news? = [.ok .finalised] →
        log.filterMap LaneEvent.discarded? = []) := by
  cases standing <;> simp_all

/-- What goes on around a worker does not move it: tasks that an open queue takes, new handles beside
others, and signals. -/
theorem around
    {next : Lane}
    (standing : Standing lane log)
    (worker : next.worker = lane.worker)
    (accepting : next.accepting = lane.accepting)
    (queue : lane.accepting = false → next.queue = lane.queue)
    (handles : lane.handles = 0 → next.handles = 0) :
    Standing next log := by
  cases standing with
  | serving doing isOpen news discarded =>
      exact .serving (worker ▸ doing) (accepting.trans isOpen) news discarded
  | draining doing closed news discarded =>
      exact .draining (worker ▸ doing) (accepting.trans closed) news discarded
  | discarding doing closed news serious =>
      exact .discarding (worker.trans doing) (accepting.trans closed) news serious
  | abandoned doing closed empty unhandled news discarded =>
      exact .abandoned (worker.trans doing) (accepting.trans closed) ((queue closed).trans empty)
        (handles unhandled) news discarded
  | finished doing closed empty news discarded =>
      exact .finished (worker.trans doing) (accepting.trans closed) ((queue closed).trans empty)
        news discarded
  | halted doing closed empty news serious =>
      exact .halted (worker.trans doing) (accepting.trans closed) ((queue closed).trans empty)
        news serious
  | collapsed doing => exact .collapsed (worker.trans doing)

/-- After a part of a send the worker stands where it stood. -/
theorem afterSend
    {rest remaining : Program Unit}
    {draining : Bool}
    (standing : Standing lane log)
    (sending : lane.worker = .sending rest draining) :
    Standing (lane.afterSend remaining draining)
      (log ++ lane.seen (lane.afterSend remaining draining)) := by
  have unheard : (lane.seen (lane.afterSend remaining draining)).filterMap LaneEvent.news? = [] := by
    rcases Lane.seen_of_sending sending (lane.afterSend remaining draining) with seen | seen
    all_goals rw [seen]; rfl
  have kept :
      (lane.seen (lane.afterSend remaining draining)).filterMap LaneEvent.discarded? = [] := by
    rcases Lane.seen_of_sending sending (lane.afterSend remaining draining) with seen | seen
    all_goals rw [seen]; rfl
  cases draining with
  | false =>
      obtain ⟨accepting, news, discarded⟩ := standing.of_serving (.inr ⟨rest, sending⟩)
      cases remaining with
      | unwound panic => exact .collapsed rfl
      | done value =>
          exact .serving (.inl rfl) accepting (by simp [news, unheard]) (by simp [discarded, kept])
      | ask call answered panicked =>
          exact .serving (.inr ⟨_, rfl⟩) accepting (by simp [news, unheard]) (by simp [discarded, kept])
      | act action next =>
          exact .serving (.inr ⟨_, rfl⟩) accepting (by simp [news, unheard]) (by simp [discarded, kept])
  | true =>
      obtain ⟨accepting, news, discarded⟩ := standing.of_draining (.inr ⟨rest, sending⟩)
      cases remaining with
      | unwound panic => exact .collapsed rfl
      | done value =>
          exact .draining (.inl rfl) accepting (by simp [news, unheard]) (by simp [discarded, kept])
      | ask call answered panicked =>
          exact .draining (.inr ⟨_, rfl⟩) accepting (by simp [news, unheard]) (by simp [discarded, kept])
      | act action next =>
          exact .draining (.inr ⟨_, rfl⟩) accepting (by simp [news, unheard]) (by simp [discarded, kept])

/-- What the worker does next goes on from where it stands. -/
theorem works
    {σ : Type}
    {environment : Environment σ}
    {settings : AckSettings}
    {next : Lane}
    {world later : σ}
    {events : List LaneEvent}
    (standing : Standing lane log)
    (works : Lane.Works environment settings lane world events next later) :
    Standing next (log ++ events) := by
  cases works with
  | @hears news signals waiting received =>
      obtain ⟨_, unheard, discarded⟩ := standing.of_serving (.inl waiting)
      have heard : (log ++ [LaneEvent.heard news]).filterMap LaneEvent.news? = [news] := by
        simp [unheard, LaneEvent.news?]
      rcases news with loss | signal
      · exact .discarding rfl rfl heard (by simp)
      · cases signal with
        | finalised =>
            exact .draining (.inl rfl) rfl heard (by simp [discarded, LaneEvent.discarded?])
        | shutdown => exact .discarding rfl rfl heard (by simp)
  | @begins task queue waiting quiet queued =>
      obtain ⟨accepting, news, discarded⟩ := standing.of_serving (.inl waiting)
      exact .serving (.inr ⟨_, rfl⟩) accepting (by simp [news, LaneEvent.news?])
        (by simp [discarded, LaneEvent.discarded?])
  | @drains task queue draining queued =>
      obtain ⟨accepting, news, discarded⟩ := standing.of_draining (.inl draining)
      exact .draining (.inr ⟨_, rfl⟩) accepting (by simp [news, LaneEvent.news?])
        (by simp [discarded, LaneEvent.discarded?])
  | @discards task queue discarding queued =>
      obtain ⟨accepting, order, news, serious⟩ := standing.of_discarding discarding
      exact .discarding discarding accepting (by simpa [List.filterMap_cons, LaneEvent.news?] using news)
          serious
  | abandons waiting unhandled empty =>
      obtain ⟨_, news, discarded⟩ := standing.of_serving (.inl waiting)
      exact .abandoned rfl rfl empty unhandled (by simp [news, LaneEvent.news?])
        (by simp [discarded, LaneEvent.discarded?])
  | finishes closing empty =>
      rcases closing with draining | discarding
      · obtain ⟨_, news, discarded⟩ := standing.of_draining (.inl draining)
        exact .finished rfl rfl empty (by simp [news, LaneEvent.news?])
          (by simp [discarded, LaneEvent.discarded?])
      · obtain ⟨_, order, news, serious⟩ := standing.of_discarding discarding
        exact .halted rfl rfl empty (by simpa [List.filterMap_cons, LaneEvent.news?] using news)
          serious
  | sends sending stepped => exact standing.afterSend sending
  | settles sending atEnd => exact standing.afterSend sending

/-- The worker loses no task and takes none twice: what has been attempted, then what has been discarded,
then what is queued, stays the same. -/
theorem conserved
    {σ : Type}
    {environment : Environment σ}
    {settings : AckSettings}
    {next : Lane}
    {world later : σ}
    {events : List LaneEvent}
    (standing : Standing lane log)
    (works : Lane.Works environment settings lane world events next later)
    (sound : ∀ panic, next.worker ≠ .panicked panic) :
    (log ++ events).filterMap LaneEvent.attempted? ++
        (log ++ events).filterMap LaneEvent.discarded? ++ next.queue =
      log.filterMap LaneEvent.attempted? ++ log.filterMap LaneEvent.discarded? ++ lane.queue := by
  cases works with
  | hears waiting received =>
      simp [List.filterMap_cons, LaneEvent.attempted?, LaneEvent.discarded?]
  | @begins task queue waiting quiet queued =>
      obtain ⟨_, _, discarded⟩ := standing.of_serving (.inl waiting)
      simp [discarded, queued, List.filterMap_cons, LaneEvent.attempted?, LaneEvent.discarded?,
        Lane.beginSend]
  | @drains task queue draining queued =>
      obtain ⟨_, _, discarded⟩ := standing.of_draining (.inl draining)
      simp [discarded, queued, List.filterMap_cons, LaneEvent.attempted?, LaneEvent.discarded?,
        Lane.beginSend]
  | discards discarding queued =>
      simp [queued, List.filterMap_cons, LaneEvent.attempted?, LaneEvent.discarded?]
  | abandons waiting unhandled empty =>
      simp [List.filterMap_cons, LaneEvent.attempted?, LaneEvent.discarded?, Lane.stop]
  | finishes closing empty =>
      simp [List.filterMap_cons, LaneEvent.attempted?, LaneEvent.discarded?, Lane.stop]
  | @sends rest remaining draining after sending stepped =>
      rw [Lane.afterSend_queue sound]
      rcases Lane.seen_of_sending sending (lane.afterSend remaining draining) with seen | seen
      all_goals simp [seen, List.filterMap_cons, LaneEvent.attempted?, LaneEvent.discarded?]
  | @settles rest draining sending atEnd =>
      rw [Lane.afterSend_queue sound]
      rcases Lane.seen_of_sending sending (lane.afterSend rest draining) with seen | seen
      all_goals simp [seen, List.filterMap_cons, LaneEvent.attempted?, LaneEvent.discarded?]

/-- The worker begins no attempt after news other than the order to finish. -/
theorem obeys
    {σ : Type}
    {environment : Environment σ}
    {settings : AckSettings}
    {next : Lane}
    {world later : σ}
    {events : List LaneEvent}
    (standing : Standing lane log)
    (works : Lane.Works environment settings lane world events next later)
    (obedient : Obedient log) :
    Obedient (log ++ events) := by
  cases works with
  | hears waiting received => exact obedient.next rfl
  | @begins task queue waiting quiet queued =>
      obtain ⟨_, news, _⟩ := standing.of_serving (.inl waiting)
      exact .attempt (by simp [news]) task
  | @drains task queue draining queued =>
      obtain ⟨_, news, _⟩ := standing.of_draining (.inl draining)
      exact .attempt (by simp [news]) task
  | discards discarding queued => exact obedient.next rfl
  | abandons waiting unhandled empty => exact obedient.next rfl
  | finishes closing empty => exact obedient.next rfl
  | @sends rest remaining draining after sending stepped =>
      rcases Lane.seen_of_sending sending (lane.afterSend remaining draining) with seen | seen
      · simpa [seen] using obedient
      · exact seen ▸ obedient.next rfl
  | @settles rest draining sending atEnd =>
      rcases Lane.seen_of_sending sending (lane.afterSend rest draining) with seen | seen
      · simpa [seen] using obedient
      · exact seen ▸ obedient.next rfl

end Standing

namespace Traffic

variable {σ : Type}

/-- The notice that the closed queue has refused a task. -/
def refusalNotice (task : AckTask) : Event :=
  .acted (.note (.laneClosed task)) ()

theorem push_of_accepting
    {environment : Environment σ}
    {traffic : Traffic σ}
    (accepting : traffic.lane.accepting = true)
    (owner : Nat)
    (task : AckTask) :
    traffic.push environment owner task =
      { traffic with
        lane := { traffic.lane with queue := traffic.lane.queue ++ [task] }
        pushes := traffic.pushes ++ [⟨owner, task, true⟩] } := by
  simp [push, Lane.submit?, accepting]

theorem push_of_closed
    {environment : Environment σ}
    {traffic : Traffic σ}
    (closed : traffic.lane.accepting = false)
    (owner : Nat)
    (task : AckTask) :
    traffic.push environment owner task =
      { traffic with
        world := environment.note (.laneClosed task) traffic.world
        notes := traffic.notes ++ [refusalNotice task]
        pushes := traffic.pushes ++ [⟨owner, task, false⟩] } := by
  simp only [push, Lane.submit?, closed, Bool.false_eq_true, ↓reduceIte]
  rfl

@[simp] theorem push_record
    (environment : Environment σ)
    (owner : Nat)
    (task : AckTask)
    (traffic : Traffic σ) :
    (traffic.push environment owner task).record = traffic.record := by
  cases accepting : traffic.lane.accepting with
  | true => rw [push_of_accepting accepting]
  | false => rw [push_of_closed accepting]

/-- What the worker puts to the world is added to its record. -/
theorem record_of_works
    {environment : Environment σ}
    {settings : AckSettings}
    {lane next : Lane}
    {events : List LaneEvent}
    {world later : σ}
    {record longer : History}
    (works :
      Lane.Works environment.recorded settings lane (world, record) events next (later, longer)) :
    ∃ more, longer = record ++ more := by
  generalize finish : (later, longer) = reached at works
  cases works with
  | @hears news signals waiting received =>
      rcases news with loss | signal
      · exact ⟨_, (Prod.mk.inj finish).2⟩
      · cases signal <;> exact ⟨[], by simpa using (Prod.mk.inj finish).2⟩
  | discards discarding queued => exact ⟨_, (Prod.mk.inj finish).2⟩
  | sends sending stepped =>
      subst finish
      obtain ⟨event, rfl, _⟩ := step?_recorded stepped
      exact ⟨_, rfl⟩
  | _ => exact ⟨[], by simpa using (Prod.mk.inj finish).2⟩

/-- A step of the worker in the traffic is a step of its lane, and is seen. -/
theorem works_of_work?
    {environment : Environment σ}
    {settings : AckSettings}
    {traffic later : Traffic σ}
    (worked : traffic.work? environment settings = some later) :
    ∃ lane world record events,
      Lane.Works environment.recorded settings traffic.lane (traffic.world, traffic.record) events
          lane (world, record) ∧
        later =
          { traffic with
            lane := lane
            world := world
            record := record
            log := traffic.log ++ events } := by
  unfold work? at worked
  split at worked
  case h_2 => simp at worked
  case h_1 lane world record stepped =>
    obtain rfl := Option.some.inj worked
    exact ⟨lane, world, record, _, Lane.works_of_step? stepped, rfl⟩

/-- Nothing is broadcast by the move, and the sender of signals stays. -/
def Move.isSilent : Move σ → Bool
  | .signal _ => false
  | .disconnect => false
  | _ => true

/-- What can happen on and around a lane: a push, a step of the worker, or something around the worker. -/
inductive Happens
    (surroundings : Surroundings σ)
    (settings : AckSettings)
    (traffic : Traffic σ) :
    Move σ → Traffic σ → Prop where
  | pushes
      (owner : Nat)
      (task : AckTask) :
      Happens surroundings settings traffic (.push owner task)
        (traffic.push surroundings.others owner task)
  | works
      {later : Traffic σ}
      (worked : traffic.work? surroundings.lane settings = some later) :
      Happens surroundings settings traffic .work later
  | around
      {move : Move σ}
      {next : Lane}
      {world : σ}
      (around : traffic.lane.Around next)
      (silent : move.isSilent = true → next.signals = traffic.lane.signals) :
      Happens surroundings settings traffic move { traffic with lane := next, world := world }

/-- Whatever happens is one of these. -/
theorem happens_of_step?
    {surroundings : Surroundings σ}
    {settings : AckSettings}
    {traffic later : Traffic σ}
    {move : Move σ}
    (stepped : traffic.step? surroundings settings move = some later) :
    Happens surroundings settings traffic move later := by
  cases move with
  | push owner task =>
      obtain rfl := Option.some.inj stepped
      exact .pushes owner task
  | work => exact .works stepped
  | clone =>
      simp only [step?] at stepped
      split at stepped
      · cases stepped
      · rename_i handled
        obtain rfl := Option.some.inj stepped
        exact .around ⟨rfl, rfl, rfl, fun unhandled => absurd unhandled handled⟩ fun _ => rfl
  | drop =>
      simp only [step?] at stepped
      split at stepped
      · cases stepped
      · rename_i handled
        obtain rfl := Option.some.inj stepped
        exact .around ⟨rfl, rfl, rfl, fun unhandled => absurd unhandled handled⟩ fun _ => rfl
  | signal signal =>
      obtain rfl := Option.some.inj stepped
      exact .around
        ⟨Lane.signal_worker, Lane.signal_accepting, Lane.signal_queue, Lane.signal_handles.trans⟩
        nofun
  | disconnect =>
      obtain rfl := Option.some.inj stepped
      exact .around ⟨rfl, rfl, rfl, id⟩ nofun
  | elsewhere change =>
      obtain rfl := Option.some.inj stepped
      exact .around ⟨rfl, rfl, rfl, id⟩ fun _ => rfl

/-- Whatever happens, the worker's record only grows. -/
theorem record_of_step?
    {surroundings : Surroundings σ}
    {settings : AckSettings}
    {traffic later : Traffic σ}
    {move : Move σ}
    (stepped : traffic.step? surroundings settings move = some later) :
    ∃ more, later.record = traffic.record ++ more := by
  cases happens_of_step? stepped with
  | pushes owner task => exact ⟨[], by simp⟩
  | works worked =>
      obtain ⟨lane, world, record, events, works, rfl⟩ := works_of_work? worked
      exact record_of_works works
  | around _ _ => exact ⟨[], by simp⟩

/-- The books of a lane balance. -/
structure Accounts
    (settings : AckSettings)
    (traffic : Traffic σ) :
    Prop where
  balanced :
    traffic.accepted = traffic.attempted ++ traffic.discarded ++ traffic.lane.queue
  chronicled : Chronicled settings traffic.log traffic.record traffic.lane.worker
  standing : Standing traffic.lane traffic.log
  obedient : Obedient traffic.log
  noted : traffic.notes = traffic.refused.map refusalNotice

namespace Accounts

variable
  {environment : Environment σ}
  {surroundings : Surroundings σ}
  {settings : AckSettings}
  {traffic later : Traffic σ}

theorem new
    (signalCapacity : Nat)
    (world : σ) :
    (Traffic.new signalCapacity world).Accounts settings where
  balanced := rfl
  chronicled := .start
  standing := .serving (.inl rfl) rfl rfl rfl
  obedient := by
    intro before news after shape
    simp [Traffic.new] at shape
  noted := rfl

/-- A push goes to the end of the queue or is refused and noted. -/
theorem push
    (accounts : traffic.Accounts settings)
    (owner : Nat)
    (task : AckTask) :
    (traffic.push environment owner task).Accounts settings := by
  obtain ⟨balanced, chronicled, standing, obedient, noted⟩ := accounts
  simp only [Traffic.accepted, Traffic.attempted, Traffic.discarded, Traffic.refused]
    at balanced noted
  cases accepting : traffic.lane.accepting with
  | true =>
      rw [push_of_accepting accepting]
      refine ⟨?_, chronicled, ?_, obedient, ?_⟩
      · simp [Traffic.accepted, Traffic.attempted, Traffic.discarded, balanced]
      · exact standing.around rfl rfl (fun closed => by simp [accepting] at closed) id
      · simp [Traffic.refused, noted]
  | false =>
      rw [push_of_closed accepting]
      refine ⟨?_, chronicled, standing, obedient, ?_⟩
      · simp [Traffic.accepted, Traffic.attempted, Traffic.discarded, balanced]
      · simp [Traffic.refused, noted]

/-- The worker keeps the books balanced as long as nobody panics. -/
theorem work
    (accounts : traffic.Accounts settings)
    (worked : traffic.work? environment settings = some later)
    (calm : later.record.Calm) :
    later.Accounts settings := by
  obtain ⟨balanced, chronicled, standing, obedient, noted⟩ := accounts
  obtain ⟨lane, world, record, events, works, rfl⟩ := works_of_work? worked
  have chronicledLater := chronicled.works works calm
  have sound : ∀ panic, lane.worker ≠ .panicked panic := by
    intro panic collapsed
    rw [collapsed] at chronicledLater
    exact chronicledLater calm
  refine ⟨?_, chronicledLater, standing.works works, standing.obeys works obedient, noted⟩
  exact balanced.trans (standing.conserved works sound).symm

/-- What goes on around the worker leaves the books balanced. -/
theorem around
    {next : Lane}
    {world : σ}
    (accounts : traffic.Accounts settings)
    (around : traffic.lane.Around next) :
    Accounts settings { traffic with lane := next, world := world } := by
  obtain ⟨balanced, chronicled, standing, obedient, noted⟩ := accounts
  obtain ⟨worker, accepting, queue, handles⟩ := around
  refine ⟨?_, ?_, standing.around worker accepting (fun _ => queue) handles, obedient, noted⟩
  · simpa [queue, Traffic.accepted, Traffic.attempted, Traffic.discarded] using balanced
  · simpa [worker] using chronicled

/-- Whatever happens on and around a lane, its books stay balanced as long as nobody panics in the worker's
dealings with the world. -/
theorem step
    {move : Move σ}
    (accounts : traffic.Accounts settings)
    (stepped : traffic.step? surroundings settings move = some later)
    (calm : later.record.Calm) :
    later.Accounts settings := by
  cases happens_of_step? stepped with
  | pushes owner task => exact accounts.push owner task
  | works worked => exact accounts.work worked calm
  | around around _ => exact accounts.around around

/-- A worker that has ended without a panic has made its last delivery, has left nothing in the queue, and has
discarded nothing unless it was told something other than to finish. -/
theorem of_hasEnded
    (accounts : traffic.Accounts settings)
    (calm : traffic.record.Calm)
    (ended : traffic.lane.hasEnded = true) :
    Chronicle settings traffic.log traffic.record ∧
      traffic.lane.queue = [] ∧
      (traffic.news = [] ∧ traffic.lane.handles = 0 ∨ ∃ order, traffic.news = [order]) ∧
      (traffic.news = [] ∨ traffic.news = [.ok .finalised] → traffic.discarded = []) := by
  have chronicled := accounts.chronicled
  unfold Lane.hasEnded at ended
  cases doing : traffic.lane.worker with
  | stopped =>
      rw [doing] at chronicled
      exact ⟨chronicled, accounts.standing.of_stopped doing⟩
  | panicked panic =>
      rw [doing] at chronicled
      exact absurd calm chronicled
  | _ => simp [doing] at ended

end Accounts

end Traffic

end MmsInbox
