import MmsInbox.Proofs.Ack.Isolation
import MmsInbox.Proofs.Ack.Submitting

namespace MmsInbox

/-!
# Where the lane posts

Whatever goes on on and around a lane, and whoever panics, every request that its worker has posted was
posted in a send of a task that somebody has pushed (`Traffic.Traced`). If acknowledgments go to content
locations, the request went to the location of this very task (`Ack.Posts.url_eq`).
-/

open Program

namespace Ack

variable
  {settings : AckSettings}
  {task : AckTask}
  {course record : History}
  {rest : Program Unit}
  {request : Http.Request}

/-- Whatever has happened in a delivery, a request was posted only once everything was cleared for it. -/
theorem cleared_of_leads
    (leads : Leads (deliver settings task) course rest)
    (posted : .post request ∈ course.calls) :
    ∃ before, Cleared settings task before request := by
  obtain ⟨whole, _, _, ends, along⟩ := (deliver_plain settings task).forwards.exists_course leads
  obtain ⟨sending, telling, rfl, sends, silent⟩ := deliver_split ends
  have put : .post request ∈ sending.calls := by
    simpa [silent] using along.calls_prefix.subset posted
  rcases sends.posted_or with ⟨before, later, other, rfl, cleared, unposted, awaits⟩ | unposted
  · rw [History.calls_append, History.calls_answered, awaits, List.mem_append] at put
    rcases put with early | late
    · cases unposted _ early
    · obtain rfl : request = other := by simpa using late
      exact ⟨before, cleared⟩
  · cases unposted _ put

/-- What is posted for a task goes to its location if acknowledgments go to content locations. -/
theorem Cleared.url_eq
    (cleared : Cleared settings task record request)
    (enabled : settings.toContentLocation = true) :
    request.url = task.location := by
  cases cleared <;> simp [target, enabled]

/-- A send of the task is part of what the worker has done, and the request was posted in it. -/
def Posts
    (settings : AckSettings)
    (task : AckTask)
    (record : History)
    (request : Http.Request) :
    Prop :=
  ∃ before course after rest,
    record = before ++ course ++ after ∧
      Leads (deliver settings task) course rest ∧ .post request ∈ course.calls

namespace Posts

/-- What was posted once was posted. -/
theorem mono
    (posts : Posts settings task record request)
    (more : History) :
    Posts settings task (record ++ more) request := by
  obtain ⟨before, course, after, rest, rfl, leads, posted⟩ := posts
  exact ⟨before, course, after ++ more, rest, by simp, leads, posted⟩

theorem url_eq
    (posts : Posts settings task record request)
    (enabled : settings.toContentLocation = true) :
    request.url = task.location := by
  obtain ⟨_, _, _, _, _, leads, posted⟩ := posts
  obtain ⟨_, cleared⟩ := cleared_of_leads leads posted
  exact cleared.url_eq enabled

end Posts

end Ack

/-- A part of a send leaves the worker in the rest of it, or in no send. -/
theorem Lane.rest_of_afterSend
    {lane : Lane}
    {remaining rest : Program Unit}
    {draining stillDraining : Bool}
    (sending : (lane.afterSend remaining draining).worker = .sending rest stillDraining) :
    rest = remaining := by
  cases remaining with
  | done value => cases draining <;> cases sending
  | unwound panic => cases sending
  | ask call answered panicked =>
      cases sending
      rfl
  | act action next =>
      cases sending
      rfl

/-- A part of a send puts nothing into the queue. -/
theorem Lane.afterSend_queue_subset
    (lane : Lane)
    (remaining : Program Unit)
    (draining : Bool) :
    (lane.afterSend remaining draining).queue ⊆ lane.queue := by
  cases remaining with
  | unwound panic => exact List.nil_subset _
  | _ => exact List.Subset.refl _

namespace Traffic

variable
  {σ : Type}
  {surroundings : Surroundings σ}
  {environment : Environment σ}
  {settings : AckSettings}
  {traffic later : Traffic σ}

/-- All tasks that somebody has pushed, the oldest first. -/
def pushed (traffic : Traffic σ) : List AckTask :=
  traffic.pushes.map (·.task)

/-- What the lane holds and what it has posted comes from tasks that somebody has pushed. -/
structure Traced
    (settings : AckSettings)
    (traffic : Traffic σ) :
    Prop where
  queued : traffic.lane.queue ⊆ traffic.pushed
  sending
    {rest : Program Unit}
    {draining : Bool}
    (sending : traffic.lane.worker = .sending rest draining) :
    ∃ task ∈ traffic.pushed, ∃ before course,
      traffic.record = before ++ course ∧ Leads (Ack.deliver settings task) course rest
  posted
    {request : Http.Request}
    (posted : .post request ∈ traffic.record.calls) :
    ∃ task ∈ traffic.pushed, Ack.Posts settings task traffic.record request

namespace Traced

theorem new
    (signalCapacity : Nat)
    (world : σ) :
    (Traffic.new signalCapacity world).Traced settings where
  queued := List.nil_subset _
  sending sending := by cases sending
  posted posted := by cases posted

/-- What goes on around the worker keeps everything traced, as long as the queue takes only what is
pushed. -/
theorem aside
    (traced : traffic.Traced settings)
    (pushed : traffic.pushed ⊆ later.pushed)
    (queue : later.lane.queue ⊆ later.pushed)
    (worker : later.lane.worker = traffic.lane.worker)
    (record : later.record = traffic.record) :
    later.Traced settings where
  queued := queue
  sending sending := by
    rw [worker] at sending
    obtain ⟨task, member, course⟩ := traced.sending sending
    exact ⟨task, pushed member, record ▸ course⟩
  posted posted := by
    rw [record] at posted
    obtain ⟨task, member, posts⟩ := traced.posted posted
    exact ⟨task, pushed member, record ▸ posts⟩

/-- A task that is pushed goes to the end of the queue, if anywhere. -/
theorem push
    (traced : traffic.Traced settings)
    (owner : Nat)
    (task : AckTask) :
    (traffic.push environment owner task).Traced settings := by
  have grown : (traffic.push environment owner task).pushed = traffic.pushed ++ [task] := by
    simp [pushed]
  have older : traffic.pushed ⊆ (traffic.push environment owner task).pushed :=
    grown ▸ List.subset_append_left _ _
  refine traced.aside older ?_ ?_ (push_record ..)
  · cases accepting : traffic.lane.accepting with
    | true =>
        rw [grown, push_of_accepting accepting]
        exact List.append_subset.mpr
          ⟨List.subset_append_of_subset_left _ traced.queued, List.subset_append_right _ _⟩
    | false =>
        rw [grown, push_of_closed accepting]
        exact List.subset_append_of_subset_left _ traced.queued
  · cases accepting : traffic.lane.accepting with
    | true => rw [push_of_accepting accepting]
    | false => rw [push_of_closed accepting]

/-- A worker that is in no send has posted nothing. -/
theorem outside
    {more : History}
    (traced : traffic.Traced settings)
    (pushes : later.pushes = traffic.pushes)
    (queue : later.lane.queue ⊆ traffic.lane.queue)
    (record : later.record = traffic.record ++ more)
    (unasked : more.calls = [])
    (idle : ∀ rest draining, later.lane.worker ≠ .sending rest draining) :
    later.Traced settings where
  queued := by
    rw [pushed, pushes]
    exact List.Subset.trans queue traced.queued
  sending sending := absurd sending (idle _ _)
  posted posted := by
    rw [record, History.calls_append, unasked, List.append_nil] at posted
    obtain ⟨task, member, posts⟩ := traced.posted posted
    rw [pushed, pushes, record]
    exact ⟨task, member, posts.mono more⟩

/-- A worker begins to send what was queued. -/
theorem begin
    {task : AckTask}
    {queued : List AckTask}
    {draining : Bool}
    (traced : traffic.Traced settings)
    (shape : traffic.lane.queue = task :: queued) :
    Traced settings
      { traffic with
        lane := traffic.lane.beginSend settings task queued draining
        log := traffic.log ++ [.began task] } := by
  obtain ⟨first, others⟩ := List.cons_subset.mp (shape ▸ traced.queued)
  refine ⟨others, fun sending => ?_, traced.posted⟩
  cases sending
  exact ⟨task, first, traffic.record, [], by simp, .here _⟩

/-- What the worker does in the send of a task is part of that send. -/
theorem inside
    {more : History}
    {rest remaining : Program Unit}
    {draining : Bool}
    (traced : traffic.Traced settings)
    (underWay : traffic.lane.worker = .sending rest draining)
    (further : Leads rest more remaining)
    (pushes : later.pushes = traffic.pushes)
    (lane : later.lane = traffic.lane.afterSend remaining draining)
    (record : later.record = traffic.record ++ more) :
    later.Traced settings := by
  obtain ⟨task, member, before, course, happened, leads⟩ := traced.sending underWay
  have onwards := leads.trans further
  have whole : later.record = before ++ (course ++ more) := by simp [record, happened]
  have same : later.pushed = traffic.pushed := by rw [pushed, pushes, pushed]
  refine ⟨?_, fun sending => ?_, fun {request} posted => ?_⟩
  · rw [same, lane]
    exact List.Subset.trans (Lane.afterSend_queue_subset _ _ _) traced.queued
  · obtain rfl := Lane.rest_of_afterSend (lane ▸ sending)
    exact ⟨task, same ▸ member, before, course ++ more, whole, onwards⟩
  · rw [record, History.calls_append, List.mem_append] at posted
    rcases posted with earlier | now
    · obtain ⟨other, pushed, posts⟩ := traced.posted earlier
      exact ⟨other, same ▸ pushed, record ▸ posts.mono more⟩
    · exact ⟨task, same ▸ member, before, course ++ more, [], remaining, by simp [whole], onwards,
        by simp [now]⟩

/-- Whatever the worker does, everything stays traced. -/
theorem work
    (traced : traffic.Traced settings)
    (worked : traffic.work? environment settings = some later) :
    later.Traced settings := by
  obtain ⟨lane, world, record, events, works, rfl⟩ := works_of_work? worked
  generalize finish : (world, record) = reached at works
  cases works with
  | @hears news signals waiting received =>
      rcases news with loss | signal
      · obtain ⟨rfl, rfl⟩ := Prod.mk.inj finish
        exact traced.outside rfl (List.Subset.refl _) rfl rfl nofun
      · cases signal <;> obtain ⟨rfl, rfl⟩ := Prod.mk.inj finish
        · exact traced.outside rfl (List.Subset.refl _) (List.append_nil _).symm rfl nofun
        · exact traced.outside rfl (List.Subset.refl _) (List.append_nil _).symm rfl nofun
  | begins waiting quiet queued =>
      obtain ⟨rfl, rfl⟩ := Prod.mk.inj finish
      exact traced.begin queued
  | drains draining queued =>
      obtain ⟨rfl, rfl⟩ := Prod.mk.inj finish
      exact traced.begin queued
  | discards discarding queued =>
      obtain ⟨rfl, rfl⟩ := Prod.mk.inj finish
      refine traced.outside rfl (queued ▸ List.subset_cons_self _ _) rfl rfl ?_
      simp [discarding]
  | abandons waiting unhandled empty =>
      obtain ⟨rfl, rfl⟩ := Prod.mk.inj finish
      exact traced.outside rfl (List.Subset.refl _) (List.append_nil _).symm rfl nofun
  | finishes closing empty =>
      obtain ⟨rfl, rfl⟩ := Prod.mk.inj finish
      exact traced.outside rfl (List.Subset.refl _) (List.append_nil _).symm rfl nofun
  | sends sending stepped =>
      subst finish
      obtain ⟨event, rfl, further⟩ := step?_recorded stepped
      exact traced.inside sending further rfl rfl rfl
  | settles sending atEnd =>
      obtain ⟨rfl, rfl⟩ := Prod.mk.inj finish
      exact traced.inside sending (.here _) rfl rfl (List.append_nil _).symm

/-- Whatever happens on and around a lane, everything stays traced. -/
theorem step
    {move : Move σ}
    (traced : traffic.Traced settings)
    (stepped : traffic.step? surroundings settings move = some later) :
    later.Traced settings := by
  cases happens_of_step? stepped with
  | pushes owner task => exact traced.push owner task
  | works worked => exact traced.work worked
  | around around _ =>
      exact traced.aside (List.Subset.refl _) (around.queue ▸ traced.queued) around.worker rfl

end Traced

end Traffic

end MmsInbox
