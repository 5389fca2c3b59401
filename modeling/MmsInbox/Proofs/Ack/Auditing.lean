import MmsInbox.Program.Auditing
import MmsInbox.Proofs.Ack.Isolation

namespace MmsInbox

/-!
# What an acknowledgment tells the audit

An attempt comes to one ending: the relay accepts the acknowledgment, something fails, or there are no
carrier settings. The audit is told of the first two, once each, and of nothing else
(`Ack.attested_of_leads`).
-/

open Program

namespace Ack

/-- What an attempt to send an acknowledgment comes to. -/
inductive Ending where
  /-- The relay has answered a request with a status below 400. -/
  | accepted (request : Http.Request) (status : UInt16)
  | failed (error : AckError)
  /-- There are no carrier settings. -/
  | unconfigured

/-- What the audit is told of an ending. -/
def Ending.entries (task : AckTask) : Ending → List AuditEvent
  | .accepted request status =>
      [.acknowledgmentSent task.kindName request.url status request.proxy.isNone]
  | .failed error => [.acknowledgmentFailed task.kindName task.location error.message]
  | .unconfigured => []

/-- An attempt has come to an ending, as its course shows. -/
inductive Ends
    (task : AckTask)
    (course : History) :
    Ending → Prop where
  | accepted
      {request : Http.Request}
      {response : Http.Response}
      (posted : .answered (.post request) () ∈ course)
      (answered : .answered .awaitResponse (.ok response) ∈ course)
      (below : response.status < 400) :
      Ends task course (.accepted request response.status)
  | uncomposed
      {error : CodecError}
      (failed : .answered (.compose task.attempt.pdu) (.error error) ∈ course) :
      Ends task course (.failed (.compose error))
  | unparsable
      {credentials : RelayCredentials}
      {reason : UrlError}
      (read : .answered (.relayCredentials task.subscription) (some credentials) ∈ course)
      (unparsable : Url.parse credentials.relayUrl = .error reason) :
      Ends task course (.failed (.route (.invalidRelayUrl credentials.relayUrl reason.message)))
  /-- A proxy is needed, and the settings name none. -/
  | proxyless
      {credentials : RelayCredentials}
      (read : .answered (.relayCredentials task.subscription) (some credentials) ∈ course)
      (proxyless : credentials.proxy = none)
      (indirect : .answered .prefersDirectPath false ∈ course) :
      Ends task course (.failed (.route (.missingProxy task.subscription)))
  /-- The network does not provide a route to the proxy. -/
  | refused
      {relayUrl : String}
      {proxy : ProxyAddress}
      {error : RouteError}
      (failed : .answered (.ensureRouteToHost relayUrl proxy) (.error error) ∈ course) :
      Ends task course (.failed (.route error))
  /-- The request was posted, and no answer has come back. -/
  | lost
      {error : Http.TransportError}
      (failed : .answered .awaitResponse (.error error) ∈ course) :
      Ends task course (.failed (.network (.transport error)))
  | rejected
      {request : Http.Request}
      {response : Http.Response}
      (posted : .answered (.post request) () ∈ course)
      (answered : .answered .awaitResponse (.ok response) ∈ course)
      (serious : ¬ response.status < 400) :
      Ends task course (.failed (.network (.httpStatus request.url response.status)))
  | unconfigured
      {body : Bytes}
      (composed : .answered (.compose task.attempt.pdu) (.ok body) ∈ course)
      (missing : .answered (.relayCredentials task.subscription) none ∈ course) :
      Ends task course .unconfigured

/-- The course of an attempt shows one ending, and this is what is told of it. -/
def Shows
    (task : AckTask)
    (course : History)
    (ending : Ending) :
    Prop :=
  Ends task course ending ∧ ∀ other, Ends task course other → other = ending

/-- An attempt was a whole delivery, which has come to one ending, and exactly what is to be told of this
ending is told. -/
structure Attested
    (settings : AckSettings)
    (task : AckTask)
    (course : History)
    (told : List AuditEvent) :
    Prop where
  delivered : Leads (deliver settings task) course (.done ())
  ending : ∃ ending, Shows task course ending ∧ told = ending.entries task

/-- What a delivery adds to a send: a failure is noted and told. -/
def telling (task : AckTask) : Except AckError (Option UInt16) → History
  | .ok _ => []
  | .error error =>
      [.acted (.note (.acknowledgmentFailed task error)) (),
        .acted
          (.audit (.acknowledgmentFailed task.kindName task.location error.message))
          ()]

/-- A delivery is a send with what it adds. -/
theorem concludes_of_delivery
    {settings : AckSettings}
    {task : AckTask}
    {course : History}
    (leads : Leads (deliver settings task) course (.done ())) :
    ∃ result sending,
      course = sending ++ telling task result ∧ Concludes settings task result sending := by
  obtain ⟨result, sending, rest, rfl, sends, tells⟩ := leads_bind_done.mp leads
  refine ⟨result, sending, ?_, concludes_of_leads sends⟩
  cases result with
  | ok status =>
      obtain ⟨rfl, _⟩ := leads_done.mp tells
      rfl
  | error error =>
      obtain ⟨_, rest, rfl, afterNoting⟩ := leads_perform_bind.mp tells
      obtain rfl := leads_perform_done.mp afterNoting
      rfl

/-- A route takes the proxy that the request names, or the direct path if it names none. -/
theorem Routes.direct_eq
    {subscription : Subscription}
    {route : Route}
    {routing : History}
    (routes : Routes subscription (.ok (some route)) routing) :
    route.direct = route.proxy?.isNone := by
  cases routes <;> rfl

/-- Nothing is told while a route is looked up. -/
theorem Routes.audits_eq_nil
    {subscription : Subscription}
    {found : Except RouteError (Option Route)}
    {routing : History}
    (routes : Routes subscription found routing) :
    routing.audits = [] := by
  cases routes <;> rfl

/-- A delivery shows one ending, and tells of it. -/
theorem Concludes.exists_ending
    {settings : AckSettings}
    {task : AckTask}
    {result : Except AckError (Option UInt16)}
    {sending : History}
    (concludes : Concludes settings task result sending) :
    ∃ ending,
      Shows task (sending ++ telling task result) ending ∧
        (sending ++ telling task result).audits = ending.entries task := by
  cases concludes with
  | uncomposed error =>
      refine ⟨_, ⟨.uncomposed List.mem_cons_self, fun other ends => ?_⟩, rfl⟩
      cases ends <;> simp_all [telling]
  | @unrouted error _ body routes =>
      cases routes with
      | unparsable unparsable =>
          refine ⟨_, ⟨.unparsable (by simp) unparsable, fun other ends => ?_⟩, rfl⟩
          cases ends <;> simp_all [telling]
      | proxyless parsed proxyless =>
          refine ⟨_, ⟨.proxyless (by simp) proxyless (by simp), fun other ends => ?_⟩, rfl⟩
          cases ends <;> simp_all [telling]
      | @refused credentials _ proxy _ parsed named =>
          refine ⟨_, ⟨@Ends.refused _ _ credentials.relayUrl proxy error (by simp),
            fun other ends => ?_⟩, rfl⟩
          cases ends <;> simp_all [telling]
  | unconfigured body routes =>
      cases routes with
      | unconfigured =>
          refine ⟨_, ⟨.unconfigured List.mem_cons_self (by simp), fun other ends => ?_⟩, rfl⟩
          cases ends <;> simp_all [telling]
  | @posted route routing later result body routes judges =>
      have posted :
          .answered (.post ⟨target settings task route.relayUrl, body, route.proxy?⟩) () ∈
            (Event.answered (.compose task.attempt.pdu) (.ok body) ::
              (routing ++
                .answered (.post ⟨target settings task route.relayUrl, body, route.proxy?⟩) () ::
                  later)) ++ telling task result := by
        simp
      cases judges with
      | lost error =>
          refine ⟨.failed (.network (.transport error)), ⟨.lost (by simp), fun other ends => ?_⟩, ?_⟩
          · cases routes <;> cases ends <;> simp_all [telling]
          · simp [routes.audits_eq_nil, telling, Action.audited?, Ending.entries]
      | accepted below =>
          refine ⟨_, ⟨.accepted posted (by simp) below, fun other ends => ?_⟩, ?_⟩
          · cases routes <;> cases ends <;> simp_all [telling]
          · simp [routes.audits_eq_nil, telling, Action.audited?, Ending.entries, routes.direct_eq]
      | rejected serious =>
          refine ⟨_, ⟨.rejected posted (by simp) serious, fun other ends => ?_⟩, ?_⟩
          · cases routes <;> cases ends <;> simp_all [telling, -UInt16.not_lt]
          · simp [routes.audits_eq_nil, telling, Action.audited?, Ending.entries]

/-- A whole delivery shows one ending, and tells of it. -/
theorem attested_of_leads
    {settings : AckSettings}
    {task : AckTask}
    {course : History}
    (leads : Leads (deliver settings task) course (.done ())) :
    Attested settings task course course.audits := by
  obtain ⟨result, sending, rfl, concludes⟩ := concludes_of_delivery leads
  exact ⟨leads, concludes.exists_ending⟩

/-- Of an acknowledgment nothing is redacted. -/
theorem Ending.map_shown_entries
    (auditing : AuditSettings)
    (task : AckTask)
    (ending : Ending) :
    (ending.entries task).map auditing.shown = ending.entries task := by
  cases ending <;> simp [entries, AuditSettings.shown, AuditEvent.redacted]

/-- What is told is published as it is by an audit that is switched on. -/
theorem Attested.published
    {settings : AckSettings}
    {auditing : AuditSettings}
    {task : AckTask}
    {course : History}
    (enabled : auditing.enabled = true)
    (attested : Attested settings task course course.audits) :
    Attested settings task course (course.published auditing) := by
  obtain ⟨delivered, ending, shows, told⟩ := attested
  refine ⟨delivered, ending, shows, ?_⟩
  rw [History.published_of_enabled enabled, told, ending.map_shown_entries]

/-- If a delivery tells of anything, it does so as the last thing. -/
theorem Concludes.told_last
    {settings : AckSettings}
    {task : AckTask}
    {result : Except AckError (Option UInt16)}
    {sending : History}
    (concludes : Concludes settings task result sending) :
    (sending ++ telling task result).audits = [] ∨
      ∃ before told, sending ++ telling task result = before ++ [.acted (.audit told) ()] := by
  cases result with
  | error error =>
      refine .inr ⟨sending ++ [.acted (.note (.acknowledgmentFailed task error)) ()],
        .acknowledgmentFailed task.kindName task.location error.message, ?_⟩
      simp [telling]
  | ok status =>
      cases concludes with
      | unconfigured body routes =>
          exact .inl (by simp [routes.audits_eq_nil, telling, Action.audited?])
      | @posted route routing later _ body routes judges =>
          cases judges with
          | @accepted response below =>
              refine .inr ⟨.answered (.compose task.attempt.pdu) (.ok body) ::
                (routing ++
                  [.answered (.post ⟨target settings task route.relayUrl, body, route.proxy?⟩) (),
                    .answered .awaitResponse (.ok response)]),
                .acknowledgmentSent task.kindName (target settings task route.relayUrl)
                  response.status route.direct, ?_⟩
              simp [telling]

/-- As long as a delivery is not over, nothing is told of it. -/
theorem audits_of_unfinished
    {settings : AckSettings}
    {task : AckTask}
    {history : History}
    {rest : Program Unit}
    (leads : Leads (deliver settings task) history rest)
    (unfinished : rest.hasEnded = false) :
    history.audits = [] := by
  -- Something is still to come on a whole course, and what is told comes last on it.
  obtain ⟨remaining, onwards, something⟩ :
      ∃ remaining, Leads rest remaining (.done ()) ∧ remaining ≠ [] := by
    rcases (deliver_plain settings task).forwards.of_leads leads with ⟨_, later⟩ | ⟨panic, rfl, _⟩
    · obtain ⟨remaining, value, _, onwards⟩ := later.exists_end
      refine ⟨remaining, onwards, ?_⟩
      rintro rfl
      rw [← leads_nil.mp onwards] at unfinished
      cases unfinished
    · cases unfinished
  obtain ⟨result, sending, whole, concludes⟩ := concludes_of_delivery (leads.trans onwards)
  obtain ⟨ending, _, told⟩ := concludes.exists_ending
  rcases concludes.told_last with silent | ⟨before, last, tells⟩
  · rw [← whole, History.audits_append] at silent
    exact (List.append_eq_nil_iff.mp silent).1
  · have split := whole.trans tells
    obtain ⟨between, final, rfl⟩ := List.eq_nil_or_concat remaining |>.resolve_left something
    rw [List.concat_eq_append, ← List.append_assoc] at split
    obtain ⟨rfl, _⟩ := List.append_inj' split rfl
    have few : (sending ++ telling task result).audits.length ≤ 1 := by
      rw [told]
      cases ending <;> simp [Ending.entries]
    have one : (History.audits [.acted (.audit last) ()]).length = 1 := rfl
    rw [tells, History.audits_append, History.audits_append, List.length_append,
      List.length_append] at few
    exact List.eq_nil_of_length_eq_zero (by omega)

end Ack

/-- A worker that is in a send has something left to do in it. -/
def Lane.UnderWay (lane : Lane) : Prop :=
  ∀ rest draining, lane.worker = .sending rest draining → rest.hasEnded = false

namespace Lane.UnderWay

variable
  {σ : Type}
  {environment : Environment σ}
  {settings : AckSettings}
  {lane next : Lane}

/-- What is left of a send goes on, or the worker is in no send. -/
theorem afterSend
    (remaining : Program Unit)
    (draining : Bool) :
    (lane.afterSend remaining draining).UnderWay := by
  intro rest other sending
  cases remaining with
  | done value => cases draining <;> cases sending
  | unwound panic => cases sending
  | ask call answered panicked =>
      cases sending
      rfl
  | act action onward =>
      cases sending
      rfl

/-- After each of its steps the worker has something left to do, or is in no send. -/
theorem of_works
    {world later : σ}
    {events : List LaneEvent}
    (works : Lane.Works environment settings lane world events next later) :
    next.UnderWay := by
  intro rest drains sending
  cases works with
  | @hears news signals waiting received =>
      rcases news with loss | signal
      · cases sending
      · cases signal <;> cases sending
  | begins waiting quiet queued =>
      cases sending
      rfl
  | drains draining queued =>
      cases sending
      rfl
  | discards discarding queued =>
      dsimp only at sending
      cases discarding.symm.trans sending
  | abandons waiting unhandled empty => cases sending
  | finishes closing empty => cases sending
  | sends sent stepped => exact afterSend _ _ rest drains sending
  | settles sent atEnd => exact afterSend _ _ rest drains sending

end Lane.UnderWay

namespace Submitters

variable
  {σ : Type}
  {surroundings : Surroundings σ}
  {settings : AckSettings}
  {submitters later : Submitters σ}

theorem underWay_of_step?
    {move : Move σ}
    (underWay : submitters.traffic.lane.UnderWay)
    (stepped : submitters.step? surroundings settings move = some later) :
    later.traffic.lane.UnderWay := by
  have sameWorker : ∀ {next : Lane}, next.worker = submitters.traffic.lane.worker → next.UnderWay :=
    fun same rest draining sending => underWay rest draining (same.symm.trans sending)
  cases happens_of_step? stepped with
  | submits tasks => exact underWay
  | @pushes number tasks remaining task present =>
      refine sameWorker ?_
      cases accepting : submitters.traffic.lane.accepting with
      | true => rw [Traffic.push_of_accepting accepting]
      | false => rw [Traffic.push_of_closed accepting]
  | passes other silent passed =>
      cases Traffic.happens_of_step? passed with
      | pushes owner task => exact absurd rfl (other owner task)
      | works worked =>
          obtain ⟨lane, world, record, events, works, rfl⟩ := Traffic.works_of_work? worked
          exact .of_works works
      | around around _ => exact sameWorker around.worker

/-- Whatever happens among submitters, a worker that is in a send has something left to do in it. -/
theorem underWay_of_run?
    {moves : List (Move σ)}
    (underWay : submitters.traffic.lane.UnderWay)
    (ran : run? surroundings settings moves submitters = some later) :
    later.traffic.lane.UnderWay := by
  induction moves generalizing submitters with
  | nil =>
      obtain rfl := Option.some.inj ran
      exact underWay
  | cons move moves inductionHypothesis =>
      obtain ⟨next, stepped, ranOn⟩ := Option.bind_eq_some_iff.mp ran
      exact inductionHypothesis (underWay_of_step? underWay stepped) ranOn

end Submitters

/-- Between two sends, the attempts have courses of their own in what the worker has put to the world, and
nothing is told but what these courses show. -/
theorem Chronicle.attested
    {settings : AckSettings}
    {log : List LaneEvent}
    {record : History}
    (chronicle : Chronicle settings log record) :
    ∃ courses : List History,
      List.Forall₂ (fun task course => Ack.Attested settings task course course.audits)
          (log.filterMap LaneEvent.attempted?) courses ∧
        courses.flatten.Sublist record ∧ record.audits = courses.flatMap History.audits := by
  obtain ⟨courses, deliveries, within, told, _⟩ := chronicle.attempts
  exact ⟨courses, deliveries.imp fun _ _ => Ack.attested_of_leads, within, told⟩

/-- The same holds of the attempts that are over while another one is under way, as nothing is told of that
one yet. -/
theorem Chronicled.attested
    {settings : AckSettings}
    {lane : Lane}
    {log : List LaneEvent}
    {record : History}
    (chronicled : Chronicled settings log record lane.worker)
    (calm : record.Calm)
    (underWay : lane.UnderWay) :
    ∃ courses : List History,
      List.Forall₂ (fun task course => Ack.Attested settings task course course.audits)
          ((log.filterMap LaneEvent.attempted?).take (log.countP LaneEvent.isEnded)) courses ∧
        courses.flatten.Sublist record ∧ record.audits = courses.flatMap History.audits := by
  cases doing : lane.worker with
  | sending rest draining =>
      rw [doing] at chronicled
      obtain ⟨earlier, before, task, course, rfl, rfl, chronicle, leads⟩ := chronicled
      obtain ⟨courses, attested, within, told⟩ := chronicle.attested
      have untold := Ack.audits_of_unfinished leads (underWay rest draining doing)
      refine ⟨courses, ?_, within.trans (List.sublist_append_left _ _), by simp [told, untold]⟩
      simpa [List.filterMap_cons, LaneEvent.attempted?, LaneEvent.isEnded, List.take_append,
        chronicle.attempts_over] using attested
  | panicked panic =>
      rw [doing] at chronicled
      exact absurd calm chronicled
  | _ =>
      rw [doing] at chronicled
      rw [List.take_of_length_le (Chronicle.attempts_over chronicled).le]
      exact Chronicle.attested chronicled

namespace Surroundings

variable {σ : Type}

/-- The surroundings without an audit. -/
def unaudited (surroundings : Surroundings σ) : Surroundings σ :=
  ⟨surroundings.lane.unaudited, surroundings.others.unaudited⟩

/-- The surroundings with an audit of what goes on on the lane. -/
def audited
    (surroundings : Surroundings σ)
    (auditing : AuditSettings) :
    Surroundings (σ × List AuditEvent) :=
  ⟨surroundings.lane.audited auditing, surroundings.others.audited auditing⟩

end Surroundings

namespace Traffic

variable {σ : Type}

/-- The traffic beside what was published of the worker's dealings with the world. -/
def audited
    (auditing : AuditSettings)
    (traffic : Traffic σ) :
    Traffic (σ × List AuditEvent) where
  lane := traffic.lane
  world := (traffic.world, traffic.record.published auditing)
  pushes := traffic.pushes
  log := traffic.log
  record := traffic.record
  notes := traffic.notes

/-- The same move beside an audit, which nobody but the lane has a part in. -/
def Move.audited : Move σ → Move (σ × List AuditEvent)
  | .push owner task => .push owner task
  | .clone => .clone
  | .drop => .drop
  | .signal broadcast => .signal broadcast
  | .disconnect => .disconnect
  | .work => .work
  | .elsewhere change => .elsewhere (Prod.map change id)

theorem push_audited
    (environment : Environment σ)
    (auditing : AuditSettings)
    (owner : Nat)
    (task : AckTask)
    (traffic : Traffic σ) :
    (traffic.audited auditing).push (environment.audited auditing) owner task =
      (traffic.push environment.unaudited owner task).audited auditing := by
  cases accepting : traffic.lane.accepting with
  | true =>
      have acceptingToo : (traffic.audited auditing).lane.accepting = true := accepting
      rw [push_of_accepting accepting, push_of_accepting acceptingToo]
      rfl
  | false =>
      have closedToo : (traffic.audited auditing).lane.accepting = false := accepting
      rw [push_of_closed accepting, push_of_closed closedToo, Environment.note_audited]
      rfl

/-- With an audit the same happens on and around a lane as without one. -/
theorem step?_audited
    (surroundings : Surroundings σ)
    (settings : AckSettings)
    (auditing : AuditSettings)
    (traffic : Traffic σ)
    (move : Move σ) :
    (traffic.audited auditing).step? (surroundings.audited auditing) settings move.audited =
      (traffic.step? surroundings.unaudited settings move).map (audited auditing) := by
  cases move with
  | push owner task => exact congrArg some (push_audited _ auditing owner task traffic)
  | clone =>
      by_cases unhandled : traffic.lane.handles = 0
      · simp [step?, Move.audited, audited, unhandled]
      · simp [step?, Move.audited, audited, unhandled]
  | drop =>
      by_cases unhandled : traffic.lane.handles = 0
      · simp [step?, Move.audited, audited, unhandled]
      · simp [step?, Move.audited, audited, unhandled]
  | signal signal => rfl
  | disconnect => rfl
  | elsewhere change => rfl
  | work =>
      have mirrored :=
        Lane.step?_of_mirrors (surroundings.lane.mirrors_audited auditing) settings traffic.lane
          (traffic.world, traffic.record)
      simp only [Environment.besidePublished] at mirrored
      simp only [step?, Move.audited, work?, audited, Surroundings.audited, Surroundings.unaudited,
        mirrored]
      cases traffic.lane.step? surroundings.lane.unaudited.recorded settings
        (traffic.world, traffic.record) <;> rfl

end Traffic

namespace Submitters

variable {σ : Type}

/-- The submitters beside what was published of the worker's dealings with the world. -/
def audited
    (auditing : AuditSettings)
    (submitters : Submitters σ) :
    Submitters (σ × List AuditEvent) :=
  ⟨submitters.traffic.audited auditing, submitters.submissions⟩

/-- The same move beside an audit, which nobody but the lane has a part in. -/
def Move.audited : Move σ → Move (σ × List AuditEvent)
  | .submit tasks => .submit tasks
  | .push number => .push number
  | .clone => .clone
  | .drop => .drop
  | .signal broadcast => .signal broadcast
  | .disconnect => .disconnect
  | .work => .work
  | .elsewhere change => .elsewhere (Prod.map change id)

theorem step?_audited
    (surroundings : Surroundings σ)
    (settings : AckSettings)
    (auditing : AuditSettings)
    (submitters : Submitters σ)
    (move : Move σ) :
    (submitters.audited auditing).step? (surroundings.audited auditing) settings move.audited =
      (submitters.step? surroundings.unaudited settings move).map (audited auditing) := by
  have passes : ∀ onLane : Traffic.Move σ,
      (submitters.audited auditing).pass? (surroundings.audited auditing) settings
          onLane.audited =
        (submitters.pass? surroundings.unaudited settings onLane).map (audited auditing) := by
    intro onLane
    simp only [pass?, audited, Traffic.step?_audited, Option.map_map]
    rfl
  cases move with
  | submit tasks =>
      by_cases unhandled : submitters.traffic.lane.handles = 0
      · simp [step?, Move.audited, audited, Traffic.audited, unhandled]
      · simp [step?, Move.audited, audited, Traffic.audited, unhandled]
  | push number =>
      simp only [step?, Move.audited, audited, Surroundings.audited, Traffic.push_audited]
      split <;> rfl
  | clone => exact passes .clone
  | drop =>
      have goesOn := passes .drop
      by_cases last : submitters.traffic.lane.handles = 1 ∧ submitters.unpushed ≠ []
      · have lastToo : (submitters.audited auditing).traffic.lane.handles = 1 ∧
            (submitters.audited auditing).unpushed ≠ [] := last
        simp only [step?, Move.audited]
        rw [if_pos last, if_pos lastToo]
        rfl
      · have notLast : ¬((submitters.audited auditing).traffic.lane.handles = 1 ∧
            (submitters.audited auditing).unpushed ≠ []) := last
        simp only [step?, Move.audited]
        rw [if_neg last, if_neg notLast]
        exact goesOn
  | signal signal => exact passes (.signal signal)
  | disconnect => exact passes .disconnect
  | work => exact passes .work
  | elsewhere change => exact passes (.elsewhere change)

/-- With an audit the same happens among submitters as without one. -/
theorem run?_audited
    (surroundings : Surroundings σ)
    (settings : AckSettings)
    (auditing : AuditSettings)
    (submitters : Submitters σ)
    (moves : List (Move σ)) :
    run? (surroundings.audited auditing) settings (moves.map Move.audited)
        (submitters.audited auditing) =
      (run? surroundings.unaudited settings moves submitters).map (audited auditing) := by
  induction moves generalizing submitters with
  | nil => rfl
  | cons move moves inductionHypothesis =>
      simp only [List.map_cons, run?, step?_audited]
      cases submitters.step? surroundings.unaudited settings move with
      | none => rfl
      | some next => exact inductionHypothesis next

/-- The submitters without what was published. -/
def unaudited (submitters : Submitters (σ × List AuditEvent)) : Submitters σ where
  traffic :=
    { lane := submitters.traffic.lane
      world := submitters.traffic.world.1
      pushes := submitters.traffic.pushes
      log := submitters.traffic.log
      record := submitters.traffic.record
      notes := submitters.traffic.notes }
  submissions := submitters.submissions

section FromNew

variable
  {surroundings : Surroundings σ}
  {settings : AckSettings}
  {auditing : AuditSettings}
  {signalCapacity : Nat}
  {world : σ}
  {moves : List (Move σ)}

/-- Apart from what is published, an audit makes no difference among submitters. -/
theorem map_unaudited_run? :
    (run? (surroundings.audited auditing) settings (moves.map Move.audited)
        (.new signalCapacity (world, []))).map unaudited =
      run? surroundings.unaudited settings moves (.new signalCapacity world) := by
  have ran :=
    run?_audited surroundings settings auditing (.new signalCapacity world) moves
  have begins : (Submitters.new signalCapacity world).audited auditing =
      .new signalCapacity (world, []) := rfl
  have returns : (unaudited ∘ audited auditing : Submitters σ → Submitters σ) = id := rfl
  rw [← begins, ran, Option.map_map, returns, Option.map_id_apply]

/-- What is published among submitters is what the worker tells the audit of. -/
theorem published_of_run?
    {submitters : Submitters (σ × List AuditEvent)}
    (ran :
      run? (surroundings.audited auditing) settings (moves.map Move.audited)
          (.new signalCapacity (world, [])) =
        some submitters) :
    submitters.traffic.world.2 = submitters.traffic.record.published auditing := by
  have begins : (Submitters.new signalCapacity world).audited auditing =
      .new signalCapacity (world, []) := rfl
  rw [← begins, run?_audited, Option.map_eq_some_iff] at ran
  obtain ⟨plain, _, rfl⟩ := ran
  rfl

end FromNew

/-- What was published of a lane agrees with what the lane has attempted. -/
structure Reconciled
    (settings : AckSettings)
    (auditing : AuditSettings)
    (submitters : Submitters (σ × List AuditEvent)) :
    Prop where
  /-- At most one attempt is not over. -/
  oneAtATime :
    submitters.traffic.attempted.length =
      submitters.traffic.sendsOver + if submitters.traffic.lane.isSending then 1 else 0
  /-- Each attempt that is over has a course of its own and one ending, which the course shows; what is told
  of the ending is published of it, and nothing is published beside. -/
  told :
    ∃ courses : List History,
      List.Forall₂ (fun task course => Ack.Attested settings task course (course.published auditing))
          (submitters.traffic.attempted.take submitters.traffic.sendsOver) courses ∧
        courses.flatten.Sublist submitters.traffic.record ∧
        submitters.traffic.world.2 = courses.flatMap (History.published auditing)

/-- Among submitters with an audit that is switched on, what is published agrees with what is attempted, as
long as nobody panics in the worker's dealings with the world. -/
theorem reconciled_of_run?
    {surroundings : Surroundings σ}
    {settings : AckSettings}
    {auditing : AuditSettings}
    {signalCapacity : Nat}
    {world : σ}
    {moves : List (Move σ)}
    {submitters : Submitters (σ × List AuditEvent)}
    (enabled : auditing.enabled = true)
    (ran :
      run? (surroundings.audited auditing) settings (moves.map Move.audited)
          (.new signalCapacity (world, [])) =
        some submitters)
    (calm : submitters.traffic.record.Calm) :
    submitters.Reconciled settings auditing := by
  have chronicled := (((Kept.new signalCapacity (world, [])).run ran).accounts calm).chronicled
  have underWay : submitters.traffic.lane.UnderWay := by
    refine underWay_of_run? ?_ ran
    intro rest draining sending
    cases sending
  have published := published_of_run? ran
  obtain ⟨courses, attested, within, told⟩ := chronicled.attested calm underWay
  refine ⟨chronicled.attempts_over calm, courses, ?_, within, ?_⟩
  · exact attested.imp fun _ _ shown => shown.published enabled
  · rw [published, History.published_of_enabled enabled, told, List.map_flatMap]
    exact congrArg (List.flatMap · courses)
      (funext fun course => (History.published_of_enabled enabled course).symm)

end Submitters

end MmsInbox
