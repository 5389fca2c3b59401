import MmsInbox.Ack.Send
import MmsInbox.Program.Interruption

namespace MmsInbox

/-!
# When an acknowledgment is posted

A send posts at most once, and only after everything that speaks for it: the unit was composed, there are
carrier settings with a relay URL that parses, and either the network prefers the direct path or it has
provided a route to the proxy of these very settings (`Cleared`). Any doubt ends the send before the post
(`send_failsClosed`). This holds at each point of each course, also if somebody panics.
-/

/-- A question, or something that is written into the journal or handed to the audit. -/
def Event.WritesDown : Event → Prop
  | .answered _ _ => True
  | .panicked _ _ => True
  | .acted (.audit _) _ => True
  | .acted (.note _) _ => True
  | .acted _ _ => False

namespace Ack

open Program

/-- The transport is asked to send a post on its way. -/
def isPost : Call → Bool
  | .post _ => true
  | _ => false

/-- A question about the route. -/
def isRouting : Call → Bool
  | .relayCredentials _ => true
  | .prefersDirectPath => true
  | .ensureRouteToHost _ _ => true
  | _ => false

/-- The address that a task is posted to. -/
def target
    (settings : AckSettings)
    (task : AckTask)
    (relayUrl : String) :
    String :=
  if settings.toContentLocation then task.location else relayUrl

/-- What happens while a route is looked up, and the route. -/
inductive Routes (subscription : Subscription) :
    Except RouteError (Option Route) → History → Prop where
  | unconfigured :
      Routes subscription (.ok none) [.answered (.relayCredentials subscription) none]
  | unparsable
      {credentials : RelayCredentials}
      {reason : UrlError}
      (unparsable : Url.parse credentials.relayUrl = .error reason) :
      Routes subscription (.error (.invalidRelayUrl credentials.relayUrl reason.message))
        [.answered (.relayCredentials subscription) (some credentials)]
  | straight
      {credentials : RelayCredentials}
      {url : Url}
      (parsed : Url.parse credentials.relayUrl = .ok url) :
      Routes subscription (.ok (some (.straight credentials.relayUrl)))
        [.answered (.relayCredentials subscription) (some credentials),
          .answered .prefersDirectPath true]
  | proxyless
      {credentials : RelayCredentials}
      {url : Url}
      (parsed : Url.parse credentials.relayUrl = .ok url)
      (proxyless : credentials.proxy = none) :
      Routes subscription (.error (.missingProxy subscription))
        [.answered (.relayCredentials subscription) (some credentials),
          .answered .prefersDirectPath false]
  | refused
      {credentials : RelayCredentials}
      {url : Url}
      {proxy : ProxyAddress}
      {error : RouteError}
      (parsed : Url.parse credentials.relayUrl = .ok url)
      (named : credentials.proxy = some proxy) :
      Routes subscription (.error error)
        [.answered (.relayCredentials subscription) (some credentials),
          .answered .prefersDirectPath false,
          .answered (.ensureRouteToHost credentials.relayUrl proxy) (.error error)]
  | through
      {credentials : RelayCredentials}
      {url : Url}
      {proxy : ProxyAddress}
      (parsed : Url.parse credentials.relayUrl = .ok url)
      (named : credentials.proxy = some proxy) :
      Routes subscription (.ok (some (.through credentials.relayUrl proxy)))
        [.answered (.relayCredentials subscription) (some credentials),
          .answered .prefersDirectPath false,
          .answered (.ensureRouteToHost credentials.relayUrl proxy) (.ok ())]

/-- A route is found, or not, in one of the ways listed. -/
theorem routes_of_leads
    {subscription : Subscription}
    {history : History}
    {found : Except RouteError (Option Route)}
    (leads : Leads (resolveRoute subscription) history (.done found)) :
    Routes subscription found history := by
  obtain ⟨credentials, rest, rfl, afterSettings⟩ := leads_call_bind.mp leads
  cases credentials with
  | none =>
      obtain ⟨rfl, rfl⟩ := leads_done_done.mp afterSettings
      exact .unconfigured
  | some credentials =>
      cases parsed : Url.parse credentials.relayUrl with
      | error reason =>
          simp only [parsed] at afterSettings
          obtain ⟨rfl, rfl⟩ := leads_done_done.mp afterSettings
          exact .unparsable parsed
      | ok url =>
          simp only [parsed] at afterSettings
          obtain ⟨direct, rest, rfl, afterPolicy⟩ := leads_call_bind.mp afterSettings
          cases direct with
          | true =>
              obtain ⟨rfl, rfl⟩ := leads_done_done.mp afterPolicy
              exact .straight parsed
          | false =>
              cases named : credentials.proxy with
              | none =>
                  simp only [named] at afterPolicy
                  obtain ⟨rfl, rfl⟩ := leads_done_done.mp afterPolicy
                  exact .proxyless parsed named
              | some proxy =>
                  simp only [named] at afterPolicy
                  obtain ⟨ensured, rest, rfl, afterEnsuring⟩ := leads_call_bind.mp afterPolicy
                  cases ensured with
                  | error error =>
                      obtain ⟨rfl, rfl⟩ := leads_done_done.mp afterEnsuring
                      exact .refused parsed named
                  | ok reached =>
                      obtain ⟨rfl, rfl⟩ := leads_done_done.mp afterEnsuring
                      exact .through parsed named

/-- A route has a proxy's host and port exactly when it is not direct. -/
theorem Routes.whole
    {subscription : Subscription}
    {route : Route}
    {history : History}
    (routes : Routes subscription (.ok (some route)) history) :
    route.proxyHost.isSome = !route.direct ∧ route.proxyPort.isSome = !route.direct := by
  cases routes <;> exact ⟨rfl, rfl⟩

/-- While a route is looked up, nothing is asked that is not about the route. -/
theorem Routes.kind
    {subscription : Subscription}
    {found : Except RouteError (Option Route)}
    {history : History}
    (routes : Routes subscription found history) :
    ∀ call ∈ history.calls, isRouting call = true := by
  cases routes <;> simp [isRouting]

/-- Nothing is posted while a route is looked up. -/
theorem Routes.unposted
    {subscription : Subscription}
    {found : Except RouteError (Option Route)}
    {history : History}
    (routes : Routes subscription found history) :
    ∀ call ∈ history.calls, isPost call = false := by
  intro call put
  have routing := routes.kind call put
  cases call <;> first | rfl | cases routing

/-- What happens once a request was posted for a task, and what the send comes to. -/
inductive Judges
    (task : AckTask)
    (request : Http.Request)
    (direct : Bool) :
    Except AckError (Option UInt16) → History → Prop where
  | lost (error : Http.TransportError) :
      Judges task request direct (.error (.network (.transport error)))
        [.answered .awaitResponse (.error error)]
  | accepted
      {response : Http.Response}
      (below : response.status < 400) :
      Judges task request direct (.ok (some response.status))
        [.answered .awaitResponse (.ok response),
          .acted
            (.audit
              (.acknowledgmentSent task.kindName request.url response.status direct))
            ()]
  | rejected
      {response : Http.Response}
      (serious : ¬ response.status < 400) :
      Judges task request direct
        (.error (.network (.httpStatus request.url response.status)))
        [.answered .awaitResponse (.ok response)]

/-- What happens in a send in which nobody panics, and what it comes to. -/
inductive Concludes
    (settings : AckSettings)
    (task : AckTask) :
    Except AckError (Option UInt16) → History → Prop where
  | uncomposed (error : CodecError) :
      Concludes settings task (.error (.compose error))
        [.answered (.compose task.attempt.pdu) (.error error)]
  | unrouted
      {error : RouteError}
      {routing : History}
      (body : Bytes)
      (routes : Routes task.subscription (.error error) routing) :
      Concludes settings task (.error (.route error))
        (.answered (.compose task.attempt.pdu) (.ok body) :: routing)
  | unconfigured
      {routing : History}
      (body : Bytes)
      (routes : Routes task.subscription (.ok none) routing) :
      Concludes settings task (.ok none)
        (.answered (.compose task.attempt.pdu) (.ok body) ::
          (routing ++ [.acted (.note (.relaySettingsMissing task.subscription)) ()]))
  | posted
      {route : Route}
      {routing later : History}
      {result : Except AckError (Option UInt16)}
      (body : Bytes)
      (routes : Routes task.subscription (.ok (some route)) routing)
      (judges :
        Judges task ⟨target settings task route.relayUrl, body, route.proxy?⟩ route.direct result
          later) :
      Concludes settings task result
        (.answered (.compose task.attempt.pdu) (.ok body) ::
          (routing ++
            .answered (.post ⟨target settings task route.relayUrl, body, route.proxy?⟩) () ::
              later))

/-- A send in which nobody panics concludes in one of the ways listed. -/
theorem concludes_of_leads
    {settings : AckSettings}
    {task : AckTask}
    {history : History}
    {result : Except AckError (Option UInt16)}
    (leads : Leads (send settings task) history (.done result)) :
    Concludes settings task result history := by
  obtain ⟨composed, rest, rfl, afterComposing⟩ := leads_call_bind.mp leads
  cases composed with
  | error error =>
      obtain ⟨rfl, rfl⟩ := leads_done_done.mp afterComposing
      exact .uncomposed error
  | ok body =>
      obtain ⟨found, routing, rest, rfl, routes, afterRouting⟩ := leads_bind_done.mp afterComposing
      have routes := routes_of_leads routes
      rcases found with error | _ | route
      · obtain ⟨rfl, rfl⟩ := leads_done_done.mp afterRouting
        simpa using Concludes.unrouted body routes
      · obtain ⟨_, rest, rfl, afterNoting⟩ := leads_perform_bind.mp afterRouting
        obtain ⟨rfl, rfl⟩ := leads_done_done.mp afterNoting
        exact .unconfigured body routes
      · obtain ⟨_, rest, rfl, afterPosting⟩ := leads_call_bind.mp afterRouting
        obtain ⟨response, rest, rfl, afterAnswer⟩ := leads_call_bind.mp afterPosting
        refine .posted body routes ?_
        cases response with
        | error error =>
            obtain ⟨rfl, rfl⟩ := leads_done_done.mp afterAnswer
            exact .lost error
        | ok response =>
            dsimp only at afterAnswer
            split at afterAnswer
            · rename_i success
              obtain ⟨_, rest, rfl, afterAudit⟩ := leads_perform_bind.mp afterAnswer
              obtain ⟨rfl, rfl⟩ := leads_done_done.mp afterAudit
              exact .accepted (by simpa [Http.Response.isSuccess] using success)
            · rename_i failure
              obtain ⟨rfl, rfl⟩ := leads_done_done.mp afterAnswer
              exact .rejected (by simpa [Http.Response.isSuccess] using failure)

/-- What happens in a send in which nobody panics. -/
inductive Sends
    (settings : AckSettings)
    (task : AckTask) :
    History → Prop where
  | uncomposed (error : CodecError) :
      Sends settings task [.answered (.compose task.attempt.pdu) (.error error)]
  | unrouted
      {found : Except RouteError (Option Route)}
      {routing notes : History}
      (body : Bytes)
      (routes : Routes task.subscription found routing)
      (nowhere : ∀ route, found ≠ .ok (some route))
      (unasked : notes.calls = []) :
      Sends settings task (.answered (.compose task.attempt.pdu) (.ok body) :: (routing ++ notes))
  | posted
      {route : Route}
      {routing later : History}
      (body : Bytes)
      (routes : Routes task.subscription (.ok (some route)) routing)
      (awaits : later.calls = [.awaitResponse]) :
      Sends settings task
        (.answered (.compose task.attempt.pdu) (.ok body) ::
          (routing ++
            .answered (.post ⟨target settings task route.relayUrl, body, route.proxy?⟩) () ::
              later))

/-- A send in which nobody panics is one of those listed. -/
theorem sends_of_leads
    {settings : AckSettings}
    {task : AckTask}
    {history : History}
    {result : Except AckError (Option UInt16)}
    (leads : Leads (send settings task) history (.done result)) :
    Sends settings task history := by
  cases concludes_of_leads leads with
  | uncomposed error => exact .uncomposed error
  | unrouted body routes => simpa using Sends.unrouted body routes (by simp) History.calls_nil
  | unconfigured body routes => exact .unrouted body routes (by simp) rfl
  | posted body routes judges => exact .posted body routes (by cases judges <;> rfl)

/-- All that has happened before a request is posted for a task, and all of it speaks for the request. -/
inductive Cleared
    (settings : AckSettings)
    (task : AckTask) :
    History → Http.Request → Prop where
  | straight
      {body : Bytes}
      {credentials : RelayCredentials}
      {url : Url}
      (parsed : Url.parse credentials.relayUrl = .ok url) :
      Cleared settings task
        [.answered (.compose task.attempt.pdu) (.ok body),
          .answered (.relayCredentials task.subscription) (some credentials),
          .answered .prefersDirectPath true]
        ⟨target settings task credentials.relayUrl, body, none⟩
  | through
      {body : Bytes}
      {credentials : RelayCredentials}
      {url : Url}
      {proxy : ProxyAddress}
      (parsed : Url.parse credentials.relayUrl = .ok url)
      (named : credentials.proxy = some proxy) :
      Cleared settings task
        [.answered (.compose task.attempt.pdu) (.ok body),
          .answered (.relayCredentials task.subscription) (some credentials),
          .answered .prefersDirectPath false,
          .answered (.ensureRouteToHost credentials.relayUrl proxy) (.ok ())]
        ⟨target settings task credentials.relayUrl, body, some proxy⟩

/-- Something has happened that speaks against a post. -/
inductive Barred (history : History) : Prop where
  | uncomposed
      {pdu : OutboundPdu}
      {error : CodecError}
      (failed : .answered (.compose pdu) (.error error) ∈ history)
  | unconfigured
      {subscription : Subscription}
      (missing : .answered (.relayCredentials subscription) none ∈ history)
  | unparsable
      {subscription : Subscription}
      {credentials : RelayCredentials}
      {reason : UrlError}
      (read : .answered (.relayCredentials subscription) (some credentials) ∈ history)
      (unparsable : Url.parse credentials.relayUrl = .error reason)
  /-- A proxy is needed, and the settings name none. -/
  | proxyless
      {subscription : Subscription}
      {credentials : RelayCredentials}
      (read : .answered (.relayCredentials subscription) (some credentials) ∈ history)
      (proxyless : credentials.proxy = none)
      (indirect : .answered .prefersDirectPath false ∈ history)
  /-- The network does not provide a route to the proxy. -/
  | refused
      {relayUrl : String}
      {proxy : ProxyAddress}
      {error : RouteError}
      (failed : .answered (.ensureRouteToHost relayUrl proxy) (.error error) ∈ history)

/-- Where there is a route, everything has been cleared. -/
theorem Routes.cleared
    {task : AckTask}
    {route : Route}
    {routing : History}
    (settings : AckSettings)
    (body : Bytes)
    (routes : Routes task.subscription (.ok (some route)) routing) :
    Cleared settings task (.answered (.compose task.attempt.pdu) (.ok body) :: routing)
      ⟨target settings task route.relayUrl, body, route.proxy?⟩ := by
  cases routes with
  | straight parsed => exact .straight parsed
  | through parsed named => exact .through parsed named

/-- Nothing speaks against what has been cleared. -/
theorem Cleared.not_barred
    {settings : AckSettings}
    {task : AckTask}
    {before : History}
    {request : Http.Request}
    (cleared : Cleared settings task before request) :
    ¬ Barred before := by
  rintro (failed | missing | ⟨read, unparsable⟩ | ⟨read, proxyless, indirect⟩ | failed)
  · cases cleared <;> simp at failed
  · cases cleared <;> simp at missing
  · cases cleared <;> simp_all
  · cases cleared <;> simp_all
  · cases cleared <;> simp at failed

/-- What follows a post does not speak against it. -/
theorem Barred.before_post
    {before later : History}
    {request : Http.Request}
    (barred : Barred (before ++ .answered (.post request) () :: later))
    (awaits : later.calls = [.awaitResponse]) :
    Barred before := by
  have earlier :
      ∀ {call : Call} {answer : call.Answer},
        call ≠ .post request → call ≠ .awaitResponse →
        .answered call answer ∈ before ++ .answered (.post request) () :: later →
        .answered call answer ∈ before := by
    intro call answer unposted unawaited member
    rcases List.mem_append.mp member with early | late
    · exact early
    · rcases List.mem_cons.mp late with same | afterwards
      · cases same
        exact absurd rfl unposted
      · have put := History.mem_calls_of_answered afterwards
        rw [awaits, List.mem_singleton] at put
        exact absurd put unawaited
  cases barred with
  | uncomposed failed => exact .uncomposed (earlier nofun nofun failed)
  | unconfigured missing => exact .unconfigured (earlier nofun nofun missing)
  | unparsable read unparsable => exact .unparsable (earlier nofun nofun read) unparsable
  | proxyless read proxyless indirect =>
      exact .proxyless (earlier nofun nofun read) proxyless (earlier nofun nofun indirect)
  | refused failed => exact .refused (earlier nofun nofun failed)

/-- A send either posts one request, for which everything has been cleared, or none. -/
theorem Sends.posted_or
    {settings : AckSettings}
    {task : AckTask}
    {course : History}
    (sends : Sends settings task course) :
    (∃ (before later : History) (request : Http.Request),
      course = before ++ .answered (.post request) () :: later ∧
        Cleared settings task before request ∧
        (∀ call ∈ before.calls, isPost call = false) ∧
        later.calls = [.awaitResponse]) ∨
      ∀ call ∈ course.calls, isPost call = false := by
  cases sends with
  | uncomposed error => exact .inr (by simp [isPost])
  | unrouted body routes nowhere unasked =>
      refine .inr ?_
      simpa [isPost, unasked] using routes.unposted
  | @posted route routing later body routes awaits =>
      refine .inl ⟨.answered (.compose task.attempt.pdu) (.ok body) :: routing, later, _, rfl,
        routes.cleared settings body, ?_, awaits⟩
      simpa [isPost] using routes.unposted

/-- If a send posts nothing, something speaks against it. -/
theorem Sends.barred_of_unposted
    {settings : AckSettings}
    {task : AckTask}
    {course : History}
    (sends : Sends settings task course)
    (unposted : ∀ call ∈ course.calls, isPost call = false) :
    Barred course := by
  cases sends with
  | uncomposed error => exact .uncomposed List.mem_cons_self
  | unrouted body routes nowhere unasked =>
      cases routes with
      | unconfigured => exact .unconfigured (List.mem_cons_of_mem _ List.mem_cons_self)
      | unparsable unparsable =>
          exact .unparsable (List.mem_cons_of_mem _ List.mem_cons_self) unparsable
      | straight parsed => exact absurd rfl (nowhere _)
      | proxyless parsed proxyless =>
          exact .proxyless (List.mem_cons_of_mem _ List.mem_cons_self) proxyless (by simp)
      | refused parsed named =>
          exact .refused (List.mem_cons_of_mem _ (List.mem_cons_of_mem _
            (List.mem_cons_of_mem _ List.mem_cons_self)))
      | through parsed named => exact absurd rfl (nowhere _)
  | @posted route _ _ body routes awaits =>
      have posted :=
        unposted (.post ⟨target settings task route.relayUrl, body, route.proxy?⟩) (by simp)
      cases posted

/-- An event that is the only one of its kind is at one place. -/
theorem eq_of_split
    {first second before after : History}
    {event other : Event}
    {kind : Event → Prop}
    (split : first ++ event :: second = before ++ other :: after)
    (found : kind other)
    (noneBefore : ∀ earlier ∈ first, ¬ kind earlier)
    (noneAfter : ∀ later ∈ second, ¬ kind later) :
    before = first ∧ other = event := by
  rcases List.append_eq_append_iff.mp split with
    ⟨between, rfl, rest⟩ | ⟨between, rfl, rest⟩
  · cases between with
    | nil =>
        obtain ⟨rfl, _⟩ := List.cons.inj rest
        exact ⟨List.append_nil _, rfl⟩
    | cons passed between =>
        obtain ⟨_, rfl⟩ := List.cons.inj rest
        exact absurd found (noneAfter other (by simp))
  · cases between with
    | nil =>
        obtain ⟨rfl, _⟩ := List.cons.inj rest
        exact ⟨(List.append_nil _).symm, rfl⟩
    | cons passed between =>
        obtain ⟨rfl, _⟩ := List.cons.inj rest
        exact absurd found (noneBefore other (by simp))

/-- Where nothing was posted, no event is a post. -/
theorem not_posts_of_unposted
    {history : History}
    (unposted : ∀ call ∈ history.calls, isPost call = false) :
    ∀ event ∈ history, ¬ ∃ request, event.call? = some (.post request) := by
  rintro event member ⟨request, put⟩
  cases unposted _ (List.mem_filterMap.mpr ⟨event, member, put⟩)

/-- When a send posts, everything has been cleared. -/
theorem Sends.cleared
    {settings : AckSettings}
    {task : AckTask}
    {before later : History}
    {request : Http.Request}
    {answer : Unit}
    (sends : Sends settings task (before ++ .answered (.post request) answer :: later)) :
    Cleared settings task before request := by
  rcases sends.posted_or with ⟨first, second, posted, happens, cleared, noneBefore, awaits⟩ | unposted
  · have noneAfter : ∀ call ∈ second.calls, isPost call = false := by
      rw [awaits]
      simp [isPost]
    obtain ⟨rfl, same⟩ :=
      eq_of_split happens.symm ⟨request, rfl⟩ (not_posts_of_unposted noneBefore)
        (not_posts_of_unposted noneAfter)
    cases same
    exact cleared
  · have posted := unposted (.post request) (by simp)
    cases posted

/-- A send asks the transport to post once at most. -/
theorem Sends.countP_isPost_le_one
    {settings : AckSettings}
    {task : AckTask}
    {course : History}
    (sends : Sends settings task course) :
    course.calls.countP isPost ≤ 1 := by
  rcases sends.posted_or with ⟨before, later, request, rfl, _, unposted, awaits⟩ | unposted
  · have none : before.calls.countP isPost = 0 :=
      List.countP_eq_zero.mpr fun call put => by simp [unposted call put]
    rw [History.calls_append, List.countP_append, none, History.calls_answered, awaits]
    exact Nat.le_refl 1
  · have none : course.calls.countP isPost = 0 :=
      List.countP_eq_zero.mpr fun call put => by simp [unposted call put]
    omega

theorem call_plain (call : Call) : (Program.call call).Plain Event.WritesDown :=
  .call (fun _ => trivial) fun _ => trivial

theorem resolveRoute_plain (subscription : Subscription) :
    (resolveRoute subscription).Plain Event.WritesDown := by
  refine Plain.bind (call_plain _) ?_
  intro credentials
  cases credentials with
  | none => exact .done _
  | some credentials =>
      dsimp only
      split
      · exact .done _
      · refine Plain.bind (call_plain _) ?_
        intro direct
        split
        · exact .done _
        · split
          · exact .done _
          · refine Plain.bind (call_plain _) ?_
            intro ensured
            cases ensured with
            | error error => exact .done _
            | ok reached => exact .done _

/-- A panic ends a send, and a send does nothing on its own but write down. -/
theorem send_plain
    (settings : AckSettings)
    (task : AckTask) :
    (send settings task).Plain Event.WritesDown := by
  refine Plain.bind (call_plain _) ?_
  intro composed
  cases composed with
  | error error => exact .done _
  | ok body =>
      refine Plain.bind (resolveRoute_plain _) ?_
      intro found
      rcases found with error | _ | route
      · exact .done _
      · exact .bind (.perform fun _ => trivial) fun _ => .done _
      · refine Plain.bind (call_plain _) ?_
        intro _
        refine Plain.bind (call_plain _) ?_
        intro response
        cases response with
        | error error => exact .done _
        | ok response =>
            dsimp only
            split
            · exact .bind (.perform fun _ => trivial) fun _ => .done _
            · exact .done _

/-- What speaks against a post along a course speaks against it on the course. -/
theorem Barred.along
    {course history : History}
    (barred : Barred history)
    (along : course.Along history) :
    Barred course := by
  cases barred with
  | uncomposed failed => exact .uncomposed (along.mem failed rfl)
  | unconfigured missing => exact .unconfigured (along.mem missing rfl)
  | unparsable read unparsable => exact .unparsable (along.mem read rfl) unparsable
  | proxyless read proxyless indirect =>
      exact .proxyless (along.mem read rfl) proxyless (along.mem indirect rfl)
  | refused failed => exact .refused (along.mem failed rfl)

/-- Up to each point of a send, whatever the codec, the settings, the network and the transport have
answered and whoever has panicked: no more than one request was posted; before it was, everything was
cleared; nothing was posted if anything speaks against it, and if nothing was posted in a send that has
come to a value something does; and every route that can be found for a subscription has a proxy's host and
port exactly when it is not direct. -/
theorem send_failsClosed
    {settings : AckSettings}
    {task : AckTask}
    {history : History}
    {rest : Program (Except AckError (Option UInt16))}
    (leads : Leads (send settings task) history rest) :
    history.calls.countP isPost ≤ 1 ∧
      (∀ before event after request,
        history = before ++ event :: after → event.call? = some (.post request) →
          Cleared settings task before request) ∧
      (Barred history → ∀ request, .post request ∉ history.calls) ∧
      (∀ result, rest = .done result →
        (∀ request, .post request ∉ history.calls) → Barred history) ∧
      ∀ subscription routing route,
        Leads (resolveRoute subscription) routing (.done (.ok (some route))) →
          route.proxyHost.isSome = !route.direct ∧ route.proxyPort.isSome = !route.direct := by
  obtain ⟨course, result, calm, ends, along⟩ := (send_plain settings task).forwards.exists_course leads
  have sends := sends_of_leads ends
  refine ⟨?_, ?_, ?_, ?_, ?_⟩
  · calc
      history.calls.countP isPost ≤ course.calls.countP isPost :=
        along.calls_prefix.sublist.countP_le
      _ ≤ 1 := sends.countP_isPost_le_one
  · rintro before event after request rfl put
    obtain ⟨answer, later, rfl⟩ := along.split calm put
    exact sends.cleared
  · intro barred request put
    have onCourse : .post request ∈ course.calls := along.calls_prefix.subset put
    rcases sends.posted_or with ⟨before, later, _, rfl, cleared, _, awaits⟩ | unposted
    · exact cleared.not_barred ((barred.along along).before_post awaits)
    · cases unposted _ onCourse
  · rintro result rfl unposted
    refine (sends_of_leads leads).barred_of_unposted fun call put => ?_
    cases call with
    | post request => exact absurd put (unposted request)
    | _ => rfl
  · intro subscription routing route found
    exact (routes_of_leads found).whole

/-- A proxy. -/
def gateway : ProxyAddress :=
  ⟨"10.0.0.1", 8080⟩

/-- A world in which everything is cleared for a post through a proxy. -/
def proxiedWorld : Environment Unit where
  answer call _ :=
    match call with
    | .compose _ => (.ok (.ok [1]), ())
    | .relayCredentials _ => (.ok (some ⟨"mmsc:relay", some gateway⟩), ())
    | .prefersDirectPath => (.ok false, ())
    | .ensureRouteToHost _ _ => (.ok (.ok ()), ())
    | .post _ => (.ok (), ())
    | .awaitResponse => (.ok (.ok ⟨200, []⟩), ())
    | _ => (.error ⟨"out of reach"⟩, ())
  perform action _ :=
    match action with
    | .readFile _ => (.ok [], ())
    | .removeFile _ => (.ok (), ())
    | .finishDownload _ => (none, ())
    | .audit _ => ((), ())
    | .note _ => ((), ())

/-- The receipt of a message. -/
def receipt : AckTask where
  attempt := .finalAcknowledgment "T7" none
  location := "http://relay.example/7"
  subscription := .standard

/-- A receipt is posted through the proxy of the settings, and everything was cleared for that. -/
theorem send_failsClosed_receipt :
    Leads (send .standard receipt) ((send .standard receipt).history proxiedWorld ())
        (ended ((send .standard receipt).run proxiedWorld ()).1) ∧
      .post ⟨"mmsc:relay", [1], some gateway⟩ ∈
        ((send .standard receipt).history proxiedWorld ()).calls ∧
      ((send .standard receipt).history proxiedWorld ()).calls.countP isPost ≤ 1 ∧
      (∀ before event after request,
        (send .standard receipt).history proxiedWorld () = before ++ event :: after →
          event.call? = some (.post request) → Cleared .standard receipt before request) ∧
      ¬ Barred ((send .standard receipt).history proxiedWorld ()) := by
  have course := leads_run proxiedWorld (send .standard receipt) ()
  have posted :
      .post ⟨"mmsc:relay", [1], some gateway⟩ ∈
        ((send .standard receipt).history proxiedWorld ()).calls := by
    decide +kernel
  obtain ⟨once, cleared, silent, _, _⟩ := send_failsClosed course
  exact ⟨course, posted, once, cleared, fun barred => silent barred _ posted⟩

end Ack

end MmsInbox
