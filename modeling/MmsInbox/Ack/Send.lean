import MmsInbox.Config.Basic
import MmsInbox.Program.Basic
import MmsInbox.Url.Parse

namespace MmsInbox.Ack

/-!
# Sending an acknowledgment

A send composes the unit, finds a route, and posts once. The route is looked up for each send: the
credentials are read, the relay URL has to parse, and then the network decides between the direct
path and the proxy. Every doubt ends the send before anything is posted.
-/

open Program

/-- Find the route for one send; none if the subscription has no carrier settings. -/
def resolveRoute
    (subscription : Subscription) :
    Program (Except RouteError (Option Route)) := do
  match ← call (.relayCredentials subscription) with
  | none => return .ok none
  | some credentials =>
    match Url.parse credentials.relayUrl with
    | .error reason =>
      return .error (.invalidRelayUrl credentials.relayUrl reason.message)
    | .ok _ =>
      if ← call .prefersDirectPath then
        return .ok (some (.straight credentials.relayUrl))
      else
        match credentials.proxy with
        | none => return .error (.missingProxy subscription)
        | some proxy =>
          match ← call (.ensureRouteToHost credentials.relayUrl proxy) with
          | .error error => return .error error
          | .ok () => return .ok (some (.through credentials.relayUrl proxy))

/-- Post a composed unit on a route and judge the answer. -/
def postOn
    (settings : AckSettings)
    (task : AckTask)
    (body : Bytes)
    (route : Route) :
    Program (Except AckError (Option UInt16)) := do
  let url := if settings.toContentLocation then task.location else route.relayUrl
  call (.post ⟨url, body, route.proxy?⟩)
  match ← call .awaitResponse with
  | .error error => return .error (.network (.transport error))
  | .ok response =>
    if response.isSuccess then
      audit (.acknowledgmentSent task.kindName url response.status route.direct)
      return .ok (some response.status)
    else return .error (.network (.httpStatus url response.status))

/-- Compose, route and post one acknowledgment. The status of the relay comes back, or nothing if the
subscription has no carrier settings. -/
def send
    (settings : AckSettings)
    (task : AckTask) :
    Program (Except AckError (Option UInt16)) := do
  match ← call (.compose task.attempt.pdu) with
  | .error error => return .error (.compose error)
  | .ok body =>
    match ← resolveRoute task.subscription with
    | .error error => return .error (.route error)
    | .ok none =>
      note (.relaySettingsMissing task.subscription)
      return .ok none
    | .ok (some route) => postOn settings task body route

/-- Send one acknowledgment for the lane: a failure is noted, audited and forgotten. -/
def deliver
    (settings : AckSettings)
    (task : AckTask) :
    Program Unit := do
  match ← send settings task with
  | .ok _ => pure ()
  | .error error =>
    note (.acknowledgmentFailed task error)
    audit (.acknowledgmentFailed task.kindName task.location error.message)

end MmsInbox.Ack
