import MmsInbox.Program.Basic

namespace MmsInbox.Scenario

/-!
# Scripts

A scenario runs the engine against collaborators that follow a script: whom they block, what they
look up, where they fail or panic, and what the relay answers.
-/

/-- The names under which calls are scripted and recorded. -/
inductive CallName where
  | parse
  | compose
  | persist
  | load
  | deletePending
  | updateRetrieveStatus
  | isAddressBlocked
  | relayCredentials
  | lineNumber
  | onMessageReceived
  | onError
  | submit
  | prefersDirectPath
  | ensureRouteToHost
  | post
  deriving Repr, DecidableEq

namespace CallName

/-- All names. -/
def all : List CallName :=
  [.parse, .compose, .persist, .load, .deletePending, .updateRetrieveStatus,
    .isAddressBlocked, .relayCredentials, .lineNumber, .onMessageReceived, .onError, .submit,
    .prefersDirectPath, .ensureRouteToHost, .post]

/-- A name as it is written. -/
def text : CallName → String
  | .parse => "parse"
  | .compose => "compose"
  | .persist => "persist"
  | .load => "load"
  | .deletePending => "delete_pending"
  | .updateRetrieveStatus => "update_retrieve_status"
  | .isAddressBlocked => "is_address_blocked"
  | .relayCredentials => "relay_credentials"
  | .lineNumber => "line_number"
  | .onMessageReceived => "on_message_received"
  | .onError => "on_error"
  | .submit => "submit"
  | .prefersDirectPath => "prefers_direct_path"
  | .ensureRouteToHost => "ensure_route_to_host"
  | .post => "post"

/-- The name that is written in a given way. -/
def ofText? (text : String) : Option CallName :=
  all.find? (·.text = text)

end CallName

/-- The name of a call. Waiting for an answer is part of the post. -/
def nameOf? : Call → Option CallName
  | .parse _ => some .parse
  | .compose _ => some .compose
  | .persist _ => some .persist
  | .load _ => some .load
  | .deletePending _ => some .deletePending
  | .updateRetrieveStatus _ _ => some .updateRetrieveStatus
  | .isAddressBlocked _ => some .isAddressBlocked
  | .relayCredentials _ => some .relayCredentials
  | .lineNumber _ => some .lineNumber
  | .onMessageReceived _ => some .onMessageReceived
  | .onError _ => some .onError
  | .submit _ => some .submit
  | .prefersDirectPath => some .prefersDirectPath
  | .ensureRouteToHost _ _ => some .ensureRouteToHost
  | .post _ => some .post
  | .awaitResponse => none

/-- The failure that a collaborator is told to report. -/
inductive Failure where
  | codec (error : CodecError)
  | route (error : RouteError)
  | store (error : StoreError)
  deriving Repr, DecidableEq

namespace Failure

/-- The error of a failing codec. -/
def codec? : Failure → Option CodecError
  | .codec error => some error
  | _ => none

/-- The error of a failing network. -/
def route? : Failure → Option RouteError
  | .route error => some error
  | _ => none

/-- The error of a failing store. -/
def store? : Failure → Option StoreError
  | .store error => some error
  | _ => none

end Failure

/-- What the transport reports for a post. -/
abbrev Reply :=
  Except Http.TransportError UInt16

/-- A list of pairs in which each key has at most one value. -/
abbrev Assignments (κ ν : Type) :=
  List (κ × ν)

namespace Assignments

variable {κ ν : Type} [DecidableEq κ]

/-- Give a key a value, or none. -/
def assign
    (assignments : Assignments κ ν)
    (key : κ)
    (value : Option ν) :
    Assignments κ ν :=
  let others := assignments.filter (·.1 ≠ key)
  match value with
  | some value => (key, value) :: others
  | none => others

/-- The value of a key. -/
def value?
    (assignments : Assignments κ ν)
    (key : κ) :
    Option ν :=
  (assignments.find? (·.1 = key)).map (·.2)

end Assignments

/-- What the collaborators are told to do. -/
structure Script where
  blocked : List String
  credentials : Assignments Subscription RelayCredentials
  lineNumbers : Assignments Subscription String
  /-- What the codec reads in given bytes. -/
  parses : Assignments Bytes (Except CodecError Pdu)
  /-- The calls that panic. -/
  panics : List CallName
  failures : Assignments CallName Failure
  /-- The network prefers the direct path. -/
  direct : Bool
  /-- What the transport reports next. -/
  replies : List Reply
  /-- The transport keeps its answers back. -/
  held : Bool

namespace Script

/-- A script that asks for nothing unusual. -/
def plain : Script :=
  ⟨[], [], [], [], [], [], false, [], false⟩

/-- What the codec reads in bytes nobody told it about. -/
def unscripted : CodecError :=
  .other "unscripted"

/-- Put an item into a list or take it out, and tell whether the list changed. -/
def toggle
    {α : Type}
    [DecidableEq α]
    (items : List α)
    (item : α)
    (on : Bool) :
    Bool × List α :=
  if on then
    if items.contains item then (false, items) else (true, item :: items)
  else (items.contains item, items.filter (· ≠ item))

/-- The failure that a call is told to report. -/
def failure?
    (script : Script)
    (name : CallName) :
    Option Failure :=
  Assignments.value? script.failures name

/-- The error that a store is told to report. -/
def storeError?
    (script : Script)
    (name : CallName) :
    Option StoreError :=
  (script.failure? name).bind Failure.store?

/-- What the codec reads in bytes. -/
def parse
    (script : Script)
    (payload : Bytes) :
    Except CodecError Pdu :=
  (Assignments.value? script.parses payload).getD (.error unscripted)

/-- The bytes that stand for an outbound unit. -/
def written : OutboundPdu → String
  | .notificationResponse version transactionId status =>
      s!"notifyresp:{version}:{transactionId}:{status}"
  | .acknowledgment version transactionId sender =>
      s!"ack:{version}:{transactionId}:{sender}"

/-- What the codec writes for a unit. -/
def compose
    (script : Script)
    (pdu : OutboundPdu) :
    Except CodecError Bytes :=
  match (script.failure? .compose).bind Failure.codec? with
  | some error => .error error
  | none => .ok (.ofText (written pdu))

/-- What the transport reports for a post; when nothing is left to report, the relay accepts. -/
def reply (script : Script) : Reply × Script :=
  match script.replies with
  | [] => (.ok 200, script)
  | reply :: later => (reply, { script with replies := later })

end Script

end MmsInbox.Scenario
