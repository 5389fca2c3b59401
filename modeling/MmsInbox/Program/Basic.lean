import MmsInbox.Ack.Task
import MmsInbox.Journal.Notice
import MmsInbox.Receive.Download
import MmsInbox.Store.Messages

namespace MmsInbox

/-!
# Programs

What the engine does is written as a program: a tree of questions put to collaborators and of
actions on its own resources. A collaborator may panic instead of answering; an action cannot fail
in that way. A program says for each question how it goes on after an answer and after a panic, so
that catching a panic is an operation on programs (`Program.catching`).

A tree has no state of its own. It is run against an environment (`MmsInbox.Program.Environment`),
as a whole or one step at a time between the steps of other programs.
-/

/-- A question put to a collaborator. -/
inductive Call where
  /-- The codec reads downloaded bytes. -/
  | parse (payload : Bytes)
  /-- The codec writes a unit. -/
  | compose (pdu : OutboundPdu)
  /-- The message store keeps a message. -/
  | persist (record : MessageRecord)
  /-- The notification store looks up a notification. -/
  | load (uri : String)
  /-- The notification store deletes the pending rows of a location. -/
  | deletePending (location : String)
  /-- The notification store marks the pending rows of a location. -/
  | updateRetrieveStatus (location : String) (status : UInt8)
  /-- The application says whether it blocks an address. -/
  | isAddressBlocked (address : String)
  /-- The application looks up the carrier settings of a subscription. -/
  | relayCredentials (subscription : Subscription)
  /-- The application looks up the device's own number. -/
  | lineNumber (subscription : Subscription)
  /-- The application learns that a message was stored. -/
  | onMessageReceived (id : MessageId)
  /-- The application learns that a run failed. -/
  | onError (error : ReceiveError)
  /-- The lane takes over acknowledgments. -/
  | submit (tasks : List AckTask)
  /-- The network says whether to leave out the proxy. -/
  | prefersDirectPath
  /-- The network provides a route to a proxy. -/
  | ensureRouteToHost (relayUrl : String) (proxy : ProxyAddress)
  /-- The transport sends a post on its way. -/
  | post (request : Http.Request)
  /-- The transport waits for the answer to the post. -/
  | awaitResponse
  deriving DecidableEq

namespace Call

/-- What a collaborator answers to a question. -/
@[reducible]
def Answer : Call → Type
  | .parse _ => Except CodecError Pdu
  | .compose _ => Except CodecError Bytes
  | .persist _ => Except StoreError MessageId
  | .load _ => Except StoreError Notification
  | .deletePending _ => Except StoreError Nat
  | .updateRetrieveStatus _ _ => Except StoreError Nat
  | .isAddressBlocked _ => Bool
  | .relayCredentials _ => Option RelayCredentials
  | .lineNumber _ => Option String
  | .onMessageReceived _ => Unit
  | .onError _ => Unit
  | .submit _ => Unit
  | .prefersDirectPath => Bool
  | .ensureRouteToHost _ _ => Except RouteError Unit
  | .post _ => Unit
  | .awaitResponse => Except Http.TransportError Http.Response

end Call

/-- Something that the engine does on its own. -/
inductive Action where
  | readFile (path : String)
  | removeFile (path : String)
  /-- Take a location off the downloads in flight. -/
  | finishDownload (location : String)
  /-- Hand an event to the audit. -/
  | audit (event : AuditEvent)
  /-- Write into the journal. -/
  | note (notice : Journal.Notice)
  deriving DecidableEq

namespace Action

/-- What an action yields. -/
@[reducible]
def Answer : Action → Type
  | .readFile _ => Except File.Error Bytes
  | .removeFile _ => Except File.Error Unit
  | .finishDownload _ => Option Nat
  | .audit _ => Unit
  | .note _ => Unit

end Action

/-- The reason that a panicking collaborator gives. -/
structure Panic where
  reason : String
  deriving Repr, DecidableEq

/-- A tree of questions and actions that ends in a value or in a panic. -/
inductive Program (α : Type) where
  | done (value : α)
  | unwound (panic : Panic)
  | ask
      (call : Call)
      (answered : call.Answer → Program α)
      (panicked : Panic → Program α)
  | act
      (action : Action)
      (next : action.Answer → Program α)

namespace Program

variable {α β : Type}

/-- Go on with the value of a program; a panic is passed on. -/
def bind : Program α → (α → Program β) → Program β
  | .done value, next => next value
  | .unwound panic, _ => .unwound panic
  | .ask call answered panicked, next =>
      .ask call
        (fun answer => (answered answer).bind next)
        (fun panic => (panicked panic).bind next)
  | .act action rest, next =>
      .act action (fun answer => (rest answer).bind next)

instance : Monad Program where
  pure := .done
  bind := bind

/-- Go on with another program if this one ends in a panic. -/
def catching : Program α → (Panic → Program α) → Program α
  | .done value, _ => .done value
  | .unwound panic, handler => handler panic
  | .ask call answered panicked, handler =>
      .ask call
        (fun answer => (answered answer).catching handler)
        (fun panic => (panicked panic).catching handler)
  | .act action next, handler =>
      .act action (fun answer => (next answer).catching handler)

@[simp] theorem pure_eq_done (value : α) : (pure value : Program α) = .done value := rfl

@[simp] theorem unwound_bind (panic : Panic) (next : α → Program β) :
    (Program.unwound panic : Program α) >>= next = .unwound panic := rfl

@[simp] theorem ask_bind
    (call : Call)
    (answered : call.Answer → Program α)
    (panicked : Panic → Program α)
    (next : α → Program β) :
    Program.ask call answered panicked >>= next =
      .ask call (fun answer => answered answer >>= next)
        (fun panic => panicked panic >>= next) := rfl

@[simp] theorem act_bind
    (action : Action)
    (rest : action.Answer → Program α)
    (next : α → Program β) :
    Program.act action rest >>= next =
      .act action (fun answer => rest answer >>= next) := rfl

/-- Going on with nothing more to do changes nothing. -/
theorem bind_done (program : Program α) : program.bind .done = program := by
  induction program with
  | done value => rfl
  | unwound panic => rfl
  | ask call answered panicked answeredSame panickedSame =>
      simp only [bind, answeredSame, panickedSame]
  | act action next nextSame =>
      simp only [bind, nextSame]

/-- Three programs in a row may be grouped either way. -/
theorem bind_assoc
    {γ : Type}
    (program : Program α)
    (first : α → Program β)
    (second : β → Program γ) :
    (program.bind first).bind second =
      program.bind fun value => (first value).bind second := by
  induction program with
  | done value => rfl
  | unwound panic => rfl
  | ask call answered panicked answeredSame panickedSame =>
      simp only [bind, answeredSame, panickedSame]
  | act action next nextSame =>
      simp only [bind, nextSame]

instance : LawfulMonad Program :=
  LawfulMonad.mk' Program bind_done (fun _ _ => rfl) bind_assoc

/-- Put a question; a panic ends the program. -/
def call (call : Call) : Program call.Answer :=
  .ask call .done .unwound

/-- Take an action. -/
def perform (action : Action) : Program action.Answer :=
  .act action .done

/-- Write a notice into the journal. -/
def note (notice : Journal.Notice) : Program Unit :=
  perform (.note notice)

/-- Hand an event to the audit. -/
def audit (event : AuditEvent) : Program Unit :=
  perform (.audit event)

end Program

end MmsInbox
