import MmsInbox.Pdu.MessageType

namespace MmsInbox

/-!
# Audit

What happened to each message is recorded for an audit. Auditing can be switched off, and the
addresses of senders can be redacted. The settings are fixed by whoever gives them first.
-/

/-- What the audit records and how it treats senders. -/
structure AuditSettings where
  enabled : Bool
  redactSender : Bool
  deriving Repr, DecidableEq

namespace AuditSettings

/-- Auditing is on and addresses are written out. -/
def standard : AuditSettings :=
  ⟨true, false⟩

end AuditSettings

/-- The text that stands for what is left out. -/
def redactionMark : String :=
  "[REDACTED]"

/-- What may be told of an address: the part after its first `@`; otherwise, of more than four digits,
the last two; otherwise nothing. -/
def redact (address : String) : String :=
  match address.toList.dropWhile (· != '@') with
  | '@' :: domain => redactionMark ++ "@" ++ String.ofList domain
  | _ =>
    let digits := address.toList.filter Char.isDigit
    if 4 < digits.length then
      redactionMark ++ String.ofList (digits.drop (digits.length - 2))
    else redactionMark

/-- Something that happened to a message. -/
inductive AuditEvent where
  | messageReceived
      (messageId : String) (sender : Option String) (location : String) (size : Nat)
  | senderBlocked (sender location : String)
  | notificationRemoved (location reason : String) (removed : Nat)
  | acknowledgmentSent (kind destination : String) (status : UInt16) (direct : Bool)
  | acknowledgmentFailed (kind location error : String)
  deriving Repr, DecidableEq

namespace AuditEvent

/-- The event with the address of the sender redacted. -/
def redacted : AuditEvent → AuditEvent
  | .messageReceived messageId sender location size =>
      .messageReceived messageId (sender.map redact) location size
  | .senderBlocked sender location => .senderBlocked (redact sender) location
  | event => event

end AuditEvent

namespace AuditSettings

/-- What is recorded of an event under these settings. -/
def record?
    (settings : AuditSettings)
    (event : AuditEvent) :
    Option AuditEvent :=
  if settings.enabled then
    some (if settings.redactSender then event.redacted else event)
  else none

end AuditSettings

/-- The audit of a process, with the settings it was given first. -/
structure AuditTrail where
  configured : Option AuditSettings
  deriving Repr, DecidableEq

namespace AuditTrail

/-- An audit that nobody has configured yet. -/
def unconfigured : AuditTrail :=
  ⟨none⟩

/-- Give settings; they count only if none were given before. -/
def configure
    (trail : AuditTrail)
    (settings : AuditSettings) :
    AuditTrail :=
  ⟨trail.configured <|> some settings⟩

/-- The settings in force. -/
def settings (trail : AuditTrail) : AuditSettings :=
  trail.configured.getD .standard

end AuditTrail

end MmsInbox
